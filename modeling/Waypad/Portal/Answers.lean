import Waypad.Portal.Request

/-!
# Waypad.Portal.Answers — which answers of the portal are got

* `Begun`: the tokens that have been drawn are all different; `begun_step`.
* `Books`: the requests, their answers and the stream in any reachable state; `books_step`.
* `Books.receives`, `Books.patient`: an answer that was heard is what the client takes next.
* `Deaf`, `deaf_step`, `run_deaf`: one that was missed is never taken.
* `Granted`, `granted_step`: a request is made once the ones before it have been granted.
-/

namespace Waypad

open Trans

/-- The requests before this one. -/
def PortalMethod.before : PortalMethod → List PortalMethod
  | .create => []
  | .select => [.create]
  | .start => [.create, .select]

/-- The requests whose answers have been looked at. -/
def RequestPhase.done : RequestPhase → Option (List PortalMethod)
  | .drawing method => some method.before
  | .asking request => some request.method.before
  | .granted => some [.create, .select, .start]
  | .failed _ => none

/-- The requests whose tokens have been drawn. -/
def RequestPhase.begun : RequestPhase → Option (List PortalMethod)
  | .drawing method => some method.before
  | .asking request => some (request.method.before ++ [request.method])
  | .granted => some [.create, .select, .start]
  | .failed _ => none

namespace PortalSession

variable {ρ : Type*}

/-! ## The invariant -/

/-- As long as the session goes on, the tokens are those of the requests up to now. -/
def Begun (s : PortalSession ρ) : Prop :=
  ∀ methods, s.phase.begun = some methods → ∀ token ∈ s.drawn, ∃ method ∈ methods, ∃ random,
    token = method.token random

/-- The request that the client is at. -/
structure Asks (client : PortalClient ρ) (unique : String) (s : PortalSession ρ)
    (request : PortalRequest) : Prop where
  early : client.early = true → request.called = true → request.subscribed = true
  late : client.early = false → request.subscribed = true → request.returned = true
  returned : request.returned = true → request.called = true
  token : request.token ∈ s.drawn
  uncalled : request.called = false → s.pending = [] ∧ requestPath unique request.token ∉ s.answered.map Prod.fst
  called : ∀ path ∈ s.pending, path = requestPath unique request.token
  deaf : request.subscribed = false → s.stream = none ∧ requestPath unique request.token ∉ s.heard.map Prod.fst
  listens : request.subscribed = true → ∃ stream, s.stream = some stream ∧
    stream.path = requestPath unique request.token ∧ stream.Hears s.heard

/-- The requests that were made, each answered once, and the stream of the present one. -/
structure Books (client : PortalClient ρ) (unique : String) (s : PortalSession ρ) : Prop where
  known : ∀ path ∈ s.answered.map Prod.fst ++ s.pending, ∃ token ∈ s.drawn, path = requestPath unique token
  once : (s.answered.map Prod.fst ++ s.pending).Nodup
  asks : ∀ request, s.phase = .asking request → Asks client unique s request
  rests : (∃ method, s.phase = .drawing method) ∨ s.phase = .granted → s.pending = []
  closed : ∀ stream, s.stream = some stream → ∃ request, s.phase = .asking request
  kept : client.early = true → (∀ error, s.phase ≠ .failed error) → s.missed = []
  taken : ∀ entry ∈ s.taken, (requestPath unique entry.token, entry.answer) ∈ s.answered

section Invariant

variable {client : PortalClient ρ} {unique : String} {s t : PortalSession ρ} {action : PortalAction ρ}

theorem books_new : Books client unique (new : PortalSession ρ) := by
  refine ⟨fun _ h => ?_, List.nodup_nil, fun _ h => ?_, fun _ => rfl, fun _ h => ?_, fun _ _ => rfl, fun _ h => ?_⟩
  all_goals cases h

/-- A pending request becomes an answered one. -/
theorem once_answered {before after pending : List String} {path : String}
    (h : (before ++ after ++ pending).Nodup) (hpath : path ∈ pending) :
    (before ++ path :: after ++ pending.erase path).Nodup := by
  have hperm : (before ++ path :: after ++ pending.erase path).Perm (before ++ after ++ pending) := by
    refine (List.perm_middle.append_right _).trans ?_
    exact List.perm_middle.symm.trans ((List.perm_cons_erase hpath).symm.append_left _)
  exact hperm.nodup_iff.mpr h

/-- A request that the portal has got from a client that is early finds the stream open. -/
theorem Books.listens (h : Books client unique s) (hearly : client.early = true)
    (hgoing : ∀ error, s.phase ≠ .failed error) {path : String} (hpath : path ∈ s.pending) : s.Listens path := by
  have hrests : ¬ ((∃ method, s.phase = .drawing method) ∨ s.phase = .granted) := by
    intro hrest
    rw [h.rests hrest] at hpath
    cases hpath
  generalize hphase : s.phase = phase at hgoing hrests
  cases phase with
  | drawing method => exact absurd (Or.inl ⟨method, rfl⟩) hrests
  | granted => exact absurd (Or.inr rfl) hrests
  | failed error => exact absurd rfl (hgoing error)
  | asking request =>
    have hasks := h.asks request hphase
    by_cases hcalled : request.called = true
    · obtain ⟨stream, hstream, hstreamPath, -⟩ := hasks.listens (hasks.early hearly hcalled)
      exact ⟨stream, hstream, hstreamPath.trans (hasks.called path hpath).symm⟩
    · rw [(hasks.uncalled (Bool.not_eq_true _ ▸ hcalled)).1] at hpath
      cases hpath

/-- The client looks at an answer and is not at a request any more. -/
theorem receive_phase (request : PortalRequest) (answer : PortalResponse ρ) (request' : PortalRequest) :
    (s.receive client request answer).phase ≠ .asking request' := by
  unfold receive
  dsimp only
  split
  · intro h
    cases h
  · split
    · intro h
      cases h
    · intro h
      cases h

/-- What waits in the stream is an answer to the request. -/
theorem Books.queued (h : Books client unique s) {request : PortalRequest} (hphase : s.phase = .asking request)
    {stream : SignalStream String (PortalResponse ρ)} (hstream : s.stream = some stream)
    (hsubscribed : request.subscribed = true) :
    stream.queue = SignalStream.on (requestPath unique request.token) s.heard := by
  obtain ⟨stream', hstream', hpath, hhears⟩ := (h.asks request hphase).listens hsubscribed
  rw [hstream] at hstream'
  obtain rfl := Option.some.inj hstream'
  rw [← hpath]
  exact hhears

theorem mem_answered {path : String} {answer : PortalResponse ρ} (h : (path, answer) ∈ s.answered) :
    path ∈ s.answered.map Prod.fst :=
  List.mem_map.mpr ⟨(path, answer), h, rfl⟩

/-- An answered request is not pending. -/
theorem Books.not_pending (h : Books client unique s) {path : String} (hpath : path ∈ s.answered.map Prod.fst) :
    path ∉ s.pending :=
  fun hpending => (List.nodup_append.mp h.once).2.2 path hpath path hpending rfl

/-! The steps of the client at a request, the answers of the portal, and the end of a request. -/

theorem Books.goes (h : Books client unique s) (hgoing : ∀ error, s.phase ≠ .failed error)
    {request : PortalRequest} (hphase : t.phase = .asking request) (hheard : t.heard = s.heard)
    (hmissed : t.missed = s.missed) (htaken : t.taken = s.taken) (hdrawn : ∀ token ∈ s.drawn, token ∈ t.drawn)
    (hpending : ∀ path ∈ t.pending, path ∈ s.pending ∨ path = requestPath unique request.token)
    (honce : (s.answered.map Prod.fst ++ t.pending).Nodup) (hasks : Asks client unique t request) :
    Books client unique t := by
  have hanswered : t.answered = s.answered := by
    unfold answered
    rw [hheard, hmissed]
  refine ⟨?_, ?_, ?_, ?_, fun _ _ => ⟨request, hphase⟩, ?_, ?_⟩
  · -- what is pending is an old path or that of the request
    rw [hanswered]
    intro path hpath
    have hold : path ∈ s.answered.map Prod.fst ++ s.pending →
        ∃ token ∈ t.drawn, path = requestPath unique token := by
      intro hmem
      obtain ⟨token, htoken, heq⟩ := h.known path hmem
      exact ⟨token, hdrawn token htoken, heq⟩
    rcases List.mem_append.mp hpath with hold' | hnew
    · exact hold (List.mem_append_left _ hold')
    · rcases hpending path hnew with hold' | heq
      · exact hold (List.mem_append_right _ hold')
      · exact ⟨request.token, hasks.token, heq⟩
  · rw [hanswered]
    exact honce
  · intro request' hrequest
    rw [hphase] at hrequest
    obtain rfl := RequestPhase.asking.inj hrequest
    exact hasks
  · rw [hphase]
    rintro (⟨method, hmethod⟩ | hgranted)
    · cases hmethod
    · cases hgranted
  · rw [hmissed]
    exact fun hearly _ => h.kept hearly hgoing
  · rw [htaken, hanswered]
    exact h.taken

/-- The portal has sent an answer. -/
theorem Books.responds (h : Books client unique s) {path : String} (hpath : path ∈ s.pending)
    (hphase : t.phase = s.phase) (hpending : t.pending = s.pending.erase path) (hdrawn : t.drawn = s.drawn)
    (htaken : t.taken = s.taken) (hmore : ∀ entry ∈ s.answered, entry ∈ t.answered)
    (hless : ∀ other ∈ t.answered.map Prod.fst, other ∈ s.answered.map Prod.fst ∨ other = path)
    (honce : (t.answered.map Prod.fst ++ t.pending).Nodup)
    (hclosed : ∀ stream, t.stream = some stream → ∃ stream', s.stream = some stream')
    (hkept : client.early = true → (∀ error, s.phase ≠ .failed error) → t.missed = [])
    (hdeaf : s.stream = none → t.stream = none ∧ t.heard = s.heard)
    (hlistens : ∀ stream, s.stream = some stream → stream.Hears s.heard →
      ∃ stream', t.stream = some stream' ∧ stream'.path = stream.path ∧ stream'.Hears t.heard) :
    Books client unique t := by
  have herase : ∀ other ∈ t.pending, other ∈ s.pending := by
    rw [hpending]
    exact fun other hother => List.mem_of_mem_erase hother
  refine ⟨?_, honce, ?_, ?_, ?_, ?_, ?_⟩
  · rw [hdrawn]
    intro other hother
    rcases List.mem_append.mp hother with hanswered | hwaits
    · rcases hless other hanswered with hold | rfl
      · exact h.known other (List.mem_append_left _ hold)
      · exact h.known other (List.mem_append_right _ hpath)
    · exact h.known other (List.mem_append_right _ (herase other hwaits))
  · rw [hphase]
    intro request hrequest
    have hasks := h.asks request hrequest
    refine ⟨hasks.early, hasks.late, hasks.returned, hdrawn ▸ hasks.token, ?_, ?_, ?_, ?_⟩
    · -- before the call there is nothing to answer
      intro hquiet
      rw [(hasks.uncalled hquiet).1] at hpath
      cases hpath
    · exact fun other hother => hasks.called other (herase other hother)
    · intro hunsubscribed
      obtain ⟨hnone, hunheard⟩ := hasks.deaf hunsubscribed
      obtain ⟨hstream, hheard⟩ := hdeaf hnone
      exact ⟨hstream, hheard ▸ hunheard⟩
    · intro hsubscribed
      obtain ⟨stream, hstream, hstreamPath, hhears⟩ := hasks.listens hsubscribed
      obtain ⟨stream', hstream', hsame, hhears'⟩ := hlistens stream hstream hhears
      exact ⟨stream', hstream', hsame.trans hstreamPath, hhears'⟩
  · rw [hphase]
    intro hrest
    rw [h.rests hrest] at hpath
    cases hpath
  · rw [hphase]
    intro stream hstream
    obtain ⟨stream', hstream'⟩ := hclosed stream hstream
    exact h.closed stream' hstream'
  · rw [hphase]
    exact hkept
  · rw [htaken]
    exact fun entry hentry => hmore _ (h.taken entry hentry)

/-- The client is done with a request. -/
theorem Books.ends (h : Books client unique s) (hphase : ∀ request, t.phase ≠ .asking request)
    (hstream : t.stream = none) (hpending : t.pending = s.pending) (hdrawn : t.drawn = s.drawn)
    (hheard : t.heard = s.heard) (hmissed : t.missed = s.missed)
    (hrests : (∃ method, t.phase = .drawing method) ∨ t.phase = .granted → t.pending = [])
    (hgoing : (∀ error, t.phase ≠ .failed error) → ∀ error, s.phase ≠ .failed error)
    (htaken : ∀ entry ∈ t.taken, (requestPath unique entry.token, entry.answer) ∈ s.answered) :
    Books client unique t := by
  have hanswered : t.answered = s.answered := by
    unfold answered
    rw [hheard, hmissed]
  refine ⟨?_, ?_, fun request hrequest => absurd hrequest (hphase request), hrests, ?_, ?_, ?_⟩
  · rw [hanswered, hpending, hdrawn]
    exact h.known
  · rw [hanswered, hpending]
    exact h.once
  · rw [hstream]
    intro stream hsome
    cases hsome
  · rw [hmissed]
    exact fun hearly hnot => h.kept hearly (hgoing hnot)
  · rw [hanswered]
    exact htaken

theorem begun_new : Begun (new : PortalSession ρ) := by
  intro methods _ token htoken
  cases htoken

/-- A token that is drawn now is none of the earlier ones. -/
theorem Begun.fresh (h : Begun s) {method : PortalMethod} (hphase : s.phase = .drawing method) (random : String) :
    method.token random ∉ s.drawn := by
  intro htoken
  obtain ⟨earlier, hearlier, random', heq⟩ := h method.before (by rw [hphase]; rfl) _ htoken
  rw [← PortalMethod.token_inj heq] at hearlier
  cases method <;> simp [PortalMethod.before] at hearlier

/-- After an answer the client goes on with the next request, or gives up. -/
theorem receive_begun (request : PortalRequest) (answer : PortalResponse ρ) {methods : List PortalMethod}
    (h : (s.receive client request answer).phase.begun = some methods) :
    methods = request.method.before ++ [request.method] := by
  simp only [receive] at h
  split at h
  · cases h
  · generalize request.method = method at h
    cases method <;> exact (Option.some.inj h).symm

theorem begun_step (h : Begun s) (hs : step client unique s action = some t) : Begun t := by
  have hsame : t.phase.begun = s.phase.begun → t.drawn = s.drawn → Begun t := by
    intro hphase hdrawn
    unfold Begun
    rw [hphase, hdrawn]
    exact h
  cases step_cases hs with
  | draws random method phase =>
    -- the token drawn begins with the prefix of its method
    intro methods hmethods token htoken
    obtain rfl := Option.some.inj hmethods
    rcases List.mem_append.mp htoken with hold | hnew
    · obtain ⟨earlier, hearlier, hrandom⟩ := h method.before (by rw [phase]; rfl) token hold
      exact ⟨earlier, List.mem_append_left _ hearlier, hrandom⟩
    · exact ⟨method, List.mem_append_right _ List.mem_cons_self, random, List.mem_singleton.mp hnew⟩
  | subscribes request phase deaf order => exact hsame (by rw [phase]; rfl) rfl
  | calls request phase quiet order => exact hsame (by rw [phase]; rfl) rfl
  | returns request phase called => exact hsame (by rw [phase]; rfl) rfl
  | hears path answer pending stream opened listens => exact hsame rfl rfl
  | misses path answer pending deaf => exact hsame rfl rfl
  | takes request phase awaits stream opened answer rest queue =>
    intro methods hmethods
    rw [receive_begun request answer hmethods]
    exact h _ (by rw [phase]; rfl)
  | timesOut request phase awaits stream opened queue =>
    intro methods hmethods
    cases hmethods
  | fails error method going =>
    intro methods hmethods
    cases hmethods

/-- A token that is fresh names a request that the portal does not know. -/
theorem Books.unknown (h : Books client unique s) {token : String} (hfresh : token ∉ s.drawn) :
    requestPath unique token ∉ s.answered.map Prod.fst := by
  intro hmem
  obtain ⟨other, hother, hpath⟩ := h.known _ (List.mem_append_left _ hmem)
  rw [requestPath_inj hpath] at hfresh
  exact hfresh hother

theorem heard_answered {path : String} (h : path ∈ s.heard.map Prod.fst) : path ∈ s.answered.map Prod.fst := by
  unfold answered
  rw [List.map_append]
  exact List.mem_append_left _ h

theorem books_step (h : Books client unique s) (hbegun : Begun s)
    (hs : step client unique s action = some t) : Books client unique t := by
  cases step_cases hs with
  | draws random method phase =>
    have hpending : s.pending = [] := h.rests (Or.inl ⟨method, phase⟩)
    -- nobody has asked or answered under the new token
    have hunknown := h.unknown (hbegun.fresh phase random)
    have hclosed : s.stream = none := by
      rw [Option.eq_none_iff_forall_not_mem]
      intro stream hstream
      obtain ⟨request, hasking⟩ := h.closed stream hstream
      rw [phase] at hasking
      cases hasking
    have hnone : ∀ path, path ∉ s.pending := by
      rw [hpending]
      exact fun path hpath => (by cases hpath)
    refine h.goes (by simp [phase]) rfl rfl rfl rfl (fun other hother => List.mem_append_left _ hother)
      (fun path hpath => Or.inl hpath) h.once ?_
    refine ⟨fun _ hcalled => (by cases hcalled), fun _ hsubscribed => (by cases hsubscribed),
      fun hreturned => (by cases hreturned), List.mem_append_right _ List.mem_cons_self,
      fun _ => ⟨hpending, hunknown⟩, fun path hpath => absurd hpath (hnone path),
      fun _ => ⟨hclosed, fun hheard => hunknown (heard_answered hheard)⟩,
      fun hsubscribed => (by cases hsubscribed)⟩
  | subscribes request phase deaf order =>
    -- the stream opens empty: until now nothing was heard under the token
    have hasks := h.asks request phase
    refine h.goes (by simp [phase]) rfl rfl rfl rfl (fun _ hother => hother)
      (fun path hpath => Or.inl hpath) h.once ?_
    refine ⟨fun _ _ => rfl, fun hlate _ => ?_, hasks.returned, hasks.token, hasks.uncalled, hasks.called,
      fun hdeaf => (by cases hdeaf), fun _ => ⟨_, rfl, rfl, SignalStream.hears_listen (hasks.deaf deaf).2⟩⟩
    rcases order with hearly | hreturned
    · rw [hlate] at hearly
      cases hearly
    · exact hreturned
  | calls request phase quiet order =>
    -- the one pending path is the new one, and it has no answer yet
    have hasks := h.asks request phase
    obtain ⟨hpending, hunknown⟩ := hasks.uncalled quiet
    have honly : ∀ path ∈ requestPath unique request.token :: s.pending,
        path = requestPath unique request.token := by
      rw [hpending]
      exact fun path hpath => List.mem_singleton.mp hpath
    refine h.goes (by simp [phase]) rfl rfl rfl rfl (fun _ hother => hother)
      (fun path hpath => Or.inr (honly path hpath))
      ?_ ?_
    · have honce := h.once
      rw [hpending, List.append_nil] at honce
      rw [hpending]
      exact (List.perm_append_singleton _ _).nodup_iff.mpr (List.nodup_cons.mpr ⟨hunknown, honce⟩)
    · exact ⟨fun hearly _ => order hearly, hasks.late, fun _ => rfl, hasks.token,
        fun hquiet => (by cases hquiet), honly, hasks.deaf, hasks.listens⟩
  | returns request phase called =>
    have hasks := h.asks request phase
    refine h.goes (by simp [phase]) rfl rfl rfl rfl (fun _ hother => hother)
      (fun path hpath => Or.inl hpath) h.once ?_
    exact ⟨hasks.early, fun _ _ => rfl, fun _ => called, hasks.token, hasks.uncalled, hasks.called, hasks.deaf,
      hasks.listens⟩
  | hears path answer pending stream opened listens =>
    -- the answer moves from the pending to the heard ones
    refine h.responds pending rfl rfl rfl rfl ?_ ?_ ?_ (fun _ _ => ⟨stream, opened⟩)
      (fun hearly hgoing => h.kept hearly hgoing) ?_ ?_
    · intro entry hentry
      rcases List.mem_append.mp hentry with hheard | hmissed
      · exact List.mem_append_left _ (List.mem_append_left _ hheard)
      · exact List.mem_append_right _ hmissed
    · intro other hother
      simp only [answered, List.map_append, List.mem_append, List.map_cons, List.map_nil,
        List.mem_singleton] at hother ⊢
      tauto
    · have honce := h.once
      simp only [answered, List.map_append] at honce
      simp only [answered, List.map_append, List.map_cons, List.append_assoc, List.singleton_append]
      have hmoved := once_answered honce pending
      simpa only [List.append_assoc] using hmoved
    · intro hnone
      rw [opened] at hnone
      cases hnone
    · intro stream' hstream' hhears
      rw [opened] at hstream'
      obtain rfl := Option.some.inj hstream'
      exact ⟨_, rfl, stream.hear_path path answer, hhears.hear path answer⟩
  | misses path answer pending deaf =>
    -- nobody listens, which an early subscriber rules out
    refine h.responds pending rfl rfl rfl rfl ?_ ?_ ?_ (fun stream hstream => ⟨stream, hstream⟩) ?_
      (fun hnone => ⟨hnone, rfl⟩) (fun stream hstream hhears => ⟨stream, hstream, rfl, hhears⟩)
    · intro entry hentry
      rcases List.mem_append.mp hentry with hheard | hmissed
      · exact List.mem_append_left _ hheard
      · exact List.mem_append_right _ (List.mem_append_left _ hmissed)
    · intro other hother
      simp only [answered, List.map_append, List.mem_append, List.map_cons, List.map_nil,
        List.mem_singleton] at hother ⊢
      tauto
    · have hmoved := @once_answered (s.answered.map Prod.fst) [] s.pending path (by simpa using h.once) pending
      simpa [answered] using hmoved
    · exact fun hearly hgoing => absurd (h.listens hearly hgoing pending) deaf
  | takes request phase awaits stream opened answer rest queue =>
    -- the answer at the head of the stream is the request's own, so nothing is pending
    obtain ⟨hsubscribed, hcalled, -⟩ := request.awaits_iff.mp awaits
    have hqueue := h.queued phase opened hsubscribed
    have hmem : (requestPath unique request.token, answer) ∈ s.heard := by
      apply SignalStream.mem_of_on
      rw [← hqueue, queue]
      exact List.mem_cons_self
    have hanswered : (requestPath unique request.token, answer) ∈ s.answered := List.mem_append_left _ hmem
    have hpending : s.pending = [] := by
      rw [List.eq_nil_iff_forall_not_mem]
      intro path hpath
      rw [(h.asks request phase).called path hpath] at hpath
      exact h.not_pending (mem_answered hanswered) hpath
    refine h.ends (receive_phase request answer) rfl rfl rfl rfl rfl (fun _ => hpending) ?_ ?_
    · intro _ error herror
      rw [phase] at herror
      cases herror
    · intro entry hentry
      rcases List.mem_append.mp hentry with hold | hnew
      · exact h.taken entry hold
      · obtain rfl := List.mem_singleton.mp hnew
        exact hanswered
  | timesOut request phase awaits stream opened queue =>
    -- the session has failed, and what it asked for is asked no more
    refine h.ends (fun request' hrequest => (by cases hrequest)) rfl rfl rfl rfl rfl ?_
      (fun hnot => absurd rfl (hnot _))
      h.taken
    rintro (⟨method, hmethod⟩ | hgranted)
    · cases hmethod
    · cases hgranted
  | fails error method going =>
    refine h.ends (fun request' hrequest => (by cases hrequest)) rfl rfl rfl rfl rfl ?_
      (fun hnot => absurd rfl (hnot _))
      h.taken
    rintro (⟨method, hmethod⟩ | hgranted)
    · cases hmethod
    · cases hgranted

/-! ## What the client gets -/

theorem Books.heard_once (h : Books client unique s) : (s.heard.map Prod.fst).Nodup := by
  have honce := (List.nodup_append.mp h.once).1
  unfold answered at honce
  rw [List.map_append] at honce
  exact (List.nodup_append.mp honce).1

/-- An answer that was heard is what the client takes next. -/
theorem Books.receives (h : Books client unique s) {request : PortalRequest} (hphase : s.phase = .asking request)
    (hawaits : request.awaits = true) {answer : PortalResponse ρ}
    (hheard : (requestPath unique request.token, answer) ∈ s.heard) :
    step client unique s .receive = some (s.receive client request answer) := by
  have hsubscribed := (request.awaits_iff.mp hawaits).1
  obtain ⟨⟨path, queue⟩, hstream, -⟩ := (h.asks request hphase).listens hsubscribed
  have hqueue : queue = [answer] := (h.queued hphase hstream hsubscribed).trans
    (SignalStream.on_single h.heard_once hheard)
  subst hqueue
  simp only [step, hphase, hstream]
  rw [if_pos hawaits]

/-- The client gives up on a request only while nothing has been heard of it. -/
theorem Books.patient (h : Books client unique s) (hs : step client unique s .timeout = some t)
    {request : PortalRequest} (hphase : s.phase = .asking request) (answer : PortalResponse ρ) :
    (requestPath unique request.token, answer) ∉ s.heard := by
  cases step_cases hs with
  | timesOut request' phase awaits stream opened queue =>
    rw [hphase] at phase
    obtain rfl := RequestPhase.asking.inj phase
    intro hheard
    have hqueue := h.queued hphase opened (request.awaits_iff.mp awaits).1
    rw [SignalStream.on_single h.heard_once hheard, queue] at hqueue
    cases hqueue

/-- The client waits for an answer that it has missed, or has given up. -/
structure Deaf (unique : String) (s : PortalSession ρ) (request : PortalRequest) (answer : PortalResponse ρ)
    (t : PortalSession ρ) : Prop where
  taken : t.taken = s.taken
  phase : t.phase = .asking request ∧ (requestPath unique request.token, answer) ∈ t.missed ∨
    ∃ error, t.phase = .failed error

theorem deaf_step {u : PortalSession ρ} {request : PortalRequest} (hawaits : request.awaits = true)
    {answer : PortalResponse ρ} (h : Books client unique t) (hdeaf : Deaf unique s request answer t)
    (hs : step client unique t action = some u) : Deaf unique s request answer u := by
  obtain ⟨hsubscribed, hcalled, hreturned⟩ := request.awaits_iff.mp hawaits
  -- the request at which a step is taken is the one that waits
  have hrequest : ∀ request', t.phase = .asking request' →
      request' = request ∧ (requestPath unique request.token, answer) ∈ t.missed := by
    intro request' hphase'
    rcases hdeaf.phase with ⟨hphase, hmissed⟩ | ⟨error, hphase⟩
    · rw [hphase] at hphase'
      exact ⟨(RequestPhase.asking.inj hphase').symm, hmissed⟩
    · rw [hphase] at hphase'
      cases hphase'
  cases step_cases hs with
  | draws token method phase =>
    rcases hdeaf.phase with ⟨hphase, -⟩ | ⟨error, hphase⟩ <;> rw [phase] at hphase <;> cases hphase
  | subscribes request' phase deaf order =>
    obtain ⟨rfl, -⟩ := hrequest request' phase
    rw [hsubscribed] at deaf
    cases deaf
  | calls request' phase quiet order =>
    obtain ⟨rfl, -⟩ := hrequest request' phase
    rw [hcalled] at quiet
    cases quiet
  | returns request' phase called =>
    obtain ⟨rfl, hmissed⟩ := hrequest request' phase
    refine ⟨hdeaf.taken, Or.inl ⟨?_, hmissed⟩⟩
    rw [← hreturned]
  | hears path other pending stream opened listens => exact ⟨hdeaf.taken, hdeaf.phase⟩
  | misses path other pending deaf =>
    refine ⟨hdeaf.taken, hdeaf.phase.imp_left (fun ⟨hphase, hmissed⟩ => ⟨hphase, List.mem_append_left _ hmissed⟩)⟩
  | takes request' phase awaits stream opened other rest queue =>
    -- the answer was missed, so nothing on the path is heard and the queue is empty
    obtain ⟨rfl, hmissed⟩ := hrequest request' phase
    have hqueue := h.queued phase opened hsubscribed
    have hunheard : requestPath unique request'.token ∉ t.heard.map Prod.fst := by
      intro hheard
      have honce := (List.nodup_append.mp h.once).1
      unfold answered at honce
      rw [List.map_append] at honce
      exact (List.nodup_append.mp honce).2.2 _ hheard _ (List.mem_map.mpr ⟨_, hmissed, rfl⟩) rfl
    rw [SignalStream.on_none hunheard, queue] at hqueue
    cases hqueue
  | timesOut request' phase awaits stream opened queue => exact ⟨hdeaf.taken, Or.inr ⟨_, rfl⟩⟩
    -- what is left for the session is to fail
  | fails error method going => exact ⟨hdeaf.taken, Or.inr ⟨error, rfl⟩⟩

/-- The answers that were looked at, all of them granted. -/
def Taken (client : PortalClient ρ) (taken : List (PortalAnswer ρ)) (methods : List PortalMethod) : Prop :=
  taken.map PortalAnswer.method = methods ∧ ∀ entry ∈ taken, client.check entry.method entry.answer = .ok ()

/-- Each request is made once the ones before it have been granted, and the session fails for the first one that
is not. -/
structure Granted (client : PortalClient ρ) (s : PortalSession ρ) : Prop where
  done : ∀ methods, s.phase.done = some methods → Taken client s.taken methods
  failed : ∀ error, s.phase = .failed error → (∃ method, Taken client s.taken (PortalMethod.before method)) ∨
    ∃ before last, s.taken = before ++ [last] ∧ Taken client before last.method.before ∧
      client.check last.method last.answer = .error error

theorem granted_step (h : Granted client s) (hs : step client unique s action = some t) : Granted client t := by
  have hsame : t.phase.done = s.phase.done → t.taken = s.taken → (∀ error, t.phase ≠ .failed error) →
      Granted client t := by
    intro hphase htaken hnot
    refine ⟨?_, fun error herror => absurd herror (hnot error)⟩
    rw [hphase, htaken]
    exact h.done
  -- only an answer that is taken, a timeout or an error changes what is granted
  cases step_cases hs with
  | draws token method phase => exact hsame (by rw [phase]; rfl) rfl (fun error herror => by cases herror)
  | subscribes request phase deaf order =>
    exact hsame (by rw [phase]; rfl) rfl (fun error herror => by cases herror)
  | calls request phase quiet order => exact hsame (by rw [phase]; rfl) rfl (fun error herror => by cases herror)
  | returns request phase called => exact hsame (by rw [phase]; rfl) rfl (fun error herror => by cases herror)
  | hears path answer pending stream opened listens => exact ⟨h.done, h.failed⟩
  | misses path answer pending deaf => exact ⟨h.done, h.failed⟩
  | takes request phase awaits stream opened answer rest queue =>
    -- the answer passes its check and the next method is drawn, or the session fails for it
    have htaken : Taken client s.taken request.method.before := h.done _ (by rw [phase]; rfl)
    refine ⟨?_, ?_⟩
    · intro methods hdone
      simp only [receive] at hdone ⊢
      split at hdone
      · cases hdone
      · next hok =>
        have hmethods : methods = request.method.before ++ [request.method] := by
          -- the methods are asked for in their order
          generalize request.method = method at hdone
          cases method <;> exact (Option.some.inj hdone).symm
        rw [hmethods]
        refine ⟨?_, ?_⟩
        · rw [List.map_append, htaken.1]
          rfl
        · intro entry hentry
          rcases List.mem_append.mp hentry with hold | hnew
          · exact htaken.2 entry hold
          · obtain rfl := List.mem_singleton.mp hnew
            exact hok
    · intro error herror
      refine Or.inr ⟨s.taken, ⟨request.method, request.token, answer⟩, rfl, htaken, ?_⟩
      simp only [receive] at herror
      split at herror
      · next hcheck =>
        cases herror
        exact hcheck
      · split at herror <;> cases herror
  | timesOut request phase awaits stream opened queue =>
    refine ⟨fun methods hdone => (by cases hdone), fun error _ => Or.inl ⟨request.method, h.done _ ?_⟩⟩
    rw [phase]
    rfl
  | fails error method going =>
    refine ⟨fun methods hdone => (by cases hdone), fun error _ => Or.inl ⟨method, h.done _ ?_⟩⟩
    rcases going with hphase | ⟨request, hphase, rfl⟩
    · rw [hphase]
      rfl
    · rw [hphase]
      rfl

theorem granted_new : Granted client (new : PortalSession ρ) := by
  refine ⟨?_, fun error herror => (by cases herror)⟩
  intro methods hdone
  obtain rfl := Option.some.inj hdone
  exact ⟨rfl, fun entry hentry => by cases hentry⟩

theorem run_books {actions : List (PortalAction ρ)} (hs : Runs (step client unique) Free new actions s) :
    Books client unique s ∧ Begun s :=
  hs.inv (I := fun u => Books client unique u ∧ Begun u)
    (fun _ _ _ h _ hstep => ⟨books_step h.1 h.2 hstep, begun_step h.2 hstep⟩) ⟨books_new, begun_new⟩

theorem run_granted {actions : List (PortalAction ρ)} (hs : Runs (step client unique) Free new actions s) :
    Granted client s :=
  hs.inv (fun _ _ _ h _ hstep => granted_step h hstep) granted_new

/-- An answer that is sent before the stream is open is never got. -/
theorem run_deaf {actions more : List (PortalAction ρ)} (hs : Runs (step client unique) Free new actions s)
    {request : PortalRequest} (hphase : s.phase = .asking request) (hawaits : request.awaits = true)
    {answer : PortalResponse ρ} (hmissed : (requestPath unique request.token, answer) ∈ s.missed)
    (hmore : Runs (step client unique) Free s more t) : Deaf unique s request answer t := by
  have hall : (Books client unique t ∧ Begun t) ∧ Deaf unique s request answer t :=
    hmore.inv (I := fun u => (Books client unique u ∧ Begun u) ∧ Deaf unique s request answer u)
      (fun _ _ _ hu _ hstep => ⟨⟨books_step hu.1.1 hu.1.2 hstep, begun_step hu.1.2 hstep⟩,
        deaf_step hawaits hu.1.1 hu.2 hstep⟩)
      ⟨run_books hs, rfl, Or.inl ⟨hphase, hmissed⟩⟩
  exact hall.2

end Invariant

end PortalSession

end Waypad
