import Waypad.Lib.Replace
import Waypad.Screen.Sessions

/-!
# Waypad.Screen.Registry — every session goes through the registry once (`src/screen.rs`)

With fresh UUIDs a token is accepted once, a session that has been attached does not wait for a client
again, and the entry that a producer task has removed stays removed.

* `accepted`, `Removed`: what a run has done with tokens and entries.
* `Books`: the invariant between a run and its last state, `books_step`: every step keeps it.
-/

namespace Waypad

open Trans

/-- The session and the token that a start has drawn. -/
def ScreenAction.drawn : ScreenAction → Option (String × String)
  | .start id token _ _ _ _ => some (id, token)
  | _ => none

/-- The token that an attach presents, and the session it finds. -/
def ScreenAction.accepts : ScreenAction → Option (String × String)
  | .attachTake token id => some (token, id)
  | _ => none

namespace ScreenManager

/-- The sessions started in a run, with their tokens. -/
def started (actions : List ScreenAction) : List (String × String) :=
  actions.filterMap ScreenAction.drawn

/-- The tokens accepted in a run, with their sessions. -/
def accepted (actions : List ScreenAction) : List (String × String) :=
  actions.filterMap ScreenAction.accepts

/-- No UUID is drawn twice. -/
def Fresh (actions : List ScreenAction) : Prop :=
  ((started actions).map Prod.fst).Nodup ∧ ((started actions).map Prod.snd).Nodup

/-- A producer task of the session has executed its final registry removal. -/
def Removed (actions : List ScreenAction) (id : String) : Prop :=
  ∃ before task after u, actions = before ++ .videoEnds task :: after ∧
    run step new before = some u ∧ (task, id) ∈ u.videoTasks

/-- What the registry promises about a run and the state it has come to. -/
structure RegistrySound (actions : List ScreenAction) (s : ScreenManager) : Prop where
  /-- each token is accepted by at most one attach -/
  accepted : ((accepted actions).map Prod.fst).Nodup
  /-- a session that has been attached is not pending -/
  attached : ∀ id ∈ (ScreenManager.accepted actions).map Prod.snd, ∀ stream,
    s.sessions.lookup id ≠ some (.pending stream)
  /-- the entry that a producer task has removed is not there -/
  removed : ∀ id, Removed actions id → id ∉ s.sessions

/-! ## One step -/

section Step

variable {s t : ScreenManager} {id token : String}

/-- The session waits for a client with the token. -/
def Waits (s : ScreenManager) (id token : String) : Prop :=
  ∃ stream, s.sessions.lookup id = some (.pending stream) ∧ stream.token = token

/-- What most steps leave alone. -/
structure Stays (s t : ScreenManager) : Prop where
  sessions : ∀ id, id ∈ t.sessions → id ∈ s.sessions
  waits : ∀ id token, Waits t id token → Waits s id token
  attaching : t.attaching = s.attaching
  videoTasks : t.videoTasks.Sublist s.videoTasks
  nextTask : s.nextTask ≤ t.nextTask

/-- The entries and the attaches are the same. -/
theorem stays_same (ht : t.sessions = s.sessions) (ha : t.attaching = s.attaching)
    (hv : t.videoTasks.Sublist s.videoTasks) (hn : t.nextTask = s.nextTask) : Stays s t :=
  ⟨fun _ h => ht ▸ h, fun _ _ ⟨stream, h⟩ => ⟨stream, ht ▸ h⟩, ha, hv, Nat.le_of_eq hn.symm⟩

theorem Stays.refl (s : ScreenManager) : Stays s s :=
  stays_same rfl rfl (List.Sublist.refl _) rfl

/-- An entry that is erased waits for nobody. -/
theorem waits_erase {id' : String} (ht : t.sessions = s.sessions.erase id') (h : Waits t id token) :
    id ≠ id' ∧ Waits s id token := by
  obtain ⟨stream, hlookup, htoken⟩ := h
  have hne : id ≠ id' := by
    rintro rfl
    simp [ht] at hlookup
  rw [ht, AList.lookup_erase_ne hne] at hlookup
  exact ⟨hne, stream, hlookup, htoken⟩

/-- An entry is erased, and nothing else happens. -/
theorem stays_erase {id : String} (ht : t.sessions = s.sessions.erase id)
    (ha : t.attaching = s.attaching) (hv : t.videoTasks = s.videoTasks)
    (hn : t.nextTask = s.nextTask) : Stays s t where
  sessions id' h := by
    rw [ht] at h
    exact (AList.mem_erase.mp h).2
  waits _ _ h := (waits_erase ht h).2
  attaching := ha
  videoTasks := hv ▸ List.Sublist.refl _
  nextTask := Nat.le_of_eq hn.symm

/-- An entry is changed in place: it still waits with its token, or still runs. -/
theorem stays_replace {entry entry' : StreamSession} (h : s.sessions.lookup id = some entry)
    (hsame : ∀ stream', entry' = .pending stream' →
      ∃ stream, entry = .pending stream ∧ stream.token = stream'.token)
    (ht : t.sessions = s.sessions.replace id entry') (ha : t.attaching = s.attaching)
    (hv : t.videoTasks = s.videoTasks) (hn : s.nextTask ≤ t.nextTask) : Stays s t where
  sessions id' hmem := by
    rw [ht] at hmem
    exact AList.mem_replace.mp hmem
  waits id' token hwaits := by
    obtain ⟨stream', hlookup, rfl⟩ := hwaits
    rw [ht] at hlookup
    by_cases hid : id' = id
    · subst hid
      rw [AList.lookup_replace h, Option.some.injEq] at hlookup
      obtain ⟨stream, rfl, htoken⟩ := hsame stream' hlookup
      exact ⟨stream, h, htoken⟩
    · rw [AList.lookup_replace_ne hid] at hlookup
      exact ⟨stream', hlookup, rfl⟩
  attaching := ha
  videoTasks := hv ▸ List.Sublist.refl _
  nextTask := hn

theorem stays_startAudio (s : ScreenManager) (id : String) (capability : AudioCapability)
    (options : Option AudioStreamOptions) :
    Stays s (s.settle (s.startAudio id capability options)) := by
  unfold startAudio
  split_ifs
  · exact Stays.refl s
  · split
    · next stream hlookup =>
      split
      · exact stays_replace hlookup (fun _ h => by simp at h) rfl rfl rfl (Nat.le_refl _)
      · exact stays_replace hlookup (fun _ h => by simp at h) rfl rfl rfl (Nat.le_succ _)
    · next stream hlookup =>
      refine stays_replace hlookup (fun stream' h => ⟨stream, rfl, ?_⟩) rfl rfl rfl (Nat.le_refl _)
      exact StreamSession.pending.inj h ▸ rfl
    · exact Stays.refl s

theorem stays_stopAudio (s : ScreenManager) (id : String) :
    Stays s (s.settle (s.stopAudio id)) := by
  unfold stopAudio
  split
  · next stream hlookup =>
    exact stays_replace hlookup (fun _ h => by simp at h) rfl rfl rfl (Nat.le_refl _)
  · next stream hlookup =>
    refine stays_replace hlookup (fun stream' h => ⟨stream, rfl, ?_⟩) rfl rfl rfl (Nat.le_refl _)
    exact StreamSession.pending.inj h ▸ rfl
  · exact Stays.refl s

theorem stays_setAudioMute (s : ScreenManager) (id : String) (muted : Bool) :
    Stays s (s.settle (s.setAudioMute id muted)) := by
  unfold setAudioMute
  split
  · next stream hlookup =>
    split
    · exact stays_replace hlookup (fun _ h => by simp at h) rfl rfl rfl (Nat.le_refl _)
    · exact Stays.refl s
  · exact Stays.refl s
  · exact Stays.refl s

theorem stays_requestKeyFrame (s : ScreenManager) (id : String) :
    Stays s (s.settle (s.requestKeyFrame id)) := by
  unfold requestKeyFrame
  split
  · next stream hlookup =>
    exact stays_replace hlookup (fun _ h => by simp at h) rfl rfl rfl (Nat.le_refl _)
  · exact Stays.refl s
  · exact Stays.refl s

theorem stays_stopStream (s : ScreenManager) (id : String) : Stays s (s.stopStream id) := by
  unfold stopStream
  split
  · exact stays_same rfl rfl (List.Sublist.refl _) rfl
  · exact stays_erase rfl rfl rfl rfl
  · exact stays_erase rfl rfl rfl rfl

/-- What a step does to the entries, the attaches and the producer tasks. -/
inductive Registers (s : ScreenManager) (a : ScreenAction) (t : ScreenManager) : Prop
  | starts (id token : String) (stream : PendingStream) (drawn : a.drawn = some (id, token))
      (accepts : a.accepts = none) (waiting : stream.token = token)
      (sessions : t.sessions = s.sessions.insert id (.pending stream))
      (attaching : t.attaching = s.attaching) (videoTasks : t.videoTasks = s.videoTasks)
      (nextTask : t.nextTask = s.nextTask)
  | takes (token id : String) (stream : PendingStream) (drawn : a.drawn = none)
      (accepts : a.accepts = some (token, id)) (waiting : s.Waits id token)
      (sessions : t.sessions = s.sessions.erase id)
      (attaching : t.attaching = s.attaching ++ [⟨id, stream⟩])
      (videoTasks : t.videoTasks = s.videoTasks) (nextTask : t.nextTask = s.nextTask)
  | inserts (call : Attaching) (drawn : a.drawn = none) (accepts : a.accepts = none)
      (removes : ∀ task, a ≠ .videoEnds task) (waiting : call ∈ s.attaching)
      (next : t = s.attachInsert call)
  | removes (task : ℕ) (id : String) (action : a = .videoEnds task)
      (ends : (task, id) ∈ s.videoTasks) (sessions : t.sessions = s.sessions.erase id)
      (stays : Stays s t)
  | stays (drawn : a.drawn = none) (accepts : a.accepts = none) (removes : ∀ task, a ≠ .videoEnds task)
      (same : Stays s t)

/-- **Every step has one of these effects.** -/
theorem step_registers {a : ScreenAction} (hs : step s a = some t) : Registers s a t := by
  cases a with
  | start id token audio bitrateKbps frameMs capability =>
    obtain rfl := (Option.some.inj hs).symm
    exact .starts id token _ rfl rfl rfl rfl rfl rfl rfl
  | attachTake token id =>
    simp only [step] at hs
    split at hs
    · next stream hlookup =>
      simp only [Option.ite_none_right_eq_some, Option.some.injEq] at hs
      obtain ⟨htoken, rfl⟩ := hs
      exact .takes token id stream rfl rfl ⟨stream, hlookup, htoken⟩ rfl rfl rfl rfl
    · simp at hs
  | attachUnknown token =>
    simp only [step, Option.ite_none_left_eq_some, Option.some.injEq] at hs
    exact hs.2 ▸ .stays rfl rfl (by simp) (Stays.refl s)
  | attachInsert id =>
    obtain ⟨call, hfind, rfl⟩ := Option.map_eq_some_iff.mp hs
    exact .inserts call rfl rfl (by simp) (List.mem_of_find?_eq_some hfind) rfl
  | stop id =>
    obtain rfl := (Option.some.inj hs).symm
    exact .stays rfl rfl (by simp) (stays_stopStream s id)
  | stopDone id =>
    simp only [step] at hs
    split at hs
    · simp only [Option.ite_none_left_eq_some, Option.some.injEq] at hs
      obtain ⟨-, rfl⟩ := hs
      exact .stays rfl rfl (by simp) (stays_same rfl rfl (List.Sublist.refl _) rfl)
    · simp at hs
  | stopAbort id =>
    simp only [step] at hs
    split at hs
    · obtain rfl := (Option.some.inj hs).symm
      exact .stays rfl rfl (by simp) (stays_same rfl rfl (List.Sublist.refl _) rfl)
    · simp at hs
  | videoEnds task =>
    simp only [step] at hs
    split at hs
    · next running hfind =>
      obtain rfl := (Option.some.inj hs).symm
      obtain rfl : running.1 = task := by simpa using List.find?_some hfind
      -- the entry goes with its video task
      refine .removes running.1 running.2 rfl (List.mem_of_find?_eq_some hfind) rfl
        ⟨fun _ h => (AList.mem_erase.mp h).2, fun _ _ h => (waits_erase rfl h).2, rfl,
          List.erase_sublist, Nat.le_refl _⟩
    · simp at hs
  | videoDropped task =>
    obtain rfl := (Option.some.inj hs).symm
    exact .stays rfl rfl (by simp) (stays_same rfl rfl List.filter_sublist rfl)
  | audioEnds task =>
    simp only [step, Option.ite_none_right_eq_some, Option.some.injEq] at hs
    obtain ⟨-, rfl⟩ := hs
    exact .stays rfl rfl (by simp) (stays_same rfl rfl (List.Sublist.refl _) rfl)
  | startAudio id capability options =>
    obtain rfl := (Option.some.inj hs).symm
    exact .stays rfl rfl (by simp) (stays_startAudio s id capability options)
  | stopAudio id =>
    obtain rfl := (Option.some.inj hs).symm
    exact .stays rfl rfl (by simp) (stays_stopAudio s id)
  | setAudioMute id muted =>
    obtain rfl := (Option.some.inj hs).symm
    exact .stays rfl rfl (by simp) (stays_setAudioMute s id muted)
  | requestKeyFrame id =>
    obtain rfl := (Option.some.inj hs).symm
    exact .stays rfl rfl (by simp) (stays_requestKeyFrame s id)
  | keyFrameTaken id =>
    simp only [step] at hs
    split at hs
    · next stream hlookup =>
      simp only [Option.ite_none_right_eq_some, Option.some.injEq] at hs
      obtain ⟨-, rfl⟩ := hs
      exact .stays rfl rfl (by simp)
        (stays_replace hlookup (fun _ h => by simp at h) rfl rfl rfl (Nat.le_refl _))
    · simp at hs

end Step

/-! ## Runs -/

section Runs

variable {s t : ScreenManager} {actions : List ScreenAction}

/-- What a run has done, against the state it has come to. -/
structure Books (actions : List ScreenAction) (s : ScreenManager) : Prop where
  /-- who waits has been started with its token, and has not been attached -/
  waits : ∀ id token, s.Waits id token → (id, token) ∈ started actions ∧
    id ∉ (accepted actions).map Prod.snd
  /-- a token is accepted for the session it was drawn with -/
  taken : ∀ token id, (token, id) ∈ accepted actions → (id, token) ∈ started actions
  once : ((accepted actions).map Prod.snd).Nodup
  /-- between its sections an attach has no producer task yet -/
  attaching : ∀ call ∈ s.attaching, call.session ∈ (accepted actions).map Prod.snd ∧
    ∀ running ∈ s.videoTasks, running.2 ≠ call.session
  calls : (s.attaching.map Attaching.session).Nodup
  tasks : ∀ running ∈ s.videoTasks, running.1 < s.nextTask ∧
    running.2 ∈ (accepted actions).map Prod.snd
  distinct : (s.videoTasks.map Prod.fst).Nodup
  removed : ∀ id, Removed actions id → id ∈ (accepted actions).map Prod.snd ∧ id ∉ s.sessions ∧
    ∀ call ∈ s.attaching, call.session ≠ id

theorem not_removed_nil (id : String) : ¬ Removed [] id := by
  rintro ⟨before, task, after, u, hsplit, -, -⟩
  simp at hsplit

/-- One more step: only the end of a producer task removes. -/
theorem removed_snoc {a : ScreenAction} (hr : Runs step Free new actions s) {id : String}
    (h : Removed (actions ++ [a]) id) :
    Removed actions id ∨ ∃ task, a = .videoEnds task ∧ (task, id) ∈ s.videoTasks := by
  obtain ⟨before, task, after, u, hsplit, hrun, hmem⟩ := h
  rcases List.eq_nil_or_concat' after with rfl | ⟨after, b, rfl⟩
  · obtain ⟨rfl, ha⟩ := List.append_inj' hsplit rfl
    obtain rfl : s = u := Option.some.inj (hr.run_eq.symm.trans hrun)
    exact Or.inr ⟨task, by simpa using ha, hmem⟩
  · rw [← List.cons_append, ← List.append_assoc] at hsplit
    obtain ⟨rfl, -⟩ := List.append_inj' hsplit rfl
    exact Or.inl ⟨before, task, after, u, rfl, hrun, hmem⟩

theorem books_new : Books [] new where
  waits id token h := by
    obtain ⟨stream, hlookup, -⟩ := h
    simp [new] at hlookup
  taken _ _ h := by simp [accepted] at h
  once := by simp [accepted]
  attaching _ h := by simp [new] at h
  calls := by simp [new]
  tasks _ h := by simp [new] at h
  distinct := by simp [new]
  removed id h := absurd h (not_removed_nil id)

theorem started_snoc (actions : List ScreenAction) (a : ScreenAction) :
    started (actions ++ [a]) = started actions ++ a.drawn.toList := by
  cases h : a.drawn <;> simp [started, h]

theorem accepted_snoc (actions : List ScreenAction) (a : ScreenAction) :
    accepted (actions ++ [a]) = accepted actions ++ a.accepts.toList := by
  cases h : a.accepts <;> simp [accepted, h]

/-- What was attached before a start was started before it, under another UUID. -/
theorem Books.ne_drawn {a : ScreenAction} {id token : String} (h : Books actions s)
    (hfresh : Fresh (actions ++ [a])) (ha : a.drawn = some (id, token)) :
    id ∉ (accepted actions).map Prod.snd := by
  intro hmem
  obtain ⟨⟨token', id'⟩, hacc, rfl⟩ := List.mem_map.mp hmem
  have hstarted := List.mem_map_of_mem (f := Prod.fst) (h.taken token' id' hacc)
  have hnodup := hfresh.1
  rw [started_snoc, ha] at hnodup
  simp only [Option.toList_some, List.map_append, List.map_cons, List.map_nil] at hnodup
  exact (List.nodup_append.mp hnodup).2.2 _ hstarted _ (List.mem_singleton_self _) rfl

section BooksStep

variable {a : ScreenAction}

/-- A step that attaches nothing and inserts nothing. -/
theorem Books.stays (hr : Runs step Free new actions s) (h : Books actions s) (hsame : Stays s t)
    (hd : a.drawn = none) (hacc : a.accepts = none)
    (hrem : ∀ id task, a = .videoEnds task → (task, id) ∈ s.videoTasks → id ∉ t.sessions) :
    Books (actions ++ [a]) t := by
  have hstarted : started (actions ++ [a]) = started actions := by simp [started_snoc, hd]
  have haccepted : accepted (actions ++ [a]) = accepted actions := by simp [accepted_snoc, hacc]
  constructor
  · intro id token hw
    rw [hstarted, haccepted]
    exact h.waits id token (hsame.waits id token hw)
  · rw [hstarted, haccepted]
    exact h.taken
  · rw [haccepted]
    exact h.once
  · rw [haccepted, hsame.attaching]
    intro call hcall
    exact ⟨(h.attaching call hcall).1,
      fun running hrun => (h.attaching call hcall).2 running (hsame.videoTasks.subset hrun)⟩
  · rw [hsame.attaching]
    exact h.calls
  · rw [haccepted]
    intro running hrun
    obtain ⟨hlt, hmem⟩ := h.tasks running (hsame.videoTasks.subset hrun)
    exact ⟨Nat.lt_of_lt_of_le hlt hsame.nextTask, hmem⟩
  · exact h.distinct.sublist (hsame.videoTasks.map Prod.fst)
  · rw [haccepted, hsame.attaching]
    intro id hremoved
    rcases removed_snoc hr hremoved with hold | ⟨task, ha, hmem⟩
    · obtain ⟨h1, h2, h3⟩ := h.removed id hold
      exact ⟨h1, fun hin => h2 (hsame.sessions id hin), h3⟩
    · -- it is removed in this step, with its video task
      exact ⟨(h.tasks _ hmem).2, hrem id task ha hmem,
        fun call hcall he => (h.attaching call hcall).2 _ hmem he.symm⟩

theorem Books.starts {id token : String} {stream : PendingStream} (hr : Runs step Free new actions s)
    (h : Books actions s) (hfresh : Fresh (actions ++ [a])) (hd : a.drawn = some (id, token))
    (hacc : a.accepts = none) (hrem : ∀ task, a ≠ .videoEnds task) (htoken : stream.token = token)
    (ht : t.sessions = s.sessions.insert id (.pending stream)) (hat : t.attaching = s.attaching)
    (hv : t.videoTasks = s.videoTasks) (hn : t.nextTask = s.nextTask) :
    Books (actions ++ [a]) t := by
  have haccepted : accepted (actions ++ [a]) = accepted actions := by simp [accepted_snoc, hacc]
  have hnew := h.ne_drawn hfresh hd
  constructor
  · intro id' token' hw
    rw [haccepted, started_snoc, hd]
    obtain ⟨stream', hlookup, rfl⟩ := hw
    rw [ht] at hlookup
    by_cases hid : id' = id
    · subst hid
      rw [AList.lookup_insert, Option.some.injEq, StreamSession.pending.injEq] at hlookup
      subst hlookup
      exact ⟨by simp [htoken], hnew⟩
    · rw [AList.lookup_insert_ne hid] at hlookup
      obtain ⟨h1, h2⟩ := h.waits id' _ ⟨stream', hlookup, rfl⟩
      exact ⟨List.mem_append_left _ h1, h2⟩
  · intro token' id' hmem
    rw [haccepted] at hmem
    rw [started_snoc]
    exact List.mem_append_left _ (h.taken token' id' hmem)
  · rw [haccepted]
    exact h.once
  · rw [haccepted, hat, hv]
    exact h.attaching
  · rw [hat]
    exact h.calls
  · rw [haccepted, hv, hn]
    exact h.tasks
  · rw [hv]
    exact h.distinct
  · rw [haccepted, hat]
    intro id' hremoved
    rcases removed_snoc hr hremoved with hold | ⟨task, ha, -⟩
    · obtain ⟨h1, h2, h3⟩ := h.removed id' hold
      refine ⟨h1, fun hin => ?_, h3⟩
      rw [ht, AList.mem_insert] at hin
      rcases hin with rfl | hin
      · exact hnew h1
      · exact h2 hin
    · exact absurd ha (hrem task)

theorem Books.takes {id token : String} {stream : PendingStream} (hr : Runs step Free new actions s)
    (h : Books actions s) (hd : a.drawn = none) (hacc : a.accepts = some (token, id))
    (hrem : ∀ task, a ≠ .videoEnds task) (hw : s.Waits id token)
    (ht : t.sessions = s.sessions.erase id) (hat : t.attaching = s.attaching ++ [⟨id, stream⟩])
    (hv : t.videoTasks = s.videoTasks) (hn : t.nextTask = s.nextTask) :
    Books (actions ++ [a]) t := by
  have hstarted : started (actions ++ [a]) = started actions := by simp [started_snoc, hd]
  have hids : (accepted (actions ++ [a])).map Prod.snd = (accepted actions).map Prod.snd ++ [id] := by
    simp [accepted_snoc, hacc]
  obtain ⟨hdrawn, hfirst⟩ := h.waits id token hw
  constructor
  · -- who still waits is another session
    intro id' token' hw'
    obtain ⟨hne, hold⟩ := waits_erase ht hw'
    obtain ⟨h1, h2⟩ := h.waits id' token' hold
    rw [hstarted, hids]
    exact ⟨h1, by simpa [hne] using h2⟩
  · intro token' id' hmem
    rw [accepted_snoc, hacc] at hmem
    rw [hstarted]
    rcases List.mem_append.mp hmem with hmem | hmem
    · exact h.taken token' id' hmem
    · obtain ⟨rfl, rfl⟩ : token' = token ∧ id' = id := by simpa using hmem
      exact hdrawn
  · rw [hids]
    exact List.nodup_append.mpr ⟨h.once, List.nodup_singleton _, fun x hx y hy he =>
      hfirst (List.mem_singleton.mp hy ▸ he ▸ hx)⟩
  · -- a session with a task has been accepted, and this one had not been
    rw [hids, hat, hv]
    intro call hcall
    rcases List.mem_append.mp hcall with hcall | hcall
    · exact ⟨List.mem_append_left _ (h.attaching call hcall).1, (h.attaching call hcall).2⟩
    · obtain rfl := List.mem_singleton.mp hcall
      refine ⟨by simp, fun running hrun he => hfirst ?_⟩
      have hmem := (h.tasks running hrun).2
      rwa [show running.2 = id from he] at hmem
  · rw [hat, List.map_append]
    refine List.nodup_append.mpr ⟨h.calls, List.nodup_singleton _, ?_⟩
    intro x hx y hy he
    obtain ⟨call, hcall, rfl⟩ := List.mem_map.mp hx
    have hmem := (h.attaching call hcall).1
    rw [show call.session = id from he.trans (List.mem_singleton.mp hy)] at hmem
    exact hfirst hmem
  · rw [hids, hv, hn]
    exact fun running hrun =>
      ⟨(h.tasks running hrun).1, List.mem_append_left _ (h.tasks running hrun).2⟩
  · rw [hv]
    exact h.distinct
  · rw [hids, hat]
    intro id' hremoved
    rcases removed_snoc hr hremoved with hold | ⟨task, ha, -⟩
    · obtain ⟨h1, h2, h3⟩ := h.removed id' hold
      refine ⟨List.mem_append_left _ h1, fun hin => ?_, fun call hcall => ?_⟩
      · rw [ht] at hin
        exact h2 (AList.mem_erase.mp hin).2
      · rcases List.mem_append.mp hcall with hcall | hcall
        · exact h3 call hcall
        · rw [List.mem_singleton.mp hcall]
          rintro rfl
          exact hfirst h1
    · exact absurd ha (hrem task)

/-- The calls between their sections are of distinct sessions. -/
theorem Books.other_call (h : Books actions s) {call call' : Attaching} (hc : call ∈ s.attaching)
    (hc' : call' ∈ s.attaching.erase call) : call'.session ≠ call.session := by
  intro he
  have hmem := List.mem_of_mem_erase hc'
  obtain rfl : call' = call := List.inj_on_of_nodup_map h.calls hmem hc he
  exact (List.Nodup.of_map _ h.calls).not_mem_erase hc'

theorem Books.inserts {call : Attaching} (hr : Runs step Free new actions s) (h : Books actions s)
    (hd : a.drawn = none) (hacc : a.accepts = none) (hrem : ∀ task, a ≠ .videoEnds task)
    (hc : call ∈ s.attaching) : Books (actions ++ [a]) (s.attachInsert call) := by
  have hstarted : started (actions ++ [a]) = started actions := by simp [started_snoc, hd]
  have haccepted : accepted (actions ++ [a]) = accepted actions := by simp [accepted_snoc, hacc]
  constructor
  · intro id token hw
    obtain ⟨stream, hlookup, rfl⟩ := hw
    have hne : id ≠ call.session := by
      rintro rfl
      simp [attachInsert] at hlookup
    rw [attachInsert, AList.lookup_insert_ne hne] at hlookup
    rw [hstarted, haccepted]
    exact h.waits id _ ⟨stream, hlookup, rfl⟩
  · rw [hstarted, haccepted]
    exact h.taken
  · rw [haccepted]
    exact h.once
  · rw [haccepted]
    intro call' hcall
    have hmem := List.mem_of_mem_erase hcall
    refine ⟨(h.attaching call' hmem).1, ?_⟩
    intro running hrun
    rcases List.mem_append.mp hrun with hrun | hrun
    · exact (h.attaching call' hmem).2 running hrun
    · rw [List.mem_singleton.mp hrun]
      exact (h.other_call hc hcall).symm
  · exact h.calls.sublist (List.erase_sublist.map _)
  · rw [haccepted]
    intro running hrun
    rcases List.mem_append.mp hrun with hrun | hrun
    · exact ⟨Nat.lt_add_right 2 (h.tasks running hrun).1, (h.tasks running hrun).2⟩
    · rw [List.mem_singleton.mp hrun]
      exact ⟨Nat.lt_add_of_pos_right (by omega), (h.attaching call hc).1⟩
  · -- task numbers only grow
    show ((s.videoTasks ++ [(s.nextTask, call.session)]).map Prod.fst).Nodup
    rw [List.map_append]
    refine List.nodup_append.mpr ⟨h.distinct, List.nodup_singleton _, ?_⟩
    intro x hx y hy he
    obtain ⟨running, hrun, rfl⟩ := List.mem_map.mp hx
    have hlt := (h.tasks running hrun).1
    have heq : running.1 = s.nextTask := he.trans (by simpa using hy)
    omega
  · rw [haccepted]
    intro id hremoved
    rcases removed_snoc hr hremoved with hold | ⟨task, ha, -⟩
    · obtain ⟨h1, h2, h3⟩ := h.removed id hold
      refine ⟨h1, fun hin => ?_, fun call' hcall => h3 call' (List.mem_of_mem_erase hcall)⟩
      rw [attachInsert, AList.mem_insert] at hin
      rcases hin with he | hin
      · exact h3 call hc he.symm
      · exact h2 hin
    · exact absurd ha (hrem task)

/-- Every step keeps the books. -/
theorem books_step (hr : Runs step Free new actions s) (h : Books actions s)
    (hfresh : Fresh (actions ++ [a])) (hs : step s a = some t) : Books (actions ++ [a]) t := by
  cases step_registers hs with
  | starts id token stream drawn accepts waiting sessions attaching videoTasks nextTask =>
    refine h.starts hr hfresh drawn accepts (fun task ha => ?_) waiting sessions attaching videoTasks
      nextTask
    simp [ha, ScreenAction.drawn] at drawn
  | takes token id stream drawn accepts waiting sessions attaching videoTasks nextTask =>
    refine h.takes hr drawn accepts (fun task ha => ?_) waiting sessions attaching videoTasks nextTask
    simp [ha, ScreenAction.accepts] at accepts
  | inserts call drawn accepts removes waiting next =>
    exact next ▸ h.inserts hr drawn accepts removes waiting
  | removes task id action ends sessions stays =>
    -- a task number belongs to one session
    subst action
    refine h.stays hr stays rfl rfl (fun id' task' ha hmem => ?_)
    obtain rfl := ScreenAction.videoEnds.inj ha
    obtain rfl : id' = id := (Prod.mk.inj (List.inj_on_of_nodup_map h.distinct hmem ends rfl)).2
    rw [sessions]
    intro hin
    exact (AList.mem_erase.mp hin).1 rfl
  | stays drawn accepts removes same =>
    exact h.stays hr same drawn accepts (fun _ task ha => absurd ha (removes task))

end BooksStep

theorem Fresh.of_append {before after : List ScreenAction} (h : Fresh (before ++ after)) :
    Fresh before := by
  have hsub : (started before).Sublist (started (before ++ after)) := by
    unfold started
    rw [List.filterMap_append]
    exact List.sublist_append_left _ _
  exact ⟨h.1.sublist (hsub.map Prod.fst), h.2.sublist (hsub.map Prod.snd)⟩

theorem run_books (hr : Runs step Free new actions s) (hfresh : Fresh actions) : Books actions s := by
  induction hr with
  | nil => exact books_new
  | snoc hr _ hs ih => exact books_step hr (ih hfresh.of_append) hfresh hs

/-- One session for a token, and one token for a session: no token is accepted twice. -/
theorem Books.accepted_once (h : Books actions s) (hfresh : Fresh actions) :
    ((accepted actions).map Prod.fst).Nodup := by
  refine List.Nodup.map_on (fun x hx y hy he => ?_) (List.Nodup.of_map _ h.once)
  have hsame := List.inj_on_of_nodup_map hfresh.2 (h.taken x.1 x.2 hx) (h.taken y.1 y.2 hy) he
  exact Prod.ext he (Prod.mk.inj hsame).1

/-- **Once through the registry**: with fresh UUIDs, however the sections of the commands and the ends of
the tasks interleave. -/
theorem registry_sound (hr : Runs step Free new actions s) (hfresh : Fresh actions) :
    RegistrySound actions s := by
  have hbooks := run_books hr hfresh
  refine ⟨hbooks.accepted_once hfresh, fun id hid stream hlookup => ?_,
    fun id hremoved => (hbooks.removed id hremoved).2.1⟩
  exact (hbooks.waits id stream.token ⟨stream, hlookup, rfl⟩).2 hid

/-- Two sessions: one whose producer fails at once, and one that waits. -/
def demoRegistry : List ScreenAction :=
  [.start "a" "t" none none none ⟨true, none⟩, .start "b" "u" none none none ⟨true, none⟩,
    .attachTake "t" "a", .attachUnknown "t", .attachInsert "a", .videoEnds 0]

theorem registry_sound_demo : ∃ s, run step new demoRegistry = some s ∧
    RegistrySound demoRegistry s ∧ Removed demoRegistry "a" ∧ "b" ∈ s.sessions := by
  refine ⟨_, rfl, registry_sound (runs_free demoRegistry rfl) ?_, ?_, by decide⟩
  · show ["a", "b"].Nodup ∧ ["t", "u"].Nodup
    decide
  · exact ⟨demoRegistry.take 5, 0, [], _, rfl, rfl, by decide⟩

end Runs

end ScreenManager

end Waypad
