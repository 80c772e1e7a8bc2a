import Waypad.Input.Backends
import Waypad.Portal.Answers

/-!
# Waypad.Portal.Clients — the ScreenCast and the RemoteDesktop session (`src/screen.rs`, `src/input.rs`)

The two clients differ in the order of `subscribe` and `call`.  `subscribe_portal_request` opens the stream before
the request exists; `wait_request` opens it after the method has returned.

* `screenCast`, `remoteDesktop`: the clients.
* `screenCast_hears`: no answer of the portal is missed.
* `remoteDesktop_hears`: an answer is got if, and only if, the stream was open when it was sent.
* `prepare_answered`: `prepare` is `PortalBackend.request` on the answers that it has got.
-/

namespace Waypad

open Trans

/-! ## ScreenCast -/

/-- A value of a stream's properties: a pair of signed or of unsigned integers, or anything else. -/
inductive StreamProperty
  | ints (a b : Int32)
  | uints (a b : UInt32)
  | other
  deriving DecidableEq, Repr

/-- `stream_int_pair`. -/
def streamIntPair (properties : String → Option StreamProperty) (key : String) : Option (Int32 × Int32) :=
  match properties key with
  | some (.ints a b) => some (a, b)
  | some (.uints a b) => some (a.toInt32, b.toInt32)
  | _ => none

/-- `stream_size`. -/
def streamSize (properties : String → Option StreamProperty) : Option UInt32 × Option UInt32 :=
  match streamIntPair properties "size" with
  | some (width, height) =>
    if 0 < width ∧ 0 < height then (some width.toUInt32, some height.toUInt32) else (none, none)
  | none => (none, none)

/-- `stream_position`. -/
def streamPosition (properties : String → Option StreamProperty) : Int32 × Int32 :=
  (streamIntPair properties "position").getD (0, 0)

/-- The results that `PortalScreenCastSession::start` reads. -/
structure ScreenCastResults where
  sessionHandle : Option String
  /-- `OwnedObjectPath::try_from` on the handle -/
  path : Except String Unit
  streams : Option (List (UInt32 × (String → Option StreamProperty)))
  restoreToken : Option String

/-- The first stream. -/
def firstStream : Option (List (UInt32 × (String → Option StreamProperty))) →
    Except String (UInt32 × (String → Option StreamProperty))
  | none => .error "ScreenCast portal returned no streams"
  | some [] => .error "ScreenCast portal returned an empty stream list"
  | some (stream :: _) => .ok stream

def screenCastCheck : PortalMethod → PortalResponse ScreenCastResults → Except String Unit
  | .create, answer =>
    if answer.response ≠ 0 then .error "Portal permission denied while creating ScreenCast session"
    else if answer.results.sessionHandle = none then .error "ScreenCast portal did not return a session handle"
    else answer.results.path
  | .select, answer =>
    if answer.response ≠ 0 then .error "ScreenCast source selection was denied by the portal" else .ok ()
  | .start, answer =>
    if answer.response ≠ 0 then .error "ScreenCast portal approval was denied or cancelled"
    else (firstStream answer.results.streams).map (fun _ => ())

/-- `PortalScreenCastSession::start`, up to `OpenPipeWireRemote`. -/
def screenCast : PortalClient ScreenCastResults :=
  { early := true, check := screenCastCheck, timedOut := "Timed out waiting for portal response" }

/-- `PortalScreenCastSession`, without the connection and the PipeWire descriptor. -/
structure PortalScreenCastSession where
  streamId : UInt32
  width : Option UInt32
  height : Option UInt32
  position : Int32 × Int32
  restoreToken : Option String
  sessionHandle : String

/-- What `start` makes of its answers. -/
def PortalScreenCastSession.ofAnswers (created started : PortalResponse ScreenCastResults) :
    Option PortalScreenCastSession := do
  let handle ← created.results.sessionHandle
  let (streamId, properties) ← (firstStream started.results.streams).toOption
  let (width, height) := streamSize properties
  return { streamId, width, height, position := streamPosition properties
           restoreToken := started.results.restoreToken, sessionHandle := handle }

/-! ## RemoteDesktop -/

/-- The results that `prepare` reads. -/
structure RemoteDesktopResults where
  sessionHandle : Option String
  /-- `OwnedObjectPath::try_from` on the handle -/
  path : Except String Unit
  devices : Option UInt32

def remoteDesktopCheck : PortalMethod → PortalResponse RemoteDesktopResults → Except String Unit
  | .create, answer =>
    if answer.response ≠ 0 then .error "Input injection requires portal approval on this session"
    else if answer.results.sessionHandle = none then .error "RemoteDesktop portal did not return a session handle"
    else answer.results.path
  | .select, answer =>
    if answer.response ≠ 0 then .error "RemoteDesktop device selection was denied by the portal" else .ok ()
  | .start, answer =>
    if answer.response ≠ 0 then .error "RemoteDesktop portal approval was denied or cancelled"
    else if answer.results.devices.getD 0 &&& (1 ||| 2) = 0 then
      .error "RemoteDesktop portal approved no keyboard or pointer devices"
    else .ok ()

/-- `WaylandPortalInputBackend::prepare`; the handle that a method returns is the path of its request. -/
def remoteDesktop : PortalClient RemoteDesktopResults :=
  { early := false, check := remoteDesktopCheck, timedOut := "Timed out waiting for portal response" }

/-- The answer to a request; `error` stands for one that was not got. -/
def PortalAnswer.at? (error : String) (taken : List (PortalAnswer RemoteDesktopResults)) (i : ℕ) :
    Except String (PortalResponse RemoteDesktopResults) :=
  match taken[i]? with
  | some entry => .ok entry.answer
  | none => .error error

/-- What `PortalBackend.request` reads of the answers. -/
def PortalAnswers.ofResponses (created selected started : Except String (PortalResponse RemoteDesktopResults)) :
    PortalAnswers :=
  { create := created.map (fun answer => (answer.response, answer.results.sessionHandle))
    path := created.bind (fun answer => answer.results.path)
    select := selected.map PortalResponse.response
    start := started.map (fun answer => (answer.response, answer.results.devices)) }

/-- The answers of a session. -/
def PortalAnswers.ofTaken (error : String) (taken : List (PortalAnswer RemoteDesktopResults)) : PortalAnswers :=
  .ofResponses (PortalAnswer.at? error taken 0) (PortalAnswer.at? error taken 1) (PortalAnswer.at? error taken 2)

namespace PortalSession

section ScreenCast

variable {unique : String} {actions : List (PortalAction ScreenCastResults)} {s : PortalSession ScreenCastResults}

/-- Answers that pass make a session. -/
theorem session_of_checked {created started : PortalResponse ScreenCastResults}
    (hcreated : screenCastCheck .create created = .ok ()) (hstarted : screenCastCheck .start started = .ok ()) :
    ∃ session, PortalScreenCastSession.ofAnswers created started = some session := by
  simp only [screenCastCheck] at hcreated hstarted
  split_ifs at hcreated hstarted with _ hhandle
  obtain ⟨handle, hhandle⟩ := Option.ne_none_iff_exists'.mp hhandle
  unfold PortalScreenCastSession.ofAnswers
  rw [hhandle]
  generalize firstStream started.results.streams = stream at hstarted
  cases stream with
  | error error => cases hstarted
  | ok stream => exact ⟨_, rfl⟩

theorem screenCast_denies {method : PortalMethod} {answer : PortalResponse ScreenCastResults}
    (h : screenCastCheck method answer = .ok ()) : answer.response = 0 := by
  by_contra hdenied
  cases method <;> · rw [screenCastCheck, if_pos hdenied] at h; cases h

/-- **No answer of the ScreenCast portal is missed**: however early the portal answers a request, the client that
waits takes this answer next and does not run into the timeout; and a session is granted by the answers, all
positive, that the portal has sent to its own three requests. -/
theorem screenCast_hears (hs : Runs (step screenCast unique) Free new actions s) :
    (∀ request answer, s.phase = .asking request → (requestPath unique request.token, answer) ∈ s.answered →
      (request.awaits = true → step screenCast unique s .receive = some (s.receive screenCast request answer)) ∧
        step screenCast unique s .timeout = none) ∧
    (s.phase = .granted → ∃ created selected started,
      s.taken.map PortalAnswer.method = [.create, .select, .start] ∧
      s.taken.map PortalAnswer.answer = [created, selected, started] ∧
      (∀ entry ∈ s.taken, (requestPath unique entry.token, entry.answer) ∈ s.answered ∧
        entry.answer.response = 0) ∧
      ∃ session, PortalScreenCastSession.ofAnswers created started = some session) := by
  have hbooks := (run_books hs).1
  refine ⟨?_, ?_⟩
  · -- an early subscriber misses nothing
    intro request answer hphase hanswer
    have hkept : s.missed = [] := hbooks.kept rfl (fun error herror => by rw [hphase] at herror; cases herror)
    have hheard : (requestPath unique request.token, answer) ∈ s.heard := by
      unfold answered at hanswer
      rwa [hkept, List.append_nil] at hanswer
    refine ⟨fun hawaits => hbooks.receives hphase hawaits hheard, ?_⟩
    rw [Option.eq_none_iff_forall_not_mem]
    intro t ht
    exact hbooks.patient ht hphase answer hheard
  · intro hphase
    obtain ⟨hmethods, hchecked⟩ := (run_granted hs).done _ (by rw [hphase]; rfl)
    obtain ⟨created, rest, htaken, hcreate, hrest⟩ := List.map_eq_cons_iff.mp hmethods
    obtain ⟨selected, rest', rfl, hselect, hrest'⟩ := List.map_eq_cons_iff.mp hrest
    obtain ⟨started, rest'', rfl, hstart, hrest''⟩ := List.map_eq_cons_iff.mp hrest'
    obtain rfl := List.map_eq_nil_iff.mp hrest''
    refine ⟨created.answer, selected.answer, started.answer, hmethods, ?_, ?_, ?_⟩
    · rw [htaken]
      rfl
    · exact fun entry hentry => ⟨hbooks.taken entry hentry, screenCast_denies (hchecked entry hentry)⟩
    · rw [htaken] at hchecked
      refine session_of_checked ?_ ?_
      · exact hcreate ▸ hchecked created List.mem_cons_self
      · exact hstart ▸ hchecked started (by simp)

/-- The portal answers `CreateSession` before the method has returned. -/
def demoCast : List (PortalAction ScreenCastResults) :=
  [.draw "1f", .subscribe, .call,
    .respond (requestPath ":1.42" "waypad_create_1f") ⟨0, some "/session", .ok (), none, none⟩, .returns]

theorem demo_cast : ∃ s, run (step screenCast ":1.42") new demoCast = some s ∧ s.heard.length = 1 ∧
    (∀ request answer, s.phase = .asking request → (requestPath ":1.42" request.token, answer) ∈ s.answered →
      (request.awaits = true → step screenCast ":1.42" s .receive = some (s.receive screenCast request answer)) ∧
        step screenCast ":1.42" s .timeout = none) ∧
    (s.phase = .granted → ∃ created selected started,
      s.taken.map PortalAnswer.method = [.create, .select, .start] ∧
      s.taken.map PortalAnswer.answer = [created, selected, started] ∧
      (∀ entry ∈ s.taken, (requestPath ":1.42" entry.token, entry.answer) ∈ s.answered ∧
        entry.answer.response = 0) ∧
      ∃ session, PortalScreenCastSession.ofAnswers created started = some session) :=
  ⟨_, rfl, rfl, screenCast_hears (runs_free demoCast rfl)⟩

end ScreenCast

section RemoteDesktop

variable {unique : String} {actions : List (PortalAction RemoteDesktopResults)}
  {s : PortalSession RemoteDesktopResults}

/-- **An answer of the RemoteDesktop portal is got exactly when the stream was open as it was sent**: a client that
waits takes such an answer next; one that was sent before is never got, and the session does not go on. -/
theorem remoteDesktop_hears (hs : Runs (step remoteDesktop unique) Free new actions s) {request : PortalRequest}
    (hphase : s.phase = .asking request) (hawaits : request.awaits = true)
    {answer : PortalResponse RemoteDesktopResults}
    (hanswer : (requestPath unique request.token, answer) ∈ s.answered) :
    ((requestPath unique request.token, answer) ∈ s.heard ∧
      step remoteDesktop unique s .receive = some (s.receive remoteDesktop request answer) ∧
        step remoteDesktop unique s .timeout = none) ∨
    ((requestPath unique request.token, answer) ∈ s.missed ∧
      ∀ more t, Runs (step remoteDesktop unique) Free s more t → t.taken = s.taken ∧
        (t.phase = .asking request ∨ ∃ error, t.phase = .failed error)) := by
  have hbooks := (run_books hs).1
  rcases List.mem_append.mp hanswer with hheard | hmissed
  · refine Or.inl ⟨hheard, hbooks.receives hphase hawaits hheard, ?_⟩
    rw [Option.eq_none_iff_forall_not_mem]
    intro t ht
    exact hbooks.patient ht hphase answer hheard
  · refine Or.inr ⟨hmissed, fun more t hmore => ?_⟩
    have hdeaf := run_deaf hs hphase hawaits hmissed hmore
    exact ⟨hdeaf.taken, hdeaf.phase.imp_left And.left⟩

/-- `request` looks at each answer before the next one. -/
theorem request_checks (created selected started : Except String (PortalResponse RemoteDesktopResults)) :
    (PortalBackend.request (.ofResponses created selected started)).map (fun _ => ()) =
      created.bind (fun answer => (remoteDesktopCheck .create answer).bind (fun _ =>
        selected.bind (fun answer => (remoteDesktopCheck .select answer).bind (fun _ =>
          started.bind (fun answer => remoteDesktopCheck .start answer))))) := by
  simp only [PortalBackend.request, PortalAnswers.ofResponses, remoteDesktopCheck, bind, Except.bind,
    Except.map, pure, Except.pure, throw, throwThe, MonadExceptOf.throw]
  rcases created with error | ⟨response, handle, path, devices⟩
  · rfl
  dsimp only
  -- the checks stand in the same order on both sides
  split_ifs with hcreated hhandle
  · rfl
  · subst hhandle
    rfl
  obtain ⟨handle, rfl⟩ := Option.ne_none_iff_exists'.mp hhandle
  rcases path with error | _
  · rfl
  rcases selected with error | selected
  · rfl
  dsimp only
  split_ifs with hselected
  · rfl
  rcases started with error | started
  · rfl
  dsimp only
  split_ifs
  · rfl
  · rfl
  · rfl

/-- The answers of a session that has failed, or of one that was granted. -/
theorem checks_of_taken (error : String) {taken before : List (PortalAnswer RemoteDesktopResults)}
    {method : PortalMethod} (hbefore : Taken remoteDesktop before method.before)
    (htaken : taken = before ∨ ∃ last, taken = before ++ [last] ∧ last.method = method ∧
      remoteDesktopCheck last.method last.answer = .error error) :
    (PortalBackend.request (.ofTaken error taken)).map (fun _ => ()) = .error error := by
  rw [PortalAnswers.ofTaken, request_checks]
  obtain ⟨hmethods, hchecked⟩ := hbefore
  -- the checks before the one that failed have passed, in the order of the methods
  cases method with
  | create =>
    obtain rfl := List.map_eq_nil_iff.mp hmethods
    rcases htaken with rfl | ⟨last, rfl, hmethod, hlast⟩
    · rfl
    · rw [hmethod] at hlast
      show (remoteDesktopCheck .create last.answer).bind _ = _
      rw [hlast]
      rfl
  | select =>
    obtain ⟨created, rest, rfl, hcreate, hrest⟩ := List.map_eq_cons_iff.mp hmethods
    obtain rfl := List.map_eq_nil_iff.mp hrest
    have hcreated : remoteDesktopCheck .create created.answer = .ok () :=
      hcreate ▸ hchecked created List.mem_cons_self
    rcases htaken with rfl | ⟨last, rfl, hmethod, hlast⟩
    · show (remoteDesktopCheck .create created.answer).bind _ = _
      rw [hcreated]
      rfl
    · rw [hmethod] at hlast
      show (remoteDesktopCheck .create created.answer).bind
        (fun _ => (remoteDesktopCheck .select last.answer).bind _) = _
      rw [hcreated, hlast]
      rfl
  | start =>
    obtain ⟨created, rest, rfl, hcreate, hrest⟩ := List.map_eq_cons_iff.mp hmethods
    obtain ⟨selected, rest', rfl, hselect, hrest'⟩ := List.map_eq_cons_iff.mp hrest
    obtain rfl := List.map_eq_nil_iff.mp hrest'
    have hcreated : remoteDesktopCheck .create created.answer = .ok () :=
      hcreate ▸ hchecked created List.mem_cons_self
    have hselected : remoteDesktopCheck .select selected.answer = .ok () :=
      hselect ▸ hchecked selected (List.mem_cons_of_mem _ List.mem_cons_self)
    rcases htaken with rfl | ⟨last, rfl, hmethod, hlast⟩
    · show (remoteDesktopCheck .create created.answer).bind
        (fun _ => (remoteDesktopCheck .select selected.answer).bind _) = _
      rw [hcreated, hselected]
      rfl
    · rw [hmethod] at hlast
      show (remoteDesktopCheck .create created.answer).bind
        (fun _ => (remoteDesktopCheck .select selected.answer).bind
          (fun _ => remoteDesktopCheck .start last.answer)) = _
      rw [hcreated, hselected, hlast]
      rfl

theorem map_unit_ok {α : Type} {result : Except String α} (h : result.map (fun _ => ()) = .ok ()) :
    ∃ value, result = .ok value := by
  cases result with
  | error error => cases h
  | ok value => exact ⟨value, rfl⟩

theorem map_unit_error {α : Type} {result : Except String α} {error : String}
    (h : result.map (fun _ => ()) = .error error) : result = .error error := by
  cases result with
  | error error' => exact congrArg Except.error (Except.error.inj h)
  | ok value => cases h

/-- **A `prepare` is `request` on the answers it has got**: over every run it ends with what `request` makes of
them; a call that fails and an answer that does not come in time count as an error in the place of the answer. -/
theorem prepare_answered (hs : Runs (step remoteDesktop unique) Free new actions s) :
    (s.phase = .granted → ∃ session, ∀ error, PortalBackend.request (.ofTaken error s.taken) = .ok session) ∧
      ∀ error, s.phase = .failed error → PortalBackend.request (.ofTaken error s.taken) = .error error := by
  have hgranted := run_granted hs
  refine ⟨?_, ?_⟩
  · intro hphase
    obtain ⟨hmethods, hchecked⟩ := hgranted.done _ (by rw [hphase]; rfl)
    obtain ⟨created, rest, htaken, hcreate, hrest⟩ := List.map_eq_cons_iff.mp hmethods
    obtain ⟨selected, rest', rfl, hselect, hrest'⟩ := List.map_eq_cons_iff.mp hrest
    obtain ⟨started, rest'', rfl, hstart, hrest''⟩ := List.map_eq_cons_iff.mp hrest'
    obtain rfl := List.map_eq_nil_iff.mp hrest''
    rw [htaken] at hchecked ⊢
    -- the three checks have passed, one for each method
    have hcreated : remoteDesktopCheck .create created.answer = .ok () :=
      hcreate ▸ hchecked created List.mem_cons_self
    have hselected : remoteDesktopCheck .select selected.answer = .ok () := hselect ▸ hchecked selected (by simp)
    have hstarted : remoteDesktopCheck .start started.answer = .ok () := hstart ▸ hchecked started (by simp)
    have hall := request_checks (.ok created.answer) (.ok selected.answer) (.ok started.answer)
    simp only [Except.bind, hcreated, hselected, hstarted] at hall
    obtain ⟨session, hsession⟩ := map_unit_ok hall
    exact ⟨session, fun _ => hsession⟩
  · intro error hphase
    apply map_unit_error
    rcases hgranted.failed error hphase with ⟨method, htaken⟩ | ⟨before, last, htaken, hbefore, hlast⟩
    · exact checks_of_taken error htaken (Or.inl rfl)
    · exact checks_of_taken error hbefore (Or.inr ⟨last, htaken, rfl, hlast⟩)

/-- The same answer is lost on the other client. -/
def demoDesktop : List (PortalAction RemoteDesktopResults) :=
  [.draw "1f", .call,
    .respond (requestPath ":1.42" "waypad_create_1f") ⟨0, some "/session", .ok (), none⟩, .returns, .subscribe]

theorem demo_desktop : ∃ s request answer, run (step remoteDesktop ":1.42") new demoDesktop = some s ∧
    s.missed.length = 1 ∧
    (((requestPath ":1.42" request.token, answer) ∈ s.heard ∧
      step remoteDesktop ":1.42" s .receive = some (s.receive remoteDesktop request answer) ∧
        step remoteDesktop ":1.42" s .timeout = none) ∨
    ((requestPath ":1.42" request.token, answer) ∈ s.missed ∧
      ∀ more t, Runs (step remoteDesktop ":1.42") Free s more t → t.taken = s.taken ∧
        (t.phase = .asking request ∨ ∃ error, t.phase = .failed error))) := by
  have hs : Runs (step remoteDesktop ":1.42") Free new demoDesktop _ :=
    runs_free demoDesktop rfl
  exact ⟨_, ⟨.create, "waypad_create_1f", true, true, true⟩, ⟨0, some "/session", .ok (), none⟩, rfl, rfl,
    remoteDesktop_hears hs rfl rfl List.mem_cons_self⟩

/-- All requests are answered in time, and the last one grants no device. -/
def demoDenied : List (PortalAction RemoteDesktopResults) :=
  [.draw "1f", .call, .returns, .subscribe,
    .respond (requestPath ":1.42" "waypad_create_1f") ⟨0, some "/session", .ok (), none⟩, .receive,
    .draw "2f", .call, .returns, .subscribe,
    .respond (requestPath ":1.42" "waypad_select_2f") ⟨0, none, .ok (), none⟩, .receive,
    .draw "3f", .call, .returns, .subscribe,
    .respond (requestPath ":1.42" "waypad_start_3f") ⟨0, none, .ok (), some 4⟩, .receive]

theorem demo_denied : ∃ s, run (step remoteDesktop ":1.42") new demoDenied = some s ∧
    s.phase = .failed "RemoteDesktop portal approved no keyboard or pointer devices" ∧
    (s.phase = .granted → ∃ session, ∀ error, PortalBackend.request (.ofTaken error s.taken) = .ok session) ∧
      ∀ error, s.phase = .failed error → PortalBackend.request (.ofTaken error s.taken) = .error error := by
  have hs : Runs (step remoteDesktop ":1.42") Free new demoDenied _ := runs_free demoDenied rfl
  exact ⟨_, rfl, rfl, prepare_answered hs⟩

end RemoteDesktop

end PortalSession

end Waypad
