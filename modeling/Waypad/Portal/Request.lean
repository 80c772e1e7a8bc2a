import Waypad.Lib.Signals
import Waypad.Lib.Trans

/-!
# Waypad.Portal.Request — the requests of a portal session (`src/screen.rs`, `src/input.rs`)

A method of the portal only makes a request.  Its answer is a signal on the path of the request, and the portal
may send it before the method has returned.  `PortalScreenCastSession::start` opens the stream for the signal
first and then calls the method; `WaylandPortalInputBackend::prepare` calls it first.  Both make three requests,
one after the other, and look at each answer before they go on.

* `PortalClient`: the order of the two calls, and what is made of an answer.
* `PortalSession.step`: the client, its D-Bus connection and the portal.
* `Step`, `step_cases`: what one step does.
-/

namespace Waypad

open Trans

/-- The methods, in the order in which they are called; `select` is SelectSources or SelectDevices. -/
inductive PortalMethod
  | create
  | select
  | start
  deriving DecidableEq, Repr

/-- The request after this one. -/
def PortalMethod.next : PortalMethod → Option PortalMethod
  | create => some select
  | select => some start
  | start => none

/-- Its `handle_token`; `random` is what `unique_token` or `portal_token` returns. -/
def PortalMethod.token (random : String) : PortalMethod → String
  | create => "waypad_create_" ++ random
  | select => "waypad_select_" ++ random
  | start => "waypad_start_" ++ random

/-- The tokens of two requests are different, whatever is random in them. -/
theorem PortalMethod.token_inj {method other : PortalMethod} {random random' : String}
    (h : method.token random = other.token random') : method = other := by
  have hlist := congrArg (fun token => token.toList.take 9) h
  revert hlist
  cases method <;> cases other <;> simp [token]

/-- `PortalResponse`: the code, and the results a client reads. -/
structure PortalResponse (ρ : Type*) where
  response : UInt32
  results : ρ
  deriving DecidableEq, Repr

/-- The two clients. -/
structure PortalClient (ρ : Type*) where
  /-- the stream is opened before the method is called -/
  early : Bool
  /-- what follows `await_portal_response`: the error that ends the session -/
  check : PortalMethod → PortalResponse ρ → Except String Unit
  /-- the context of a timeout -/
  timedOut : String

/-- The path of a request: `sender` is the unique name without its colon, with underscores for its points. -/
def requestPath (unique token : String) : String :=
  let sender := String.ofList ((unique.toList.dropWhile (fun c => c == ':')).map
    (fun c => if c = '.' then '_' else c))
  "/org/freedesktop/portal/desktop/request/" ++ sender ++ "/" ++ token

theorem requestPath_inj {unique token other : String} (h : requestPath unique token = requestPath unique other) :
    token = other := by
  have hlist := congrArg String.toList h
  unfold requestPath at hlist
  simp only [String.toList_append, List.append_assoc, List.append_cancel_left_eq] at hlist
  exact String.toList_injective hlist

/-- A request of the client, and how far it is. -/
structure PortalRequest where
  method : PortalMethod
  /-- the `handle_token` -/
  token : String
  subscribed : Bool
  called : Bool
  returned : Bool
  deriving DecidableEq, Repr

/-- The client waits for the signal. -/
def PortalRequest.awaits (self : PortalRequest) : Bool := self.subscribed && self.called && self.returned

theorem PortalRequest.awaits_iff (self : PortalRequest) :
    self.awaits = true ↔ self.subscribed = true ∧ self.called = true ∧ self.returned = true := by
  unfold awaits
  rw [Bool.and_eq_true, Bool.and_eq_true, and_assoc]

inductive RequestPhase
  /-- before a request -/
  | drawing (method : PortalMethod)
  | asking (request : PortalRequest)
  /-- the three requests are answered -/
  | granted
  | failed (error : String)
  deriving DecidableEq, Repr

/-- An answer the client has looked at. -/
structure PortalAnswer (ρ : Type*) where
  method : PortalMethod
  token : String
  answer : PortalResponse ρ

structure PortalSession (ρ : Type*) where
  phase : RequestPhase
  /-- the stream of the present request -/
  stream : Option (SignalStream String (PortalResponse ρ))
  /-- the requests that the portal has not answered -/
  pending : List String
  /-- ghost: the tokens of the requests -/
  drawn : List String
  /-- ghost: the answers that were sent while the stream was open -/
  heard : List (String × PortalResponse ρ)
  /-- ghost: the answers that were sent while it was not -/
  missed : List (String × PortalResponse ρ)
  /-- ghost -/
  taken : List (PortalAnswer ρ)

inductive PortalAction (ρ : Type*)
  | draw (random : String)
  | subscribe
  /-- the portal has got the call -/
  | call
  | returns
  /-- the portal sends the answer of a request -/
  | respond (path : String) (answer : PortalResponse ρ)
  /-- the stream yields -/
  | receive
  | timeout
  /-- any other call fails, or an answer cannot be read -/
  | fails (error : String)

namespace PortalSession

variable {ρ : Type*}

def new : PortalSession ρ :=
  { phase := .drawing .create, stream := none, pending := [], drawn := [], heard := [], missed := [], taken := [] }

/-- All answers that the portal has sent. -/
def answered (self : PortalSession ρ) : List (String × PortalResponse ρ) := self.heard ++ self.missed

/-- The stream is open on the path. -/
def Listens (self : PortalSession ρ) (path : String) : Prop :=
  ∃ stream, self.stream = some stream ∧ stream.path = path

instance (self : PortalSession ρ) (path : String) : Decidable (self.Listens path) :=
  match h : self.stream with
  | some stream => decidable_of_iff (stream.path = path) (by simp [Listens, h])
  | none => .isFalse (by simp [Listens, h])

/-- The portal sends an answer. -/
def respond (self : PortalSession ρ) (path : String) (answer : PortalResponse ρ) : PortalSession ρ :=
  let self : PortalSession ρ := { self with pending := self.pending.erase path }
  if self.Listens path then
    { self with
      stream := self.stream.map (fun stream => stream.hear path answer), heard := self.heard ++ [(path, answer)] }
  else { self with missed := self.missed ++ [(path, answer)] }

/-- The client has got an answer, and looks at it. -/
def receive (client : PortalClient ρ) (self : PortalSession ρ) (request : PortalRequest)
    (answer : PortalResponse ρ) : PortalSession ρ :=
  { self with
    phase :=
      match client.check request.method answer with
      | .error error => .failed error
      | .ok () =>
        match request.method.next with
        | some method => .drawing method
        | none => .granted
    stream := none
    taken := self.taken ++ [⟨request.method, request.token, answer⟩] }

def step (client : PortalClient ρ) (unique : String) (self : PortalSession ρ) :
    PortalAction ρ → Option (PortalSession ρ)
  | .draw random =>
    match self.phase with
    | .drawing method =>
      some { self with
        phase := .asking ⟨method, method.token random, false, false, false⟩
        drawn := self.drawn ++ [method.token random] }
    | _ => none
  | .subscribe =>
    -- the RemoteDesktop client listens only after its call has returned
    match self.phase with
    | .asking request =>
      if request.subscribed = false ∧ (client.early = true ∨ request.returned = true) then
        some { self with
          phase := .asking { request with subscribed := true }
          stream := some (.listen (requestPath unique request.token)) }
      else none
    | _ => none
  | .call =>
    match self.phase with
    | .asking request =>
      if request.called = false ∧ (client.early = true → request.subscribed = true) then
        some { self with
          phase := .asking { request with called := true }
          pending := requestPath unique request.token :: self.pending }
      else none
    | _ => none
  | .returns =>
    match self.phase with
    | .asking request =>
      if request.called = true ∧ request.returned = false then
        some { self with phase := .asking { request with returned := true } }
      else none
    | _ => none
  | .respond path answer => if path ∈ self.pending then some (self.respond path answer) else none
  | .receive =>
    match self.phase, self.stream with
    | .asking request, some ⟨_, answer :: _⟩ =>
      if request.awaits then some (self.receive client request answer) else none
    | _, _ => none
  | .timeout =>
    -- only while the stream has nothing for it
    match self.phase, self.stream with
    | .asking request, some ⟨_, []⟩ =>
      if request.awaits then some { self with phase := .failed client.timedOut, stream := none } else none
    | _, _ => none
  | .fails error =>
    match self.phase with
    | .drawing _ | .asking _ => some { self with phase := .failed error, stream := none }
    | _ => none

/-! ## One step -/

/-- What a step does, one constructor for each way. -/
inductive Step (client : PortalClient ρ) (unique : String) (s : PortalSession ρ) :
    PortalAction ρ → PortalSession ρ → Prop
  | draws (random : String) (method : PortalMethod) (phase : s.phase = .drawing method) :
      Step client unique s (.draw random)
        { s with
          phase := .asking ⟨method, method.token random, false, false, false⟩
          drawn := s.drawn ++ [method.token random] }
  | subscribes (request : PortalRequest) (phase : s.phase = .asking request) (deaf : request.subscribed = false)
      (order : client.early = true ∨ request.returned = true) :
      Step client unique s .subscribe
        { s with
          phase := .asking { request with subscribed := true }
          stream := some (.listen (requestPath unique request.token)) }
  | calls (request : PortalRequest) (phase : s.phase = .asking request) (quiet : request.called = false)
      (order : client.early = true → request.subscribed = true) :
      Step client unique s .call
        { s with
          phase := .asking { request with called := true }
          pending := requestPath unique request.token :: s.pending }
  | returns (request : PortalRequest) (phase : s.phase = .asking request) (called : request.called = true) :
      Step client unique s .returns { s with phase := .asking { request with returned := true } }
  | hears (path : String) (answer : PortalResponse ρ) (pending : path ∈ s.pending)
      (stream : SignalStream String (PortalResponse ρ)) (opened : s.stream = some stream)
      (listens : stream.path = path) :
      Step client unique s (.respond path answer)
        { s with
          pending := s.pending.erase path, stream := some (stream.hear path answer)
          heard := s.heard ++ [(path, answer)] }
  | misses (path : String) (answer : PortalResponse ρ) (pending : path ∈ s.pending) (deaf : ¬ s.Listens path) :
      Step client unique s (.respond path answer)
        { s with pending := s.pending.erase path, missed := s.missed ++ [(path, answer)] }
  | takes (request : PortalRequest) (phase : s.phase = .asking request) (awaits : request.awaits = true)
      (stream : SignalStream String (PortalResponse ρ)) (opened : s.stream = some stream)
      (answer : PortalResponse ρ) (rest : List (PortalResponse ρ)) (queue : stream.queue = answer :: rest) :
      Step client unique s .receive (s.receive client request answer)
  | timesOut (request : PortalRequest) (phase : s.phase = .asking request) (awaits : request.awaits = true)
      (stream : SignalStream String (PortalResponse ρ)) (opened : s.stream = some stream)
      (queue : stream.queue = []) :
      Step client unique s .timeout { s with phase := .failed client.timedOut, stream := none }
  | fails (error : String) (method : PortalMethod)
      (going : s.phase = .drawing method ∨ ∃ request, s.phase = .asking request ∧ request.method = method) :
      Step client unique s (.fails error) { s with phase := .failed error, stream := none }

section Steps

variable {client : PortalClient ρ} {unique : String} {s t : PortalSession ρ} {action : PortalAction ρ}

theorem step_cases (hs : step client unique s action = some t) : Step client unique s action t := by
  cases action with
  | draw random =>
    simp only [step] at hs
    split at hs
    · next method hphase =>
      obtain rfl := Option.some.inj hs
      exact .draws random method hphase
    · cases hs
  | subscribe =>
    simp only [step] at hs
    split at hs
    · next request hphase =>
      split_ifs at hs with hcan
      obtain rfl := Option.some.inj hs
      exact .subscribes request hphase hcan.1 hcan.2
    · cases hs
  | call =>
    simp only [step] at hs
    split at hs
    · next request hphase =>
      split_ifs at hs with hcan
      obtain rfl := Option.some.inj hs
      exact .calls request hphase hcan.1 hcan.2
    · cases hs
  | returns =>
    simp only [step] at hs
    split at hs
    · next request hphase =>
      split_ifs at hs with hcan
      obtain rfl := Option.some.inj hs
      exact .returns request hphase hcan.1
    · cases hs
  | respond path answer =>
    simp only [step] at hs
    split_ifs at hs with hpending
    obtain rfl := Option.some.inj hs
    unfold respond
    dsimp only
    by_cases hlistens : s.Listens path
    · have hopen : { s with pending := s.pending.erase path }.Listens path := hlistens
      rw [if_pos hopen]
      obtain ⟨stream, hstream, hpath⟩ := hlistens
      rw [hstream, Option.map_some]
      exact .hears path answer hpending stream hstream hpath
    · have hopen : ¬ { s with pending := s.pending.erase path }.Listens path := hlistens
      rw [if_neg hopen]
      exact .misses path answer hpending hlistens
  | receive =>
    simp only [step] at hs
    split at hs
    · next request path answer rest hphase hstream =>
      split_ifs at hs with hawaits
      obtain rfl := Option.some.inj hs
      exact .takes request hphase hawaits _ hstream answer rest rfl
    · cases hs
  | timeout =>
    simp only [step] at hs
    split at hs
    · next request path hphase hstream =>
      split_ifs at hs with hawaits
      obtain rfl := Option.some.inj hs
      exact .timesOut request hphase hawaits _ hstream rfl
    · cases hs
  | fails error =>
    simp only [step] at hs
    split at hs
    · next method hphase =>
      obtain rfl := Option.some.inj hs
      exact .fails error method (Or.inl hphase)
    · next request hphase =>
      obtain rfl := Option.some.inj hs
      exact .fails error request.method (Or.inr ⟨request, hphase, rfl⟩)
    · cases hs

end Steps

end PortalSession

end Waypad
