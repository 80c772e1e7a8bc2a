import Waypad.Lib.SlidingWindow
import Waypad.Server.Gate

/-!
# Waypad.Server.RateLimit — how often an address may try to pair

`PairRateLimiter` holds a sliding window of sixty seconds for each address.  The daemon makes it when it
starts, and `handle_pair` asks it, under its lock, before it looks at the pairing code.

* `attempts`: what the limiter of the running daemon has been asked, and what it answered.
* `Keeps`: the buckets of the limiter follow these attempts.
* `rate_limited`: the limiter answers by the last sixty seconds of the address alone.
-/

namespace Waypad

namespace PairRateLimiter

/-- Older than a minute: `now.duration_since(t) > Duration::from_secs(60)`. -/
def old (t now : ℕ) : Bool := decide (window < now - t)

theorem ages : SlidingWindow.Ages old :=
  { earlier := fun t u now hle h => by
      simp only [old, decide_eq_true_eq] at h ⊢
      omega
    later := fun t now now' hle h => by
      simp only [old, decide_eq_true_eq] at h ⊢
      omega }

/-- Each address has a window of its own. -/
theorem allow_eq (self : PairRateLimiter) (ip : IpAddr) (max now : ℕ) :
    self.allow ip max now =
      ((SlidingWindow.ask old max (self.attempts ip) now).1,
        ⟨Function.update self.attempts ip
          (SlidingWindow.ask old max (self.attempts ip) now).2⟩) := by
  unfold allow SlidingWindow.ask
  dsimp only [old]
  split_ifs <;> rfl

end PairRateLimiter

/-- The limiter after `handlePairAdmit`. -/
theorem handlePairAdmit_limiter {config : Config} {limiter limiter' : PairRateLimiter}
    {peer : SocketAddr} {now : ℕ} {request : PairRequest} {err : Option ApiError}
    (h : handlePairAdmit config limiter peer now request = (err, limiter')) :
    limiter' = if nameRejected request.deviceName then limiter
      else (limiter.allow peer.ip config.maxPairAttemptsPerMinute now).2 := by
  have hsnd : limiter' = (handlePairAdmit config limiter peer now request).2 := by rw [h]
  rw [hsnd, handlePairAdmit]
  by_cases hname : nameRejected request.deviceName = true
  · rw [if_pos hname, if_pos hname]
  · rw [if_neg hname, if_neg hname]
    rcases limiter.allow peer.ip config.maxPairAttemptsPerMinute now with ⟨admitted, limiter1⟩
    cases admitted with
    | false => rfl
    | true =>
      dsimp only
      split_ifs <;> rfl

/-- A `PairRequest` that has reached the limiter. -/
structure PairAttempt where
  ip : IpAddr
  time : ℕ
  admitted : Bool
  deriving DecidableEq, Repr

def PairAttempt.entry (self : PairAttempt) : SlidingWindow.Entry ℕ := ⟨self.time, self.admitted⟩

/-- The attempts of one address. -/
def attemptsOf (ip : IpAddr) (seen : List PairAttempt) : List (SlidingWindow.Entry ℕ) :=
  (seen.filter (fun e => e.ip == ip)).map PairAttempt.entry

theorem attemptsOf_same {ip : IpAddr} (seen : List PairAttempt) {e : PairAttempt} (h : e.ip = ip) :
    attemptsOf ip (seen ++ [e]) = attemptsOf ip seen ++ [e.entry] := by
  simp [attemptsOf, h]

theorem attemptsOf_other {ip : IpAddr} (seen : List PairAttempt) {e : PairAttempt} (h : e.ip ≠ ip) :
    attemptsOf ip (seen ++ [e]) = attemptsOf ip seen := by
  simp [attemptsOf, h]

namespace Host

/-! ## What the limiter is asked -/

/-- The attempt an action makes. -/
def attempt (P : Setup) (s : Host) : Act → Option PairAttempt
  | .pairRequest c request =>
    match s.task c with
    | some (d, k, .recv) =>
      if nameRejected request.deviceName then none
      else some
        { ip := k.peer.ip, time := s.mono
          admitted := (d.limiter.allow k.peer.ip P.config.maxPairAttemptsPerMinute s.mono).1 }
    | _ => none
  | _ => none

/-- The attempts of the running daemon; a new daemon has a new limiter. -/
def noteAttempt (P : Setup) (seen : List PairAttempt) (s : Host) (a : Act) : List PairAttempt :=
  match a with
  | .serve _ => []
  | _ => seen ++ (s.attempt P a).toList

def attempts (P : Setup) (actions : List Act) : List PairAttempt :=
  Trans.record (step P) (noteAttempt P) [] init actions

/-- The limiter of the daemon follows the attempts. -/
def Keeps (P : Setup) (s : Host) (seen : List PairAttempt) : Prop :=
  ∀ ip, ∃ bucket, SlidingWindow.Tracks PairRateLimiter.old P.config.maxPairAttemptsPerMinute
      (attemptsOf ip seen) bucket s.mono ∧
    ∀ d, s.daemon = some d → d.limiter.attempts ip = bucket

section Step

variable {P : Setup} {s t : Host} {a : Act} {seen : List PairAttempt} {c : ConnId} {d : Daemon}
  {k : Conn} {phase : Phase} {request : PairRequest}

theorem keeps_init (P : Setup) : Keeps P init [] :=
  fun _ => ⟨[], .empty _, fun d hd => by cases hd⟩

/-- The clock may have moved on; the limiter is the same. -/
theorem Keeps.same (h : Keeps P s seen) (hmono : s.mono ≤ t.mono)
    (hd : ∀ d', t.daemon = some d' → ∃ d, s.daemon = some d ∧ d'.limiter = d.limiter) :
    Keeps P t seen := by
  intro ip
  obtain ⟨bucket, htracks, hbucket⟩ := h ip
  refine ⟨bucket, htracks.later hmono, ?_⟩
  intro d' hd'
  obtain ⟨d, hs, hlimiter⟩ := hd d' hd'
  rw [hlimiter]
  exact hbucket d hs

/-- The limiter is asked, unless the name is rejected. -/
theorem Keeps.asked (h : Keeps P s seen) (ht : s.task c = some (d, k, .recv))
    {limiter : PairRateLimiter} {err : Option ApiError}
    (ha : handlePairAdmit P.config d.limiter k.peer s.mono request = (err, limiter))
    (hmono : t.mono = s.mono) (hd : ∀ d', t.daemon = some d' → d'.limiter = limiter) :
    Keeps P t (noteAttempt P seen s (.pairRequest c request)) := by
  have hdaemon := (task_eq.mp ht).1
  have hlimiter := handlePairAdmit_limiter ha
  -- a bad name is refused before the limiter is asked
  by_cases hname : nameRejected request.deviceName = true
  · have hnote : noteAttempt P seen s (.pairRequest c request) = seen := by
      simp [noteAttempt, attempt, ht, hname]
    rw [if_pos hname] at hlimiter
    rw [hnote]
    exact h.same hmono.ge (fun d' hd' => ⟨d, hdaemon, (hd d' hd').trans hlimiter⟩)
  · have hnote : noteAttempt P seen s (.pairRequest c request) = seen ++
        [{ ip := k.peer.ip, time := s.mono
           admitted := (d.limiter.allow k.peer.ip P.config.maxPairAttemptsPerMinute s.mono).1 }] := by
      simp [noteAttempt, attempt, ht, hname]
    have hbuckets : limiter.attempts = Function.update d.limiter.attempts k.peer.ip
        (SlidingWindow.ask PairRateLimiter.old P.config.maxPairAttemptsPerMinute
          (d.limiter.attempts k.peer.ip) s.mono).2 := by
      rw [hlimiter, if_neg hname, PairRateLimiter.allow_eq]
    rw [hnote, PairRateLimiter.allow_eq]
    intro ip
    obtain ⟨bucket, htracks, hbucket⟩ := h ip
    obtain rfl := hbucket d hdaemon
    -- the bucket of the peer, and of every other address
    by_cases hip : k.peer.ip = ip
    · subst hip
      refine ⟨(SlidingWindow.ask PairRateLimiter.old P.config.maxPairAttemptsPerMinute
        (d.limiter.attempts k.peer.ip) s.mono).2, ?_, fun d' hd' => ?_⟩
      · rw [attemptsOf_same seen (by rfl), hmono]
        exact htracks.ask PairRateLimiter.ages
      · rw [hd d' hd', hbuckets, Function.update_self]
    · refine ⟨d.limiter.attempts ip, ?_, fun d' hd' => ?_⟩
      · rw [attemptsOf_other seen hip, hmono]
        exact htracks
      · rw [hd d' hd', hbuckets, Function.update_of_ne (Ne.symm hip)]

/-- **One step.** -/
theorem Keeps.step (h : Keeps P s seen) (ht : Took P s a t) : Keeps P t (noteAttempt P seen s a) := by
  -- a step that asks nothing
  have quiet : ∀ {t : Host}, (s.attempt P a).toList = [] → (∀ capabilities, a ≠ .serve capabilities) →
      s.mono ≤ t.mono → (∀ d', t.daemon = some d' → ∃ d, s.daemon = some d ∧ d'.limiter = d.limiter) →
      Keeps P t (noteAttempt P seen s a) := by
    intro t hnone hserve hmono hd
    have hnote : noteAttempt P seen s a = seen := by
      unfold noteAttempt
      split
      · exact absurd rfl (hserve _)
      · rw [hnone, List.append_nil]
    rw [hnote]
    exact h.same hmono hd
  cases ht with
  | clock hle => exact quiet rfl (by simp) hle (fun d' hd' => ⟨d', hd', rfl⟩)
  | pairCode | revokeLoad | revokeMiss | revokeSave =>
    exact quiet rfl (by simp) le_rfl (fun d' hd' => ⟨d', hd', rfl⟩)
  | serve hd =>
    -- a new daemon has empty buckets, and the attempts are counted anew
    intro ip
    exact ⟨[], .empty _, fun d' hd' => by cases hd'; rfl⟩
  | exit hd => exact quiet rfl (by simp) le_rfl (fun d' hd' => by cases hd')
  | detect hd | accept hd =>
    exact quiet rfl (by simp) le_rfl (fun d' hd' => by cases hd'; exact ⟨_, hd, rfl⟩)
  | pairRefused ht ha | pairAdmitted ht ha =>
    exact h.asked ht ha rfl (fun d' hd' => by cases hd'; rfl)
  | codeAbsent ht | codePresent ht | codeRead ht | codeUnread ht | codeAccepted ht | codeDenied ht
  | codeRemove ht | store ht | authRequest ht | commandRefused ht | commandRun ht | ping ht | sent ht
  | sendFailed ht | hangup ht =>
    exact quiet rfl (by simp) le_rfl
      (fun d' hd' => by cases hd'; exact ⟨_, (task_eq.mp ht).1, rfl⟩)

end Step

/-! ## Runs -/

/-- The request whose code is being checked: the task is in `validate_pairing_code`. -/
def validating : Phase → Option PairRequest
  | .codeExists request | .codeRead request | .codeCheck request _ _ | .codeRemove request _ =>
    some request
  | _ => none

/-- Request `n` of connection `c` is admitted by the limiter. -/
def AdmitsAttempt (P : Setup) (c : ConnId) (n : ℕ) (request : PairRequest) (s : Host) (a : Act) :
    Prop :=
  n = s.serials ∧ a = .pairRequest c request ∧
    ∃ e, s.attempt P a = some e ∧ e.admitted = true

/-- The admitted attempts of an address that are at most sixty seconds old. -/
def recentAdmissions (seen : List PairAttempt) (ip : IpAddr) (now : ℕ) : List PairAttempt :=
  seen.filter (fun e => e.admitted && e.ip == ip && decide (now - e.time ≤ PairRateLimiter.window))

/-- The admitted attempts of an address in the sixty seconds from `first` on. -/
def windowAdmissions (seen : List PairAttempt) (ip : IpAddr) (first : ℕ) : List PairAttempt :=
  seen.filter (fun e => e.admitted && e.ip == ip &&
    decide (first ≤ e.time ∧ e.time ≤ first + PairRateLimiter.window))

/-- The limit, for the run `actions` to `s`. -/
structure RateLimited (P : Setup) (actions : List Act) (s : Host) : Prop where
  times : (attempts P actions).Pairwise (fun e e' => e.time ≤ e'.time)
  /-- an attempt is admitted if and only if fewer than the maximum were in the last sixty seconds -/
  verdict : ∀ before e after, attempts P actions = before ++ e :: after →
    (e.admitted = true ↔
      (recentAdmissions before e.ip e.time).length < P.config.maxPairAttemptsPerMinute)
  /-- no sixty seconds hold more admissions of an address than the maximum -/
  window : ∀ ip first,
    (windowAdmissions (attempts P actions) ip first).length ≤ P.config.maxPairAttemptsPerMinute
  /-- the answers to an address are those its own attempts alone would get -/
  alone : ∀ ip, attemptsOf ip (attempts P actions) =
    SlidingWindow.replay PairRateLimiter.old P.config.maxPairAttemptsPerMinute
      ((attemptsOf ip (attempts P actions)).map SlidingWindow.Entry.time)
  /-- a code is only checked for an attempt that was admitted -/
  validates : ∀ c d k phase request, s.task c = some (d, k, phase) → validating phase = some request →
    Trans.At (step P) init actions (AdmitsAttempt P c k.serial request)

section Runs

variable {P : Setup} {s : Host} {actions : List Act}

/-- The admissions of an address, counted in its own log and in that of all attempts. -/
theorem admissions_length (seen : List PairAttempt) (ip : IpAddr) (p : ℕ → Bool) :
    ((SlidingWindow.admissions (attemptsOf ip seen)).filter p).length =
      (seen.filter (fun e => e.admitted && e.ip == ip && p e.time)).length := by
  induction seen with
  | nil => rfl
  | cons e seen ih =>
    unfold SlidingWindow.admissions attemptsOf at ih ⊢
    by_cases hip : e.ip = ip
    · cases hadmitted : e.admitted with
      | true =>
        cases hp : p e.time <;> simpa [hip, hadmitted, hp, PairAttempt.entry] using ih
      | false => simpa [hip, hadmitted, PairAttempt.entry] using ih
    · simpa [hip] using ih

/-- The attempts are in the order of their times, and none is to come. -/
structure Timely (s : Host) (seen : List PairAttempt) : Prop where
  inOrder : seen.Pairwise (fun e e' => e.time ≤ e'.time)
  past : ∀ e ∈ seen, e.time ≤ s.mono

/-- The clock never goes back. -/
theorem Timely.step {t : Host} {a : Act} {seen : List PairAttempt} (h : Timely s seen)
    (ht : Took P s a t) : Timely t (noteAttempt P seen s a) := by
  have hmono : s.mono ≤ t.mono := by
    cases ht with
    | clock hle => exact hle
    | _ => exact le_rfl
  have hnow : ∀ e, s.attempt P a = some e → e.time = s.mono := by
    intro e he
    unfold attempt at he
    split at he
    · split at he
      · split_ifs at he
        cases he
        rfl
      · cases he
    · cases he
  unfold noteAttempt
  split
  · exact ⟨.nil, by simp⟩
  · refine ⟨List.pairwise_append.mpr ⟨h.inOrder, ?_, fun e he e' he' => ?_⟩, fun e he => ?_⟩
    · cases s.attempt P a <;> simp
    · rw [hnow e' (Option.mem_toList.mp he')]
      exact h.past e he
    · rcases List.mem_append.mp he with he | he
      · exact (h.past e he).trans hmono
      · rw [hnow e (Option.mem_toList.mp he)]
        exact hmono

/-- An answer is by the last sixty seconds of the address. -/
theorem Keeps.verdict {before after : List PairAttempt} {e : PairAttempt}
    (h : Keeps P s (before ++ e :: after)) : e.admitted = true ↔
      (recentAdmissions before e.ip e.time).length < P.config.maxPairAttemptsPerMinute := by
  obtain ⟨bucket, htracks, -⟩ := h e.ip
  have hlog : attemptsOf e.ip (before ++ e :: after) =
      attemptsOf e.ip before ++ e.entry :: attemptsOf e.ip after := by simp [attemptsOf]
  have hcount : (SlidingWindow.recent PairRateLimiter.old (attemptsOf e.ip before) e.time).length =
      (recentAdmissions before e.ip e.time).length := by
    rw [SlidingWindow.recent, admissions_length, recentAdmissions]
    simp only [PairRateLimiter.old, ← decide_not, not_lt]
  have hadmitted : e.admitted =
      SlidingWindow.due PairRateLimiter.old P.config.maxPairAttemptsPerMinute
        (attemptsOf e.ip before) e.time := SlidingWindow.replay_due htracks.answers _ _ _ hlog
  rw [hadmitted, SlidingWindow.due, hcount, decide_eq_true_eq]

/-- Sixty seconds from any moment on. -/
theorem Keeps.window {seen : List PairAttempt} (h : Keeps P s seen) (ip : IpAddr) (first : ℕ) :
    (windowAdmissions seen ip first).length ≤ P.config.maxPairAttemptsPerMinute := by
  obtain ⟨bucket, htracks, -⟩ := h ip
  have hwindow := htracks.window (first + PairRateLimiter.window)
  rw [admissions_length] at hwindow
  have hsame : windowAdmissions seen ip first =
      seen.filter (fun e => e.admitted && e.ip == ip &&
        (decide (e.time ≤ first + PairRateLimiter.window) &&
          !PairRateLimiter.old e.time (first + PairRateLimiter.window))) := by
    unfold windowAdmissions
    refine List.filter_congr (fun e _ => ?_)
    congr 1
    rw [PairRateLimiter.old, ← decide_not, ← Bool.decide_and, decide_eq_decide]
    omega
  rw [hsame]
  exact hwindow

/-- A task that checks a code has been admitted by the limiter. -/
theorem admits_of_validating (hr : Trans.Runs (step P) Trans.Free init actions s) {c : ConnId} {d : Daemon}
    {k : Conn} {phase : Phase} {request : PairRequest} (ht : s.task c = some (d, k, phase))
    (hphase : validating phase = some request) :
    Trans.At (step P) init actions (AdmitsAttempt P c k.serial request) := by
  have hgate : GateInv s := hr.inv (fun _ _ _ h _ hs => h.step (took_of_step hs)) gateInv_init
  have hbacked := hgate.backed c k (conn_of_task ht)
  rw [(task_eq.mp ht).2.2] at hbacked
  have hlogged : .admitted c k.serial request ∈ s.log := by
    cases phase with
    | codeExists | codeRead | codeCheck =>
      cases hphase
      exact hbacked
    | codeRemove =>
      cases hphase
      exact hbacked.1
    | recv | store | reply => cases hphase
  refine (admits_of_mem hr hlogged).mono (fun before u a _ hadmits => ?_)
  obtain ⟨hn, rfl, hname, d', k', ht', hallow, -⟩ := hadmits
  refine ⟨hn, rfl, ⟨k'.peer.ip, u.mono, _⟩, ?_, hallow⟩
  simp [attempt, ht', hname]

/-- **The rate limit**: it holds of every run. -/
theorem rate_limited (P : Setup) {actions : List Act} {s : Host}
    (hr : Trans.Runs (step P) Trans.Free init actions s) : RateLimited P actions s := by
  have hkeeps : Keeps P s (attempts P actions) :=
    hr.recorded (fun _ _ _ _ h _ hs => h.step (took_of_step hs)) (keeps_init P)
  have htimes : Timely s (attempts P actions) :=
    hr.recorded (fun _ _ _ _ h _ hs => h.step (took_of_step hs)) ⟨.nil, by simp⟩
  refine { times := htimes.inOrder, verdict := fun before e after hsplit => ?_, window := hkeeps.window
           alone := fun ip => ?_, validates := fun c d k phase request => admits_of_validating hr }
  · rw [hsplit] at hkeeps
    exact hkeeps.verdict
  · obtain ⟨bucket, htracks, -⟩ := hkeeps ip
    exact htracks.answers.symm

/-- Two phones behind one address ask for pairing six times within a minute. -/
def hastyRun : List Act :=
  [.serve .null, .accept demoPeer, .accept ⟨demoPeer.ip, 40001⟩] ++
    (List.range 6).flatMap (fun i =>
      [.clock 0 (i * 1000000000), .pairRequest (i % 2) (demoPair "123456")] ++
        (if i < 5 then [.codeExists (i % 2)] else []) ++ [.send (i % 2) true]) ++
    [.clock 0 61000000000, .pairRequest 0 (demoPair "123456")]

theorem rate_limited_hasty : ∃ s, Trans.run (step demoSetup) init hastyRun = some s ∧
    (attempts demoSetup hastyRun).map PairAttempt.admitted =
      [true, true, true, true, true, false, true] ∧ RateLimited demoSetup hastyRun s :=
  ⟨_, rfl, by decide +kernel, rate_limited demoSetup (Trans.runs_free hastyRun rfl)⟩

end Runs

end Host

end Waypad
