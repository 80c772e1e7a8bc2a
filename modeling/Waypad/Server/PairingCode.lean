import Mathlib.Data.List.Count
import Waypad.Server.Host

/-!
# Waypad.Server.PairingCode — a pairing code is single use

`validate_pairing_code` reads the code file in one step and removes it in another, under no lock.

* `Phase.stake`: the code a task was given by its read, and how far it has come with it.
* `Gains`, `stake_step`: the only steps that give a task a stake or move it on.
* `SingleUse`: each code leads to at most one ok answer, not later than its `expires_at`.
* `doubleRun` breaks it: two tasks read the file before either removes it.
* `single_use`: it holds in every run that meets `OneAtATime`.
* `codeAccepted_in_time`: in every run, a code is accepted only up to its `expires_at`.
-/

namespace Waypad

/-! ## Stakes -/

/-- How far a task with the right code has come. -/
inductive Stage
  /-- the file is read and its hash is that of the presented code -/
  | read (file : PairingCodeFile)
  /-- `valid` was true and the file is still to be removed -/
  | checked
  /-- the file is removed, the ok answer not yet sent -/
  | removed
  deriving DecidableEq, Repr

/-- `valid` was true. -/
def Stage.passed : Stage → Bool
  | .read _ => false
  | _ => true

/-- The code a task in this phase may still have answered ok. -/
def Phase.stake (sha256Hex : String → String) : Phase → Option (ℕ × Stage)
  | .codeCheck request issue file =>
    if file.codeHash == sha256Hex request.pairingCode then some (issue, .read file) else none
  | .codeRemove _ issue => some (issue, .checked)
  | .store _ issue => some (issue, .removed)
  | .reply (.pair _ (some issue)) response => if response.isOk then some (issue, .removed) else none
  | _ => none

namespace Host

/-- The stake of connection `c`. -/
def stake (P : Setup) (s : Host) (c : ConnId) : Option (ℕ × Stage) :=
  (s.conn c).bind (fun k => k.phase.stake P.sha256Hex)

/-- Why a task has a stake that it had not before. -/
inductive Gains (P : Setup) (s : Host) : Act → ConnId → ℕ → Stage → Prop
  | read {c : ConnId} {request : PairRequest} {d : Daemon} {k : Conn} {issue : ℕ}
      {file : PairingCodeFile} (ht : s.task c = some (d, k, .codeRead request))
      (hf : s.codeFile = some (issue, file))
      (hm : file.codeHash = P.sha256Hex request.pairingCode) :
      Gains P s (.codeRead c (.ok ())) c issue (.read file)
  | check {c : ConnId} {issue : ℕ} {file : PairingCodeFile}
      (hs : s.stake P c = some (issue, .read file)) (hw : s.wall ≤ file.expiresAt) :
      Gains P s (.codeCheck c) c issue .checked
  | remove {c : ConnId} {request : PairRequest} {d : Daemon} {k : Conn} {issue : ℕ} {removed : Bool}
      (ht : s.task c = some (d, k, .codeRemove request issue)) :
      Gains P s (.codeRemove c removed) c issue .removed

section Stake

variable {P : Setup} {s t : Host} {a : Act} {c c' : ConnId} {d d' : Daemon} {k k' : Conn}
  {phase : Phase} {issue : ℕ} {stage : Stage}

theorem stake_of_task (ht : s.task c = some (d, k, phase)) :
    s.stake P c = phase.stake P.sha256Hex := by
  obtain ⟨hd, hk, rfl⟩ := task_eq.mp ht
  simp [stake, conn, hd, hk]

/-- A task that moved: the other tasks keep their stakes. -/
theorem gains_of_moved (ht : s.task c = some (d, k, phase)) (hd' : t.daemon = some d')
    (hc : d'.conns = Function.update d.conns c (some k'))
    (hk : ∀ stage, k'.phase.stake P.sha256Hex = some (issue, stage) →
      phase.stake P.sha256Hex = some (issue, stage) ∨ Gains P s a c issue stage)
    (h : t.stake P c' = some (issue, stage)) :
    s.stake P c' = some (issue, stage) ∨ Gains P s a c' issue stage := by
  by_cases hcc : c' = c
  · subst hcc
    rw [stake_of_task ht]
    apply hk stage
    simpa [stake, conn, hd', hc] using h
  · left
    obtain ⟨hd, -, -⟩ := task_eq.mp ht
    simpa [stake, conn, hd, hd', hc, Function.update_of_ne hcc] using h

/-- A task that ended. -/
theorem gains_of_dropped (ht : s.task c = some (d, k, phase))
    (h : (s.drop d c).stake P c' = some (issue, stage)) : s.stake P c' = some (issue, stage) := by
  by_cases hcc : c' = c
  · subst hcc
    simp [stake, conn] at h
  · obtain ⟨hd, -, -⟩ := task_eq.mp ht
    simpa [stake, conn, hd, Function.update_of_ne hcc] using h

/-- **A task has the stake it had before, or the step is the one that gives it.** -/
theorem stake_step (ht : Took P s a t) (h : t.stake P c = some (issue, stage)) :
    s.stake P c = some (issue, stage) ∨ Gains P s a c issue stage := by
  cases ht with
  | clock | pairCode | revokeLoad | revokeMiss | revokeSave => exact Or.inl h
  | serve hd => simp [stake, conn] at h
  | exit hd => simp [stake, conn] at h
  | detect hd => exact Or.inl (by simpa [stake, conn, hd] using h)
  | @accept d peer hd =>
    by_cases hcc : c = s.nextConn
    · subst hcc
      simp [stake, conn, Phase.stake] at h
    · exact Or.inl (by simpa [stake, conn, hd, Function.update_of_ne hcc] using h)
  | @codeRead c₀ request d k issue₀ file ht hf =>
    refine gains_of_moved ht rfl rfl (fun stage hst => Or.inr ?_) h
    simp only [Conn.goto, Phase.stake, beq_iff_eq, Option.ite_none_right_eq_some,
      Option.some.injEq, Prod.mk.injEq] at hst
    obtain ⟨hm, rfl, rfl⟩ := hst
    exact .read ht hf hm
  | @codeAccepted c₀ request d k issue₀ file ht hv =>
    refine gains_of_moved ht rfl rfl (fun stage hst => Or.inr ?_) h
    simp only [Conn.goto, Phase.stake, Option.some.injEq, Prod.mk.injEq] at hst
    obtain ⟨rfl, rfl⟩ := hst
    simp only [PairingCodeFile.valid, Bool.and_eq_true, decide_eq_true_eq] at hv
    exact .check (by rw [stake_of_task ht, Phase.stake, if_pos hv.2]) hv.1
  | codeRemove ht =>
    refine gains_of_moved ht rfl rfl (fun stage hst => Or.inr ?_) h
    simp only [Conn.goto, Phase.stake, Option.some.injEq, Prod.mk.injEq] at hst
    obtain ⟨rfl, rfl⟩ := hst
    exact .remove ht
  | store ht hh =>
    refine gains_of_moved ht rfl rfl (fun stage hst => Or.inl ?_) h
    simp only [Conn.goto, Phase.stake, Option.ite_none_right_eq_some] at hst
    exact hst.2
  | pairRefused ht | pairAdmitted ht | codeAbsent ht | codePresent ht | codeUnread ht
  | codeDenied ht | authRequest ht | commandRefused ht | commandRun ht | ping ht | sent ht =>
    exact gains_of_moved ht rfl rfl (fun stage hst => by
      simp [Conn.goto, Conn.start, Phase.stake] at hst) h
  | sendFailed ht => exact Or.inl (gains_of_dropped ht h)
  | hangup ht => exact Or.inl (gains_of_dropped ht h)

end Stake

/-! ## Spent codes -/

/-- The event answers a pairing with code `issue` ok. -/
def spends (issue : ℕ) : Event → Bool
  | .answered _ _ (.pair _ (some n)) true _ => n == issue
  | _ => false

/-- How often code `issue` was answered ok. -/
def spent (s : Host) (issue : ℕ) : ℕ := s.log.countP (spends issue)

/-- Each code is answered ok at most once, and only up to its `expires_at`. -/
def SingleUse (s : Host) : Prop :=
  ∀ issue, s.spent issue ≤ 1 ∧
    ∀ c n request time, .answered c n (.pair request (some issue)) true time ∈ s.log →
      ∃ file, s.codes[issue]? = some file ∧ time ≤ file.expiresAt

/-! ## The code that is used twice -/

/-- Two phones present the same code; the second read comes before the first removal. -/
def doubleRun : List Act :=
  [.serve .null, .pairCode "123456" 300 .ok, .accept demoPeer, .accept demoPeer,
    .pairRequest 0 (demoPair "123456"), .pairRequest 1 (demoPair "123456"),
    .codeExists 0, .codeExists 1, .codeRead 0 (.ok ()), .codeRead 1 (.ok ()),
    .codeCheck 0, .codeRemove 0 true, .codeCheck 1, .codeRemove 1 false,
    .store 0 (.ok "token0") "dev0" .ok "", .send 0 true,
    .store 1 (.ok "token1") "dev1" .ok "", .send 1 true]

theorem doubleRun_breaks : ∃ s, Trans.run (step demoSetup) init doubleRun = some s ∧
    ¬ SingleUse s := by
  refine ⟨_, rfl, ?_⟩
  intro h
  have htwice := (h 0).1
  revert htwice
  decide

/-! ## When a code is single use -/

/-- The condition on a step.  A task reads the file of its code only while no other task with that code
stands between its read and its removal; the removal fails only when the file is another code's or gone;
and the clock does not pass `expires_at` between the check of a code and its answer. -/
def OneAtATime (P : Setup) (s : Host) : Act → Prop
  | .codeRead c (.ok ()) => ∀ d k request issue file, s.task c = some (d, k, .codeRead request) →
      s.codeFile = some (issue, file) → file.codeHash = P.sha256Hex request.pairingCode →
      ∀ c' stage, s.stake P c' = some (issue, stage) → stage = .removed
  | .codeRemove c false => ∀ d k request issue, s.task c = some (d, k, .codeRemove request issue) →
      ∀ file, s.codeFile ≠ some (issue, file)
  | .clock wall _ => ∀ c issue stage file, s.stake P c = some (issue, stage) →
      stage.passed = true → s.codes[issue]? = some file → wall ≤ file.expiresAt
  | _ => True

/-- What is in the file, or was read from it, is what was written with that code. -/
structure Known (P : Setup) (s : Host) : Prop where
  file : ∀ issue f, s.codeFile = some (issue, f) → s.codes[issue]? = some f
  read : ∀ c issue f, s.stake P c = some (issue, .read f) → s.codes[issue]? = some f

/-- The invariant of such runs: a code whose file is there or that a task has in hand is unspent, and
at most one task has it in hand. -/
structure CodeInv (P : Setup) (s : Host) : Prop where
  known : Known P s
  issued : ∀ c issue stage, s.stake P c = some (issue, stage) → issue < s.codes.length
  one : ∀ c c' issue stage stage', s.stake P c = some (issue, stage) →
    s.stake P c' = some (issue, stage') → c = c'
  unspent : ∀ c issue stage, s.stake P c = some (issue, stage) → s.spent issue = 0
  fresh : ∀ issue f, s.codeFile = some (issue, f) →
    s.spent issue = 0 ∧ ∀ c, s.stake P c ≠ some (issue, .removed)
  intime : ∀ c issue stage f, s.stake P c = some (issue, stage) → stage.passed = true →
    s.codes[issue]? = some f → s.wall ≤ f.expiresAt
  single : SingleUse s

theorem known_init (P : Setup) : Known P init := by
  constructor <;> simp [init, stake, conn]

theorem codeInv_init (P : Setup) : CodeInv P init := by
  refine ⟨known_init P, ?_, ?_, ?_, ?_, ?_, ?_⟩ <;> simp [init, stake, conn, SingleUse, spent]

section Inv

variable {P : Setup} {s t : Host} {a : Act}

/-- The file is removed by a removal that succeeds, and written with each new code. -/
theorem Took.files (ht : Took P s a t) :
    (t.codes = s.codes ∧ (t.codeFile = s.codeFile ∨ t.codeFile = none)) ∨
      ∃ file, t.codes = s.codes ++ [file] ∧
        (t.codeFile = s.codeFile ∨ t.codeFile = some (s.codes.length, file)) := by
  cases ht with
  | @pairCode code ttl save =>
    refine Or.inr ⟨_, rfl, ?_⟩
    cases save with
    | failedBefore => exact Or.inl rfl
    | ok | failedAfter => exact Or.inr rfl
  | @codeRemove _ _ _ _ _ removed =>
    cases removed with
    | true => exact Or.inl ⟨rfl, Or.inr rfl⟩
    | false => exact Or.inl ⟨rfl, Or.inl rfl⟩
  | _ => exact Or.inl ⟨rfl, Or.inl rfl⟩

/-- A code already issued keeps its file's content. -/
theorem Took.codes_get {issue : ℕ} {f : PairingCodeFile} (ht : Took P s a t)
    (h : s.codes[issue]? = some f) : t.codes[issue]? = some f := by
  rcases ht.files with ⟨hc, -⟩ | ⟨file, hc, -⟩
  · rw [hc]
    exact h
  · rw [hc, List.getElem?_append_left (List.getElem?_eq_some_iff.mp h).1]
    exact h

/-- An issued code still in the file was there before the step. -/
theorem Took.codeFile_old {issue : ℕ} {f : PairingCodeFile} (ht : Took P s a t)
    (hi : issue < s.codes.length) (h : t.codeFile = some (issue, f)) :
    s.codeFile = some (issue, f) := by
  rcases ht.files with ⟨-, hf | hf⟩ | ⟨file, -, hf | hf⟩
  · rw [← hf]
    exact h
  · simp [hf] at h
  · rw [← hf]
    exact h
  · simp only [hf, Option.some.injEq, Prod.mk.injEq] at h
    omega

theorem Took.wall (ht : Took P s a t) :
    t.wall = s.wall ∨ ∃ wall mono, a = .clock wall mono ∧ t.wall = wall := by
  cases ht with
  | @clock wall mono => exact Or.inr ⟨wall, mono, rfl, rfl⟩
  | _ => exact Or.inl rfl

theorem spent_pos {issue : ℕ} (h : 0 < s.spent issue) :
    ∃ c n request time, .answered c n (.pair request (some issue)) true time ∈ s.log := by
  obtain ⟨e, he, hsp⟩ := List.countP_pos_iff.mp h
  unfold spends at hsp
  split at hsp
  · next c n request i time =>
    obtain rfl : i = issue := by simpa using hsp
    exact ⟨c, n, request, time, he⟩
  · cases hsp

/-- The task that answers a pairing ok gives up its stake. -/
theorem Took.spent {issue : ℕ} (ht : Took P s a t) :
    t.spent issue = s.spent issue ∨
      ∃ c, s.stake P c = some (issue, .removed) ∧ t.stake P c = none ∧
        t.spent issue = s.spent issue + 1 := by
  rcases ht.log with hl | ⟨e, hl, hj⟩
  · exact Or.inl (by rw [Host.spent, hl, Host.spent])
  · have hcount : t.spent issue = s.spent issue + if spends issue e then 1 else 0 := by
      simp [Host.spent, hl, List.countP_append, List.countP_cons]
    by_cases hsp : spends issue e = true
    · rw [if_pos hsp] at hcount
      unfold spends at hsp
      split at hsp
      · next c n request i time =>
        obtain rfl : i = issue := by simpa using hsp
        obtain ⟨-, rfl, d, k, response, htask, -, hok⟩ := hj
        refine Or.inr ⟨c, by simp [stake_of_task htask, Phase.stake, ← hok], ?_, hcount⟩
        cases ht with
        | sent _ => simp [stake, conn, Conn.goto, Phase.stake]
      · cases hsp
    · rw [if_neg hsp] at hcount
      exact Or.inl hcount

namespace Known

theorem file_step (h : Known P s) (ht : Took P s a t) :
    ∀ issue f, t.codeFile = some (issue, f) → t.codes[issue]? = some f := by
  intro issue f hf
  rcases ht.files with ⟨hc, hcf | hcf⟩ | ⟨file, hc, hcf | hcf⟩
  · rw [hc]
    exact h.file issue f (hcf ▸ hf)
  · simp [hcf] at hf
  · exact ht.codes_get (h.file issue f (hcf ▸ hf))
  · simp only [hcf, Option.some.injEq, Prod.mk.injEq] at hf
    obtain ⟨rfl, rfl⟩ := hf
    simp [hc]

theorem read_step (h : Known P s) (ht : Took P s a t) :
    ∀ c issue f, t.stake P c = some (issue, .read f) → t.codes[issue]? = some f := by
  intro c issue f hst
  rcases stake_step ht hst with hold | hgain
  · exact ht.codes_get (h.read c issue f hold)
  · cases hgain with
    | read _ hf _ => exact ht.codes_get (h.file issue f hf)

theorem step (h : Known P s) (ht : Took P s a t) : Known P t := ⟨h.file_step ht, h.read_step ht⟩

end Known

namespace CodeInv

variable {c c' : ConnId} {issue : ℕ} {stage : Stage}

/-- A code not issued yet is unspent. -/
theorem spent_new (h : CodeInv P s) (hi : s.codes.length ≤ issue) : s.spent issue = 0 := by
  by_contra hne
  obtain ⟨c, n, request, time, he⟩ := spent_pos (Nat.pos_of_ne_zero hne)
  obtain ⟨f, hf, -⟩ := (h.single issue).2 c n request time he
  have := (List.getElem?_eq_some_iff.mp hf).1
  omega

/-- A task in hand of a code had it before, or has just read it, and then no task had it. -/
theorem origin (h : CodeInv P s) (hok : OneAtATime P s a) (ht : Took P s a t)
    (hst : t.stake P c = some (issue, stage)) :
    (∃ stage', s.stake P c = some (issue, stage')) ∨
      (∃ f, a = .codeRead c (.ok ()) ∧ s.codeFile = some (issue, f) ∧ stage = .read f) ∧
        ∀ c' stage', s.stake P c' ≠ some (issue, stage') := by
  rcases stake_step ht hst with hold | hgain
  · exact Or.inl ⟨_, hold⟩
  · cases hgain with
    | @read _ request d k _ f htask hf hm =>
      refine Or.inr ⟨⟨f, rfl, hf, rfl⟩, ?_⟩
      intro c' stage' hst'
      have hrem := hok d k request issue f htask hf hm c' stage' hst'
      exact (h.fresh issue f hf).2 c' (hrem ▸ hst')
    | check hs _ => exact Or.inl ⟨_, hs⟩
    | remove htask => exact Or.inl ⟨_, stake_of_task htask⟩

theorem issued_step (h : CodeInv P s) (hok : OneAtATime P s a) (ht : Took P s a t) :
    ∀ c issue stage, t.stake P c = some (issue, stage) → issue < t.codes.length := by
  intro c issue stage hst
  have hs : ∃ f, s.codes[issue]? = some f := by
    rcases h.origin hok ht hst with ⟨stage', hold⟩ | ⟨⟨f, -, hf, -⟩, -⟩
    · exact ⟨_, List.getElem?_eq_getElem (h.issued c issue stage' hold)⟩
    · exact ⟨f, h.known.file issue f hf⟩
  obtain ⟨f, hf⟩ := hs
  exact (List.getElem?_eq_some_iff.mp (ht.codes_get hf)).1

theorem one_step (h : CodeInv P s) (hok : OneAtATime P s a) (ht : Took P s a t) :
    ∀ c c' issue stage stage', t.stake P c = some (issue, stage) →
      t.stake P c' = some (issue, stage') → c = c' := by
  intro c c' issue stage stage' hst hst'
  rcases h.origin hok ht hst with ⟨st, hold⟩ | ⟨⟨f, rfl, -⟩, hnone⟩ <;>
    rcases h.origin hok ht hst' with ⟨st', hold'⟩ | ⟨⟨f', ha, -⟩, hnone'⟩
  · exact h.one c c' issue st st' hold hold'
  · exact absurd hold (hnone' c st)
  · exact absurd hold' (hnone c' st')
  · cases ha
    rfl

theorem unspent_step (h : CodeInv P s) (hok : OneAtATime P s a) (ht : Took P s a t) :
    ∀ c issue stage, t.stake P c = some (issue, stage) → t.spent issue = 0 := by
  intro c issue stage hst
  have hzero : s.spent issue = 0 := by
    rcases h.origin hok ht hst with ⟨stage', hold⟩ | ⟨⟨f, -, hf, -⟩, -⟩
    · exact h.unspent c issue stage' hold
    · exact (h.fresh issue f hf).1
  rcases ht.spent with hsp | ⟨c₀, hst₀, hgone, -⟩
  · rw [hsp, hzero]
  · -- the task that answered was the only one with the code, and it has no stake left
    rcases h.origin hok ht hst with ⟨stage', hold⟩ | ⟨-, hnone⟩
    · obtain rfl := h.one c c₀ issue stage' _ hold hst₀
      simp [hst] at hgone
    · exact absurd hst₀ (hnone c₀ _)

theorem fresh_step (h : CodeInv P s) (hok : OneAtATime P s a) (ht : Took P s a t) :
    ∀ issue f, t.codeFile = some (issue, f) →
      t.spent issue = 0 ∧ ∀ c, t.stake P c ≠ some (issue, .removed) := by
  intro issue f hf
  by_cases hi : issue < s.codes.length
  · have hf' := ht.codeFile_old hi hf
    obtain ⟨hzero, hnone⟩ := h.fresh issue f hf'
    refine ⟨?_, fun c hst => ?_⟩
    · rcases ht.spent with hsp | ⟨c₀, hst₀, -⟩
      · rw [hsp, hzero]
      · exact absurd hst₀ (hnone c₀)
    · rcases stake_step ht hst with hold | hgain
      · exact hnone c hold
      · cases hgain with
        | @remove _ request d k _ removed htask =>
          cases removed with
          | true =>
            cases ht with
            | codeRemove _ => simp at hf
          | false => exact hok d k request issue htask f hf'
  · have hzero := h.spent_new (Nat.le_of_not_lt hi)
    have hnew : ∀ c stage, s.stake P c ≠ some (issue, stage) :=
      fun c stage hst => hi (h.issued c issue stage hst)
    refine ⟨?_, fun c hst => ?_⟩
    · rcases ht.spent with hsp | ⟨c₀, hst₀, -⟩
      · rw [hsp, hzero]
      · exact absurd hst₀ (hnew c₀ _)
    · rcases h.origin hok ht hst with ⟨stage', hold⟩ | ⟨⟨f', -, -, hstage⟩, -⟩
      · exact hnew c stage' hold
      · cases hstage

theorem intime_step (h : CodeInv P s) (hok : OneAtATime P s a) (ht : Took P s a t) :
    ∀ c issue stage f, t.stake P c = some (issue, stage) → stage.passed = true →
      t.codes[issue]? = some f → t.wall ≤ f.expiresAt := by
  intro c issue stage f hst hpass hf
  -- the code's file is the one issued with it
  have same : ∀ f', s.codes[issue]? = some f' → f' = f := fun f' hf' => by
    simpa [hf] using (ht.codes_get hf').symm
  have issued : ∀ {stage'}, s.stake P c = some (issue, stage') → s.codes[issue]? = some f :=
    fun hst' => by
      have hget := List.getElem?_eq_getElem (h.issued c issue _ hst')
      rw [hget, same _ hget]
  rcases stake_step ht hst with hold | hgain
  · rcases ht.wall with hw | ⟨wall, mono, rfl, hw⟩
    · rw [hw]
      exact h.intime c issue stage f hold hpass (issued hold)
    · rw [hw]
      exact hok c issue stage f hold hpass (issued hold)
  · have hw : t.wall = s.wall := by
      rcases ht.wall with hw | ⟨wall, mono, rfl, -⟩
      · exact hw
      · cases hgain
    rw [hw]
    cases hgain with
    | read => cases hpass
    | check hs hle => exact same _ (h.known.read c issue _ hs) ▸ hle
    | remove htask =>
      have hs := stake_of_task (P := P) htask
      exact h.intime c issue .checked f hs rfl (issued hs)

theorem single_step (h : CodeInv P s) (ht : Took P s a t) : SingleUse t := by
  intro issue
  refine ⟨?_, fun c n request time he => ?_⟩
  · rcases ht.spent with hsp | ⟨c, hst, -, hsp⟩
    · rw [hsp]
      exact (h.single issue).1
    · rw [hsp, h.unspent c issue _ hst]
  · have old : .answered c n (.pair request (some issue)) true time ∈ s.log →
        ∃ file, t.codes[issue]? = some file ∧ time ≤ file.expiresAt := fun hs =>
      let ⟨f, hf, hle⟩ := (h.single issue).2 c n request time hs
      ⟨f, ht.codes_get hf, hle⟩
    rcases ht.log with hl | ⟨e, hl, hj⟩
    · exact old (hl ▸ he)
    · rw [hl, List.mem_append, List.mem_singleton] at he
      rcases he with hs | rfl
      · exact old hs
      · obtain ⟨rfl, -, d, k, response, htask, -, hok⟩ := hj
        have hst : s.stake P c = some (issue, .removed) := by
          simp [stake_of_task htask, Phase.stake, ← hok]
        have hget := List.getElem?_eq_getElem (h.issued c issue _ hst)
        exact ⟨_, ht.codes_get hget, h.intime c issue _ _ hst rfl hget⟩

theorem step (h : CodeInv P s) (hok : OneAtATime P s a) (ht : Took P s a t) : CodeInv P t :=
  ⟨h.known.step ht, h.issued_step hok ht, h.one_step hok ht, h.unspent_step hok ht,
    h.fresh_step hok ht, h.intime_step hok ht, h.single_step ht⟩

end CodeInv

end Inv

/-- **Single use**: in every run that meets `OneAtATime`, a code leads to at most one ok answer, not
later than its `expires_at`. -/
theorem single_use (P : Setup) {as : List Act} {s : Host}
    (hr : Trans.Runs (step P) (OneAtATime P) init as s) : SingleUse s :=
  (hr.inv (fun _ _ _ h hok hs => CodeInv.step h hok (took_of_step hs)) (codeInv_init P)).single

/-- A phone pairs; a second one presents the same code and finds the file gone. -/
def onceRun : List Act :=
  [.serve .null, .pairCode "123456" 300 .ok, .accept demoPeer, .accept demoPeer,
    .pairRequest 0 (demoPair "123456"), .pairRequest 1 (demoPair "123456"),
    .codeExists 0, .codeRead 0 (.ok ()), .codeCheck 0, .codeRemove 0 true, .codeExists 1,
    .store 0 (.ok "token0") "dev0" .ok "", .send 0 true, .send 1 true]

theorem single_use_once : ∃ s, Trans.run (step demoSetup) init onceRun = some s ∧
    s.spent 0 = 1 ∧ SingleUse s := by
  have hmeets : Trans.Meets (step demoSetup) (OneAtATime demoSetup) init onceRun := ?_
  · exact ⟨_, rfl, by decide, single_use demoSetup (Trans.runs_of_run onceRun rfl hmeets)⟩
  refine ⟨trivial, trivial, trivial, trivial, trivial, trivial, trivial, ?_, trivial, trivial,
    trivial, trivial, trivial, trivial, trivial⟩
  -- at the one read of the file no task has a stake
  rintro d k request issue file - - - c' stage hst
  match c' with
  | 0 => cases hst
  | 1 => cases hst
  | n + 2 => cases hst

/-- In every run, a code is accepted only up to its `expires_at`. -/
theorem codeAccepted_in_time (P : Setup) {as : List Act} {s : Host} {c : ConnId}
    {request : PairRequest} {n issue time : ℕ}
    (hr : Trans.Runs (step P) Trans.Free init as s)
    (he : .codeAccepted c n request issue time ∈ s.log) :
    ∃ file, s.codes[issue]? = some file ∧ time ≤ file.expiresAt := by
  let I (s : Host) : Prop := Known P s ∧ (.codeAccepted c n request issue time ∈ s.log →
    ∃ file, s.codes[issue]? = some file ∧ time ≤ file.expiresAt)
  have hstep : ∀ s a t, I s → Trans.Free s a → step P s a = some t → I t := by
    rintro s a t ⟨hk, hold⟩ - hs
    have ht := took_of_step hs
    refine ⟨hk.step ht, ?_⟩
    intro he
    have old : .codeAccepted c n request issue time ∈ s.log →
        ∃ file, t.codes[issue]? = some file ∧ time ≤ file.expiresAt := fun he =>
      let ⟨f, hf, hle⟩ := hold he
      ⟨f, ht.codes_get hf, hle⟩
    rcases ht.log with hl | ⟨e, hl, hj⟩
    · exact old (hl ▸ he)
    · rw [hl, List.mem_append, List.mem_singleton] at he
      rcases he with he | rfl
      · exact old he
      · obtain ⟨rfl, -, d, k, f, htask, -, hv⟩ := hj
        simp only [PairingCodeFile.valid, Bool.and_eq_true, decide_eq_true_eq] at hv
        have hst : s.stake P c = some (issue, .read f) := by
          rw [stake_of_task htask, Phase.stake, if_pos hv.2]
        exact ⟨f, ht.codes_get (hk.read c issue f hst), hv.1⟩
  exact (hr.inv hstep ⟨known_init P, by simp [init]⟩).2 he

end Host

end Waypad
