import Waypad.Lib.Files
import Waypad.Lib.Trans
import Waypad.State

/-!
# Waypad.Server.StoreFile — two saves of `trusted_devices.json` and its readers (`src/state.rs`)

`write_private_json` writes `trusted_devices.tmp` and renames it.  The daemon and `devices revoke` give
the temporary file the same name.

* `SharedStore`: the directory, the two calls and any number of `load_trusted_devices`, each of which
  takes one file operation at a time; `step`.
* `Loads`: a load returns the store before both calls or one of the two that are saved.
* `Apart`: no call truncates the temporary file while the other is between its truncation and its rename.
* `StoreInv`, `loads_whole`: then every load does so.  `truncated_loaded`: else it may fail.

Permission bits are left out; the calls that set them look their file up.
-/

namespace Waypad

/-- The callers of `save_trusted_devices`. -/
inductive Writer
  | daemon | revoke
  deriving DecidableEq, Repr

/-- `trusted_devices.tmp` and `trusted_devices.json`. -/
inductive StoreName
  | tmp | target
  deriving DecidableEq, Repr

/-- Where a call of `write_private_json` is. -/
inductive WriterPhase
  /-- before `fs::write` -/
  | create
  /-- in `fs::write`, which has the inode open and has written `off` bytes -/
  | write (ino off : ℕ)
  /-- before `set_private_file_permissions(&tmp)` -/
  | chmodTmp
  /-- before `fs::rename` -/
  | rename
  /-- before `set_private_file_permissions(path)` -/
  | chmod
  | returned (ok : Bool)
  deriving DecidableEq, Repr

inductive LoadError
  | notFound | json
  deriving DecidableEq, Repr

/-- Where a call of `load_trusted_devices` is. -/
inductive ReaderPhase
  /-- before `paths.trusted_devices.exists()` -/
  | probe
  /-- before the `open` of `fs::read_to_string` -/
  | opening
  /-- in `fs::read_to_string`, which has the inode open and has read `raw` -/
  | reading (ino : ℕ) (raw : List UInt8)
  | returned (result : Except LoadError TrustedDevices)
  deriving DecidableEq

/-- The values the two calls are given, and `serde_json`. -/
structure StoreSetup where
  value : Writer → TrustedDevices
  /-- `to_vec_pretty(value)` and the newline -/
  render : TrustedDevices → List UInt8
  /-- what `from_str` makes of the bytes, if they are UTF-8 -/
  parse : List UInt8 → Option TrustedDevices

structure SharedStore where
  files : Files StoreName
  writers : Writer → WriterPhase
  readers : ℕ → ReaderPhase

inductive StoreAct
  | create (w : Writer)
  /-- a `write` takes `n` bytes -/
  | write (w : Writer) (n : ℕ)
  | close (w : Writer)
  | chmodTmp (w : Writer)
  | rename (w : Writer)
  | chmod (w : Writer)
  /-- the operation the call is in fails -/
  | fail (w : Writer)
  | probe (r : ℕ)
  | openRead (r : ℕ)
  /-- a `read` asks for `n` bytes -/
  | read (r n : ℕ)
  deriving DecidableEq, Repr

namespace Writer

def other : Writer → Writer
  | daemon => revoke
  | revoke => daemon

end Writer

namespace WriterPhase

/-- Between the truncation of the temporary file and its `rename`. -/
def inside : WriterPhase → Bool
  | write _ _ | chmodTmp | rename => true
  | create | chmod | returned _ => false

end WriterPhase

/-- What the file has for call `w`. -/
def StoreSetup.text (P : StoreSetup) (w : Writer) : List UInt8 := P.render (P.value w)

namespace SharedStore

/-- Before the two calls and the loads. -/
def start (files : Files StoreName) : SharedStore :=
  { files, writers := fun _ => .create, readers := fun _ => .probe }

def goto (s : SharedStore) (w : Writer) (phase : WriterPhase) : SharedStore :=
  { s with writers := Function.update s.writers w phase }

def reader (s : SharedStore) (r : ℕ) (phase : ReaderPhase) : SharedStore :=
  { s with readers := Function.update s.readers r phase }

/-- `File::create(&tmp)`. -/
def stepCreate (s : SharedStore) (w : Writer) : Option SharedStore :=
  match s.writers w with
  | .create =>
    let (files, ino) := s.files.openTrunc .tmp
    some ({ s with files }.goto w (.write ino 0))
  | _ => none

/-- One `write` of `write_all`. -/
def stepWrite (P : StoreSetup) (s : SharedStore) (w : Writer) (n : ℕ) : Option SharedStore :=
  match s.writers w with
  | .write ino off =>
    if 0 < n ∧ off + n ≤ (P.text w).length then
      some ({ s with files := s.files.write ino off (((P.text w).drop off).take n) }.goto w
        (.write ino (off + n)))
    else none
  | _ => none

/-- `write_all` returns and the file is closed. -/
def stepClose (P : StoreSetup) (s : SharedStore) (w : Writer) : Option SharedStore :=
  match s.writers w with
  | .write _ off => if off = (P.text w).length then some (s.goto w .chmodTmp) else none
  | _ => none

/-- `set_private_file_permissions(&tmp)?`. -/
def stepChmodTmp (s : SharedStore) (w : Writer) : Option SharedStore :=
  match s.writers w with
  | .chmodTmp =>
    some (s.goto w (if (s.files.names .tmp).isSome then .rename else .returned false))
  | _ => none

/-- `fs::rename(tmp, path)?`. -/
def stepRename (s : SharedStore) (w : Writer) : Option SharedStore :=
  match s.writers w with
  | .rename =>
    match s.files.rename .tmp .target with
    | some files => some ({ s with files }.goto w .chmod)
    | none => some (s.goto w (.returned false))
  | _ => none

/-- `set_private_file_permissions(path)?`. -/
def stepChmod (s : SharedStore) (w : Writer) : Option SharedStore :=
  match s.writers w with
  | .chmod => some (s.goto w (.returned (s.files.names .target).isSome))
  | _ => none

def stepFail (s : SharedStore) (w : Writer) : Option SharedStore :=
  match s.writers w with
  | .returned _ => none
  | _ => some (s.goto w (.returned false))

/-- `if !paths.trusted_devices.exists() { return Ok(TrustedDevices::default()); }`. -/
def stepProbe (s : SharedStore) (r : ℕ) : Option SharedStore :=
  match s.readers r with
  | .probe =>
    some (s.reader r (if (s.files.names .target).isSome then .opening else .returned (.ok .empty)))
  | _ => none

def stepOpenRead (s : SharedStore) (r : ℕ) : Option SharedStore :=
  match s.readers r with
  | .opening =>
    match s.files.names .target with
    | some ino => some (s.reader r (.reading ino []))
    | none => some (s.reader r (.returned (.error .notFound)))
  | _ => none

/-- What a load returns of the bytes it has read. -/
def parsed (P : StoreSetup) (raw : List UInt8) : Except LoadError TrustedDevices :=
  match P.parse raw with
  | some devices => .ok devices
  | none => .error .json

/-- One `read` of `read_to_string`; when there is nothing more to read the load returns. -/
def stepRead (P : StoreSetup) (s : SharedStore) (r n : ℕ) : Option SharedStore :=
  match s.readers r with
  | .reading ino raw =>
    if 0 < n then
      let part := ((s.files.bytes ino).drop raw.length).take n
      if part = [] then some (s.reader r (.returned (parsed P raw)))
      else some (s.reader r (.reading ino (raw ++ part)))
    else none
  | _ => none

def step (P : StoreSetup) (s : SharedStore) : StoreAct → Option SharedStore
  | .create w => s.stepCreate w
  | .write w n => s.stepWrite P w n
  | .close w => s.stepClose P w
  | .chmodTmp w => s.stepChmodTmp w
  | .rename w => s.stepRename w
  | .chmod w => s.stepChmod w
  | .fail w => s.stepFail w
  | .probe r => s.stepProbe r
  | .openRead r => s.stepOpenRead r
  | .read r n => s.stepRead P r n

/-! ## What is asked of it -/

/-- The store before both calls, or one of the two that are saved. -/
def Saved (P : StoreSetup) (before devices : TrustedDevices) : Prop :=
  devices = before ∨ ∃ w, devices = P.value w

/-- The bytes are those of such a store. -/
def Whole (P : StoreSetup) (before : TrustedDevices) (bytes : List UInt8) : Prop :=
  ∃ devices, P.parse bytes = some devices ∧ Saved P before devices

/-- No load fails, and every one returns such a store. -/
def Loads (P : StoreSetup) (before : TrustedDevices) (s : SharedStore) : Prop :=
  ∀ r result, s.readers r = .returned result → ∃ devices, result = .ok devices ∧ Saved P before devices

/-- What `load_trusted_devices` returns before both calls. -/
def Holds (P : StoreSetup) (before : TrustedDevices) (files : Files StoreName) : Prop :=
  match files.names .target with
  | some ino => P.parse (files.bytes ino) = some before
  | none => before = .empty

/-- What is assumed of `serde_json`: it reads back the two values. -/
def RoundTrips (P : StoreSetup) : Prop :=
  ∀ w, P.parse (P.text w) = some (P.value w)

/-- A call truncates the temporary file only while the other has not truncated it to rename it. -/
def Apart (s : SharedStore) : StoreAct → Prop
  | .create w => (s.writers w.other).inside = false
  | _ => True

instance (s : SharedStore) (a : StoreAct) : Decidable (Apart s a) :=
  match a with
  | .create w => inferInstanceAs (Decidable ((s.writers w.other).inside = false))
  | .write _ _ | .close _ | .chmodTmp _ | .rename _ | .chmod _ | .fail _ | .probe _ | .openRead _
  | .read _ _ => .isTrue trivial

/-! ## The invariant -/

/-- The file under the target is whole. -/
def TargetWhole (P : StoreSetup) (before : TrustedDevices) (files : Files StoreName) : Prop :=
  match files.names .target with
  | some ino => Whole P before (files.bytes ino)
  | none => before = .empty

/-- The temporary file is what the call has written of it. -/
def TmpOf (P : StoreSetup) (files : Files StoreName) (w : Writer) : WriterPhase → Prop
  | .write ino off => files.names .tmp = some ino ∧ off ≤ (P.text w).length ∧
      files.bytes ino = (P.text w).take off
  | .chmodTmp | .rename => ∃ ino, files.names .tmp = some ino ∧ files.bytes ino = P.text w
  | _ => True

/-- What a load has read stands in an inode that no call will write to. -/
def ReadOf (P : StoreSetup) (before : TrustedDevices) (files : Files StoreName) : ReaderPhase → Prop
  | .probe => True
  | .opening => (files.names .target).isSome
  | .reading ino raw => ino < files.fresh ∧ files.names .tmp ≠ some ino ∧
      Whole P before (files.bytes ino) ∧ raw <+: files.bytes ino
  | .returned result => ∃ devices, result = .ok devices ∧ Saved P before devices

structure StoreInv (P : StoreSetup) (before : TrustedDevices) (s : SharedStore) : Prop where
  wellFormed : s.files.WellFormed
  target : TargetWhole P before s.files
  apart : ∀ w, (s.writers w).inside → (s.writers w.other).inside = false
  writers : ∀ w, TmpOf P s.files w (s.writers w)
  readers : ∀ r, ReadOf P before s.files (s.readers r)

section Inv

variable {P : StoreSetup} {before : TrustedDevices} {s t : SharedStore} {w : Writer} {r : ℕ}
  {files files' : Files StoreName} {phase : WriterPhase}

theorem other_ne (w : Writer) : w.other ≠ w := by
  cases w <;> decide

theorem eq_other {w w' : Writer} (h : w' ≠ w) : w' = w.other := by
  cases w <;> cases w' <;> first | rfl | exact absurd rfl h

theorem other_other (w : Writer) : w.other.other = w := by
  cases w <;> rfl

theorem holds_some {ino : ℕ} (hname : files.names .target = some ino)
    (hparse : P.parse (files.bytes ino) = some before) : Holds P before files := by
  rw [Holds, hname]
  exact hparse

theorem storeInv_start (hwf : files.WellFormed) (hholds : Holds P before files) :
    StoreInv P before (start files) := by
  refine ⟨hwf, ?_, ?_, fun _ => trivial, fun _ => trivial⟩
  · unfold Holds at hholds
    show TargetWhole P before files
    unfold TargetWhole
    split at hholds
    · exact ⟨before, hholds, Or.inl rfl⟩
    · exact hholds
  · intro w h
    cases h

/-- A call that is not inside does not care for the files. -/
theorem tmpOf_outside (h : phase.inside = false) : TmpOf P files w phase := by
  cases phase with
  | create | chmod | returned => trivial
  | write | chmodTmp | rename => cases h

/-- A load goes on with what it has, whatever happens to the temporary file. -/
theorem ReadOf.kept {phase : ReaderPhase} (h : ReadOf P before files phase)
    (hkept : Files.Kept .tmp files files')
    (htarget : (files.names .target).isSome → (files'.names .target).isSome) :
    ReadOf P before files' phase := by
  cases phase with
  | probe => trivial
  | opening => exact htarget h
  | reading ino raw =>
    obtain ⟨hold, htmp, hwhole, hread⟩ := h
    refine ⟨Nat.lt_of_lt_of_le hold hkept.fresh, hkept.names ino hold htmp, ?_, ?_⟩
    · rw [hkept.bytes ino hold htmp]
      exact hwhole
    · rw [hkept.bytes ino hold htmp]
      exact hread
  | returned result => exact h

/-- The inode under the target is not that of the temporary file. -/
theorem target_ne_tmp (hwf : files.WellFormed) {ino : ℕ} (h : files.names .target = some ino) :
    files.names .tmp ≠ some ino := by
  intro htmp
  cases hwf.inj _ _ _ h htmp

/-- The target stands when only the temporary file is touched. -/
theorem TargetWhole.kept (h : TargetWhole P before files) (hwf : files.WellFormed)
    (hkept : Files.Kept .tmp files files') (hname : files'.names .target = files.names .target) :
    TargetWhole P before files' := by
  unfold TargetWhole at h ⊢
  rw [hname]
  split at h
  · next ino hino =>
    rw [hkept.bytes ino (hwf.old _ _ hino) (target_ne_tmp hwf hino)]
    exact h
  · exact h

theorem goto_writers (s : SharedStore) (w w' : Writer) (phase : WriterPhase) :
    (s.goto w phase).writers w' = if w' = w then phase else s.writers w' := by
  simp only [goto, Function.update_apply]

theorem reader_readers (s : SharedStore) (r r' : ℕ) (phase : ReaderPhase) :
    (s.reader r phase).readers r' = if r' = r then phase else s.readers r' := by
  simp only [reader, Function.update_apply]

namespace StoreInv

/-- What a step of a call has to keep. -/
theorem moved (h : StoreInv P before s) (hwf : files'.WellFormed)
    (hkept : Files.Kept .tmp s.files files') (htarget : TargetWhole P before files')
    (hsome : (s.files.names .target).isSome → (files'.names .target).isSome)
    (hinside : phase.inside → (s.writers w.other).inside = false) (hself : TmpOf P files' w phase)
    (hother : TmpOf P files' w.other (s.writers w.other)) :
    StoreInv P before ({ s with files := files' }.goto w phase) := by
  have hmoved : ({ s with files := files' }.goto w phase).writers w = phase := by
    rw [goto_writers, if_pos rfl]
  have hstays : ({ s with files := files' }.goto w phase).writers w.other = s.writers w.other := by
    rw [goto_writers, if_neg (other_ne w)]
  refine ⟨hwf, htarget, ?_, ?_, fun r => (h.readers r).kept hkept hsome⟩
  · -- only one writer is inside at a time
    intro w' hin
    by_cases hw : w' = w
    · subst hw
      rw [hmoved] at hin
      rw [hstays]
      exact hinside hin
    · obtain rfl := eq_other hw
      rw [hstays] at hin
      rw [other_other, hmoved]
      by_contra hphase
      rw [Bool.not_eq_false] at hphase
      rw [hinside hphase] at hin
      cases hin
  · intro w'
    by_cases hw : w' = w
    · subst hw
      rw [hmoved]
      exact hself
    · obtain rfl := eq_other hw
      rw [hstays]
      exact hother

/-- The call moves on and leaves the files alone. -/
theorem goto (h : StoreInv P before s) (hself : TmpOf P s.files w phase)
    (hinside : phase.inside → (s.writers w.other).inside = false) :
    StoreInv P before (s.goto w phase) :=
  h.moved h.wellFormed (.refl _ _) h.target id hinside hself (h.writers _)

/-- A load moves on. -/
theorem read (h : StoreInv P before s) {phase : ReaderPhase} (hphase : ReadOf P before s.files phase) :
    StoreInv P before (s.reader r phase) := by
  refine ⟨h.wellFormed, h.target, h.apart, h.writers, fun r' => ?_⟩
  rw [reader_readers]
  by_cases hr : r' = r
  · rw [if_pos hr]
    exact hphase
  · rw [if_neg hr]
    exact h.readers r'

/-! One lemma for each step. -/

theorem create (h : StoreInv P before s) (hapart : (s.writers w.other).inside = false)
    (hs : s.stepCreate w = some t) : StoreInv P before t := by
  unfold stepCreate at hs
  split at hs
  · next hphase =>
    obtain rfl := Option.some.inj hs
    have hkept := Files.openTrunc_kept s.files .tmp
    have hname := s.files.openTrunc_names_of_ne (n := .tmp) (m := .target) (by decide)
    refine h.moved (h.wellFormed.openTrunc _) hkept (h.target.kept h.wellFormed hkept hname) ?_
      (fun _ => hapart) ⟨Files.openTrunc_names _ _, Nat.zero_le _, ?_⟩ (tmpOf_outside hapart)
    · show (s.files.names .target).isSome → ((s.files.openTrunc .tmp).1.names .target).isSome
      rw [hname]
      exact id
    · rw [List.take_zero]
      exact Files.openTrunc_bytes _ _
  · cases hs

theorem write (h : StoreInv P before s) {n : ℕ} (hs : s.stepWrite P w n = some t) :
    StoreInv P before t := by
  unfold stepWrite at hs
  split at hs
  · next ino off hphase =>
    split at hs
    · next hn =>
      obtain rfl := Option.some.inj hs
      have hself := h.writers w
      rw [hphase] at hself
      obtain ⟨hname, hoff, hbytes⟩ := hself
      have hapart := h.apart w (by rw [hphase]; rfl)
      have hkept := Files.write_kept hname off (((P.text w).drop off).take n)
      refine h.moved (h.wellFormed.write _ _ _) hkept (h.target.kept h.wellFormed hkept rfl) id
        (fun _ => hapart) ⟨hname, hn.2, ?_⟩ (tmpOf_outside hapart)
      have hlen : (s.files.bytes ino).length = off := by
        rw [hbytes, List.length_take, Nat.min_eq_left hoff]
      -- the text is written on from where the last write ended
      calc (s.files.write ino off (((P.text w).drop off).take n)).bytes ino
          = Files.overwrite (s.files.bytes ino) off (((P.text w).drop off).take n) := Files.write_bytes
        _ = s.files.bytes ino ++ ((P.text w).drop off).take n := Files.overwrite_end hlen
        _ = (P.text w).take (off + n) := by rw [hbytes, List.take_add]
    · cases hs
  · cases hs

theorem close (h : StoreInv P before s) (hs : s.stepClose P w = some t) : StoreInv P before t := by
  unfold stepClose at hs
  split at hs
  · next ino off hphase =>
    split at hs
    · next hoff =>
      obtain rfl := Option.some.inj hs
      have hself := h.writers w
      rw [hphase] at hself
      obtain ⟨hname, -, hbytes⟩ := hself
      refine h.goto ⟨ino, hname, ?_⟩ (fun _ => h.apart w (by rw [hphase]; rfl))
      rw [hbytes, hoff, List.take_length]
    · cases hs
  · cases hs

theorem chmodTmp (h : StoreInv P before s) (hs : s.stepChmodTmp w = some t) :
    StoreInv P before t := by
  unfold stepChmodTmp at hs
  split at hs
  · next hphase =>
    obtain rfl := Option.some.inj hs
    have hself := h.writers w
    rw [hphase] at hself
    split
    · exact h.goto hself (fun _ => h.apart w (by rw [hphase]; rfl))
    · refine h.goto trivial ?_
      rintro ⟨⟩
  · cases hs

theorem rename (h : StoreInv P before s) (hrt : RoundTrips P) (hs : s.stepRename w = some t) :
    StoreInv P before t := by
  unfold stepRename at hs
  split at hs
  · next hphase =>
    have hapart := h.apart w (by rw [hphase]; rfl)
    split at hs
    · next files hrename =>
      obtain rfl := Option.some.inj hs
      have hself := h.writers w
      rw [hphase] at hself
      obtain ⟨ino, hname, hbytes⟩ := hself
      have hne : StoreName.tmp ≠ .target := by decide
      obtain ⟨i, hi, -, htarget, -, hsame, -⟩ := Files.rename_spec hne hrename
      obtain rfl : ino = i := Option.some.inj (hname.symm.trans hi)
      refine h.moved (h.wellFormed.rename hne hrename) (Files.rename_kept hne hrename) ?_ ?_ ?_ trivial
        (tmpOf_outside hapart)
      · -- the whole text is under the target now
        unfold TargetWhole
        rw [htarget]
        refine ⟨P.value w, ?_, Or.inr ⟨w, rfl⟩⟩
        rw [hsame, hbytes]
        exact hrt w
      · intro _
        rw [htarget]
        rfl
      · rintro ⟨⟩
    · obtain rfl := Option.some.inj hs
      refine h.goto trivial ?_
      rintro ⟨⟩
  · cases hs

theorem chmod (h : StoreInv P before s) (hs : s.stepChmod w = some t) : StoreInv P before t := by
  unfold stepChmod at hs
  split at hs
  · obtain rfl := Option.some.inj hs
    refine h.goto trivial ?_
    rintro ⟨⟩
  · cases hs

theorem fail (h : StoreInv P before s) (hs : s.stepFail w = some t) : StoreInv P before t := by
  unfold stepFail at hs
  split at hs
  · cases hs
  · obtain rfl := Option.some.inj hs
    refine h.goto trivial ?_
    rintro ⟨⟩

theorem probe (h : StoreInv P before s) (hs : s.stepProbe r = some t) : StoreInv P before t := by
  unfold stepProbe at hs
  split at hs
  · obtain rfl := Option.some.inj hs
    refine h.read ?_
    split
    · next hsome => exact hsome
    · next hnone =>
      have htarget := h.target
      unfold TargetWhole at htarget
      split at htarget
      · next ino hino =>
        rw [hino] at hnone
        exact absurd rfl hnone
      · exact ⟨.empty, rfl, Or.inl htarget.symm⟩
  · cases hs

theorem openRead (h : StoreInv P before s) (hs : s.stepOpenRead r = some t) :
    StoreInv P before t := by
  unfold stepOpenRead at hs
  split at hs
  · next hphase =>
    have hself := h.readers r
    rw [hphase] at hself
    split at hs
    · next ino hino =>
      obtain rfl := Option.some.inj hs
      have htarget := h.target
      rw [TargetWhole, hino] at htarget
      exact h.read ⟨h.wellFormed.old _ _ hino, target_ne_tmp h.wellFormed hino, htarget,
        List.nil_prefix⟩
    · next hnone =>
      rw [ReadOf, hnone] at hself
      cases hself
  · cases hs

theorem reads (h : StoreInv P before s) {n : ℕ} (hs : s.stepRead P r n = some t) :
    StoreInv P before t := by
  unfold stepRead at hs
  split at hs
  · next ino raw hphase =>
    have hself := h.readers r
    rw [hphase] at hself
    obtain ⟨hold, htmp, hwhole, rest, hrest⟩ := hself
    have hdrop : (s.files.bytes ino).drop raw.length = rest := by rw [← hrest, List.drop_left]
    split at hs
    · next hn =>
      rw [hdrop] at hs
      dsimp only at hs
      split at hs
      · -- all of the inode has been read
        next hend =>
        obtain rfl := Option.some.inj hs
        have hnil : rest = [] := by
          rcases List.take_eq_nil_iff.mp hend with hzero | hnil
          · omega
          · exact hnil
        rw [hnil, List.append_nil] at hrest
        obtain ⟨devices, hparse, hsaved⟩ := hwhole
        refine h.read ⟨devices, ?_, hsaved⟩
        rw [parsed, hrest, hparse]
      · obtain rfl := Option.some.inj hs
        refine h.read ⟨hold, htmp, hwhole, rest.drop n, ?_⟩
        rw [List.append_assoc, List.take_append_drop, hrest]
    · cases hs
  · cases hs

/-- **The step lemma.** -/
theorem step (h : StoreInv P before s) (hrt : RoundTrips P) {a : StoreAct} (hapart : Apart s a)
    (hs : s.step P a = some t) : StoreInv P before t := by
  cases a with
  | create w => exact h.create hapart hs
  | write w n => exact h.write hs
  | close w => exact h.close hs
  | chmodTmp w => exact h.chmodTmp hs
  | rename w => exact h.rename hrt hs
  | chmod w => exact h.chmod hs
  | fail w => exact h.fail hs
  | probe r => exact h.probe hs
  | openRead r => exact h.openRead hs
  | read r n => exact h.reads hs

end StoreInv

end Inv

/-- **The loads**: in a run in which no call truncates the temporary file while the other is between its
truncation and its rename, every load returns the store before both calls or one of the two saved. -/
theorem loads_whole (P : StoreSetup) (hrt : RoundTrips P) {files : Files StoreName}
    (hwf : files.WellFormed) {before : TrustedDevices} (hholds : Holds P before files)
    {as : List StoreAct} {s : SharedStore} (hr : Trans.Runs (step P) Apart (start files) as s) :
    Loads P before s := by
  have hinv : StoreInv P before s :=
    hr.inv (fun _ _ _ h hapart hs => h.step hrt hapart hs) (storeInv_start hwf hholds)
  intro r result hresult
  have hread := hinv.readers r
  rw [hresult] at hread
  exact hread

/-! ## Two calls at once -/

section Truncated

variable {P : StoreSetup} {s : SharedStore} {w : Writer} {r ino : ℕ}

/-- What a call renames after the other has truncated it is loaded as an empty file. -/
theorem truncated_loaded (hempty : P.parse [] = none) (hphase : s.writers w = .rename)
    (hother : s.writers w.other = .create) (htmp : s.files.names .tmp = some ino)
    (hreader : s.readers r = .probe) :
    ∃ t, Trans.run (step P) s [.create w.other, .rename w, .probe r, .openRead r, .read r 1] = some t ∧
      t.readers r = .returned (.error .json) := by
  have hne : w ≠ w.other := (other_ne w).symm
  simp [Trans.run, step, stepCreate, stepRename, stepProbe, stepOpenRead, stepRead, hphase, hother, htmp,
    Files.openTrunc, Files.rename, hne, goto, reader, hreader, parsed, hempty]

end Truncated

/-- The store with one device, as `to_vec_pretty` renders it. -/
def demoText (lastSeenAt revoked : String) : List UInt8 :=
  (["\x7b", "  \"devices\": [", "    \x7b", "      \"id\": \"dev\",", "      \"name\": \"phone\",",
      "      \"token_hash\": \"00\",", "      \"created_at\": 10,",
      "      \"last_seen_at\": " ++ lastSeenAt ++ ",", "      \"revoked\": " ++ revoked ++ ",",
      "      \"app_version\": null", "    \x7d", "  ]", "\x7d"] : List String).flatMap (fun line =>
    line.toList.map (fun c => UInt8.ofNat c.toNat) ++ [10])

def demoDevices (lastSeenAt : ℕ) (revoked : Bool) : TrustedDevices :=
  ⟨[⟨"dev", "phone", "00", 10, some lastSeenAt, revoked, none⟩]⟩

/-- The phone is seen at 20, and revoked at the same time. -/
def demoSaves : StoreSetup :=
  { value := fun w => match w with
      | .daemon => demoDevices 20 false
      | .revoke => demoDevices 10 true
    render := fun devices =>
      if devices = demoDevices 20 false then demoText "20" "false"
      else if devices = demoDevices 10 true then demoText "10" "true"
      else demoText "10" "false"
    parse := fun bytes =>
      if bytes == demoText "20" "false" then some (demoDevices 20 false)
      else if bytes == demoText "10" "true" then some (demoDevices 10 true)
      else if bytes == demoText "10" "false" then some (demoDevices 10 false)
      else none }

/-- `trusted_devices.json` when the phone is paired. -/
def demoFiles : Files StoreName :=
  { names := fun n => match n with
      | .tmp => none
      | .target => some 0
    bytes := fun _ => demoText "10" "false"
    fresh := 1 }

theorem demoFiles_wellFormed : demoFiles.WellFormed := by
  refine ⟨fun n i h => ?_, fun n m i hn hm => ?_⟩
  · cases n with
    | tmp => cases h
    | target =>
      cases h
      decide
  · cases n with
    | tmp => cases hn
    | target =>
      cases m with
      | tmp => cases hm
      | target => rfl

theorem demo_roundTrips : RoundTrips demoSaves := by
  intro w
  cases w <;> decide +kernel

theorem demo_parse : demoSaves.parse (demoFiles.bytes 0) = some (demoDevices 10 false) := by
  decide +kernel

theorem demo_holds : Holds demoSaves (demoDevices 10 false) demoFiles :=
  holds_some rfl demo_parse

/-- `devices revoke` truncates the file the daemon has just written and is about to rename. -/
def truncatedRun : List StoreAct :=
  [.create .daemon, .write .daemon (demoText "20" "false").length, .close .daemon, .create .revoke,
    .chmodTmp .daemon, .rename .daemon, .probe 0, .openRead 0, .read 0 4096]

/-- **A load fails**: the daemon has renamed the file `devices revoke` has truncated. -/
theorem empty_loaded : RoundTrips demoSaves ∧ demoFiles.WellFormed ∧
    Holds demoSaves (demoDevices 10 false) demoFiles ∧
    ∃ s, Trans.Runs (step demoSaves) Trans.Free (start demoFiles) truncatedRun s ∧
      ¬ Loads demoSaves (demoDevices 10 false) s := by
  have hreader : (Trans.run (step demoSaves) (start demoFiles) truncatedRun).map (fun s => s.readers 0) =
      some (.returned (.error .json)) := by decide +kernel
  obtain ⟨s, hs, hread⟩ := Option.map_eq_some_iff.mp hreader
  refine ⟨demo_roundTrips, demoFiles_wellFormed, demo_holds, s,
    Trans.runs_free _ hs, ?_⟩
  intro hloads
  obtain ⟨devices, hok, -⟩ := hloads 0 _ hread
  cases hok

/-- One call after the other, and a load that opens the file between them and reads it in two parts. -/
def orderedRun : List StoreAct :=
  [.probe 0, .create .daemon, .write .daemon 40, .write .daemon ((demoText "20" "false").length - 40),
    .close .daemon, .chmodTmp .daemon, .rename .daemon, .openRead 0, .read 0 100, .create .revoke,
    .chmod .daemon, .write .revoke (demoText "10" "true").length, .close .revoke, .chmodTmp .revoke,
    .rename .revoke, .read 0 4096, .read 0 4096, .chmod .revoke]

/-- It loads what the daemon has saved. -/
theorem ordered_demo : ∃ s, Trans.run (step demoSaves) (start demoFiles) orderedRun = some s ∧
    s.readers 0 = .returned (.ok (demoDevices 20 false)) ∧ Loads demoSaves (demoDevices 10 false) s := by
  have hreader : (Trans.run (step demoSaves) (start demoFiles) orderedRun).map (fun s => s.readers 0) =
      some (.returned (.ok (demoDevices 20 false))) := by decide +kernel
  obtain ⟨s, hs, hread⟩ := Option.map_eq_some_iff.mp hreader
  have hmeets : Trans.Meets (step demoSaves) Apart (start demoFiles) orderedRun := by
    decide +kernel
  exact ⟨s, hs, hread, loads_whole demoSaves demo_roundTrips demoFiles_wellFormed demo_holds
    (Trans.runs_of_run _ hs hmeets)⟩

end SharedStore

end Waypad
