import Mathlib.Data.List.Basic

/-!
# Waypad.Screen.AnnexB — `AnnexBStreamReader` (`src/screen.rs`)

The reader that cuts the encoder's Annex-B byte stream into access units.  A `none` is a panic of the
source: an index out of range or a subtraction below zero.  The `while` loops carry fuel; `scan` and
`push` give as much as their loops can use (`Waypad.Screen.AnnexBScan`, `Waypad.Screen.AnnexBSplit`).
-/

namespace Waypad

/-- `MAX_ANNEX_B_BUFFER`. -/
def maxAnnexBBuffer : ℕ := 8 * 1024 * 1024

structure AccessUnit where
  data : List UInt8
  keyFrame : Bool
  parameterSets : Option (List UInt8)
  deriving DecidableEq, Repr

structure NalRef where
  /-- offset of the leading byte of the start code -/
  start : ℕ
  kind : UInt8
  firstSlice : Bool
  deriving DecidableEq, Repr

namespace NalRef

/-- `is_slice`. -/
def isSlice (self : NalRef) : Bool := decide (1 ≤ self.kind ∧ self.kind ≤ 5)

/-- `starts_access_unit`. -/
def startsAccessUnit (self : NalRef) (hasSlice : Bool) : Bool :=
  if self.kind = 9 then true
  else if self.kind = 6 ∨ self.kind = 7 ∨ self.kind = 8 ∨ self.kind = 13 ∨ self.kind = 14 ∨
      self.kind = 15 then hasSlice
  else if self.isSlice then hasSlice && self.firstSlice
  else false

end NalRef

structure AnnexBStreamReader where
  buffer : List UInt8
  nals : List NalRef
  scanFrom : ℕ
  deriving DecidableEq, Repr

namespace AnnexBStreamReader

def new : AnnexBStreamReader := { buffer := [], nals := [], scanFrom := 0 }

/-- `buffer[index]`, for an index in range. -/
def byte (buffer : List UInt8) (index : ℕ) : UInt8 := buffer.getD index 0

/-- `&buffer[begin..end]`. -/
def slice (buffer : List UInt8) (first stop : ℕ) : Option (List UInt8) :=
  if first ≤ stop ∧ stop ≤ buffer.length then some ((buffer.take stop).drop first) else none

/-! ## `scan` -/

/-- The loop of `scan` from `index` on: the NAL units it pushes. -/
def scanLoop (buffer : List UInt8) : ℕ → ℕ → List NalRef
  | 0, _ => []
  | fuel + 1, index =>
    if index + 5 ≤ buffer.length then
      if byte buffer index ≠ 0 ∨ byte buffer (index + 1) ≠ 0 ∨ byte buffer (index + 2) ≠ 1 then
        scanLoop buffer fuel (index + 1)
      else
        let start := if 0 < index ∧ byte buffer (index - 1) = 0 then index - 1 else index
        { start, kind := byte buffer (index + 3) &&& 0x1f,
          firstSlice := byte buffer (index + 4) &&& 0x80 != 0 } ::
          scanLoop buffer fuel (index + 3)
    else []

def scan (self : AnnexBStreamReader) : AnnexBStreamReader :=
  { self with
    nals := self.nals ++ scanLoop self.buffer self.buffer.length self.scanFrom
    scanFrom := self.buffer.length - 4 }

/-! ## Cutting -/

/-- The loop of `next_boundary`, with the index of the head of the list. -/
def boundaryLoop : ℕ → Bool → List NalRef → Option ℕ
  | _, _, [] => none
  | index, hasSlice, nal :: rest =>
    if 0 < index ∧ nal.startsAccessUnit hasSlice then some index
    else boundaryLoop (index + 1) (hasSlice || nal.isSlice) rest

def nextBoundary (self : AnnexBStreamReader) : Option ℕ := boundaryLoop 0 false self.nals

def hasPendingPicture (self : AnnexBStreamReader) : Bool := self.nals.any NalRef.isSlice

/-- The loop over `nals[..boundary]` that copies the SPS and PPS out; each ends where the next NAL unit
starts, the last of the buffer at `stop`. -/
def parameterSets (buffer : List UInt8) (stop : ℕ) : ℕ → List NalRef → Option (List UInt8)
  | 0, _ => some []
  | _ + 1, [] => some []
  | boundary + 1, nal :: rest => do
    let copied ←
      if nal.kind = 7 ∨ nal.kind = 8 then
        slice buffer nal.start ((rest.head?.map NalRef.start).getD stop)
      else some []
    let others ← parameterSets buffer stop boundary rest
    some (copied ++ others)

/-- `take_access_unit_before`. -/
def takeAccessUnitBefore (self : AnnexBStreamReader) (boundary stop : ℕ) :
    Option (AccessUnit × AnnexBStreamReader) := do
  let first ← self.nals.head?
  let keyFrame := (self.nals.take boundary).any (fun nal => nal.kind == 5)
  let sets ← parameterSets self.buffer stop boundary self.nals
  let data ← slice self.buffer first.start stop
  let nals := self.nals.drop boundary
  if nals.any (fun nal => decide (nal.start < stop)) then none
  else
    some ({ data, keyFrame, parameterSets := if sets.isEmpty then none else some sets },
      { buffer := self.buffer.drop stop
        nals := nals.map (fun nal => { nal with start := nal.start - stop })
        scanFrom := self.scanFrom - stop })

/-- `take_access_unit`. -/
def takeAccessUnit (self : AnnexBStreamReader) (boundary : ℕ) :
    Option (AccessUnit × AnnexBStreamReader) := do
  let nal ← self.nals[boundary]?
  self.takeAccessUnitBefore boundary nal.start

/-- The loop of `push`: cut while there is a boundary. -/
def takeLoop : ℕ → AnnexBStreamReader → Option (List AccessUnit × AnnexBStreamReader)
  | 0, self => some ([], self)
  | fuel + 1, self =>
    match self.nextBoundary with
    | none => some ([], self)
    | some boundary => do
      let (unit, self) ← self.takeAccessUnit boundary
      let (units, self) ← takeLoop fuel self
      some (unit :: units, self)

/-- `push` before its overflow check. -/
def pushUnits (self : AnnexBStreamReader) (chunk : List UInt8) :
    Option (List AccessUnit × AnnexBStreamReader) :=
  let self := { self with buffer := self.buffer ++ chunk }.scan
  takeLoop self.nals.length self

/-- `push`. -/
def push (self : AnnexBStreamReader) (chunk : List UInt8) :
    Option (List AccessUnit × AnnexBStreamReader) := do
  let (units, self) ← self.pushUnits chunk
  if maxAnnexBBuffer < self.buffer.length then some (units, new) else some (units, self)

/-- `flush_pending`. -/
def flushPending (self : AnnexBStreamReader) : Option (Option AccessUnit × AnnexBStreamReader) :=
  if !self.hasPendingPicture then some (none, self)
  else (self.takeAccessUnitBefore self.nals.length self.buffer.length).map
    (fun r => (some r.1, r.2))

/-! ## A schedule of calls -/

inductive ReaderOp
  | push (chunk : List UInt8)
  | flush
  deriving DecidableEq, Repr

/-- The units the calls return, in order. -/
def runOps : AnnexBStreamReader → List ReaderOp → Option (List AccessUnit × AnnexBStreamReader)
  | self, [] => some ([], self)
  | self, .push chunk :: rest => do
    let (units, self) ← self.push chunk
    let (units', self) ← runOps self rest
    some (units ++ units', self)
  | self, .flush :: rest => do
    let (unit, self) ← self.flushPending
    let (units', self) ← runOps self rest
    some (unit.toList ++ units', self)

/-- A schedule in two parts. -/
theorem runOps_append (self : AnnexBStreamReader) (ops ops' : List ReaderOp) :
    runOps self (ops ++ ops') = (runOps self ops).bind (fun r =>
      (runOps r.2 ops').map (fun r' => (r.1 ++ r'.1, r'.2))) := by
  induction ops generalizing self with
  | nil => simp [runOps]
  | cons op ops ih =>
    cases op with
    | push chunk =>
      simp only [List.cons_append, runOps, ih, Option.bind_eq_bind, Option.bind_assoc]
      congr 1
      ext r
      cases runOps r.2 ops with
      | none => simp
      | some done => cases h : runOps done.2 ops' <;> simp [h]
    | flush =>
      simp only [List.cons_append, runOps, ih, Option.bind_eq_bind, Option.bind_assoc]
      congr 1
      ext r
      cases runOps r.2 ops with
      | none => simp
      | some done => cases h : runOps done.2 ops' <;> simp [h]

end AnnexBStreamReader

end Waypad
