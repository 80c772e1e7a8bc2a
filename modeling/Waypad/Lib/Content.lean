import Mathlib.Data.List.Nodup
import Waypad.Lib.Binary64

/-!
# Waypad.Lib.Content — records and tagged unions in a self-describing format

A value is written with the names of its fields.  A reader takes the fields by their names: their order does
not matter, fields it does not know are skipped, a field that may be missing counts as null, and a field that
is there twice is refused.  Floats are finite doubles; what their texts are read as is a parameter.

* `Content`: what is written; `isText`, `isRecord`: its shape.
* `Reads`: the received content is read as the one that was meant.
* `reprinted`: a content after its text has been written and read; `reads_reprinted`.
* `Settled`: fields that are read as themselves.
* `Codec`, `Record`, `Tagged`: a writer and a reader of it; the reader takes exactly the contents that are
  read as what the writer writes.
* `string`, `bool`, `float`, `int`, `list`, `names`, `field`, `optional`, `and`: how they are put together.
-/

inductive Content
  | null
  | bool (b : Bool)
  | int (n : ℤ)
  | float (q : ℚ)
  | string (s : String)
  | array (items : List Content)
  | object (fields : List (String × Content))

namespace Content

abbrev Fields := List (String × Content)

/-- What stands under a name. -/
def Fields.at (gs : Fields) (name : String) : List Content :=
  gs.filterMap (fun g => if g.1 = name then some g.2 else none)

/-- A number without a fraction is one, too: it counts as the nearest double. -/
def number : Content → Option ℚ
  | int n => some (Binary64.round n)
  | float q => some q
  | _ => none

example : number (int 9007199254740993) = some 9007199254740992 := by decide +kernel

/-- The content is a text. -/
def isText : Content → Bool
  | string _ => true
  | _ => false

/-- What stands under the names are texts. -/
def Fields.texts (gs : Fields) (names : List String) : Bool := names.all (fun name => (gs.at name).all isText)

/-- The content is an object, and its fields meet `formed`. -/
def isRecord (formed : Fields → Bool) : Content → Bool
  | object gs => formed gs
  | _ => false

mutual

/-- `received` is read as the content in the argument. -/
def Reads (received : Content) : Content → Prop
  | null => received = null
  | bool b => received = bool b
  | int n => received = int n
  | float q => received.number = some q
  | string s => received = string s
  | array sent => ∃ items, received = array items ∧ ReadsAll items sent
  | object sent => ∃ gs, received = object gs ∧ ReadsFields gs sent

/-- One after the other. -/
def ReadsAll (received : List Content) : List Content → Prop
  | [] => received = []
  | d :: sent => ∃ c items, received = c :: items ∧ Reads c d ∧ ReadsAll items sent

/-- By their names. -/
def ReadsFields (received : Fields) : Fields → Prop
  | [] => True
  | f :: sent => ReadsField received f ∧ ReadsFields received sent

/-- The field is there once; null may also be left out. -/
def ReadsField (received : Fields) : String × Content → Prop
  | (name, d) => (∃ c, received.at name = [c] ∧ Reads c d) ∨ (d = null ∧ received.at name = [])

end

variable {α β : Type}

/-- A writer, and the reader of what it writes. -/
structure Codec (α : Type) where
  encode : α → Content
  decode : Content → Option α
  exact : ∀ c a, decode c = some a ↔ Reads c (encode a)
  self : ∀ a, Reads (encode a) (encode a)

/-- The names are different ones, and what stands under them is read as itself. -/
structure Settled (fs : Fields) : Prop where
  nodup : (fs.map Prod.fst).Nodup
  self : ∀ f ∈ fs, Reads f.2 f.2

/-- The fields of a record. -/
structure Record (α : Type) where
  names : List String
  encode : α → Fields
  decode : Fields → Option α
  exact : ∀ gs a, decode gs = some a ↔ ReadsFields gs (encode a)
  encode_names : ∀ a, (encode a).map Prod.fst = names
  settled : ∀ a, Settled (encode a)

/-- A union whose variant stands among the fields. -/
structure Tagged (α : Type) where
  key : String
  tag : α → String
  encode : α → Fields
  decode : String → Fields → Option α
  exact : ∀ t gs a, decode t gs = some a ↔ t = tag a ∧ ReadsFields gs (encode a)
  settled : ∀ a, Settled ((key, .string (tag a)) :: encode a)

theorem reads_null {c : Content} : Reads c null ↔ c = null := by rw [Reads]

theorem reads_bool {c : Content} {b : Bool} : Reads c (bool b) ↔ c = bool b := by rw [Reads]

theorem reads_int {c : Content} {n : ℤ} : Reads c (int n) ↔ c = int n := by rw [Reads]

theorem reads_float {c : Content} {q : ℚ} : Reads c (float q) ↔ c.number = some q := by rw [Reads]

theorem reads_string {c : Content} {s : String} : Reads c (string s) ↔ c = string s := by rw [Reads]

theorem reads_array {c : Content} {sent : List Content} :
    Reads c (array sent) ↔ ∃ items, c = array items ∧ ReadsAll items sent := by rw [Reads]

theorem reads_object {c : Content} {sent : Fields} :
    Reads c (object sent) ↔ ∃ gs, c = object gs ∧ ReadsFields gs sent := by rw [Reads]

theorem readsFields_iff {gs fs : Fields} : ReadsFields gs fs ↔ ∀ f ∈ fs, ReadsField gs f := by
  induction fs with
  | nil => exact iff_of_true (by rw [ReadsFields]; trivial) (List.forall_mem_nil _)
  | cons f fs ih => rw [ReadsFields, ih, List.forall_mem_cons]

theorem at_of_mem {fs : Fields} (hnodup : (fs.map Prod.fst).Nodup) {f : String × Content} (hf : f ∈ fs) :
    fs.at f.1 = [f.2] := by
  induction fs with
  | nil => cases hf
  | cons g fs ih =>
    rw [List.map_cons, List.nodup_cons] at hnodup
    have hsome : Fields.at (g :: fs) f.1 = (if g.1 = f.1 then [g.2] else []) ++ Fields.at fs f.1 := by
      unfold Fields.at
      rw [List.filterMap_cons]
      split_ifs with hname
      · rfl
      · rfl
    rw [hsome]
    rcases List.mem_cons.mp hf with rfl | hmem
    · -- the name does not come again
      have hnone : Fields.at fs f.1 = [] := by
        unfold Fields.at
        rw [List.filterMap_eq_nil_iff]
        intro g hg
        refine if_neg ?_
        intro hname
        exact hnodup.1 (hname ▸ List.mem_map_of_mem hg)
      rw [if_pos rfl, hnone]
      rfl
    · have hne : g.1 ≠ f.1 := by
        intro hname
        exact hnodup.1 (hname ▸ List.mem_map_of_mem hmem)
      rw [if_neg hne, ih hnodup.2 hmem]
      rfl

/-- Such fields are read as themselves. -/
theorem Settled.reads {fs : Fields} (h : Settled fs) : ReadsFields fs fs := by
  rw [readsFields_iff]
  rintro ⟨name, d⟩ hf
  rw [ReadsField]
  exact Or.inl ⟨d, at_of_mem h.nodup hf, h.self _ hf⟩

theorem Settled.append {fs fs' : Fields} (h : Settled fs) (h' : Settled fs')
    (hdisjoint : List.Disjoint (fs.map Prod.fst) (fs'.map Prod.fst)) : Settled (fs ++ fs') := by
  refine ⟨?_, ?_⟩
  · rw [List.map_append]
    exact List.Nodup.append h.nodup h'.nodup hdisjoint
  · intro f hf
    rcases List.mem_append.mp hf with hf | hf
    · exact h.self f hf
    · exact h'.self f hf

theorem settled_singleton {name : String} {d : Content} (h : Reads d d) : Settled [(name, d)] := by
  refine ⟨List.nodup_singleton name, ?_⟩
  rw [List.forall_mem_singleton]
  exact h

/-! ## Through a text -/

mutual

/-- The content after its text has been written and read, when the text of a float is read as `reread` says. -/
def reprinted (reread : ℚ → ℚ) : Content → Content
  | null => null
  | bool b => bool b
  | int n => int n
  | float q => float (reread q)
  | string s => string s
  | array items => array (reprintedAll reread items)
  | object fs => object (reprintedFields reread fs)

def reprintedAll (reread : ℚ → ℚ) : List Content → List Content
  | [] => []
  | c :: items => reprinted reread c :: reprintedAll reread items

def reprintedFields (reread : ℚ → ℚ) : Fields → Fields
  | [] => []
  | (name, c) :: fs => (name, reprinted reread c) :: reprintedFields reread fs

end

mutual

/-- The floats in the content. -/
def floats : Content → List ℚ
  | null | bool _ | int _ | string _ => []
  | float q => [q]
  | array items => floatsAll items
  | object fs => floatsFields fs

def floatsAll : List Content → List ℚ
  | [] => []
  | c :: items => floats c ++ floatsAll items

def floatsFields : Fields → List ℚ
  | [] => []
  | (_, c) :: fs => floats c ++ floatsFields fs

end

variable {reread : ℚ → ℚ}

mutual

/-- Nothing but the floats can change. -/
theorem reprinted_same : ∀ (c : Content), (∀ q ∈ c.floats, reread q = q) → c.reprinted reread = c
  | null, _ | bool _, _ | int _, _ | string _, _ => by rw [reprinted]
  | float q, h => by
    rw [floats, List.forall_mem_singleton] at h
    rw [reprinted, h]
  | array items, h => by
    rw [floats] at h
    rw [reprinted, reprintedAll_same items h]
  | object fs, h => by
    rw [floats] at h
    rw [reprinted, reprintedFields_same fs h]

theorem reprintedAll_same : ∀ (items : List Content), (∀ q ∈ floatsAll items, reread q = q) →
    reprintedAll reread items = items
  | [], _ => by rw [reprintedAll]
  | c :: items, h => by
    rw [floatsAll, List.forall_mem_append] at h
    rw [reprintedAll, reprinted_same c h.1, reprintedAll_same items h.2]

theorem reprintedFields_same : ∀ (fs : Fields), (∀ q ∈ floatsFields fs, reread q = q) →
    reprintedFields reread fs = fs
  | [], _ => by rw [reprintedFields]
  | (name, c) :: fs, h => by
    rw [floatsFields, List.forall_mem_append] at h
    rw [reprintedFields, reprinted_same c h.1, reprintedFields_same fs h.2]

end

theorem mem_reprintedFields {fs : Fields} {name : String} {c : Content} (h : (name, c) ∈ fs) :
    (name, c.reprinted reread) ∈ reprintedFields reread fs := by
  induction fs with
  | nil => cases h
  | cons f fs ih =>
    obtain ⟨name', c'⟩ := f
    rw [reprintedFields]
    rcases List.mem_cons.mp h with heq | hrest
    · obtain ⟨rfl, rfl⟩ := Prod.mk.inj heq
      exact List.mem_cons_self
    · exact List.mem_cons_of_mem _ (ih hrest)

theorem mem_at {gs : Fields} {name : String} {c : Content} (h : (name, c) ∈ gs) : c ∈ gs.at name :=
  List.mem_filterMap.mpr ⟨(name, c), h, if_pos rfl⟩

mutual

/-- A content that is read as it was meant has its floats. -/
theorem floats_of_reads : ∀ (c : Content), Reads (c.reprinted reread) c → ∀ q ∈ c.floats, reread q = q
  | null, _ | bool _, _ | int _, _ | string _, _ => by
    rw [floats]
    exact List.forall_mem_nil _
  | float q, h => by
    rw [reprinted, reads_float] at h
    rw [floats, List.forall_mem_singleton]
    exact Option.some.inj h
  | array items, h => by
    rw [reprinted, reads_array] at h
    obtain ⟨items', heq, hitems⟩ := h
    rw [floats]
    exact floatsAll_of_reads items (by injection heq with heq; rw [heq]; exact hitems)
  | object fs, h => by
    rw [reprinted, reads_object] at h
    obtain ⟨gs, heq, hfields⟩ := h
    injection heq with heq
    rw [floats]
    exact floatsFields_of_reads fs gs (fun name c hc => heq ▸ mem_reprintedFields hc) hfields

theorem floatsAll_of_reads : ∀ (items : List Content), ReadsAll (reprintedAll reread items) items →
    ∀ q ∈ floatsAll items, reread q = q
  | [], _ => by
    rw [floatsAll]
    exact List.forall_mem_nil _
  | c :: items, h => by
    rw [reprintedAll, ReadsAll] at h
    obtain ⟨c', items', heq, hc, hitems⟩ := h
    obtain ⟨rfl, rfl⟩ := List.cons.inj heq
    rw [floatsAll, List.forall_mem_append]
    exact ⟨floats_of_reads c hc, floatsAll_of_reads items hitems⟩

theorem floatsFields_of_reads : ∀ (fs gs : Fields),
    (∀ name c, (name, c) ∈ fs → (name, c.reprinted reread) ∈ gs) → ReadsFields gs fs →
    ∀ q ∈ floatsFields fs, reread q = q
  | [], _, _, _ => by
    rw [floatsFields]
    exact List.forall_mem_nil _
  | (name, c) :: fs, gs, hgs, h => by
    rw [ReadsFields, ReadsField] at h
    obtain ⟨hfield, hrest⟩ := h
    have hmem := mem_at (hgs name c List.mem_cons_self)
    rw [floatsFields, List.forall_mem_append]
    refine ⟨?_, floatsFields_of_reads fs gs (fun n d hd => hgs n d (List.mem_cons_of_mem _ hd)) hrest⟩
    rcases hfield with ⟨c', hat, hc⟩ | ⟨-, hat⟩
    · -- there is one field of the name, and it is this one
      rw [hat, List.mem_singleton] at hmem
      rw [← hmem] at hc
      exact floats_of_reads c hc
    · rw [hat] at hmem
      cases hmem

end

/-- **Through a text** a content comes as it was meant exactly when each of its floats does. -/
theorem reads_reprinted {c : Content} (hself : Reads c c) :
    Reads (c.reprinted reread) c ↔ ∀ q ∈ c.floats, reread q = q := by
  refine ⟨floats_of_reads c, fun h => ?_⟩
  rw [reprinted_same c h]
  exact hself

/-! ## Values -/

namespace Codec

/-- **The round trip.** -/
theorem decode_encode (codec : Codec α) (a : α) : codec.decode (codec.encode a) = some a :=
  (codec.exact _ a).mpr (codec.self a)

/-- **The round trip through a text**: a value comes back exactly when each of its floats does. -/
theorem decode_reprinted (codec : Codec α) (reread : ℚ → ℚ) (a : α) :
    codec.decode ((codec.encode a).reprinted reread) = some a ↔
      ∀ q ∈ (codec.encode a).floats, reread q = q := by
  rw [codec.exact]
  exact reads_reprinted (codec.self a)

def string : Codec String where
  encode := .string
  decode
    | .string s => some s
    | _ => none
  exact := by
    intro c s
    rw [reads_string]
    constructor
    · intro h
      split at h
      · rw [Option.some.inj h]
      · cases h
    · rintro rfl
      rfl
  self _ := reads_string.mpr rfl

def bool : Codec Bool where
  encode := .bool
  decode
    | .bool b => some b
    | _ => none
  exact := by
    intro c b
    rw [reads_bool]
    constructor
    · intro h
      split at h
      · rw [Option.some.inj h]
      · cases h
    · rintro rfl
      rfl
  self _ := reads_bool.mpr rfl

def float : Codec ℚ where
  encode := .float
  decode := number
  exact _ _ := reads_float.symm
  self _ := reads_float.mpr rfl

/-- The numbers without a fraction that `read` takes. -/
def int (write : α → ℤ) (read : ℤ → Option α) (h : ∀ n a, read n = some a ↔ n = write a) : Codec α where
  encode a := .int (write a)
  decode
    | .int n => read n
    | _ => none
  exact := by
    intro c a
    rw [reads_int]
    constructor
    · intro hread
      split at hread
      · rw [(h _ _).mp hread]
      · cases hread
    · rintro rfl
      exact (h _ _).mpr rfl
  self _ := reads_int.mpr rfl

/-- The values of an enumeration by their names. -/
def names (name : α → String) (all : List α) (hall : ∀ a, a ∈ all) (hname : ∀ a b, name a = name b → a = b) :
    Codec α where
  encode a := .string (name a)
  decode
    | .string s => all.find? (fun a => name a = s)
    | _ => none
  exact := by
    intro c a
    rw [reads_string]
    constructor
    · intro h
      split at h
      · next s =>
        have hs := List.find?_some h
        rw [of_decide_eq_true hs]
      · cases h
    · rintro rfl
      show all.find? (fun b => name b = name a) = some a
      cases hfind : all.find? (fun b => name b = name a) with
      | none =>
        have hnone := List.find?_eq_none.mp hfind a (hall a)
        exact absurd (decide_eq_true rfl) hnone
      | some b =>
        have hb := List.find?_some hfind
        rw [hname b a (of_decide_eq_true hb)]
  self _ := reads_string.mpr rfl

theorem readsAll_exact (codec : Codec α) (as : List α) (items : List Content) :
    items.mapM codec.decode = some as ↔ ReadsAll items (as.map codec.encode) := by
  induction as generalizing items with
  | nil =>
    rw [List.map_nil, ReadsAll]
    cases items with
    | nil => exact iff_of_true rfl rfl
    | cons c items =>
      refine iff_of_false ?_ (List.cons_ne_nil c items)
      rw [List.mapM_cons, Option.bind_eq_bind, Option.bind_eq_some_iff]
      rintro ⟨a, -, h⟩
      obtain ⟨as, -, has⟩ := Option.bind_eq_some_iff.mp h
      cases has
  | cons a as ih =>
    rw [List.map_cons, ReadsAll]
    cases items with
    | nil =>
      refine iff_of_false ?_ ?_
      · rintro ⟨⟩
      · rintro ⟨c, items, ⟨⟩, -⟩
    | cons c items =>
      rw [List.mapM_cons]
      constructor
      · intro h
        obtain ⟨b, hb, h⟩ := Option.bind_eq_some_iff.mp h
        obtain ⟨bs, hbs, h⟩ := Option.bind_eq_some_iff.mp h
        obtain ⟨rfl, rfl⟩ := List.cons.inj (Option.some.inj h)
        exact ⟨c, items, rfl, (codec.exact c b).mp hb, (ih items).mp hbs⟩
      · rintro ⟨c, items, ⟨⟩, hc, hitems⟩
        rw [(codec.exact _ _).mpr hc, (ih _).mpr hitems]
        rfl

theorem readsAll_self (codec : Codec α) (as : List α) :
    ReadsAll (as.map codec.encode) (as.map codec.encode) := by
  induction as with
  | nil => rw [List.map_nil, ReadsAll]
  | cons a as ih =>
    rw [List.map_cons, ReadsAll]
    exact ⟨_, _, rfl, codec.self a, ih⟩

def list (codec : Codec α) : Codec (List α) where
  encode as := .array (as.map codec.encode)
  decode
    | .array items => items.mapM codec.decode
    | _ => none
  exact := by
    intro c as
    rw [reads_array]
    constructor
    · intro h
      split at h
      · next items => exact ⟨items, rfl, (codec.readsAll_exact as items).mp h⟩
      · cases h
    · rintro ⟨items, rfl, hitems⟩
      exact (codec.readsAll_exact as items).mpr hitems
  self as := reads_array.mpr ⟨_, rfl, codec.readsAll_self as⟩

/-- What is read from null is written as null. -/
theorem encode_ne_null {codec : Codec α} (hnull : codec.decode null = none) (a : α) : codec.encode a ≠ null := by
  intro hencode
  have hread : codec.decode null = some a := by
    rw [codec.exact, hencode, reads_null]
  rw [hnull] at hread
  cases hread

end Codec

/-! ## Records -/

namespace Record

def empty : Record Unit where
  names := []
  encode _ := []
  decode _ := some ()
  exact := by
    intro gs a
    rw [ReadsFields]
    exact iff_of_true rfl trivial
  encode_names _ := rfl
  settled _ := ⟨List.nodup_nil, List.forall_mem_nil _⟩

theorem readsFields_singleton {gs : Fields} (f : String × Content) : ReadsFields gs [f] ↔ ReadsField gs f := by
  rw [readsFields_iff, List.forall_mem_singleton]

/-- A field that has to be there; its values are not written as null. -/
def field (name : String) (codec : Codec α) (hnull : codec.decode null = none := by rfl) : Record α where
  names := [name]
  encode a := [(name, codec.encode a)]
  decode gs :=
    match gs.at name with
    | [c] => codec.decode c
    | _ => none
  exact := by
    intro gs a
    rw [readsFields_singleton, ReadsField]
    constructor
    · intro h
      split at h
      · next c hat => exact Or.inl ⟨c, hat, (codec.exact c a).mp h⟩
      · cases h
    · rintro (⟨c, hat, hread⟩ | ⟨hencode, -⟩)
      · rw [hat]
        exact (codec.exact c a).mpr hread
      · exact absurd hencode (Codec.encode_ne_null hnull a)
  encode_names _ := rfl
  settled a := settled_singleton (codec.self a)

/-- A field that may be null or missing. -/
def optional (name : String) (codec : Codec α) (hnull : codec.decode null = none := by rfl) :
    Record (Option α) where
  names := [name]
  encode
    | none => [(name, null)]
    | some a => [(name, codec.encode a)]
  decode gs :=
    match gs.at name with
    | [] => some none
    | [null] => some none
    | [c] => (codec.decode c).map some
    | _ => none
  exact := by
    intro gs a
    cases a with
    | none =>
      rw [readsFields_singleton, ReadsField]
      constructor
      · intro h
        split at h
        · next hat => exact Or.inr ⟨rfl, hat⟩
        · next hat => exact Or.inl ⟨null, hat, reads_null.mpr rfl⟩
        · obtain ⟨a, -, ha⟩ := Option.map_eq_some_iff.mp h
          cases ha
        · cases h
      · rintro (⟨c, hat, hread⟩ | ⟨-, hat⟩)
        · rw [hat, reads_null.mp hread]
        · rw [hat]
    | some a =>
      rw [readsFields_singleton, ReadsField]
      constructor
      · intro h
        split at h
        · cases h
        · cases h
        · next c _ hat =>
          obtain ⟨b, hb, hab⟩ := Option.map_eq_some_iff.mp h
          obtain rfl := Option.some.inj hab
          exact Or.inl ⟨c, hat, (codec.exact c b).mp hb⟩
        · cases h
      · rintro (⟨c, hat, hread⟩ | ⟨hencode, -⟩)
        · have hdecode := (codec.exact c a).mpr hread
          rw [hat]
          split
          · next h => cases h
          · next h =>
            obtain rfl := List.head_eq_of_cons_eq h
            rw [hnull] at hdecode
            cases hdecode
          · next h =>
            obtain rfl := List.head_eq_of_cons_eq h
            rw [hdecode]
            rfl
          · next h => exact absurd rfl (h c)
        · exact absurd hencode (Codec.encode_ne_null hnull a)
  encode_names a := by cases a <;> rfl
  settled a := by
    cases a with
    | none => exact settled_singleton (reads_null.mpr rfl)
    | some a => exact settled_singleton (codec.self a)

/-- Two records in one. -/
def and (r : Record α) (r' : Record β) (hdisjoint : ∀ name ∈ r.names, name ∉ r'.names := by decide) :
    Record (α × β) where
  names := r.names ++ r'.names
  encode p := r.encode p.1 ++ r'.encode p.2
  decode gs := do
    let a ← r.decode gs
    let b ← r'.decode gs
    return (a, b)
  exact := by
    rintro gs ⟨a, b⟩
    rw [readsFields_iff, List.forall_mem_append, ← readsFields_iff, ← readsFields_iff, ← r.exact, ← r'.exact]
    constructor
    · intro h
      obtain ⟨a', ha, h⟩ := Option.bind_eq_some_iff.mp h
      obtain ⟨b', hb, h⟩ := Option.bind_eq_some_iff.mp h
      obtain ⟨rfl, rfl⟩ := Prod.mk.inj (Option.some.inj h)
      exact ⟨ha, hb⟩
    · rintro ⟨ha, hb⟩
      rw [ha, hb]
      rfl
  encode_names p := by rw [List.map_append, r.encode_names, r'.encode_names]
  settled p := by
    refine (r.settled p.1).append (r'.settled p.2) ?_
    rw [r.encode_names, r'.encode_names]
    intro name hname hname'
    exact hdisjoint name hname hname'

/-- What is made of a record. -/
theorem map_exact (r : Record β) (make : β → α) (gs : Fields) (a : α) :
    (r.decode gs).map make = some a ↔ ∃ b, make b = a ∧ ReadsFields gs (r.encode b) := by
  rw [Option.map_eq_some_iff]
  refine exists_congr (fun b => ?_)
  rw [r.exact, and_comm]

/-- The record of a variant, with the variant. -/
theorem settled_cons (r : Record β) {key tag : String} (hkey : key ∉ r.names) (b : β) :
    Settled ((key, .string tag) :: r.encode b) := by
  have hsettled := r.settled b
  refine ⟨?_, ?_⟩
  · rw [List.map_cons, List.nodup_cons, r.encode_names]
    exact ⟨hkey, r.encode_names b ▸ hsettled.nodup⟩
  · rw [List.forall_mem_cons]
    exact ⟨reads_string.mpr rfl, hsettled.self⟩

end Record

/-! ## Unions -/

/-- The union as a value: the variant and its fields in one object. -/
def Tagged.codec (union : Tagged α) : Codec α where
  encode a := object ((union.key, .string (union.tag a)) :: union.encode a)
  decode
    | object gs =>
      match Fields.at gs union.key with
      | [.string t] => union.decode t gs
      | _ => none
    | _ => none
  exact := by
    intro c a
    rw [reads_object]
    constructor
    · intro h
      split at h
      · next gs =>
        refine ⟨gs, rfl, ?_⟩
        rw [ReadsFields, ReadsField]
        split at h
        · next t hat =>
          obtain ⟨rfl, hfields⟩ := (union.exact t gs a).mp h
          exact ⟨Or.inl ⟨_, hat, reads_string.mpr rfl⟩, hfields⟩
        · cases h
      · cases h
    · rintro ⟨gs, rfl, hfields⟩
      rw [ReadsFields, ReadsField] at hfields
      obtain ⟨⟨c, hat, hread⟩ | ⟨h, -⟩, hfields⟩ := hfields
      · show (match Fields.at gs union.key with | [.string t] => union.decode t gs | _ => none) = some a
        rw [hat, reads_string.mp hread]
        exact (union.exact _ _ _).mpr ⟨rfl, hfields⟩
      · cases h
  self a := reads_object.mpr ⟨_, rfl, (union.settled a).reads⟩

end Content
