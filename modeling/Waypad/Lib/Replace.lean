import Mathlib.Data.List.AList

/-!
# Waypad.Lib.Replace — looking up in an association list after a replacement

* `lookup_replace`, `lookup_replace_ne`: the key that is replaced, and the others.
-/

namespace AList

variable {α : Type*} {β : α → Type*} [DecidableEq α]

theorem dlookup_kreplace {a : α} (b : β a) : ∀ {l : List (Sigma β)}, a ∈ l.keys →
    (l.kreplace a b).dlookup a = some b
  | [], h => by simp at h
  | ⟨a', b'⟩ :: l, h => by
    unfold List.kreplace
    by_cases ha : a = a'
    · subst ha
      rw [List.lookmap_cons_some _ _ (b := ⟨a, b⟩) (by simp)]
      exact List.dlookup_cons_eq _ _ _
    · rw [List.lookmap_cons_none _ _ (by simp [ha]), List.dlookup_cons_ne _ _ ha]
      exact dlookup_kreplace b (by simpa [ha] using h)

theorem dlookup_kreplace_ne {a a' : α} (b : β a') (h : a ≠ a') : ∀ l : List (Sigma β),
    (l.kreplace a' b).dlookup a = l.dlookup a
  | [] => rfl
  | ⟨a1, b1⟩ :: l => by
    unfold List.kreplace
    by_cases ha : a' = a1
    · subst ha
      rw [List.lookmap_cons_some _ _ (b := ⟨a', b⟩) (by simp), List.dlookup_cons_ne _ _ h,
        List.dlookup_cons_ne _ _ h]
    · rw [List.lookmap_cons_none _ _ (by simp [ha])]
      have ih : (l.lookmap fun s => if a' = s.1 then some ⟨a', b⟩ else none).dlookup a =
          l.dlookup a := dlookup_kreplace_ne b h l
      by_cases h1 : a = a1
      · subst h1
        rw [List.dlookup_cons_eq, List.dlookup_cons_eq]
      · rw [List.dlookup_cons_ne _ _ h1, List.dlookup_cons_ne _ _ h1, ih]

variable {s : AList β}

/-- The entry that is replaced. -/
theorem lookup_replace {a : α} {b b' : β a} (h : s.lookup a = some b') :
    (s.replace a b).lookup a = some b :=
  dlookup_kreplace b (AList.mem_keys.mp (AList.lookup_isSome.mp (by rw [h]; rfl)))

/-- The others stay. -/
theorem lookup_replace_ne {a a' : α} {b : β a'} (h : a ≠ a') :
    (s.replace a' b).lookup a = s.lookup a :=
  dlookup_kreplace_ne b h s.entries

end AList
