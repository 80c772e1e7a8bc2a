import Mathlib.Data.List.Basic

/-!
# Waypad.Lib.FirstMatch — update the first element of a list that satisfies a test

`modifyFirst p f l` is `iter_mut().find(p)` followed by the assignment `f`: the updated element and
the updated list, or `none` when no element passes the test.  Everything is read off the inversion
`modifyFirst_eq_some`: the list splits at the first match.
-/

namespace FirstMatch

variable {α β : Type*} {p : α → Bool} {f : α → α}

/-- Update the first element that passes the test. -/
def modifyFirst (p : α → Bool) (f : α → α) : List α → Option (α × List α)
  | [] => none
  | x :: xs =>
    if p x then some (f x, f x :: xs)
    else (modifyFirst p f xs).map (fun r => (r.1, x :: r.2))

/-- **Inversion**: the list splits at the first match, and only that element changes. -/
theorem modifyFirst_eq_some {l l' : List α} {y : α} (h : modifyFirst p f l = some (y, l')) :
    ∃ l1 x l2, l = l1 ++ x :: l2 ∧ (∀ z ∈ l1, p z = false) ∧ p x = true ∧ y = f x ∧
      l' = l1 ++ f x :: l2 := by
  induction l generalizing l' with
  | nil => simp [modifyFirst] at h
  | cons x xs ih =>
    rw [modifyFirst] at h
    by_cases hx : p x = true
    · rw [if_pos hx] at h
      simp only [Option.some.injEq, Prod.mk.injEq] at h
      obtain ⟨rfl, rfl⟩ := h
      exact ⟨[], x, xs, rfl, by simp, hx, rfl, rfl⟩
    · rw [if_neg hx, Option.map_eq_some_iff] at h
      obtain ⟨⟨z, zs⟩, hz, he⟩ := h
      simp only [Prod.mk.injEq] at he
      obtain ⟨rfl, rfl⟩ := he
      obtain ⟨l1, w, l2, rfl, h1, h2, h3, rfl⟩ := ih hz
      refine ⟨x :: l1, w, l2, rfl, ?_, h2, h3, rfl⟩
      intro v hv
      rcases List.mem_cons.mp hv with rfl | hv
      · simpa using hx
      · exact h1 v hv

theorem modifyFirst_eq_none {l : List α} : modifyFirst p f l = none ↔ ∀ x ∈ l, p x = false := by
  induction l with
  | nil => simp [modifyFirst]
  | cons x xs ih =>
    rw [modifyFirst, List.forall_mem_cons]
    by_cases hx : p x = true
    · simp [hx]
    · rw [if_neg hx, Option.map_eq_none_iff, ih]
      simp [hx]

/-- What the test excludes is not touched. -/
theorem filter_modifyFirst {l l' : List α} {y : α} {q : α → Bool} (hp : ∀ x, p x = true → q x = false)
    (hq : ∀ x, q (f x) = q x) (h : modifyFirst p f l = some (y, l')) : l'.filter q = l.filter q := by
  obtain ⟨l1, x, l2, rfl, -, hx, -, rfl⟩ := modifyFirst_eq_some h
  have hold : q x = false := hp x hx
  have hnew : q (f x) = false := (hq x).trans hold
  simp [hold, hnew]

/-- A field the update leaves alone is the same list of values afterwards. -/
theorem modifyFirst_map {l l' : List α} {y : α} (g : α → β) (hg : ∀ x, g (f x) = g x)
    (h : modifyFirst p f l = some (y, l')) : l'.map g = l.map g := by
  obtain ⟨l1, x, l2, rfl, -, -, -, rfl⟩ := modifyFirst_eq_some h
  simp [hg]

/-- Every element afterwards was there before, or is the update of one that was. -/
theorem mem_modifyFirst {l l' : List α} {y z : α} (h : modifyFirst p f l = some (y, l'))
    (hz : z ∈ l') : z ∈ l ∨ ∃ x ∈ l, p x = true ∧ z = f x := by
  obtain ⟨l1, x, l2, rfl, -, hx, -, rfl⟩ := modifyFirst_eq_some h
  simp only [List.mem_append, List.mem_cons] at hz ⊢
  rcases hz with hz | rfl | hz
  · exact Or.inl (Or.inl hz)
  · exact Or.inr ⟨x, by simp, hx, rfl⟩
  · exact Or.inl (Or.inr (Or.inr hz))

end FirstMatch
