import Mathlib.Logic.Basic

/-!
# Waypad.Lib.Abrupt — computations that may stop early, in the state they have come to

* `Post Q E m`: a result of `m` meets `Q`, and the state it stops in without one meets `E`.
* `Post.bind`, `Post.ite`, `Post.opt`: the rules.
-/

universe u

namespace Abrupt

variable {ε σ : Type*} {α β : Type u} {Q R : α → Prop} {E : σ → Prop} {m n : Except (ε × σ) α}

/-- A result meets `Q`; the state of an early stop meets `E`. -/
def Post (Q : α → Prop) (E : σ → Prop) : Except (ε × σ) α → Prop
  | .ok a => Q a
  | .error (_, s) => E s

theorem Post.ok {a : α} (h : Q a) : Post Q E (.ok a : Except (ε × σ) α) := h

theorem Post.error {err : ε} {s : σ} (h : E s) : Post Q E (.error (err, s) : Except (ε × σ) α) := h

/-- **Sequencing rule**. -/
theorem Post.bind {Q : β → Prop} {f : α → Except (ε × σ) β} (h : Post R E m)
    (hf : ∀ a, R a → Post Q E (f a)) : Post Q E (m >>= f) := by
  cases m with
  | ok a => exact hf a h
  | error stop => exact h

/-- **Conditional rule**. -/
theorem Post.ite {c : Prop} [Decidable c] (hm : c → Post Q E m) (hn : ¬ c → Post Q E n) :
    Post Q E (if c then m else n) := by
  split
  · next hc => exact hm hc
  · next hc => exact hn hc

/-- **Rule for a step that is made or left out**. -/
theorem Post.opt {Q : β → Prop} {f : α → Except (ε × σ) β} {c : Prop} [Decidable c] {a : α} (hm : c → Post R E m)
    (ha : ¬ c → R a) (hf : ∀ a, R a → Post Q E (f a)) :
    Post Q E (if c then m >>= f else (.ok a : Except (ε × σ) α) >>= f) :=
  .ite (fun hc => (hm hc).bind hf) (fun hc => hf a (ha hc))

end Abrupt
