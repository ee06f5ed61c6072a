import Buzz.Lib.Guard

/-!
Two runs in lockstep.

`Lockstep R` relates the results of two fallible computations: both succeed with values that `R`
relates, or both fail with the same error.  It goes through sequencing and loops, so that two runs
which start in related states and take related steps end alike.
-/

namespace Buzz.Lib

section Lockstep

universe u v

variable {ε ε' : Type u} {α β σ : Type v}

inductive Lockstep (R : α → α → Prop) : Except ε α → Except ε α → Prop
  | ok {a b : α} (h : R a b) : Lockstep R (.ok a) (.ok b)
  | error (e : ε) : Lockstep R (.error e) (.error e)

variable {R : α → α → Prop} {S : β → β → Prop} {x y : Except ε α}

lemma Lockstep.bind {f g : α → Except ε β} (h : Lockstep R x y)
    (hfg : ∀ a b, R a b → Lockstep S (f a) (g b)) : Lockstep S (x >>= f) (y >>= g) := by
  cases h with
  | ok hab => exact hfg _ _ hab
  | error e => exact .error e

lemma Lockstep.mapError {f : ε → ε'} (h : Lockstep R x y) :
    Lockstep R (x.mapError f) (y.mapError f) := by
  cases h with
  | ok hab => exact .ok hab
  | error e => exact .error (f e)

/-- **The loop rule** for two runs. -/
theorem Lockstep.foldlM {T : σ → σ → Prop} {step : σ → α → Except ε σ} {as : List α}
    (hstep : ∀ a ∈ as, ∀ s s', T s s' → Lockstep T (step s a) (step s' a)) {s s' : σ}
    (hs : T s s') : Lockstep T (as.foldlM step s) (as.foldlM step s') := by
  induction as generalizing s s' with
  | nil => exact .ok hs
  | cons a as ih =>
    rw [List.foldlM_cons, List.foldlM_cons]
    refine (hstep a List.mem_cons_self s s' hs).bind ?_
    intro t t' ht
    exact ih (fun b hb => hstep b (List.mem_cons_of_mem _ hb)) ht

/-- What is computed further from results that agree where it looks is the same. -/
lemma Lockstep.bind_eq {f g : α → Except ε β} (h : Lockstep R x y)
    (hfg : ∀ a b, R a b → f a = g b) : (x >>= f) = (y >>= g) := by
  cases h with
  | ok hab => exact hfg _ _ hab
  | error e => rfl

end Lockstep

end Buzz.Lib
