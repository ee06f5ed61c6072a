import Mathlib.Tactic.Common

/-!
Runs of a machine.

A machine is a total step function.  `AllSteps` says that every step of a run meets a condition on
the state before it, and `AllSteps.invariant` is the rule for what such a run preserves.
-/

namespace Buzz.Lib

section Run

variable {σ α : Type*} {step : σ → α → σ}

/-- Every step of the run of `as` from `s` meets `ok`, in the state it is taken in. -/
def AllSteps (step : σ → α → σ) (ok : σ → α → Prop) : σ → List α → Prop
  | _, [] => True
  | s, a :: as => ok s a ∧ AllSteps step ok (step s a) as

instance AllSteps.decidable {ok : σ → α → Prop} [∀ s a, Decidable (ok s a)] :
    ∀ s as, Decidable (AllSteps step ok s as)
  | _, [] => inferInstanceAs (Decidable True)
  | s, a :: as =>
    haveI : Decidable (AllSteps step ok (step s a) as) := AllSteps.decidable (step s a) as
    inferInstanceAs (Decidable (ok s a ∧ AllSteps step ok (step s a) as))

variable {ok : σ → α → Prop} {as : List α}

lemma allSteps_append {s : σ} {bs : List α} : AllSteps step ok s (as ++ bs) ↔
      AllSteps step ok s as ∧ AllSteps step ok (as.foldl step s) bs := by
  induction as generalizing s with
  | nil => simp [AllSteps]
  | cons a as ih =>
    simp only [List.cons_append, AllSteps, List.foldl_cons]
    rw [ih, and_assoc]

lemma allSteps_of_forall (h : ∀ s a, ok s a) (s : σ) (as : List α) : AllSteps step ok s as := by
  induction as generalizing s with
  | nil => trivial
  | cons a as ih => exact ⟨h s a, ih _⟩

lemma AllSteps.mono {ok' : σ → α → Prop} {s : σ}
    (himp : ∀ s, ∀ a ∈ as, ok s a → ok' s a) (h : AllSteps step ok s as) :
    AllSteps step ok' s as := by
  induction as generalizing s with
  | nil => exact h
  | cons a as ih =>
    obtain ⟨ha, has⟩ := h
    exact ⟨himp s a (List.mem_cons_self ..) ha,
      ih (fun s b hb => himp s b (List.mem_cons_of_mem _ hb)) has⟩

/-- **The invariant rule.** What holds at first and is preserved by every step that meets the
condition holds after every run whose steps all meet it. -/
theorem AllSteps.invariant {I : σ → Prop} (hstep : ∀ s a, I s → ok s a → I (step s a)) {s : σ}
    (h : AllSteps step ok s as) (hs : I s) : I (as.foldl step s) := by
  induction as generalizing s with
  | nil => exact hs
  | cons a as ih =>
    obtain ⟨ha, has⟩ := h
    exact ih has (hstep s a hs ha)

end Run

end Buzz.Lib
