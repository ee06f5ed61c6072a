import Buzz.Lib.Run

/-!
Runs with and without some of their steps.

A machine with outputs takes a step and shows something.  Some of its inputs are left out of a second
run, and some of its outputs are seen.  `Unwinding` has what has to be shown of a relation between the
two runs, step by step; then the two runs show the same (`Unwinding.outputs_eq`).
-/

namespace Buzz.Lib

section Unwinding

variable {σ α ω : Type*}

def outputs (step : σ → α → σ × List ω) : σ → List α → List ω
  | _, [] => []
  | s, a :: as => (step s a).2 ++ outputs step (step s a).1 as

/-- The relation is kept by every input that stays, on both sides, and by every input that is left
out, on one.  The inputs may be assumed to meet `ok`, in the state of the run that has them all. -/
structure Unwinding (step : σ → α → σ × List ω) (stays : α → Bool) (seen : ω → Bool)
    (ok : σ → α → Prop) (R : σ → σ → Prop) : Prop where
  both : ∀ {s s' : σ} {a : α}, R s s' → ok s a → stays a →
    R (step s a).1 (step s' a).1 ∧ (step s a).2.filter seen = (step s' a).2.filter seen
  left : ∀ {s s' : σ} {a : α}, R s s' → ok s a → stays a = false →
    R (step s a).1 s' ∧ (step s a).2.filter seen = []

/-- **The unwinding rule.** -/
theorem Unwinding.outputs_eq {step : σ → α → σ × List ω} {stays : α → Bool} {seen : ω → Bool}
    {ok : σ → α → Prop} {R : σ → σ → Prop} (hu : Unwinding step stays seen ok R) {s s' : σ}
    {as : List α} (hR : R s s') (hok : AllSteps (fun s a => (step s a).1) ok s as) :
    (outputs step s as).filter seen = (outputs step s' (as.filter stays)).filter seen := by
  induction as generalizing s s' with
  | nil => rfl
  | cons a as ih =>
    obtain ⟨ha, has⟩ := hok
    rw [outputs, List.filter_append]
    cases hsty : stays a with
    | true =>
      obtain ⟨hnext, hout⟩ := hu.both hR ha hsty
      rw [List.filter_cons_of_pos hsty, outputs, List.filter_append, hout, ih hnext has]
    | false =>
      obtain ⟨hnext, hout⟩ := hu.left hR ha hsty
      have hnot : ¬ stays a := by simp [hsty]
      rw [List.filter_cons_of_neg hnot, hout, List.nil_append, ih hnext has]

end Unwinding

end Buzz.Lib
