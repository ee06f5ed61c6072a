import Mathlib.Tactic.Common

/-!
Guard chains.

A fallible function that checks one thing after another and returns at the first failure is a chain
of guards in `Except`.  The lemmas say what a chain that succeeded has established, and
where one failed.
-/

namespace Buzz.Lib

section Guard

universe u v

variable {ε ε' : Type u} {α β : Type v}

def refuseIf (c : Prop) [Decidable c] (err : ε) : Except ε Unit := if c then .error err else .ok ()

variable {c : Prop} {err : ε} {f : α → Except ε β} {x : Except ε α} {as : List α}

@[simp] lemma refuseIf_eq_ok [Decidable c] {u : Unit} : refuseIf c err = .ok u ↔ ¬c := by
  unfold refuseIf
  split_ifs with h <;> simp [h]

@[simp] lemma refuseIf_eq_error [Decidable c] {e : ε} :
    refuseIf c err = .error e ↔ c ∧ err = e := by
  unfold refuseIf
  split_ifs with h <;> simp [h]

def okOr (x : Option α) (err : ε) : Except ε α :=
  match x with
  | none => .error err
  | some a => .ok a

@[simp] lemma okOr_eq_ok {x : Option α} {a : α} : okOr x err = .ok a ↔ x = some a := by
  cases x <;> simp [okOr]

lemma okOr_some (a : α) (err : ε) : okOr (some a) err = .ok a := rfl

@[simp] lemma pure_eq_ok {a b : α} : (pure a : Except ε α) = .ok b ↔ a = b := by
  simp [pure, Except.pure]

lemma ok_bind (a : α) (f : α → Except ε β) : ((.ok a : Except ε α) >>= f) = f a := rfl

@[simp] lemma bind_eq_ok {b : β} : (x >>= f) = .ok b ↔ ∃ a, x = .ok a ∧ f a = .ok b := by
  cases x with
  | error e | ok a => simp [bind, Except.bind]

lemma bind_eq_error {e : ε} :
    (x >>= f) = .error e ↔ x = .error e ∨ ∃ a, x = .ok a ∧ f a = .error e := by
  cases x with
  | error e' | ok a => simp [bind, Except.bind]

@[simp] lemma mapError_eq_ok {f : ε → ε'} {a : α} : x.mapError f = .ok a ↔ x = .ok a := by
  cases x <;> simp [Except.mapError]

lemma mapError_eq_error {f : ε → ε'} {e : ε'} :
    x.mapError f = .error e ↔ ∃ e', x = .error e' ∧ f e' = e := by
  cases x <;> simp [Except.mapError]

@[simp] lemma map_eq_ok {f : α → β} {b : β} : x.map f = .ok b ↔ ∃ a, x = .ok a ∧ f a = b := by
  cases x <;> simp [Except.map]

/-- What a chain of guards that succeeded has established, as one rule for `simp`. -/
lemma chain_eq_ok : (∀ {ε α β : Type} {x : Except ε α} {f : α → Except ε β} {b : β},
      (x >>= f) = .ok b ↔ ∃ a, x = .ok a ∧ f a = .ok b) ∧
    (∀ {ε : Type} {c : Prop} [Decidable c] {err : ε} {u : Unit}, refuseIf c err = .ok u ↔ ¬c) ∧
    (∀ {ε α : Type} {x : Option α} {err : ε} {a : α}, okOr x err = .ok a ↔ x = some a) ∧
    (∀ {ε α : Type} {a b : α}, (pure a : Except ε α) = .ok b ↔ a = b) ∧
    (∀ {c : Prop}, ¬¬c ↔ c) ∧ ∀ {p : Prop}, (∃ _ : Unit, p) ↔ p :=
  ⟨bind_eq_ok, refuseIf_eq_ok, okOr_eq_ok, pure_eq_ok, not_not, exists_const _⟩

lemma forM_eq_ok {f : α → Except ε PUnit.{v + 1}} {u : PUnit.{v + 1}} :
    as.forM f = .ok u ↔ ∀ a ∈ as, f a = .ok ⟨⟩ := by
  induction as with
  | nil => simp [List.forM, pure, Except.pure]
  | cons a as ih =>
    rw [List.forM, bind_eq_ok, List.forall_mem_cons, ← ih]
    constructor
    · rintro ⟨_, ha, has⟩
      exact ⟨ha, has⟩
    · rintro ⟨ha, has⟩
      exact ⟨_, ha, has⟩

lemma exists_mem_of_mapM_eq_some {f : α → Option β} {bs : List β} {b : β}
    (h : as.mapM f = some bs) (hb : b ∈ bs) : ∃ a ∈ as, f a = some b := by
  induction as generalizing bs with
  | nil =>
    cases h
    cases hb
  | cons a as ih =>
    simp only [List.mapM_cons, Option.bind_eq_bind, Option.bind_eq_some_iff, Option.pure_def,
      Option.some.injEq] at h
    obtain ⟨first, hfst, rest, hrest, rfl⟩ := h
    rcases List.mem_cons.mp hb with rfl | hb
    · exact ⟨a, List.mem_cons_self, hfst⟩
    · obtain ⟨a', ha', hfa'⟩ := ih hrest hb
      exact ⟨a', List.mem_cons_of_mem _ ha', hfa'⟩

/-! ### How a chain can fail -/

/-- If the computation fails, its error has the property. -/
def FailsOnly (p : ε → Prop) (x : Except ε α) : Prop := ∀ e, x = .error e → p e

variable {p : ε → Prop}

lemma failsOnly_ok (a : α) : FailsOnly p (.ok a : Except ε α) := by
  intro e h
  cases h

lemma failsOnly_error (h : p err) : FailsOnly p (.error err : Except ε α) := by
  rintro e ⟨⟩
  exact h

lemma failsOnly_refuseIf [Decidable c] (h : c → p err) : FailsOnly p (refuseIf c err) := by
  intro e he
  obtain ⟨hc, rfl⟩ := refuseIf_eq_error.mp he
  exact h hc

lemma FailsOnly.bind (hx : FailsOnly p x)
    (hf : ∀ a, x = .ok a → FailsOnly p (f a)) : FailsOnly p (x >>= f) := by
  intro e he
  rcases bind_eq_error.mp he with herr | ⟨a, ha, herr⟩
  · exact hx e herr
  · exact hf a ha e herr

lemma failsOnly_guard {α : Type} [Decidable c] {f : Unit → Except ε α}
    (h : c → p err) (hf : ¬c → FailsOnly p (f ())) : FailsOnly p (refuseIf c err >>= f) :=
  (failsOnly_refuseIf h).bind fun _ hok => hf (refuseIf_eq_ok.mp hok)

lemma failsOnly_forM {f : α → Except ε PUnit.{v + 1}}
    (h : ∀ a ∈ as, FailsOnly p (f a)) : FailsOnly p (as.forM f) := by
  induction as with
  | nil => exact failsOnly_ok _
  | cons a as ih =>
    rw [List.forM]
    refine (h a List.mem_cons_self).bind ?_
    intro _ _
    exact ih fun b hb => h b (List.mem_cons_of_mem _ hb)

end Guard

end Buzz.Lib
