import Mathlib.Tactic.Common

/-!
Transactions.

The body of a transaction works on a copy of the state and may fail half way, with some of its
writes made.  `transact` keeps the copy if the body came to its end and throws it away otherwise.
`Ends` says that a body comes to its end, and its lemmas take a body apart statement by statement.
-/

namespace Buzz.Lib

open Except

/-- The body of a transaction over states `σ`: an error comes with the copy as it was left. -/
def Tx (ε σ α : Type) := σ → Except ε α × σ

section Transaction

variable {ε σ α β : Type}

instance Tx.instMonad : Monad (Tx ε σ) where
  pure a := fun s => (.ok a, s)
  bind x f := fun s =>
    match x s with
    | (.ok a, t) => f a t
    | (.error e, t) => (.error e, t)

def Tx.query (f : σ → α) : Tx ε σ α := fun s => (.ok (f s), s)

def Tx.update (f : σ → σ) : Tx ε σ Unit := fun s => (.ok (), f s)

def Tx.check (x : Except ε α) : Tx ε σ α := fun s => (x, s)

/-- One statement that writes, or fails and has written nothing. -/
def Tx.write (f : σ → Except ε σ) : Tx ε σ Unit := fun s =>
  match f s with
  | .ok t => (.ok (), t)
  | .error e => (.error e, s)

/-- Run a body: commit its copy at the end, roll back on an error. -/
def transact (x : Tx ε σ α) (s : σ) : Except ε α × σ :=
  match x s with
  | (.ok a, t) => (.ok a, t)
  | (.error e, _) => (.error e, s)

/-! ### Bodies that come to their end -/

def Tx.Ends (x : Tx ε σ α) (s : σ) (a : α) (t : σ) : Prop := x s = (.ok a, t)

variable {s t : σ} {a : α} {x : Tx ε σ α}

@[simp] lemma ends_pure {b : α} : (pure a : Tx ε σ α).Ends s b t ↔ a = b ∧ s = t := by
  change (ok a, s) = (ok b, t) ↔ _
  rw [Prod.mk.injEq, ok.injEq]

@[simp] lemma ends_query {f : σ → α} : (Tx.query f : Tx ε σ α).Ends s a t ↔ f s = a ∧ s = t := by
  change (ok (f s), s) = (ok a, t) ↔ _
  rw [Prod.mk.injEq, ok.injEq]

@[simp] lemma ends_update {f : σ → σ} {u : Unit} :
    (Tx.update f : Tx ε σ Unit).Ends s u t ↔ f s = t := by
  change (ok (), f s) = (ok u, t) ↔ _
  rw [Prod.mk.injEq]
  simp

@[simp] lemma ends_check {x : Except ε α} :
    (Tx.check x : Tx ε σ α).Ends s a t ↔ x = .ok a ∧ s = t := by
  change (x, s) = (ok a, t) ↔ _
  rw [Prod.mk.injEq]

@[simp] lemma ends_write {f : σ → Except ε σ} {u : Unit} :
    (Tx.write f : Tx ε σ Unit).Ends s u t ↔ f s = .ok t := by
  unfold Tx.Ends Tx.write
  cases f s <;> simp

@[simp] lemma ends_bind {f : α → Tx ε σ β} {b : β} :
    (x >>= f).Ends s b t ↔ ∃ a u, x.Ends s a u ∧ (f a).Ends u b t := by
  have hrun : (x >>= f) s = match x s with
      | (.ok a, u) => f a u
      | (.error e, u) => (.error e, u) := rfl
  unfold Tx.Ends
  rw [hrun]
  rcases x s with ⟨e | a, u⟩
  · constructor
    · intro h
      cases h
    · rintro ⟨_, _, h, _⟩
      cases h
  constructor
  · intro h
    exact ⟨a, u, rfl, h⟩
  · rintro ⟨_, _, ⟨⟩, h⟩
    exact h

lemma Tx.Ends.bind {f : α → Tx ε σ β} {b : β} {u : σ} (hx : x.Ends s a u)
    (hf : (f a).Ends u b t) : (x >>= f).Ends s b t :=
  ends_bind.mpr ⟨a, u, hx, hf⟩

/-! ### Atomicity -/

lemma transact_of_ends (h : x.Ends s a t) : transact x s = (.ok a, t) := by
  unfold transact
  rw [h]

/-- **Atomicity.** A transaction commits the copy its body ended with, or fails and leaves the state
alone. -/
theorem transact_cases (x : Tx ε σ α) (s : σ) :
    (∃ a t, x.Ends s a t ∧ transact x s = (.ok a, t)) ∨ ∃ e, transact x s = (.error e, s) := by
  rcases h : x s with ⟨e | a, t⟩
  · right
    refine ⟨e, ?_⟩
    unfold transact
    rw [h]
  · left
    exact ⟨a, t, h, transact_of_ends h⟩

lemma ends_of_transact (h : (transact x s).1 = .ok a) : ∃ t, x.Ends s a t := by
  rcases transact_cases x s with ⟨b, t, hends, heq⟩ | ⟨e, heq⟩
  · rw [heq] at h
    exact ⟨t, ok.inj h ▸ hends⟩
  · rw [heq] at h
    cases h

end Transaction

end Buzz.Lib
