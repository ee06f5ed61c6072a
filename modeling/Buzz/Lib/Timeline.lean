import Mathlib.Tactic.Common

/-!
Versions of a store.

A request reads a store with several statements, and other requests write it between them.  So each
read sees some version of the store that is not younger than the one the request writes to at last.
A timeline keeps the versions; `ago` is the version some writes ago.

`Lawful P R` says that every version satisfies `P` and that `R` leads from each version to the next
one.  A write extends a lawful timeline when it keeps `P` and is a step of `R` (`Lawful.push`), and for
a preorder `R` an older version is related to every younger one (`Lawful.ago_add_le`).
-/

namespace Buzz.Lib

/-- The present version of a store and the ones before it, the youngest first. -/
structure Timeline (σ : Type*) where
  now : σ
  past : List σ

namespace Timeline

variable {σ : Type*}

def push (t : Timeline σ) (s : σ) : Timeline σ := ⟨s, t.now :: t.past⟩

/-- The version `n` writes before the one that stands before `past`. -/
def back (now : σ) : List σ → ℕ → σ
  | _, 0 => now
  | [], _ + 1 => now
  | s :: past, n + 1 => back s past n

def ago (t : Timeline σ) (n : ℕ) : σ := back t.now t.past n

/-- Each version leads to the next one. -/
def Evolves (R : σ → σ → Prop) : σ → List σ → Prop
  | _, [] => True
  | now, s :: past => R s now ∧ Evolves R s past

/-- Every version satisfies `P` and leads to the next one. -/
structure Lawful (P : σ → Prop) (R : σ → σ → Prop) (t : Timeline σ) : Prop where
  present : P t.now
  before : ∀ s ∈ t.past, P s
  evolves : Evolves R t.now t.past

variable {P : σ → Prop} {R : σ → σ → Prop} {t : Timeline σ}

lemma back_mem (now : σ) (past : List σ) (n : ℕ) : back now past n ∈ now :: past := by
  induction past generalizing now n with
  | nil =>
    cases n with
    | zero | succ n => exact List.mem_cons_self ..
  | cons s past ih =>
    cases n with
    | zero => exact List.mem_cons_self ..
    | succ n => exact List.mem_cons_of_mem _ (ih s n)

lemma Evolves.back_le_now [Std.Refl R] [IsTrans σ R] {now : σ} {past : List σ}
    (h : Evolves R now past) (n : ℕ) : R (back now past n) now := by
  induction past generalizing now n with
  | nil =>
    cases n with
    | zero => exact refl now
    | succ n => exact refl now
  | cons s past ih =>
    cases n with
    | zero => exact refl now
    | succ n => exact IsTrans.trans _ _ _ (ih h.2 n) h.1

lemma Evolves.back_add_le [Std.Refl R] [IsTrans σ R] {now : σ} {past : List σ}
    (h : Evolves R now past) (m n : ℕ) : R (back now past (m + n)) (back now past n) := by
  induction past generalizing now n with
  | nil =>
    have hnow (k : ℕ) : back now [] k = now := by cases k <;> rfl
    rw [hnow, hnow]
    exact refl now
  | cons s past ih =>
    cases n with
    | zero => exact h.back_le_now m
    | succ n => exact ih h.2 n

namespace Lawful

variable (h : t.Lawful P R)

include h

lemma push {s : σ} (hs : P s) (hstep : R t.now s) : (t.push s).Lawful P R where
  present := hs
  before := by
    intro s' hs'
    rcases List.mem_cons.mp hs' with rfl | hs'
    · exact h.present
    · exact h.before s' hs'
  evolves := ⟨hstep, h.evolves⟩

lemma ago (n : ℕ) : P (t.ago n) := by
  rcases List.mem_cons.mp (back_mem t.now t.past n) with heq | hmem
  · have hnow : t.ago n = t.now := heq
    rw [hnow]
    exact h.present
  · exact h.before _ hmem

lemma ago_le_now [Std.Refl R] [IsTrans σ R] (n : ℕ) : R (t.ago n) t.now :=
  h.evolves.back_le_now n

lemma ago_add_le [Std.Refl R] [IsTrans σ R] (m n : ℕ) : R (t.ago (m + n)) (t.ago n) :=
  h.evolves.back_add_le m n

end Lawful

end Timeline

end Buzz.Lib
