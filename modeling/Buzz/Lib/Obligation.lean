import Mathlib.Tactic.Common

/-!
Obligations.

A machine keeps a log.  An entry may raise obligations and may settle some, and a state may vouch for
an obligation.  `Extends s t` says of a piece of a run that it drops no obligation: what the state
vouched for at its beginning, and what was raised on the way, is settled by a later entry or vouched
for at its end.  Pieces compose (`Extends.trans`, `Extends.foldl`), and at the end of a run every
obligation of the log is settled later in the log or vouched for (`Extends.met`).
-/

namespace Buzz.Lib

open List

/-- A log, the obligations its entries raise and settle, and those a state vouches for. -/
structure Ledger (σ ο β : Type*) where
  log : σ → List ο
  raises : ο → β → Prop
  settles : ο → β → Prop
  vouches : σ → β → Prop

namespace Ledger

variable {σ ο β α : Type*} (L : Ledger σ ο β) {s t u : σ}

def Settled (entries : List ο) (b : β) : Prop := ∃ o ∈ entries, L.settles o b

/-- Every obligation raised among the entries is settled by a later one or vouched for. -/
def Met (entries : List ο) (t : σ) : Prop :=
  ∀ before o after b, entries = before ++ o :: after → L.raises o b →
    L.Settled after b ∨ L.vouches t b

/-- From `s` to `t` no obligation is dropped. -/
def Extends (s t : σ) : Prop :=
  ∃ entries, L.log t = L.log s ++ entries ∧
    (∀ b, L.vouches s b → L.Settled entries b ∨ L.vouches t b) ∧ L.Met entries t

variable {L} {entries more : List ο}

lemma Settled.append_left {b : β} (h : L.Settled entries b) : L.Settled (entries ++ more) b := by
  obtain ⟨o, ho, hb⟩ := h
  exact ⟨o, mem_append_left _ ho, hb⟩

lemma Settled.append_right {b : β} (h : L.Settled more b) : L.Settled (entries ++ more) b := by
  obtain ⟨o, ho, hb⟩ := h
  exact ⟨o, mem_append_right _ ho, hb⟩

/-- What was met up to `s` is met up to `t` if the entries between settle, or `t` vouches for, what
`s` vouched for. -/
lemma Met.append (h : L.Met entries s)
    (hkeep : ∀ b, L.vouches s b → L.Settled more b ∨ L.vouches t b) (hmore : L.Met more t) :
    L.Met (entries ++ more) t := by
  intro before o after b heq hraises
  rcases append_eq_append_iff.mp heq with ⟨mid, rfl, hmid⟩ | ⟨mid, rfl, hmid⟩
  · exact hmore mid o after b hmid hraises
  cases mid with
  | nil => exact hmore [] o after b hmid.symm hraises
  | cons o' mid =>
    obtain ⟨rfl, rfl⟩ := cons.inj hmid
    rcases h before o mid b rfl hraises with hset | hvouches
    · exact .inl hset.append_left
    · exact (hkeep b hvouches).imp_left Settled.append_right

lemma Extends.refl (s : σ) : L.Extends s s := by
  refine ⟨[], (append_nil _).symm, fun _ h => .inr h, ?_⟩
  intro before o after b heq
  simp at heq

lemma Extends.trans (h : L.Extends s t) (h' : L.Extends t u) : L.Extends s u := by
  obtain ⟨entries, hlog, hkeep, hmet⟩ := h
  obtain ⟨more, hlog', hkeep', hmet'⟩ := h'
  refine ⟨entries ++ more, ?_, ?_, hmet.append hkeep' hmet'⟩
  · rw [hlog', hlog, append_assoc]
  intro b hb
  rcases hkeep b hb with hset | hvouches
  · exact .inl hset.append_left
  · exact (hkeep' b hvouches).imp_left Settled.append_right

/-- **The loop rule.** A loop drops no obligation if no round does. -/
lemma Extends.foldl {f : σ → α → σ} (h : ∀ s a, L.Extends s (f s a)) (s : σ) (as : List α) :
    L.Extends s (as.foldl f s) := by
  induction as generalizing s with
  | nil => exact .refl s
  | cons a as ih => exact (h s a).trans (ih (f s a))

/-- **Nothing is forgotten.** What was met is met after a piece that drops no obligation. -/
theorem Extends.met (h : L.Extends s t) (hs : L.Met (L.log s) s) : L.Met (L.log t) t := by
  obtain ⟨entries, hlog, hkeep, hmet⟩ := h
  rw [hlog]
  exact hs.append hkeep hmet

/-- A piece that writes nothing and keeps what is vouched for. -/
lemma Extends.of_quiet (hlog : L.log t = L.log s) (hkeep : ∀ b, L.vouches s b → L.vouches t b) :
    L.Extends s t := by
  refine ⟨[], by rw [hlog, append_nil], fun b hb => .inr (hkeep b hb), ?_⟩
  intro before o after b heq
  simp at heq

/-- A piece that writes one entry. -/
lemma Extends.of_entry {o : ο} (hlog : L.log t = L.log s ++ [o])
    (hkeep : ∀ b, L.vouches s b → L.settles o b ∨ L.vouches t b)
    (hraise : ∀ b, L.raises o b → L.vouches t b) : L.Extends s t := by
  refine ⟨[o], hlog, ?_, ?_⟩
  · intro b hb
    exact (hkeep b hb).imp_left fun h => ⟨o, mem_singleton_self o, h⟩
  intro before o' after b heq hraises
  cases before with
  | nil =>
    obtain ⟨rfl, rfl⟩ := cons.inj heq
    exact .inr (hraise b hraises)
  | cons _ before => simp at heq

end Ledger

end Buzz.Lib
