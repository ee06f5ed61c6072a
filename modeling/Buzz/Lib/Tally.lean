import Mathlib.Algebra.BigOperators.Group.Multiset.Basic
import Mathlib.Data.List.AList
import Mathlib.Data.List.Sort
import Mathlib.Tactic.Abel

/-!
Counting what tables hold.

A table whose values stand for collections of items has a *tally*: the multiset of all of them.  The
lemmas say how an update of one entry changes the tally, in the form "new tally plus what was there
equals old tally plus what is put there", so that they chain without subtraction.  `retain` keeps the
entries that pass a test, and `iter` lists the entries in the order of a rank, which stands for the
order a hash table happens to be walked in.
-/

namespace Buzz.Lib

open List

section Tally

variable {K : Type*} {β : K → Type*} {ι : Type*}

def tally (f : ∀ k, β k → Multiset ι) (t : AList β) : Multiset ι :=
  (t.entries.map fun e => f e.1 e.2).sum

section Update

variable [DecidableEq K] (f : ∀ k, β k → Multiset ι) (t : AList β) (k : K)

def tallyAt : Multiset ι := (t.lookup k).elim 0 (f k)

lemma tallyAt_of_lookup {v : β k} (h : t.lookup k = some v) : tallyAt f t k = f k v := by
  rw [tallyAt, h]
  rfl

lemma tallyAt_of_none (h : t.lookup k = none) : tallyAt f t k = 0 := by
  rw [tallyAt, h]
  rfl

lemma tally_erase : tally f (t.erase k) + tallyAt f t k = tally f t := by
  by_cases hk : k ∈ t
  · obtain ⟨v, l₁, l₂, hnot, hents, hers⟩ := exists_of_kerase hk
    have hget : t.lookup k = some v := by
      rw [← Option.mem_def, AList.mem_lookup_iff, hents]
      simp
    rw [tallyAt_of_lookup f t k hget]
    show ((kerase k t.entries).map fun e => f e.1 e.2).sum + _ = _
    rw [hers, tally, hents]
    simp only [map_append, map_cons, sum_append, sum_cons]
    abel
  have hnone : t.lookup k = none := AList.lookup_eq_none.mpr hk
  have hers : t.erase k = t := by
    apply AList.ext
    exact kerase_of_notMem_keys hk
  rw [tallyAt_of_none f t k hnone, hers, add_zero]

lemma tally_insert (v : β k) : tally f (t.insert k v) = tally f (t.erase k) + f k v := by
  rw [tally, AList.entries_insert, map_cons, sum_cons, add_comm]
  rfl

/-- An update puts the new items in the place of the old ones. -/
lemma tally_insert_add (v : β k) : tally f (t.insert k v) + tallyAt f t k = tally f t + f k v := by
  rw [tally_insert, ← tally_erase f t k]
  abel

end Update

/-! ### Tables of lists -/

section Lists

variable [DecidableEq K] {γ : K → Type*} (t : AList fun k => List (γ k)) (k : K)

def listAt : List (γ k) := (t.lookup k).getD []

def setList (xs : List (γ k)) : AList fun k => List (γ k) :=
  if xs.isEmpty then t.erase k else t.insert k xs

variable (f : ∀ k, List (γ k) → Multiset ι) (hf : f k [] = 0)

include hf

lemma tallyAt_eq_listAt : tallyAt f t k = f k (listAt t k) := by
  unfold tallyAt listAt
  cases t.lookup k with
  | none => exact hf.symm
  | some xs => rfl

variable {t k f} {xs : List (γ k)}

/-- **Replacing a list.** What the new list holds less of (`out`) and more of (`into`) than the old
one is what the table does. -/
lemma tally_insert_list {out into : Multiset ι} (h : f k xs + out = f k (listAt t k) + into) :
    tally f (t.insert k xs) + out = tally f t + into := by
  have hadd := tally_insert_add f t k xs
  rw [tallyAt_eq_listAt t k f hf] at hadd
  refine add_right_cancel (b := f k (listAt t k)) ?_
  calc tally f (t.insert k xs) + out + f k (listAt t k)
      = tally f (t.insert k xs) + f k (listAt t k) + out := by abel
    _ = tally f t + (f k xs + out) := by rw [hadd, add_assoc]
    _ = tally f t + into + f k (listAt t k) := by rw [h]; abel

lemma tally_insert_of_add {into : Multiset ι}
    (h : f k xs = f k (listAt t k) + into) : tally f (t.insert k xs) = tally f t + into := by
  have hout := tally_insert_list hf (show f k xs + 0 = _ by rw [add_zero, h])
  rwa [add_zero] at hout

lemma tally_setList_list {out : Multiset ι}
    (h : f k xs + out = f k (listAt t k)) : tally f (setList t k xs) + out = tally f t := by
  cases xs with
  | cons x xs =>
    have hinto := tally_insert_list hf (h.trans (add_zero _).symm)
    rwa [add_zero] at hinto
  | nil =>
    -- the entry is dropped, and held as much as an empty list
    show tally f (t.erase k) + out = _
    rw [← tally_erase f t k, tallyAt_eq_listAt t k f hf, ← h, hf, zero_add]

end Lists

/-! ### Retaining entries -/

def retain (p : ∀ k, β k → Bool) (t : AList β) : AList β where
  entries := t.entries.filter fun e => p e.1 e.2
  nodupKeys := t.nodupKeys.sublist List.filter_sublist

lemma tally_retain (f : ∀ k, β k → Multiset ι) (p : ∀ k, β k → Bool) (t : AList β) :
    tally f (retain p t) + tally f (retain (fun k v => !p k v) t) = tally f t := by
  have hperm := filter_append_perm (fun e : Sigma β => p e.1 e.2) t.entries
  have hsum := (hperm.map fun e => f e.1 e.2).sum_eq
  rw [map_append, sum_append] at hsum
  exact hsum

lemma lookup_retain [DecidableEq K] (p : ∀ k, β k → Bool) (t : AList β) (k : K) :
    (retain p t).lookup k = (t.lookup k).filter (p k) := by
  ext v
  rw [← Option.mem_def, ← Option.mem_def, AList.mem_lookup_iff, Option.mem_filter_iff,
    AList.mem_lookup_iff]
  exact mem_filter

/-! ### Walking a table -/

def iter (rank : K → ℕ) (t : AList β) : List (Sigma β) :=
  t.entries.insertionSort fun e e' => rank e.1 ≤ rank e'.1

lemma mem_iter {rank : K → ℕ} {t : AList β} {e : Sigma β} : e ∈ iter rank t ↔ e ∈ t.entries :=
  mem_insertionSort _

end Tally

/-! ### Rows with a key -/

lemma countP_eq_countP_key_ne_add {ι κ : Type*} [DecidableEq κ] {f : ι → κ} {l : List ι}
    (hl : (l.map f).Nodup) {a : ι} (ha : a ∈ l) (p : ι → Bool) :
    l.countP p = l.countP (fun x => p x && f x ≠ f a) + if p a then 1 else 0 := by
  induction l with
  | nil => cases ha
  | cons b l ih =>
    obtain ⟨hb, hl⟩ := nodup_cons.mp hl
    rw [countP_cons, countP_cons]
    rcases mem_cons.mp ha with rfl | ha
    · have hrest : l.countP (fun x => p x && f x ≠ f a) = l.countP p := by
        refine countP_congr fun x hx => ?_
        have hne : f x ≠ f a := fun heq => hb (heq ▸ mem_map_of_mem hx)
        simp [hne]
      rw [hrest]
      simp
    have hne : f b ≠ f a := fun heq => hb (heq ▸ mem_map_of_mem ha)
    have hrest := ih hl ha
    simp only [ne_eq, hne, not_false_eq_true, decide_true, Bool.and_true] at hrest ⊢
    omega

end Buzz.Lib
