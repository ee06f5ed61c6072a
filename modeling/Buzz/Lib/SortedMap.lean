import Mathlib.Algebra.GroupWithZero.Nat
import Mathlib.Data.String.Basic

/-!
Ordered maps.

A map over an ordered key type, kept as a list of entries in increasing order of keys.  Iteration
is the list itself; `get?_insert` is what every later argument about a map rests on.
-/

namespace Buzz.Lib

open List

/-- A map kept in increasing order of its keys. -/
@[ext]
structure SortedMap (K V : Type*) [LinearOrder K] where
  entries : List (K × V)
  sorted : entries.Pairwise fun a b => a.1 < b.1

namespace SortedMap

variable {K V : Type*} [LinearOrder K] (m : SortedMap K V)

instance [DecidableEq V] : DecidableEq (SortedMap K V) := fun m n =>
  decidable_of_iff (m.entries = n.entries) (by cases m; cases n; simp)

def empty : SortedMap K V := ⟨[], List.Pairwise.nil⟩

def keys : List K := m.entries.map Prod.fst

def values : List V := m.entries.map Prod.snd

def size : ℕ := m.entries.length

def find (k : K) : List (K × V) → Option V
  | [] => none
  | (k', v) :: l => if k' = k then some v else find k l

def get? (k : K) : Option V := find k m.entries

def contains (k : K) : Bool := (m.get? k).isSome

/-- Insertion into a list of entries: before the first larger key, over an equal one. -/
def insertEntry (k : K) (v : V) : List (K × V) → List (K × V)
  | [] => [(k, v)]
  | (k', v') :: l =>
    if k < k' then (k, v) :: (k', v') :: l
    else if k = k' then (k, v) :: l
    else (k', v') :: insertEntry k v l

variable {l : List (K × V)} {v : V} {k : K}

lemma mem_of_mem_insertEntry {p : K × V} (h : p ∈ insertEntry k v l) : p = (k, v) ∨ p ∈ l := by
  induction l with
  | nil => simpa [insertEntry] using h
  | cons q l ih =>
    unfold insertEntry at h
    split_ifs at h
    · simpa using h
    · rcases mem_cons.mp h with rfl | h
      · exact .inl rfl
      · exact .inr (mem_cons_of_mem _ h)
    rcases mem_cons.mp h with rfl | h
    · exact .inr mem_cons_self
    · exact (ih h).imp_right (mem_cons_of_mem _)

lemma sum_insertEntry_le (f : K × V → ℕ) (k : K) (v : V) (l : List (K × V)) :
    ((insertEntry k v l).map f).sum ≤ f (k, v) + (l.map f).sum := by
  induction l with
  | nil => simp [insertEntry]
  | cons q l ih =>
    obtain ⟨k', v'⟩ := q
    simp only [insertEntry]
    split_ifs
    · simp
    all_goals
      simp only [map_cons, sum_cons]
      omega

lemma sorted_insertEntry (h : l.Pairwise fun a b => a.1 < b.1) :
    (insertEntry k v l).Pairwise fun a b => a.1 < b.1 := by
  induction l with
  | nil => simp [insertEntry]
  | cons q l ih =>
    obtain ⟨hq, hl⟩ := pairwise_cons.mp h
    unfold insertEntry
    split_ifs with hlt heq
    · refine pairwise_cons.mpr ⟨?_, h⟩
      intro p hp
      rcases mem_cons.mp hp with rfl | hp
      · exact hlt
      · exact lt_trans hlt (hq p hp)
    · refine pairwise_cons.mpr ⟨?_, hl⟩
      intro p hp
      exact heq ▸ hq p hp
    refine pairwise_cons.mpr ⟨?_, ih hl⟩
    intro p hp
    rcases mem_of_mem_insertEntry hp with rfl | hp
    · exact lt_of_le_of_ne (not_lt.mp hlt) (Ne.symm heq)
    · exact hq p hp

def insert (k : K) (v : V) : SortedMap K V :=
  ⟨insertEntry k v m.entries, sorted_insertEntry m.sorted⟩

lemma find_insertEntry (k k' : K) (v : V) (l : List (K × V)) :
    find k' (insertEntry k v l) = if k = k' then some v else find k' l := by
  induction l with
  | nil => rfl
  | cons q l ih =>
    simp only [insertEntry]
    by_cases hlt : k < q.1
    · rw [if_pos hlt, find]
    rw [if_neg hlt]
    by_cases heq : k = q.1
    · subst heq
      rw [if_pos rfl]
      by_cases hk : q.1 = k' <;> simp [find, hk]
    rw [if_neg heq, find, find, ih]
    by_cases hq : q.1 = k'
    · have hk : k ≠ k' := fun hk => heq (hk.trans hq.symm)
      simp [hq, hk]
    · simp [hq]

/-! ### Maps from lists -/

lemma insertEntry_last (h : ∀ e ∈ l, e.1 < k) : insertEntry k v l = l ++ [(k, v)] := by
  induction l with
  | nil => rfl
  | cons e l ih =>
    have hk : e.1 < k := h e mem_cons_self
    rw [insertEntry, if_neg (not_lt_of_gt hk), if_neg (ne_of_gt hk),
      ih fun e' he' => h e' (mem_cons_of_mem _ he'), cons_append]

lemma foldl_insertEntry (rest front : List (K × V))
    (h : (front ++ rest).Pairwise fun a b => a.1 < b.1) :
    rest.foldl (fun l e => insertEntry e.1 e.2 l) front = front ++ rest := by
  induction rest generalizing front with
  | nil => simp
  | cons e rest ih =>
    have hlast : ∀ e' ∈ front, e'.1 < e.1 := fun e' he' =>
      (pairwise_append.mp h).2.2 e' he' e mem_cons_self
    rw [foldl_cons, insertEntry_last hlast, ih, append_assoc, singleton_append]
    simpa using h

def ofEntries (l : List (K × V)) : SortedMap K V := l.foldl (fun m e => m.insert e.1 e.2) empty

lemma ofEntries_entries : ofEntries m.entries = m := by
  have hfold : (ofEntries m.entries).entries = m.entries.foldl (fun l e => insertEntry e.1 e.2 l) [] :=
    (foldl_hom entries fun _ _ => rfl).symm
  rw [foldl_insertEntry m.entries [] m.sorted] at hfold
  exact SortedMap.ext hfold

@[simp] lemma get?_insert (k k' : K) (v : V) :
    (m.insert k v).get? k' = if k = k' then some v else m.get? k' :=
  find_insertEntry k k' v m.entries

@[simp] lemma get?_empty (k : K) : (empty : SortedMap K V).get? k = none := rfl

lemma mem_of_find (h : find k l = some v) : (k, v) ∈ l := by
  induction l with
  | nil => cases h
  | cons q l ih =>
    unfold find at h
    split_ifs at h with hk
    · obtain rfl : q.2 = v := Option.some.inj h
      rw [← hk]
      exact mem_cons_self
    · exact mem_cons_of_mem _ (ih h)

end SortedMap

end Buzz.Lib
