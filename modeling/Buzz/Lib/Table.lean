import Mathlib.Data.List.AList

/-!
Finite tables and posting lists.

A table is an association list with distinct keys.  A *posting table* maps a key to the list of
the items filed under it; `push` files one item, `prune` takes one item out of one list and drops
the list once it is empty, and `pushAll`, `pruneAll` do so for every key of a list of keys.  What a
posting table says is which items stand under which keys, and the lemmas below say how each
operation changes that.
-/

namespace Buzz.Lib

open List

/-- A finite map: an association list with distinct keys. -/
abbrev Table (K V : Type*) := AList fun _ : K => V

namespace Table

variable {K V ι : Type*} [DecidableEq K]

lemma lookup_insert_if (t : Table K V) (k k' : K) (v : V) :
    (t.insert k v).lookup k' = if k' = k then some v else t.lookup k' := by
  split_ifs with h
  · rw [h, AList.lookup_insert]
  · exact AList.lookup_insert_ne h

lemma lookup_erase_if (t : Table K V) (k k' : K) :
    (t.erase k).lookup k' = if k' = k then none else t.lookup k' := by
  split_ifs with h
  · rw [h, AList.lookup_erase]
  · exact AList.lookup_erase_ne h

/-! ### Posting lists -/

def postings (t : Table K (List ι)) (k : K) : List ι := (t.lookup k).getD []

def push (t : Table K (List ι)) (k : K) (x : ι) : Table K (List ι) :=
  t.insert k (postings t k ++ [x])

/-- Take an item out of the list of a key, and drop the list once it is empty. -/
def prune [DecidableEq ι] (t : Table K (List ι)) (k : K) (x : ι) : Table K (List ι) :=
  match t.lookup k with
  | none => t
  | some xs =>
    let rest := xs.filter fun y => ¬ y = x
    if rest = [] then t.erase k else t.insert k rest

def pushAll (t : Table K (List ι)) (ks : List K) (x : ι) : Table K (List ι) :=
  ks.foldl (fun t k => push t k x) t

def pruneAll [DecidableEq ι] (t : Table K (List ι)) (ks : List K) (x : ι) : Table K (List ι) :=
  ks.foldl (fun t k => prune t k x) t

lemma postings_insert (t : Table K (List ι)) (k k' : K) (xs : List ι) :
    postings (t.insert k xs) k' = if k' = k then xs else postings t k' := by
  rw [postings, lookup_insert_if]
  split_ifs <;> rfl

lemma postings_erase (t : Table K (List ι)) (k k' : K) :
    postings (t.erase k) k' = if k' = k then [] else postings t k' := by
  rw [postings, lookup_erase_if]
  split_ifs <;> rfl

lemma erase_insert (t : Table K V) (k : K) (v : V) : (t.insert k v).erase k = t.erase k := by
  apply AList.ext
  exact kerase_cons_eq rfl

section Prune

variable [DecidableEq ι] (t : Table K (List ι))

lemma postings_prune (k k' : K) (x : ι) : postings (prune t k x) k' =
      if k' = k then (postings t k).filter (fun y => ¬ y = x) else postings t k' := by
  unfold prune
  cases hk : t.lookup k with
  | none =>
    have h0 : postings t k = [] := by simp [postings, hk]
    by_cases h : k' = k
    · subst h; simp [h0]
    · simp [h]
  | some xs =>
    have hxs : postings t k = xs := by simp [postings, hk]
    simp only [hxs]
    split
    case isTrue hnil => rw [postings_erase, hnil]
    case isFalse => rw [postings_insert]

lemma mem_postings_prune (k k' : K) (x y : ι) :
    y ∈ postings (prune t k x) k' ↔ y ∈ postings t k' ∧ ¬ (k' = k ∧ y = x) := by
  rw [postings_prune]
  by_cases h : k' = k
  · subst h; simp
  · simp [h]

/-- Pruning in two calls: first the list is shortened, then its key goes. -/
lemma prune_eq (k : K) (x : ι) :
    prune t k x = match t.lookup k with
      | none => t
      | some xs =>
        let kept := xs.filter fun y => ¬ y = x
        if kept = [] then (t.insert k kept).erase k else t.insert k kept := by
  unfold prune
  simp only [erase_insert]

end Prune

/-! ### Selecting rows -/

def select (t : Table K V) (p : K → V → Bool) : Table K V :=
  ⟨t.entries.filter fun e => p e.1 e.2, t.nodupKeys.sublist List.filter_sublist⟩

def find (t : Table K V) (p : K → V → Bool) : Option (K × V) :=
  (t.entries.find? fun e => p e.1 e.2).map fun e => (e.1, e.2)

variable {p : K → V → Bool} {t : Table K V}

lemma lookup_select_eq_some {k : K} {v : V} :
    (t.select p).lookup k = some v ↔ t.lookup k = some v ∧ p k v := by
  rw [← Option.mem_def, ← Option.mem_def, AList.mem_lookup_iff, AList.mem_lookup_iff]
  exact mem_filter

lemma find_eq_some {e : K × V} (h : t.find p = some e) : t.lookup e.1 = some e.2 ∧ p e.1 e.2 := by
  obtain ⟨e, he, rfl⟩ := Option.map_eq_some_iff.mp h
  have hp := find?_some he
  exact ⟨AList.mem_lookup_iff.mpr (mem_of_find?_eq_some he), hp⟩

lemma find_eq_none (h : t.find p = none) {k : K} {v : V}
    (hv : t.lookup k = some v) : p k v = false := by
  have hall := find?_eq_none.mp (Option.map_eq_none_iff.mp h) ⟨k, v⟩ (AList.mem_lookup_iff.mp hv)
  simpa using hall

lemma lookup_insert_eq_some {k k' : K} {v v' : V} :
    (t.insert k v).lookup k' = some v' ↔ k' = k ∧ v = v' ∨ k' ≠ k ∧ t.lookup k' = some v' := by
  rw [lookup_insert_if]
  split_ifs with h <;> simp [h]

lemma lookup_erase_eq_some {k k' : K} {v : V} :
    (t.erase k).lookup k' = some v ↔ k' ≠ k ∧ t.lookup k' = some v := by
  rw [lookup_erase_if]
  split_ifs with h <;> simp [h]

/-! ### Rewriting rows -/

omit [DecidableEq K] in
lemma nodupKeys_map (t : Table K V) (f : K → V → V) :
    (t.entries.map fun e => (⟨e.1, f e.1 e.2⟩ : Sigma fun _ : K => V)).NodupKeys := by
  have hkeys : (t.entries.map fun e => (⟨e.1, f e.1 e.2⟩ : Sigma fun _ : K => V)).keys = t.keys := by
    rw [keys, map_map]
    rfl
  exact (congrArg List.Nodup hkeys).mpr t.nodupKeys

def mapRows (t : Table K V) (f : K → V → V) : Table K V :=
  ⟨t.entries.map fun e => ⟨e.1, f e.1 e.2⟩, nodupKeys_map t f⟩

@[simp] lemma lookup_mapRows (t : Table K V) (f : K → V → V) (k : K) :
    (t.mapRows f).lookup k = (t.lookup k).map (f k) :=
  dlookup_map₂ k

/-! ### Counting rows -/

/-- Of two rows at most one has a given key. -/
lemma exists_key_ne_of_two_le_countP {p : (Sigma fun _ : K => V) → Bool}
    (h : 2 ≤ t.entries.countP p) (k : K) : ∃ e ∈ t.entries, p e ∧ e.1 ≠ k := by
  by_contra hall
  push Not at hall
  have hkeys : (t.entries.filter p).keys = replicate (t.entries.countP p) k := by
    rw [countP_eq_length_filter, ← length_map Sigma.fst]
    refine eq_replicate_of_mem ?_
    intro k' hk'
    obtain ⟨e, he, rfl⟩ := mem_map.mp hk'
    exact hall e (mem_of_mem_filter he) (of_mem_filter he)
  have hnd : (t.entries.filter p).keys.Nodup := t.nodupKeys.sublist filter_sublist
  rw [hkeys, nodup_replicate] at hnd
  omega

end Table

end Buzz.Lib
