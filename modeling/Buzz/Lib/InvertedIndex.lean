import Mathlib.Data.List.Nodup

/-!
Inverted indexes over a set of live entries.

Every live entry has a list of references, and an index lists under each reference the items whose
entry has it.  `Indexes` says that an index is exact in that sense.  Two facts make it useful:

* `Indexes.change`: replacing (adding, dropping) the entry of one item keeps the index exact, as
  long as the listings of that one item are replaced too;
* `mem_collect_of_indexes`: gathering the items listed under some references, checking each and
  dropping repetitions, finds every matching item, provided each matching entry has one of the
  references that are looked up.
-/

namespace Buzz.Lib

open List Or

/-! ### Lists without repetitions, grown at the end -/

section PushNew

variable {α β : Type*} [DecidableEq α]

def pushNew (acc : List α) (x : α) : List α := if x ∈ acc then acc else acc ++ [x]

variable {acc xs : List α} (p : α → Bool)

@[simp] lemma mem_pushNew {x y : α} : y ∈ pushNew acc x ↔ y ∈ acc ∨ y = x := by
  unfold pushNew
  split
  · constructor
    · exact inl
    · rintro (h | rfl) <;> assumption
  · simp

lemma nodup_pushNew {x : α} (h : acc.Nodup) : (pushNew acc x).Nodup := by
  unfold pushNew
  split
  · exact h
  rename_i hx
  rw [nodup_append]
  refine ⟨h, nodup_singleton x, ?_⟩
  rintro a ha b hb rfl
  exact hx (mem_singleton.mp hb ▸ ha)

lemma mem_foldl_pushNew {y : α} : y ∈ xs.foldl pushNew acc ↔ y ∈ acc ∨ y ∈ xs := by
  induction xs generalizing acc with
  | nil => simp
  | cons x xs ih => rw [foldl_cons, ih, mem_pushNew, mem_cons, or_assoc]

omit [DecidableEq α] in
/-- A partial fold that only grows its list: what each round contributed is in the result. -/
lemma foldlM_grow {f : List α → β → Option (List α)}
    (hf : ∀ acc b acc', f acc b = some acc' → acc ⊆ acc') {bs : List β} {out : List α}
    (h : bs.foldlM f acc = some out) :
    acc ⊆ out ∧ ∀ b ∈ bs, ∃ acc₁ acc₂, f acc₁ b = some acc₂ ∧ acc₂ ⊆ out := by
  induction bs generalizing acc with
  | nil =>
    obtain rfl : acc = out := by simpa using h
    exact ⟨fun _ ha => ha, fun b hb => absurd hb not_mem_nil⟩
  | cons b bs ih =>
    rw [foldlM_cons, Option.bind_eq_bind, Option.bind_eq_some_iff] at h
    obtain ⟨acc', hb, hrest⟩ := h
    obtain ⟨hsub, hall⟩ := ih hrest
    refine ⟨fun a ha => hsub (hf acc b acc' hb ha), fun d hd => ?_⟩
    rcases mem_cons.mp hd with rfl | hd
    · exact ⟨acc, acc', hb, hsub⟩
    · exact hall d hd

/-- Scan candidates in order and keep each one that passes, once. -/
def collect (acc : List α) (xs : List α) : List α :=
  xs.foldl (fun acc x => if p x then pushNew acc x else acc) acc

lemma collect_append (acc xs ys : List α) :
    collect p acc (xs ++ ys) = collect p (collect p acc xs) ys := by
  simp [collect]

lemma collect_flatMap (f : β → List α) (bs : List β) (acc : List α) :
    collect p acc (bs.flatMap f) = bs.foldl (fun acc b => collect p acc (f b)) acc := by
  induction bs generalizing acc with
  | nil => rfl
  | cons b bs ih => rw [flatMap_cons, collect_append, ih, foldl_cons]

lemma mem_collect {p : α → Bool} {y : α} : y ∈ collect p acc xs ↔ y ∈ acc ∨ (y ∈ xs ∧ p y) := by
  induction xs generalizing acc with
  | nil => simp [collect]
  | cons x xs ih =>
    change y ∈ collect p (if p x then pushNew acc x else acc) xs ↔ _
    rw [ih, mem_cons]
    by_cases hx : p x
    · rw [if_pos hx, mem_pushNew]
      constructor
      · rintro ((h | rfl) | ⟨h, hy⟩)
        · exact inl h
        · exact inr ⟨inl rfl, hx⟩
        · exact inr ⟨inr h, hy⟩
      rintro (h | ⟨rfl | h, hy⟩)
      · exact inl (inl h)
      · exact inl (inr rfl)
      · exact inr ⟨h, hy⟩
    rw [if_neg hx]
    constructor
    · rintro (h | ⟨h, hy⟩)
      · exact inl h
      · exact inr ⟨inr h, hy⟩
    rintro (h | ⟨rfl | h, hy⟩)
    · exact inl h
    · exact absurd hy hx
    · exact inr ⟨h, hy⟩

lemma nodup_collect {p : α → Bool} (h : acc.Nodup) : (collect p acc xs).Nodup := by
  induction xs generalizing acc with
  | nil => exact h
  | cons x xs ih =>
    change (collect p (if p x then pushNew acc x else acc) xs).Nodup
    apply ih
    split
    · exact nodup_pushNew h
    · exact h

end PushNew

/-! ### Exact indexes -/

section Indexes

variable {Ref Item Entry : Type*} [DecidableEq Item]

/-- The index lists an item under a reference exactly when the item's live entry has it. -/
def Indexes (refs : Entry → List Ref) (live : Item → Option Entry) (listing : Ref → List Item) :
    Prop :=
  ∀ r x, x ∈ listing r ↔ ∃ e, live x = some e ∧ r ∈ refs e

variable {refs : Entry → List Ref} {live : Item → Option Entry} {listing listing' : Ref → List Item}

omit [DecidableEq Item] in
lemma Indexes.empty (h : ∀ r, listing r = []) : Indexes refs (fun _ => none) listing := by
  intro r x
  simp [h r]

/-- Changing the entry of one item and the listings of that item keeps the index exact. -/
lemma Indexes.change (h : Indexes refs live listing) (x : Item) (new : Option Entry)
    (hx : ∀ r, x ∈ listing' r ↔ ∃ e, new = some e ∧ r ∈ refs e)
    (hne : ∀ r y, y ≠ x → (y ∈ listing' r ↔ y ∈ listing r)) :
    Indexes refs (Function.update live x new) listing' := by
  intro r y
  by_cases hy : y = x
  · subst hy
    rw [hx, Function.update_self]
  · rw [hne r y hy, Function.update_of_ne hy, h r y]

/-- The scan finds an item that is selected and listed wherever its entry says. -/
lemma mem_collect_of_listed {sel : Entry → Bool} {qs : List Ref} {x : Item} {e : Entry}
    (hcov : sel e → ∃ r ∈ qs, r ∈ refs e) (he : live x = some e) (hs : sel e)
    (hlist : ∀ r ∈ refs e, x ∈ listing r) :
    x ∈ collect (fun y => (live y).any sel) [] (qs.flatMap listing) := by
  obtain ⟨r, hr, hre⟩ := hcov hs
  rw [mem_collect, Option.any_eq_true]
  exact inr ⟨mem_flatMap.mpr ⟨r, hr, hlist r hre⟩, e, he, hs⟩

/-- **Lookup through an exact index.** The scan of the items listed under `qs` finds exactly the
items whose entry is selected, if every selected entry has a reference in `qs`. -/
theorem mem_collect_of_indexes (h : Indexes refs live listing) {sel : Entry → Bool} {qs : List Ref}
    (hcov : ∀ e, sel e = true → ∃ r ∈ qs, r ∈ refs e) (x : Item) :
    x ∈ collect (fun y => (live y).any sel) [] (qs.flatMap listing) ↔
      ∃ e, live x = some e ∧ sel e = true := by
  constructor
  · rw [mem_collect, Option.any_eq_true]
    rintro (hnil | ⟨-, e, he, hs⟩)
    · cases hnil
    · exact ⟨e, he, hs⟩
  · rintro ⟨e, he, hs⟩
    exact mem_collect_of_listed (hcov e) he hs fun r hr => (h r x).mpr ⟨e, he, hr⟩

end Indexes

end Buzz.Lib
