import Mathlib.Data.List.Chain
import Mathlib.Data.List.Nodup

/-!
Hash chains.

Nodes that name their predecessor by digest.  `Linked` says that a list of nodes, newest first, is a
complete chain down to a node without predecessor.  With an injective digest such a chain is
determined by its newest node (`Linked.eq_of_head?_eq`), so no node, and no digest, occurs in it
twice (`Linked.nodup`): whoever finds the digest they once read still on top knows that nothing has
been added since (`Linked.eq_of_suffix`).  Nor do two nodes of it share a parent
(`Linked.nodup_parents`).  Nodes that only name each other, without an end, are a part of the chain
they stand on top of (`Linked.prefix_of_isChain`).
-/

namespace Buzz.Lib

open List

section HashChain

variable {N D : Type*} {parent : N → Option D} {digest : N → D}

/-- Newest first, every node's parent is the digest of the next one, and the last has none. -/
def Linked (parent : N → Option D) (digest : N → D) : List N → Prop
  | [] => True
  | m :: l => parent m = l.head?.map digest ∧ Linked parent digest l

lemma Linked.suffix {l l' : List N} (h : Linked parent digest l) (hs : l' <:+ l) :
    Linked parent digest l' := by
  induction l with
  | nil =>
    rw [suffix_nil.mp hs]
    trivial
  | cons m l ih =>
    rcases suffix_cons_iff.mp hs with rfl | hs
    · exact h
    · exact ih h.2 hs

section

variable (hd : Function.Injective digest)
include hd

variable {l : List N}

/-- **A chain is determined by its newest node.** -/
theorem Linked.eq_of_head?_eq {l' : List N}
    (h : Linked parent digest l) (h' : Linked parent digest l') (hh : l.head? = l'.head?) :
    l = l' := by
  induction l generalizing l' with
  | nil =>
    cases l' with
    | nil => rfl
    | cons m' l' => cases hh
  | cons m l ih =>
    cases l' with
    | nil => cases hh
    | cons m' l' =>
      obtain rfl : m = m' := Option.some.inj hh
      have hpar : l.head?.map digest = l'.head?.map digest := h.1.symm.trans h'.1
      have hnext : l.head? = l'.head? := Option.map_injective hd hpar
      rw [ih h.2 h'.2 hnext]

/-- **A chain does not fork.** No two nodes of it have the same parent. -/
theorem Linked.nodup_parents (h : Linked parent digest l) : (l.map parent).Nodup := by
  induction l with
  | nil => exact nodup_nil
  | cons m l ih =>
    rw [map_cons, nodup_cons]
    refine ⟨?_, ih h.2⟩
    intro hmem
    obtain ⟨m', hm', hpar⟩ := mem_map.mp hmem
    obtain ⟨newer, older, rfl⟩ := append_of_mem hm'
    -- the chain below the second node would be as long as the one below the first
    have hold : Linked parent digest (m' :: older) := h.2.suffix (suffix_append _ _)
    have hheads : older.head?.map digest = (newer ++ m' :: older).head?.map digest :=
      hold.1.symm.trans (hpar.trans h.1)
    have heq : older = newer ++ m' :: older :=
      hold.2.eq_of_head?_eq hd h.2 (Option.map_injective hd hheads)
    have hlen := congrArg length heq
    simp only [length_append, length_cons] at hlen
    omega

/-- **No digest occurs twice in a chain**, since no parent does. -/
theorem Linked.nodup (h : Linked parent digest l) : (l.map digest).Nodup :=
  (Nodup.of_map parent (h.nodup_parents hd)).map hd

/-- A node that was newest once, and whose digest is the newest one again, is newest still, with
nothing added since. -/
theorem Linked.eq_of_suffix {m m' : N} {l' : List N}
    (h : Linked parent digest (m :: l)) (hs : m' :: l' <:+ m :: l) (hm : digest m' = digest m) :
    m' :: l' = m :: l := by
  rcases suffix_cons_iff.mp hs with heq | hs
  · exact heq
  have hnd := h.nodup hd
  rw [map_cons, nodup_cons] at hnd
  have hmem : m' ∈ l := hs.subset mem_cons_self
  exact absurd (mem_map.mpr ⟨m', hmem, hm⟩) hnd.1

end

/-! ### Parts of a chain -/

lemma Linked.isChain {l : List N} (h : Linked parent digest l) :
    l.IsChain fun m m' => parent m = some (digest m') := by
  induction l with
  | nil => exact isChain_nil
  | cons m l ih =>
    cases l with
    | nil => exact isChain_singleton m
    | cons m' l => exact isChain_cons_cons.mpr ⟨h.1, ih h.2⟩

/-- **Nodes that name each other, on top of a chain, are its newest part.**  It is enough that the
digest tells the nodes of the one from those of the other. -/
theorem Linked.prefix_of_isChain {l l' : List N} (h : Linked parent digest l)
    (h' : l'.IsChain fun m m' => parent m = some (digest m'))
    (hd : ∀ m ∈ l, ∀ m' ∈ l', digest m = digest m' → m = m') (hh : l'.head? = l.head?) :
    l' <+: l := by
  induction l' generalizing l with
  | nil => exact nil_prefix
  | cons m' l' ih =>
    cases l with
    | nil => cases hh
    | cons m l =>
      obtain rfl : m' = m := Option.some.inj hh
      refine prefix_cons_inj _ |>.mpr ?_
      cases l' with
      | nil => exact nil_prefix
      | cons next' l' =>
        -- the next node below is the one the newest names
        obtain ⟨hns, hrest⟩ := isChain_cons_cons.mp h'
        have hpar : l.head?.map digest = some (digest next') := h.1.symm.trans hns
        obtain ⟨next, hnext, hdig⟩ := Option.map_eq_some_iff.mp hpar
        have hmem : next ∈ l := mem_of_mem_head? hnext
        obtain rfl : next = next' := hd next (mem_cons_of_mem _ hmem) next' (by simp) hdig
        refine ih h.2 hrest ?_ hnext.symm
        intro x hx x' hx'
        exact hd x (mem_cons_of_mem _ hx) x' (mem_cons_of_mem _ hx')

end HashChain

end Buzz.Lib
