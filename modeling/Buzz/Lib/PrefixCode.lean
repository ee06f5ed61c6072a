import Mathlib.Algebra.Order.Ring.Nat
import Mathlib.Data.List.Infix

/-!
Codes that can be read off the front.

A code `f` writes values as words.  It *splits at* a value if the word of that value can be told from
the front of any longer word whose rest is one that may follow: whatever has the same front is the
same value, and the rests agree.  Lists of code words stay readable when they are closed by a letter
that begins no word, with a separator between the words or without.  Numbers written with a fixed
count of digits are such a code.
-/

namespace Buzz.Lib

open List

section PrefixCode

variable {α κ : Type*} {f : α → List κ} {Follow : List κ → Prop} {a : α}

/-- The word of `a` can be split off the front, if the rest is one that may follow. -/
def SplitsAt (f : α → List κ) (Follow : List κ → Prop) (a : α) : Prop :=
  ∀ b s t, Follow s → Follow t → f a ++ s = f b ++ t → a = b ∧ s = t

/-- No word is an initial part of another. -/
def PrefixFree (f : α → List κ) : Prop := ∀ a, SplitsAt f (fun _ => True) a

variable {s t : List κ}

lemma PrefixFree.split (h : PrefixFree f) {b : α} (heq : f a ++ s = f b ++ t) : a = b ∧ s = t :=
  h a b s t trivial trivial heq

/-- It is enough to compare the words with each other. -/
lemma splitsAt_of_prefix (h : ∀ b, f a <+: f b ∨ f b <+: f a → a = b) : SplitsAt f Follow a := by
  intro b s t _ _ heq
  have hfa : f a <+: f b ++ t := heq ▸ prefix_append (f a) s
  have hab : a = b := h b (List.prefix_or_prefix_of_prefix hfa (prefix_append (f b) t))
  subst hab
  exact ⟨rfl, append_cancel_left heq⟩

/-- A code that splits with nothing behind it is injective. -/
lemma eq_of_splitsAt (h : SplitsAt f Follow a) (hnil : Follow []) {b : α} (heq : f a = f b) :
    a = b := by
  refine (h b [] [] hnil hnil ?_).1
  rw [heq]

/-! ### Lists of words -/

/-- Words up to a letter that begins none of them. -/
lemma flatMap_close {e : κ} (hcl : ∀ s, Follow (e :: s)) (hnext : ∀ b s, Follow (f b ++ s))
    (hbegin : ∀ b s t, f b ++ s ≠ e :: t) {as bs : List α} (has : ∀ a ∈ as, SplitsAt f Follow a)
    (heq : as.flatMap f ++ e :: s = bs.flatMap f ++ e :: t) : as = bs ∧ s = t := by
  have hfollow : ∀ (cs : List α) u, Follow (cs.flatMap f ++ e :: u) := by
    intro cs u
    cases cs with
    | nil => exact hcl u
    | cons c cs =>
      rw [flatMap_cons, append_assoc]
      exact hnext c _
  induction as generalizing bs with
  | nil =>
    cases bs with
    | nil =>
      cases heq
      exact ⟨rfl, rfl⟩
    | cons b bs =>
      rw [flatMap_cons, append_assoc] at heq
      exact absurd heq.symm (hbegin b _ _)
  | cons a as ih =>
    cases bs with
    | nil =>
      rw [flatMap_cons, append_assoc] at heq
      exact absurd heq (hbegin a _ _)
    | cons b bs =>
      rw [flatMap_cons, flatMap_cons, append_assoc, append_assoc] at heq
      obtain ⟨rfl, hrest⟩ := has a mem_cons_self b _ _ (hfollow as s) (hfollow bs t) heq
      obtain ⟨rfl, hst⟩ := ih (fun a' ha' => has a' (mem_cons_of_mem _ ha')) hrest
      exact ⟨rfl, hst⟩

/-- The words with a letter between each two. -/
def separated (sep : κ) : List (List κ) → List κ
  | [] => []
  | w :: ws => w ++ ws.flatMap fun v => sep :: v

/-- Separated words up to a closing letter. -/
lemma separated_close {sep e : κ} (hne : sep ≠ e) (hcl : ∀ s, Follow (e :: s))
    (hsep : ∀ s, Follow (sep :: s)) (hbegin : ∀ b s t, f b ++ s ≠ e :: t) {as bs : List α} (has : ∀ a ∈ as, SplitsAt f Follow a)
    (heq : separated sep (as.map f) ++ e :: s = separated sep (bs.map f) ++ e :: t) :
    as = bs ∧ s = t := by
  cases as with
  | nil =>
    cases bs with
    | nil =>
      cases heq
      exact ⟨rfl, rfl⟩
    | cons b bs =>
      rw [map_cons, separated, append_assoc] at heq
      exact absurd heq.symm (hbegin b _ _)
  | cons a as =>
    cases bs with
    | nil =>
      rw [map_cons, separated, append_assoc] at heq
      exact absurd heq (hbegin a _ _)
    | cons b bs =>
      -- with a separator in front too, these are words without separators between them
      have hwords : (a :: as).flatMap (fun a => sep :: f a) ++ e :: s =
          (b :: bs).flatMap (fun b => sep :: f b) ++ e :: t := by
        simpa [separated, flatMap_map] using heq
      refine flatMap_close hcl (fun b s => hsep _) ?_ (fun a ha => ?_) hwords
      · intro b s t hb
        exact hne (cons.inj hb).1
      · intro b s t hs ht hword
        exact has a ha b s t hs ht (cons.inj hword).2

/-! ### Numbers -/

/-- A number below `b ^ w` is determined by its last `w` digits in base `b`. -/
lemma eq_of_digits_eq {b : ℕ} {digit : ℕ → κ} {digits : ℕ → ℕ → List κ}
    (hlen : ∀ w n, (digits w n).length = w)
    (hsucc : ∀ w n, digits (w + 1) n = digits w (n / b) ++ [digit (n % b)])
    (hdg : ∀ i < b, ∀ j < b, digit i = digit j → i = j) {w n m : ℕ} (hn : n < b ^ w)
    (hm : m < b ^ w) (h : digits w n = digits w m) : n = m := by
  induction w generalizing n m with
  | zero =>
    rw [pow_zero] at hn hm
    omega
  | succ w ih =>
    have hb : 0 < b := by
      by_contra hzero
      obtain rfl : b = 0 := by omega
      simp at hn
    rw [hsucc, hsucc] at h
    obtain ⟨hhigh, hlow⟩ := append_inj h (by rw [hlen, hlen])
    rw [pow_succ'] at hn hm
    have hdiv : n / b = m / b := ih (Nat.div_lt_of_lt_mul hn) (Nat.div_lt_of_lt_mul hm) hhigh
    have hmod : n % b = m % b := by
      apply hdg _ (Nat.mod_lt _ hb) _ (Nat.mod_lt _ hb)
      exact head_eq_of_cons_eq hlow
    rw [← Nat.div_add_mod n b, ← Nat.div_add_mod m b, hdiv, hmod]

end PrefixCode

end Buzz.Lib
