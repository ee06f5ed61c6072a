import Mathlib.Tactic.Common

/-!
Texts.

White space, words and decimal numbers, as the standard library of the source's language reads them:
white space is that of Unicode, and an unsigned number is a non-empty run of digits, with a plus sign
in front if one likes, that fits its type.
-/

namespace Buzz.Lib

/-! ### White space -/

/-- The characters with the property `White_Space`. -/
def isWhiteSpace (c : Char) : Bool :=
  (9 ≤ c.toNat && c.toNat ≤ 13) || c.toNat = 32 || c.toNat = 0x85 || c.toNat = 0xa0 ||
    c.toNat = 0x1680 || (0x2000 ≤ c.toNat && c.toNat ≤ 0x200a) || c.toNat = 0x2028 ||
    c.toNat = 0x2029 || c.toNat = 0x202f || c.toNat = 0x205f || c.toNat = 0x3000

def trim (s : List Char) : List Char :=
  ((s.dropWhile isWhiteSpace).reverse.dropWhile isWhiteSpace).reverse

def countWords (inWord : Bool) : List Char → ℕ
  | [] => 0
  | c :: cs =>
    if isWhiteSpace c then countWords false cs
    else (if inWord then 0 else 1) + countWords true cs

/-! ### Decimal numbers -/

def isDecimal (s : List Char) : Bool := !s.isEmpty && s.all Char.isDigit

/-- An unsigned number of a type whose largest value is `max`. -/
def parseUnsigned (max : ℕ) (s : List Char) : Option ℕ :=
  let digits :=
    match s with
    | '+' :: rest => rest
    | s => s
  if isDecimal digits ∧ Nat.ofDigitChars 10 digits 0 ≤ max then
    some (Nat.ofDigitChars 10 digits 0)
  else none

def maxU64 : ℕ := 18446744073709551615

def parseU64 (s : List Char) : Option ℕ := parseUnsigned maxU64 s

section Decimal

variable {max n : ℕ} {s : List Char}

lemma isDigit_of_mem_toDigits {c : Char} (h : c ∈ Nat.toDigits 10 n) : c.isDigit :=
  Nat.isDigit_of_mem_toDigits (by decide) (by decide) h

lemma isDecimal_toDigits (n : ℕ) : isDecimal (Nat.toDigits 10 n) := by
  have hne : Nat.toDigits 10 n ≠ [] := Nat.toDigits_ne_nil
  simp only [isDecimal, Bool.and_eq_true, Bool.not_eq_true', List.isEmpty_eq_false_iff,
    List.all_eq_true]
  exact ⟨hne, fun c hc => isDigit_of_mem_toDigits hc⟩

lemma parseUnsigned_toDigits (h : n ≤ max) : parseUnsigned max (Nat.toDigits 10 n) = some n := by
  have hplus : ∀ rest, Nat.toDigits 10 n ≠ '+' :: rest := by
    intro rest heq
    have hdg : '+'.isDigit := isDigit_of_mem_toDigits (heq ▸ List.mem_cons_self)
    cases hdg
  unfold parseUnsigned
  split
  · next rest heq => exact absurd heq (hplus rest)
  · dsimp only
    rw [Nat.ofDigitChars_ten_toDigits, if_pos ⟨isDecimal_toDigits n, h⟩]

lemma parseUnsigned_eq_none {c : Char} (hc : c ∈ s) (hdg : c.isDigit = false)
    (hplus : c ≠ '+') : parseUnsigned max s = none := by
  have hnot : ∀ t : List Char, c ∈ t → isDecimal t = false := by
    intro t ht
    simp only [isDecimal, Bool.and_eq_false_iff, List.all_eq_false]
    exact .inr ⟨c, ht, by simp [hdg]⟩
  unfold parseUnsigned
  split
  · next rest =>
    have hrest : c ∈ rest := (List.mem_cons.mp hc).resolve_left hplus
    simp [hnot rest hrest]
  · simp [hnot s hc]

end Decimal

end Buzz.Lib
