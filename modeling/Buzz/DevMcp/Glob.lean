import Mathlib.Data.List.Infix
import Mathlib.Data.List.Forall2

/-!
Globs of the file search.

`simple_glob` walks through the pattern and the text and remembers the last star; at a mismatch the
star takes one more character.  It compares the two characters before it looks for a star, so a star
of the pattern that meets a star of the text takes exactly that one.
-/

namespace Buzz.DevMcp

open List

/-- The loop from the rest of the pattern and of the text.  Of the last star, the pattern after it
and the text after the character it would take next. -/
def globLoop (pattern text : List Char) (last : Option (List Char × List Char)) : Bool :=
  match text with
  | [] => pattern.all (· = '*')
  | x :: text' =>
    if pattern.head? = some '?' ∨ pattern.head? = some x then globLoop pattern.tail text' last
    else if pattern.head? = some '*' then
      globLoop pattern.tail (x :: text') (some (pattern.tail, text'))
    else
      match last with
      | some (after, rest) => globLoop after rest (some (after, rest.tail))
      | none => false
-- a new star is further in the pattern, a mismatch moves the star, a match the text
termination_by (last.elim (pattern.length + 1) fun s => max pattern.length s.1.length,
  last.elim 0 (·.2.length), text.length)
decreasing_by
  all_goals simp [Option.elim]
  all_goals cases pattern <;> grind

def simpleGlob (pattern text : String) : Bool := globLoop pattern.toList text.toList none

/-- The meaning of a pattern; `rest` says what of a text a star may leave. -/
def Matches (rest : List Char → List Char → Prop) : List Char → List Char → Prop
  | [], text => text = []
  | c :: pattern, text =>
    ∃ left, Matches rest pattern left ∧
      if c = '*' then rest text left else ∃ x, text = x :: left ∧ (c = '?' ∨ c = x)

/-- A star takes any sequence. -/
def anyTaken (text left : List Char) : Prop := left <:+ text

/-- A star takes any sequence, but of a text that starts with a star that one. -/
def starTaken (text left : List Char) : Prop :=
  if text.head? = some '*' then left = text.tail else left <:+ text

lemma starTaken.suffix (h : starTaken text left) : left <:+ text := by
  unfold starTaken at h
  split at h
  · exact h ▸ tail_suffix text
  · exact h

lemma Matches.mono (hrest : ∀ text left, rest text left → rest' text left)
    (h : Matches rest pattern text) : Matches rest' pattern text := by
  induction pattern generalizing text with
  | nil => exact h
  | cons c pattern ih =>
    obtain ⟨left, h, htk⟩ := h
    refine ⟨left, ih h, ?_⟩
    split_ifs at htk ⊢
    · exact hrest _ _ htk
    · exact htk

/-- A pattern character that can take the text's next one takes it. -/
lemma matches_cons (h : c = '?' ∨ c = x) :
    Matches starTaken (c :: pattern) (x :: text) ↔ Matches starTaken pattern text := by
  by_cases hc : c = '*'
  · obtain rfl : '*' = x := by simpa [hc] using h
    simp [Matches, hc, starTaken]
  · simp [Matches, hc, h]

lemma matches_nil : Matches starTaken pattern [] ↔ pattern.all (· = '*') := by
  induction pattern with
  | nil => simp [Matches]
  | cons c pattern ih =>
    by_cases hc : c = '*' <;> simp [Matches, hc, starTaken, ih]

/-- The rest that is left at a mismatch does not match. -/
lemma not_matches (hne : ¬ (pattern.head? = some '?' ∨ pattern.head? = some x))
    (hstar : pattern.head? ≠ some '*') : ¬ Matches starTaken pattern (x :: text) := by
  cases pattern with
  | nil => simp [Matches]
  | cons c pattern => simp_all [Matches, eq_comm]

/-- Some rest of the text matches. -/
def MatchesIn (pattern text : List Char) : Prop :=
  ∃ left, left <:+ text ∧ Matches starTaken pattern left

/-- The text matches with nothing more left out, or with more. -/
lemma matchesIn_iff (pattern text : List Char) :
    MatchesIn pattern text ↔ Matches starTaken pattern text ∨ MatchesIn pattern text.tail := by
  cases text with
  | nil => simp [MatchesIn]
  | cons x text => simp [MatchesIn, suffix_cons_iff, or_and_right, exists_or]

/-- What a pattern character leaves. -/
lemma MatchesIn.tail (h : MatchesIn (c :: pattern) text) : MatchesIn pattern text := by
  obtain ⟨later, hlat, left, h, htk⟩ := h
  refine ⟨left, .trans ?_ hlat, h⟩
  split at htk
  · exact htk.suffix
  · obtain ⟨x, rfl, -⟩ := htk
    exact suffix_cons x left

/-- **The last star is enough.** Where a part of the pattern takes as much of the text character by
character, a match of it that starts later ends no earlier. -/
lemma MatchesIn.drop (hmid : Forall₂ (fun c x => c = '?' ∨ c = x) mid taken)
    (h : MatchesIn (mid ++ pattern) (taken ++ text)) : MatchesIn pattern text := by
  induction hmid with
  | nil => exact h
  | @cons c x mid taken hc hmid ih =>
    obtain ⟨later, hlat, h⟩ := h
    obtain rfl | hlat := suffix_cons_iff.mp hlat
    · exact ih ⟨_, suffix_rfl, (matches_cons hc).mp h⟩
    · exact ih (MatchesIn.tail ⟨later, hlat, h⟩)

/-- How the pattern and the text have come to where they are since the last star. -/
def Since (pattern text : List Char) (last : Option (List Char × List Char)) : Prop :=
  ∀ s ∈ last, ∃ mid taken, Forall₂ (fun c x => c = '?' ∨ c = x) mid taken ∧ s.1 = mid ++ pattern ∧
    s.2 <:+ taken ++ text

lemma since_star (h : rest <:+ text) : Since pattern text (some (pattern, rest)) := by
  rintro _ ⟨⟩
  exact ⟨[], [], .nil, rfl, h⟩

lemma Since.matchesIn (h : Since pattern text last) (hs : s ∈ last) (hmt : MatchesIn s.1 s.2) :
    MatchesIn pattern text := by
  obtain ⟨mid, taken, hmid, haft, hrest⟩ := h s hs
  obtain ⟨left, hleft, hmt⟩ := hmt
  exact .drop hmid ⟨left, hleft.trans hrest, haft ▸ hmt⟩

/-- **What the loop finds**: a match of the rest, or one with more taken by the last star. -/
lemma globLoop_iff (hsin : Since pattern text last) : globLoop pattern text last ↔
    Matches starTaken pattern text ∨ ∃ s ∈ last, MatchesIn s.1 s.2 := by
  fun_induction globLoop pattern text last with
  | case1 pattern last =>
    rw [← matches_nil, or_iff_left_of_imp]
    rintro ⟨s, hs, h⟩
    obtain ⟨left, hleft, h⟩ := hsin.matchesIn hs h
    rwa [suffix_nil.mp hleft] at h
  | case2 pattern last x text hc ih =>
    obtain ⟨c, pattern, rfl⟩ := exists_cons_of_ne_nil (l := pattern) (by rintro rfl; simp at hc)
    have hc : c = '?' ∨ c = x := by simpa using hc
    rw [matches_cons hc]
    refine ih ?_
    intro s hs
    obtain ⟨mid, taken, hmid, haft, hrest⟩ := hsin s hs
    refine ⟨mid ++ [c], taken ++ [x], rel_append hmid (.cons hc .nil), ?_, ?_⟩
    · simpa using haft
    · simpa using hrest
  | case3 pattern last x text hne hstar ih =>
    obtain ⟨pattern, rfl⟩ := head?_eq_some_iff.mp hstar
    have hx : x ≠ '*' := by simpa [eq_comm] using hne
    have hall : Matches starTaken ('*' :: pattern) (x :: text) ↔ MatchesIn pattern (x :: text) := by
      simp [Matches, MatchesIn, starTaken, hx, and_comm]
    -- the new star can leave whatever the old one could
    rw [hall, or_iff_left_of_imp fun ⟨_, hs, h⟩ => (hsin.matchesIn hs h).tail, matchesIn_iff]
    simpa using ih (since_star (suffix_cons x text))
  | case4 pattern x text hne hstar after rest ih =>
    rw [or_iff_right (not_matches hne hstar)]
    simpa [matchesIn_iff after rest] using ih (since_star (tail_suffix rest))
  | case5 pattern x text hne hstar => simp [not_matches hne hstar]

lemma simpleGlob_iff (pattern text : String) :
    simpleGlob pattern text ↔ Matches starTaken pattern.toList text.toList := by
  rw [simpleGlob, globLoop_iff (by rintro _ ⟨⟩)]
  simp

/-- `simple_glob` answers by the usual meaning exactly if a text that matches so also matches with
every star that meets a star taking that one. -/
theorem simple_glob_usual_iff (pattern text : String) :
    (simpleGlob pattern text ↔ Matches anyTaken pattern.toList text.toList) ↔
      (Matches anyTaken pattern.toList text.toList →
        Matches starTaken pattern.toList text.toList) := by
  rw [simpleGlob_iff]
  exact ⟨Iff.mpr, fun h => ⟨Matches.mono fun _ _ => starTaken.suffix, h⟩⟩

/-- The star takes the first character, and the second is left. -/
theorem star_misses_star :
    simpleGlob "*" "*a" = false ∧ Matches anyTaken "*".toList "*a".toList := by
  constructor
  · simp [simpleGlob, globLoop]
  · simp [anyTaken, Matches]

end Buzz.DevMcp
