import Buzz.Core.Event
import Buzz.Lib.PrefixCode
import Buzz.Lib.SortedMap

/-!
JSON texts.

`Json.compact` is the text that `serde_json::to_string` writes: no blanks, fields in the order they
come in, strings with the escapes that JSON asks for and no others.  A number stands for the literal
it is printed as, so that what is known of numbers is that different ones are printed differently.
`Value` is `serde_json::Value`, whose objects keep their fields in the order of their keys.

The text determines what was written (`compact_injective`).
-/

namespace Buzz.Core

open Lib List

/-! ### Values -/

def isNumberChar (c : Char) : Bool :=
  ('0' ≤ c && c ≤ '9') || c = '-' || c = '+' || c = '.' || c = 'e' || c = 'E'

structure JsonNumber where
  literal : List Char
  nonempty : literal ≠ []
  chars : literal.all isNumberChar

inductive Json
  | null
  | bool (b : Bool)
  | number (n : JsonNumber)
  | string (s : String)
  | array (items : List Json)
  | object (fields : List (String × Json))

def Json.field? (key : String) : Json → Option Json
  | .object fields => (fields.find? fun f => f.1 = key).map Prod.snd
  | _ => none

/-! ### Texts -/

/-- The letter after the backslash, for the characters that have a short escape. -/
def shortEscape : Char → Option Char
  | '"' => some '"'
  | '\\' => some '\\'
  | '\x08' => some 'b'
  | '\t' => some 't'
  | '\n' => some 'n'
  | '\x0c' => some 'f'
  | '\r' => some 'r'
  | _ => none

def escapeChar (c : Char) : List Char :=
  match shortEscape c with
  | some e => ['\\', e]
  | none =>
    if c.toNat < 32 then ['\\', 'u', '0', '0', hexDigit (c.toNat / 16), hexDigit (c.toNat % 16)]
    else [c]

def quoted (s : String) : List Char := '"' :: s.toList.flatMap escapeChar ++ ['"']

mutual

def Json.compact : Json → List Char
  | .null => ['n', 'u', 'l', 'l']
  | .bool true => ['t', 'r', 'u', 'e']
  | .bool false => ['f', 'a', 'l', 's', 'e']
  | .number n => n.literal
  | .string s => quoted s
  | .array items => '[' :: separated ',' (compactItems items) ++ [']']
  | .object fields => '{' :: separated ',' (compactFields fields) ++ ['}']

def compactItems : List Json → List (List Char)
  | [] => []
  | j :: js => j.compact :: compactItems js

def compactFields : List (String × Json) → List (List Char)
  | [] => []
  | (k, j) :: fields => (quoted k ++ ':' :: j.compact) :: compactFields fields

end

def compactField (field : String × Json) : List Char := quoted field.1 ++ ':' :: field.2.compact

lemma compactItems_eq (items : List Json) : compactItems items = items.map Json.compact := by
  induction items with
  | nil => rfl
  | cons j js ih => rw [compactItems, ih, map_cons]

lemma compactFields_eq (fields : List (String × Json)) :
    compactFields fields = fields.map compactField := by
  induction fields with
  | nil => rfl
  | cons field fields ih =>
    obtain ⟨k, j⟩ := field
    rw [compactFields, ih, map_cons]
    rfl

/-! ### Strings can be read back -/

/-- The characters that are not written as they are. -/
def escapedChars : List Char := '"' :: '\\' :: (List.range 32).map Char.ofNat

lemma mem_escapedChars_of_lt (h : c.toNat < 32) : c ∈ escapedChars := by
  have hc : Char.ofNat c.toNat ∈ (range 32).map Char.ofNat :=
    mem_map.mpr ⟨c.toNat, mem_range.mpr h, rfl⟩
  rw [Char.ofNat_toNat] at hc
  exact mem_cons_of_mem _ (mem_cons_of_mem _ hc)

/-- A character is written as it is, unless it has an escape, which begins with a backslash. -/
lemma escapeChar_cases (c : Char) : (escapeChar c = [c] ∧ c ≠ '\\' ∧ c ≠ '"') ∨
      (c ∈ escapedChars ∧ ∃ w, escapeChar c = '\\' :: w) := by
  unfold escapeChar shortEscape
  split
  · next e he =>
    right
    refine ⟨?_, [e], rfl⟩
    split at he <;> cases he <;> decide
  next he =>
  split_ifs with hlt
  · exact .inr ⟨mem_escapedChars_of_lt hlt, _, rfl⟩
  refine .inl ⟨rfl, ?_, ?_⟩
  all_goals
    rintro rfl
    cases he

lemma escapedChars_differ : ∀ c ∈ escapedChars, ∀ d ∈ escapedChars,
    (escapeChar c).isPrefixOf (escapeChar d) → c = d := by
  have hall : (escapedChars.all fun c => escapedChars.all fun d =>
      !(escapeChar c).isPrefixOf (escapeChar d) || decide (c = d)) := by
    decide +kernel
  intro c hc d hd hbegins
  have hcd := all_eq_true.mp (all_eq_true.mp hall c hc) d hd
  simpa [hbegins] using hcd

lemma eq_of_escapeChar_begins (h : escapeChar c <+: escapeChar d) : c = d := by
  rcases escapeChar_cases c with ⟨hc, hc'⟩ | ⟨hc, w, hw⟩
  · rcases escapeChar_cases d with ⟨hd, -⟩ | ⟨-, w', hw'⟩
    · rw [hc, hd] at h
      exact head_eq_of_cons_eq (List.IsPrefix.eq_of_length h rfl)
    · rw [hc, hw'] at h
      exact absurd (cons_prefix_cons.mp h).1 hc'.1
  rcases escapeChar_cases d with ⟨hd, hd'⟩ | ⟨hd, -⟩
  · rw [hw, hd] at h
    exact absurd (cons_prefix_cons.mp h).1.symm hd'.1
  · exact escapedChars_differ c hc d hd (List.isPrefixOf_iff_prefix.mpr h)

lemma escapeChar_prefixFree : PrefixFree escapeChar := by
  intro c
  refine splitsAt_of_prefix ?_
  rintro d (h | h)
  · exact eq_of_escapeChar_begins h
  · exact (eq_of_escapeChar_begins h).symm

lemma escapeChar_ne_quote (c : Char) (s t : List Char) : escapeChar c ++ s ≠ '"' :: t := by
  rcases escapeChar_cases c with ⟨hc, -, hquote⟩ | ⟨-, w, hw⟩
  · rw [hc]
    intro h
    exact hquote (cons.inj h).1
  rw [hw]
  intro h
  exact absurd (cons.inj h).1 (by decide)

lemma quoted_prefixFree : PrefixFree quoted := by
  intro x y s t _ _ heq
  have hcs : x.toList.flatMap escapeChar ++ '"' :: s = y.toList.flatMap escapeChar ++ '"' :: t := by
    simpa [quoted] using heq
  obtain ⟨hlist, hrest⟩ := flatMap_close (fun _ => trivial) (fun _ _ => trivial)
    escapeChar_ne_quote (fun c _ => escapeChar_prefixFree c) hcs
  exact ⟨String.toList_injective hlist, hrest⟩

/-! ### Values can be read back -/

def Ends (rest : List Char) : Prop := ∀ c ∈ rest.head?, isNumberChar c = false

lemma ends_nil : Ends [] := by simp [Ends]

variable (s : List Char)

lemma ends_comma : Ends (',' :: s) := by simp [Ends, isNumberChar]

lemma ends_bracket : Ends (']' :: s) := by simp [Ends, isNumberChar]

lemma ends_brace : Ends ('}' :: s) := by simp [Ends, isNumberChar]

lemma takeWhile_literal (n : JsonNumber) {s : List Char} (hs : Ends s) :
    (n.literal ++ s).takeWhile isNumberChar = n.literal := by
  have hn : ∀ c ∈ n.literal, isNumberChar c := all_eq_true.mp n.chars
  rw [takeWhile_append_of_pos hn]
  cases s with
  | nil => simp
  | cons c s =>
    have hc : isNumberChar c = false := hs c rfl
    simp [hc]

lemma literal_splitsAt (n : JsonNumber) : SplitsAt JsonNumber.literal Ends n := by
  intro m s t hs ht heq
  have hword : n.literal = m.literal := by
    rw [← takeWhile_literal n hs, heq, takeWhile_literal m ht]
  refine ⟨?_, ?_⟩
  · cases n
    cases m
    cases hword
    rfl
  · rw [hword] at heq
    exact append_cancel_left heq

/-- What the first character of a text says about the value. -/
inductive JsonKind
  | null | truth | falsity | number | string | array | object

def Json.kind : Json → JsonKind
  | .null => .null
  | .bool true => .truth
  | .bool false => .falsity
  | .number _ => .number
  | .string _ => .string
  | .array _ => .array
  | .object _ => .object

def kindOfChar (c : Char) : Option JsonKind :=
  if isNumberChar c then some .number
  else
    match c with
    | 'n' => some .null
    | 't' => some .truth
    | 'f' => some .falsity
    | '"' => some .string
    | '[' => some .array
    | '{' => some .object
    | _ => none

lemma compact_begins (j : Json) : ∃ c w, j.compact = c :: w ∧ kindOfChar c = some j.kind := by
  cases j with
  | null => exact ⟨'n', _, by rw [Json.compact], by rfl⟩
  | bool b =>
    cases b
    · exact ⟨'f', _, by rw [Json.compact], by rfl⟩
    · exact ⟨'t', _, by rw [Json.compact], by rfl⟩
  | number n =>
    cases hn : n.literal with
    | nil => exact absurd hn n.nonempty
    | cons c w =>
      have hc : isNumberChar c := all_eq_true.mp n.chars c (hn ▸ mem_cons_self)
      refine ⟨c, w, by rw [Json.compact, hn], ?_⟩
      simp [kindOfChar, hc, Json.kind]
  | string s => exact ⟨'"', _, by rw [Json.compact, quoted, cons_append], by rfl⟩
  | array items => exact ⟨'[', _, by rw [Json.compact, cons_append], by rfl⟩
  | object fields => exact ⟨'{', _, by rw [Json.compact, cons_append], by rfl⟩

lemma kind_eq_of_compact {j j' : Json} {s t : List Char} (h : j.compact ++ s = j'.compact ++ t) :
    j.kind = j'.kind := by
  obtain ⟨c, w, hw, hc⟩ := compact_begins j
  obtain ⟨c', w', hw', hc'⟩ := compact_begins j'
  rw [hw, hw', cons_append, cons_append] at h
  rw [(cons.inj h).1, hc'] at hc
  exact (Option.some.inj hc).symm

lemma compact_ne_bracket (j : Json) (s t : List Char) : j.compact ++ s ≠ ']' :: t := by
  obtain ⟨c, w, hw, hc⟩ := compact_begins j
  rw [hw, List.cons_append]
  intro h
  obtain ⟨rfl, -⟩ := List.cons.inj h
  cases hc

lemma compactField_ne_brace (field : String × Json) (s t : List Char) :
    compactField field ++ s ≠ '}' :: t := by
  intro h
  exact absurd (List.cons.inj h).1 (by decide)

lemma compactField_splitsAt (h : SplitsAt Json.compact Ends field.2) :
    SplitsAt compactField Ends field := by
  intro field' s t hs ht heq
  rw [compactField, compactField, append_assoc, append_assoc] at heq
  obtain ⟨hkey, hrest⟩ := quoted_prefixFree.split heq
  obtain ⟨hval, hst⟩ := h field'.2 s t hs ht (cons.inj hrest).2
  exact ⟨Prod.ext hkey hval, hst⟩

lemma array_splitsAt (h : ∀ j ∈ items, SplitsAt Json.compact Ends j) :
    SplitsAt Json.compact Ends (.array items) := by
  intro j' s t _ _ heq
  have hkind := kind_eq_of_compact heq
  cases j' with
  | array items' =>
    simp only [Json.compact, compactItems_eq, cons_append, append_assoc] at heq
    obtain ⟨rfl, hst⟩ := separated_close (by decide) ends_bracket ends_comma compact_ne_bracket h
      (cons.inj heq).2
    exact ⟨rfl, hst⟩
  | bool b => cases b <;> cases hkind
  | _ => cases hkind

variable {fields : List (String × Json)}

lemma object_splitsAt (h : ∀ field ∈ fields, SplitsAt compactField Ends field) :
    SplitsAt Json.compact Ends (.object fields) := by
  intro j' s t _ _ heq
  have hkind := kind_eq_of_compact heq
  cases j' with
  | object fields' =>
    simp only [Json.compact, compactFields_eq, cons_append, append_assoc] at heq
    obtain ⟨rfl, hst⟩ := separated_close (by decide) ends_brace ends_comma compactField_ne_brace h
      (cons.inj heq).2
    exact ⟨rfl, hst⟩
  | bool b => cases b <;> cases hkind
  | _ => cases hkind

lemma scalar_splitsAt (h : ∀ items, j ≠ .array items) (h' : ∀ fields, j ≠ .object fields) :
    SplitsAt Json.compact Ends j := by
  intro j' s t hs ht heq
  have hkind := kind_eq_of_compact heq
  cases j with
  | array items => exact absurd rfl (h items)
  | object fields => exact absurd rfl (h' fields)
  | null =>
    cases j' with
    | null => exact ⟨rfl, append_cancel_left heq⟩
    | bool b => cases b <;> cases hkind
    | _ => cases hkind
  | bool b =>
    cases j' with
    | bool b' =>
      obtain rfl : b = b' := by cases b <;> cases b' <;> first | rfl | cases hkind
      exact ⟨rfl, append_cancel_left heq⟩
    | _ => cases b <;> cases hkind
  | number n =>
    cases j' with
    | number n' =>
      obtain ⟨rfl, hst⟩ := literal_splitsAt n n' s t hs ht (by simpa only [Json.compact] using heq)
      exact ⟨rfl, hst⟩
    | bool b => cases b <;> cases hkind
    | _ => cases hkind
  | string x =>
    cases j' with
    | string y =>
      obtain ⟨rfl, hst⟩ := quoted_prefixFree.split (by simpa only [Json.compact] using heq)
      exact ⟨rfl, hst⟩
    | bool b => cases b <;> cases hkind
    | _ => cases hkind

mutual

/-- **Every value can be read back**, from a text that goes on with something else than a number. -/
theorem compact_splitsAt : ∀ j : Json, SplitsAt Json.compact Ends j
  | .null => scalar_splitsAt (by simp) (by simp)
  | .bool _ => scalar_splitsAt (by simp) (by simp)
  | .number _ => scalar_splitsAt (by simp) (by simp)
  | .string _ => scalar_splitsAt (by simp) (by simp)
  | .array items => array_splitsAt (items_splitsAt items)
  | .object fields => object_splitsAt (fields_splitsAt fields)

theorem items_splitsAt : ∀ items : List Json, ∀ j ∈ items, SplitsAt Json.compact Ends j
  | [] => by simp
  | item :: items => forall_mem_cons.mpr ⟨compact_splitsAt item, items_splitsAt items⟩

theorem fields_splitsAt :
    ∀ fields : List (String × Json), ∀ field ∈ fields, SplitsAt compactField Ends field
  | [] => by simp
  | (_, value) :: fields => forall_mem_cons.mpr
    ⟨compactField_splitsAt (compact_splitsAt value), fields_splitsAt fields⟩

end

theorem compact_injective : Function.Injective Json.compact := fun j _ h =>
  eq_of_splitsAt (compact_splitsAt j) ends_nil h

/-! ### Objects in the order of their keys -/

mutual

/-- In every object the keys increase. -/
def Json.isSorted : Json → Bool
  | .array items => itemsSorted items
  | .object fields => decide ((fields.map Prod.fst).Pairwise (· < ·)) && fieldsSorted fields
  | _ => true

def itemsSorted : List Json → Bool
  | [] => true
  | j :: js => j.isSorted && itemsSorted js

def fieldsSorted : List (String × Json) → Bool
  | [] => true
  | (_, j) :: fields => j.isSorted && fieldsSorted fields

end

/-- `serde_json::Value`, whose objects are ordered maps. -/
structure Value where
  json : Json
  sorted : json.isSorted

/-- Fields collected into an ordered map, a later one over an earlier one of its key. -/
def collectFields (fields : List (String × Json)) : List (String × Json) :=
  fields.foldl (fun collected field => SortedMap.insertEntry field.1 field.2 collected) []

mutual

def Json.sortKeys : Json → Json
  | .array items => .array (sortItems items)
  | .object fields => .object (collectFields (sortFields fields))
  | j => j

def sortItems : List Json → List Json
  | [] => []
  | j :: js => j.sortKeys :: sortItems js

def sortFields : List (String × Json) → List (String × Json)
  | [] => []
  | (k, j) :: fields => (k, j.sortKeys) :: sortFields fields

end

/-- The text of a value with the fields of every object in the order of their keys. -/
def canonicalJson (v : Value) : String := String.ofList v.json.sortKeys.compact

lemma collectFields_of_sorted
    (h : (fields.map Prod.fst).Pairwise (· < ·)) : collectFields fields = fields :=
  SortedMap.foldl_insertEntry fields [] (pairwise_map.mp h)

mutual

theorem sortKeys_of_sorted : ∀ j : Json, j.isSorted = true → j.sortKeys = j
  | .null, _ => by rw [Json.sortKeys] <;> simp
  | .bool _, _ => by rw [Json.sortKeys] <;> simp
  | .number _, _ => by rw [Json.sortKeys] <;> simp
  | .string _, _ => by rw [Json.sortKeys] <;> simp
  | .array items, h => by
    rw [Json.sortKeys, sortItems_of_sorted items h]
  | .object fields, h => by
    rw [Json.isSorted, Bool.and_eq_true, decide_eq_true_iff] at h
    rw [Json.sortKeys, sortFields_of_sorted fields h.2, collectFields_of_sorted h.1]

theorem sortItems_of_sorted : ∀ items : List Json, itemsSorted items = true →
    sortItems items = items
  | [], _ => rfl
  | j :: js, h => by
    rw [itemsSorted, Bool.and_eq_true] at h
    rw [sortItems, sortKeys_of_sorted j h.1, sortItems_of_sorted js h.2]

theorem sortFields_of_sorted : ∀ fields : List (String × Json), fieldsSorted fields = true →
    sortFields fields = fields
  | [], _ => rfl
  | (_, j) :: fields, h => by
    rw [fieldsSorted, Bool.and_eq_true] at h
    rw [sortFields, sortKeys_of_sorted j h.1, sortFields_of_sorted fields h.2]

end

/-- **The canonical text determines the value.** -/
theorem canonicalJson_injective : Function.Injective canonicalJson := by
  intro v v' h
  have htext : v.json.sortKeys.compact = v'.json.sortKeys.compact := String.ofList_injective h
  have hjson := compact_injective htext
  rw [sortKeys_of_sorted _ v.sorted, sortKeys_of_sorted _ v'.sorted] at hjson
  cases v
  cases v'
  cases hjson
  rfl

/-! ### Numbers and sizes -/

lemma isNumberChar_of_mem_toDigits (hc : c ∈ Nat.toDigits 10 n) : isNumberChar c := by
  have hdg : c.isDigit := Nat.isDigit_of_mem_toDigits (by decide) (by decide) hc
  simp only [Char.isDigit, Bool.and_eq_true, decide_eq_true_eq] at hdg
  have hrg : '0' ≤ c ∧ c ≤ '9' := ⟨hdg.1, hdg.2⟩
  simp [isNumberChar, hrg]

def JsonNumber.ofNat (n : ℕ) : JsonNumber where
  literal := Nat.toDigits 10 n
  nonempty := Nat.toDigits_ne_nil
  chars := List.all_eq_true.mpr fun _ => isNumberChar_of_mem_toDigits

def textBytes (text : List Char) : ℕ := (String.ofList text).utf8ByteSize

@[simp] lemma textBytes_nil : textBytes [] = 0 := rfl

@[simp] lemma textBytes_cons (c : Char) (text : List Char) :
    textBytes (c :: text) = c.utf8Size + textBytes text := by
  simp [textBytes, String.ofList_cons]

@[simp] lemma textBytes_append (t : List Char) : textBytes (s ++ t) = textBytes s + textBytes t := by
  simp [textBytes]

lemma textBytes_toList (s : String) : textBytes s.toList = s.utf8ByteSize := by simp [textBytes]

lemma textBytes_of_utf8Size (h : ∀ c ∈ text, c.utf8Size = 1) : textBytes text = text.length := by
  induction text with
  | nil => rfl
  | cons c text ih =>
    rw [textBytes_cons, h c mem_cons_self, ih fun d hd => h d (mem_cons_of_mem _ hd),
      length_cons, Nat.add_comm]

lemma textBytes_quoted {s : String} (h : ∀ c ∈ s.toList, escapeChar c = [c]) :
    textBytes (quoted s) = s.utf8ByteSize + 2 := by
  have hpl : s.toList.flatMap escapeChar = s.toList := by
    rw [flatMap_congr h]
    simp
  have hquote : '"'.utf8Size = 1 := by decide
  simp only [quoted, hpl, textBytes_cons, textBytes_append, textBytes_toList, textBytes_nil,
    hquote]
  omega

lemma textBytes_separated_le (sep : Char) (words : List (List Char)) :
    textBytes (separated sep words) ≤ textBytes (words.flatMap fun w => sep :: w) := by
  cases words with
  | nil => exact le_rfl
  | cons w ws =>
    simp only [separated, flatMap_cons, textBytes_append, textBytes_cons]
    omega

end Buzz.Core
