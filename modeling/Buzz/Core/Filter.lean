import Buzz.Core.Event

/-!
Matching of an event against subscription filters.

Several filters are joined by "or", the fields of one filter by "and".  The one irregular field is
the channel tag `h`: an event that carries no `h` tag at all is matched by the channel the relay
filed it under.
-/

namespace Buzz.Core

open Lib

/-- A one-letter tag name, as filters key their tag conditions by. -/
structure SingleLetterTag where
  character : Char
  isLetter : character.isAlpha
deriving DecidableEq

def SingleLetterTag.toString (t : SingleLetterTag) : String := String.singleton t.character

/-- A subscription filter: an absent field is no condition, an empty list one that nothing meets. -/
structure Filter where
  ids : Option (List EventId) := none
  authors : Option (List PublicKey) := none
  kinds : Option (List Kind) := none
  since : Option ℕ := none
  «until» : Option ℕ := none
  genericTags : Table SingleLetterTag (List String) := ∅

def tagMatch (key : SingleLetterTag) (values : List String) (ev : StoredEvent) : Bool :=
  let hasMatch := values.any fun v => (ev.event.tagContents key.toString).any fun c => c = v
  if !hasMatch && key.toString = "h" then
    -- the channel stands in for the tag only when the event carries no `h` tag
    if ev.event.tags.any (fun t => t.kind = "h") then false
    else match ev.channelId with
      | some ch => values.any fun v => v = ch.toString
      | none => false
  else hasMatch

def filterMatchOne (f : Filter) (ev : StoredEvent) : Bool :=
  (match f.kinds with
    | some kinds => kinds.contains ev.event.kind
    | none => true) &&
  (match f.authors with
    | some authors => authors.contains ev.event.pubkey
    | none => true) &&
  (match f.since with
    | some since => ¬ ev.event.createdAt < since
    | none => true) &&
  (match f.«until» with
    | some bound => ¬ ev.event.createdAt > bound
    | none => true) &&
  (match f.ids with
    | some ids => ids.any fun i => i.toHex.toList.isPrefixOf ev.event.id.toHex.toList
    | none => true) &&
  f.genericTags.entries.all fun e => tagMatch e.1 e.2 ev

def filtersMatch (filters : List Filter) (ev : StoredEvent) : Bool :=
  filters.any fun f => filterMatchOne f ev

variable {ev : StoredEvent}

lemma kind_mem_of_filterMatchOne
    (h : filterMatchOne f ev) (hk : f.kinds = some kinds) : ev.event.kind ∈ kinds := by
  simp only [filterMatchOne, hk, Bool.and_eq_true] at h
  simpa using h.1.1.1.1.1

lemma exists_tag_of_filterMatchOne (h : filterMatchOne f ev)
    (hv : f.genericTags.lookup key = some values) (hh : key.toString ≠ "h") :
    ∃ v ∈ values, v ∈ ev.event.tagContents key.toString := by
  simp only [filterMatchOne, Bool.and_eq_true, List.all_eq_true] at h
  have hm := h.2 ⟨key, values⟩ (AList.mem_lookup_iff.mp hv)
  simp only [tagMatch, hh, decide_false, Bool.and_false, Bool.false_eq_true, if_false] at hm
  simpa using hm

lemma isAlpha_p : ('p').isAlpha := by decide

end Buzz.Core
