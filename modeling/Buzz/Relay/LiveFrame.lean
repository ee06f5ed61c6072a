import Buzz.Core.Json
import Buzz.Lib.Table

/-!
Live frames.

A stored event is sent as an array that `serde_json` prints from values, with the fields of the event
in the order of their keys.  The fan-out prints the event as it is and writes its frames around it by
hand, with the subscription id as the client gave it, and keeps one for each id in a cache.  The two
are read as the same value exactly when the id has no character that JSON escapes.
-/

namespace Buzz.Relay

open Buzz.Core Lib List

variable {fields fields' : List (String × Json)}

/-! ### Reading JSON -/

/-- The value of a field of an event. -/
inductive FieldValue
  | text (s : String)
  | number (n : UInt64)
  | tags (entries : List (List String))

def FieldValue.json : FieldValue → Json
  | .text s => .string s
  | .number n => .number (.ofNat n.toNat)
  | .tags entries => .array (entries.map fun entry => .array (entry.map .string))

/-- The fields that the serializer of an event writes, in the order in which it writes them. -/
structure IsEvent (fields : List (String × Json)) : Prop where
  keys : (fields.map Prod.fst).Nodup
  values : ∀ field ∈ fields, ∃ value : FieldValue, field.2 = value.json

def frameJson (words : List String) (fields : List (String × Json)) : Json :=
  .array (words.map .string ++ [.object fields])

/-- A reader into `serde_json::Value`, as far as it is used: an array of texts and an event is read
back with the keys of the event in order, and no text of it is shorter than the one that is written. -/
structure JsonReader where
  parse : List Char → Option Json
  reads : ∀ words fields, IsEvent fields →
    parse (frameJson words fields).compact = some (frameJson words (collectFields fields))
  shortest : ∀ text words fields, IsEvent fields →
    parse text = some (frameJson words (collectFields fields)) →
      (frameJson words fields).compact.length ≤ text.length

lemma insertEntry_perm {k : String} (v : Json) (h : k ∉ fields.map Prod.fst) :
    SortedMap.insertEntry k v fields ~ (k, v) :: fields := by
  induction fields with
  | nil => exact .refl _
  | cons field fields ih =>
    obtain ⟨hne, hrest⟩ := not_or.mp (mem_cons.not.mp h)
    rw [SortedMap.insertEntry, if_neg hne]
    split_ifs
    · exact .refl _
    · exact ((ih hrest).cons field).trans (.swap ..)

lemma collectFields_perm (h : (fields.map Prod.fst).Nodup) : collectFields fields ~ fields := by
  unfold collectFields
  induction fields using reverseRecOn with
  | nil => exact .refl _
  | append_singleton fields field ih =>
    rw [map_append, nodup_append] at h
    have hperm := ih h.1
    rw [foldl_append, foldl_cons, foldl_nil]
    refine (insertEntry_perm field.2 ?_).trans ?_
    swap
    · exact (hperm.cons field).trans (perm_append_singleton ..).symm
    rw [(hperm.map Prod.fst).mem_iff]
    exact fun hmem => h.2.2 _ hmem _ mem_cons_self rfl

lemma sorted_collectFields (fields : List (String × Json)) :
    ((collectFields fields).map Prod.fst).Pairwise (· < ·) := by
  unfold collectFields
  induction fields using reverseRecOn with
  | nil => exact .nil
  | append_singleton fields field ih =>
    rw [foldl_append, foldl_cons, foldl_nil]
    exact pairwise_map.mpr (SortedMap.sorted_insertEntry (pairwise_map.mp ih))

lemma IsEvent.collectFields (h : IsEvent fields) : IsEvent (collectFields fields) where
  keys := (sorted_collectFields _).imp ne_of_lt
  values field hfield := h.values field ((collectFields_perm h.keys).subset hfield)

lemma length_separated (sep : Char) (words : List (List Char)) :
    (separated sep words).length = (words.map fun word => word.length + 1).sum - 1 := by
  cases words <;> simp [separated, length_flatMap]

/-- The order of the fields does not change how long the text is. -/
lemma length_compact_frameJson (words : List String) (h : fields ~ fields') :
    (frameJson words fields).compact.length = (frameJson words fields').compact.length := by
  have hsum := (h.map fun field => (compactField field).length + 1).sum_nat
  simp [frameJson, Json.compact, compactItems_eq, compactFields_eq, length_separated,
    Function.comp_def, hsum]

lemma frameJson_inj {words words' : List String}
    (h : frameJson words fields = frameJson words' fields') : words = words' ∧ fields = fields' := by
  obtain ⟨hwords, hfields⟩ := append_inj' (Json.array.inj h) rfl
  exact ⟨map_injective_iff.mpr (fun _ _ => Json.string.inj) hwords, by simpa using hfields⟩

/-- A reader that reads what is written, and nothing else. -/
noncomputable def writtenReader : JsonReader where
  parse text := open Classical in
    if h : ∃ written : List String × List (String × Json),
        IsEvent written.2 ∧ (frameJson written.1 written.2).compact = text
    then some (frameJson h.choose.1 (collectFields h.choose.2)) else none
  reads words fields hevent := by
    have h : ∃ written : List String × List (String × Json), IsEvent written.2 ∧
        (frameJson written.1 written.2).compact = (frameJson words fields).compact :=
      ⟨(words, fields), hevent, rfl⟩
    obtain ⟨hwords, hfields⟩ := frameJson_inj (compact_injective h.choose_spec.2)
    rw [dif_pos h, hwords, hfields]
  shortest text words fields hevent h := by
    split_ifs at h with hwritten
    obtain ⟨hchoose, htext⟩ := hwritten.choose_spec
    obtain ⟨hwords, hfields⟩ := frameJson_inj (Option.some.inj h)
    refine le_of_eq ?_
    rw [← htext, hwords]
    refine length_compact_frameJson words ?_
    exact (collectFields_perm hevent.keys).symm.trans (hfields ▸ collectFields_perm hchoose.keys)

/-! ### Frames -/

def maxSubIdLength : ℕ := 256

variable (subId : String)

/-- What `ClientMessage::parse` asks of the subscription id of a `REQ`. -/
def acceptsSubId : Bool := subId ≠ "" && subId.utf8ByteSize ≤ maxSubIdLength

structure EventFields where
  fields : List (String × Json)
  isEvent : IsEvent fields

variable (event : EventFields)

/-- `serde_json::to_string` of the event. -/
def EventFields.text : List Char := (Json.object event.fields).compact

def eventFrameForSub (eventJson : List Char) : List Char :=
  ['[', '"', 'E', 'V', 'E', 'N', 'T', '"', ',', '"'] ++ subId.toList ++ ['"', ','] ++ eventJson ++
    [']']

variable (subIds : List String)

def fanoutFrameCache (eventJson : List Char) : Table String (List Char) :=
  subIds.foldl (fun frames subId =>
    match frames.lookup subId with
    | some _ => frames
    | none => frames.insert subId (eventFrameForSub subId eventJson)) ∅

/-- What `send_fanout_frames` sends for a subscription. -/
def fanoutFrame (subId : String) : Option (List Char) :=
  (fanoutFrameCache subIds event.text).lookup subId

/-- The value that `RelayMessage::event` prints: `serde_json::to_value` puts the keys in order. -/
def relayEvent : Json := frameJson ["EVENT", subId] (collectFields event.fields)

lemma fanoutFrame_eq : fanoutFrame event subIds subId =
      if subId ∈ subIds then some (eventFrameForSub subId event.text) else none := by
  unfold fanoutFrame fanoutFrameCache
  induction subIds using reverseRecOn with
  | nil => simp
  | append_singleton subIds new ih =>
    rw [foldl_append, foldl_cons, foldl_nil]
    obtain rfl | hid := eq_or_ne subId new
    · split <;> simp_all
    · split <;> simp [ih, hid, AList.lookup_insert_ne hid]

/-- The array is written as the frame of the escaped id. -/
lemma compact_frameJson : (frameJson ["EVENT", subId] event.fields).compact =
    eventFrameForSub (.ofList (subId.toList.flatMap escapeChar)) event.text := by
  simp [frameJson, EventFields.text, eventFrameForSub, Json.compact, compactItems, separated, quoted,
    escapeChar, shortEscape]

lemma length_eventFrameForSub (eventJson : List Char) :
    (eventFrameForSub subId eventJson).length = subId.toList.length + (eventJson.length + 13) := by
  simp [eventFrameForSub]
  omega

/-- An escape is longer than what it stands for. -/
lemma length_escaped (text : List Char) : text.length ≤ (text.flatMap escapeChar).length ∧
    ((text.flatMap escapeChar).length ≤ text.length → ∀ c ∈ text, escapeChar c = [c]) := by
  have hlong : escapedChars.all fun c => 2 ≤ (escapeChar c).length := by decide
  induction text with
  | nil => simp
  | cons c text ih =>
    obtain ⟨hle, hplain⟩ := ih
    rw [flatMap_cons, length_append, length_cons]
    obtain ⟨hc, -⟩ | ⟨hmem, -⟩ := escapeChar_cases c
    · rw [hc, length_singleton]
      exact ⟨by omega, fun h => forall_mem_cons.mpr ⟨hc, hplain (by omega)⟩⟩
    · have := of_decide_eq_true (all_eq_true.mp hlong c hmem)
      omega

lemma eventFrameForSub_injective (eventJson : List Char) :
    Function.Injective (eventFrameForSub · eventJson) := by
  intro subId other h
  simp only [eventFrameForSub, append_assoc, append_cancel_left_eq] at h
  exact String.toList_injective (append_cancel_right h)

/-- A stored event reads as the array of the id and the event.  The frame that the fan-out has for a
subscription reads as the same array, and is no other subscription's, exactly if the id has no
character that JSON escapes. -/
theorem live_frame_faithful_iff (R : JsonReader) (before after : List String) (subId : String)
    (event : EventFields) :
    R.parse (relayEvent subId event).compact = some (relayEvent subId event) ∧
    (((fanoutFrame event (before ++ subId :: after) subId).bind R.parse =
        some (relayEvent subId event) ∧
      ∀ other, fanoutFrame event (before ++ subId :: after) other =
        fanoutFrame event (before ++ subId :: after) subId → other = subId) ↔
      ∀ c ∈ subId.toList, escapeChar c = [c]) := by
  refine ⟨?_, ?_⟩
  · rw [relayEvent, R.reads _ _ event.isEvent.collectFields,
      collectFields_of_sorted (sorted_collectFields _)]
  rw [fanoutFrame_eq, if_pos (by simp), Option.bind_some]
  constructor
  · rintro ⟨hread, -⟩
    have hlength := R.shortest _ _ _ event.isEvent hread
    rw [compact_frameJson, length_eventFrameForSub, length_eventFrameForSub] at hlength
    exact (length_escaped _).2 (by simpa using hlength)
  intro hplain
  have htext : (frameJson ["EVENT", subId] event.fields).compact =
      eventFrameForSub subId event.text := by
    rw [compact_frameJson, flatMap_congr hplain, flatMap_singleton', String.ofList_toList]
  refine ⟨by rw [← htext, R.reads _ _ event.isEvent, relayEvent], ?_⟩
  intro other hother
  rw [fanoutFrame_eq] at hother
  split_ifs at hother
  exact eventFrameForSub_injective _ (Option.some.inj hother)

def twoFields : EventFields where
  fields := [("pubkey", (FieldValue.text "b").json), ("kind", (FieldValue.number 9).json)]
  isEvent := ⟨by decide, by simp⟩

/-- An id with quotes in it adds an element to its frame. -/
theorem quoted_id_splits : ¬ ∀ (R : JsonReader) (subId : String) (event : EventFields),
    acceptsSubId subId → R.parse (eventFrameForSub subId event.text) =
      some (relayEvent subId event) := by
  intro h
  have hread := h writtenReader "a\",\"b" twoFields (by decide)
  have htext : eventFrameForSub "a\",\"b" twoFields.text =
      (frameJson ["EVENT", "a", "b"] twoFields.fields).compact := by
    decide +kernel
  rw [htext, writtenReader.reads _ _ twoFields.isEvent] at hread
  exact absurd (frameJson_inj (Option.some.inj hread)).1 (by decide)

end Buzz.Relay
