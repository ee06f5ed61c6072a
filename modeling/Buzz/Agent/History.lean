import Buzz.Core.Json
import Buzz.Lib.Text

/-!
The history of a conversation.

A history is a list of user items, assistant items and tool results.  A provider takes it only if it
starts with a user item and the results of an assistant item's calls follow it at once, one for each
call.  `Paired` is the grammar of such histories: an assistant item comes with its results, and a
result comes in no other way.

Everything that edits a history keeps the grammar: appending whole exchanges, dropping everything
before a user item, and replacing the contents of results.
-/

namespace Buzz.Agent

open Buzz.Core Lib List

/-! ### Items -/

structure ToolCall where
  providerId : String
  name : String
  arguments : Json
  providerExtra : List (String × Json)

inductive ToolResultContent
  | text (s : String)
  | image (data mimeType : String)

structure ToolResult where
  providerId : String
  content : List ToolResultContent
  isError : Bool

inductive HistoryItem
  | user (text : String)
  | assistant (text : String) (toolCalls : List ToolCall) (reasoningDetails : Option Json)
  | toolResult (result : ToolResult)

/-! ### Sizes -/

def imageContextTokenEquiv : ℕ := 16384

namespace ToolResultContent

def estimatedBytes : ToolResultContent → ℕ
  | .text s => s.utf8ByteSize
  | .image data mimeType => data.utf8ByteSize + mimeType.utf8ByteSize

/-- The size for the context window, where an image counts as its tiles. -/
def contextPressureBytes : ToolResultContent → ℕ
  | .text s => s.utf8ByteSize
  | .image _ mimeType => imageContextTokenEquiv + mimeType.utf8ByteSize

def isImage : ToolResultContent → Bool
  | .text _ => false
  | .image .. => true

end ToolResultContent

def total {α : Type} (size : α → ℕ) (items : List α) : ℕ :=
  items.foldl (fun n item => n + size item) 0

def ToolCall.bytes (c : ToolCall) : ℕ :=
  c.providerId.utf8ByteSize + c.name.utf8ByteSize + textBytes c.arguments.compact +
    textBytes (Json.object c.providerExtra).compact

namespace HistoryItem

def isUser : HistoryItem → Bool
  | .user _ => true
  | _ => false

def sizeWith (contentSize : ToolResultContent → ℕ) : HistoryItem → ℕ
  | .user s => s.utf8ByteSize
  | .assistant text toolCalls reasoningDetails =>
    text.utf8ByteSize + total ToolCall.bytes toolCalls +
      (reasoningDetails.map fun v => textBytes v.compact).getD 0
  | .toolResult r => r.providerId.utf8ByteSize + total contentSize r.content

def estimatedBytes (item : HistoryItem) : ℕ := item.sizeWith ToolResultContent.estimatedBytes

def contextPressureBytes (item : HistoryItem) : ℕ :=
  item.sizeWith ToolResultContent.contextPressureBytes

end HistoryItem

open HistoryItem

abbrev History := List HistoryItem

variable (history : History)

def contextPressure : ℕ := total contextPressureBytes history

/-! ### Edits -/

def unsupportedImageToolMessage : String :=
  "The current model does not support image input. The image was removed from conversation history "
    ++ "so this turn can continue. Use a text-based inspection tool or ask the user for a textual "
    ++ "description instead."

def ToolResult.withoutImages (r : ToolResult) : ToolResult × ℕ :=
  let kept := r.content.filter fun c => !c.isImage
  let removed := r.content.length - kept.length
  if removed > 0 then
    ({ r with content := kept ++ [.text unsupportedImageToolMessage], isError := true }, removed)
  else (r, 0)

def HistoryItem.withoutImages : HistoryItem → HistoryItem × ℕ
  | .toolResult r => (.toolResult r.withoutImages.1, r.withoutImages.2)
  | item => (item, 0)

def replaceUnsupportedImages : History × ℕ :=
  (history.map fun item => item.withoutImages.1, total (fun item => item.withoutImages.2) history)

/-- What is left when everything before the second user item goes. -/
def dropExchange : History := history.tail.dropWhile fun item => !item.isUser

lemma length_dropExchange_lt {history : History} (h : dropExchange history ≠ []) :
    (dropExchange history).length < history.length := by
  have hdrop : (dropExchange history).length ≤ history.tail.length := (dropWhile_suffix _).length_le
  have hpos : 0 < (dropExchange history).length := length_pos_iff.mpr h
  rw [length_tail] at hdrop
  omega

/-- The loop of `truncate_history`: exchanges go from the front until the rest fits, but never the
last one. -/
def truncateLoop (maxBytes bytes : ℕ) (history : History) : History :=
  if h : bytes > maxBytes ∧ dropExchange history ≠ [] then
    have := length_dropExchange_lt h.2
    let dropped := history.take (history.length - (dropExchange history).length)
    truncateLoop maxBytes (bytes - total estimatedBytes dropped) (dropExchange history)
  else history
termination_by history.length

def truncateHistory (maxBytes : ℕ) : History :=
  truncateLoop maxBytes (total estimatedBytes history) history

def formatHookOutputBody (hook server text : String) : String :=
  String.ofList (Json.object [("hook", .string hook), ("server", .string server),
    ("text", .string text)]).compact

def syntheticHookId (hook server : String) (ordinal : ℕ) : String :=
  "buzz_hook_" ++ hook ++ "_" ++ server ++ "_" ++ toString ordinal

def hookExchange (hook : String) (ordinal : ℕ) (output : String × String) : History :=
  let providerId := syntheticHookId hook output.1 ordinal
  [.assistant "" [⟨providerId, output.1 ++ "__" ++ hook, .object [], []⟩] none,
    .toolResult ⟨providerId, [.text (formatHookOutputBody hook output.1 output.2)], false⟩]

/-- Each output as an exchange of its own; `nonce` is the counter of the process. -/
def pushHookOutputsAsToolResults (hook : String) (nonce : ℕ)
    (outputs : List (String × String)) : History :=
  history ++ outputs.zipIdx.flatMap fun e => hookExchange hook (nonce + e.2) e.1

/-! ### The grammar -/

/-- An assistant item comes with one result for each of its calls, in their order and with their
ids; no result comes otherwise. -/
inductive Paired : History → Prop
  | nil : Paired []
  | user (text : String) {rest : History} (h : Paired rest) : Paired (.user text :: rest)
  | assistant (text : String) (calls : List ToolCall) (details : Option Json)
      (results : List ToolResult) {rest : History}
      (ids : results.map ToolResult.providerId = calls.map ToolCall.providerId) (h : Paired rest) :
      Paired (.assistant text calls details :: (results.map .toolResult ++ rest))

/-- A paired history that starts with a user item. -/
structure WellFormed (history : History) : Prop where
  startsWithUser : ∃ text rest, history = .user text :: rest
  paired : Paired history

namespace Paired

variable {history more : History}

lemma append (h : Paired history) (hmore : Paired more) : Paired (history ++ more) := by
  induction h with
  | nil => exact hmore
  | user text _ ih => exact .user text ih
  | assistant text calls details results ids _ ih =>
    rw [cons_append, append_assoc]
    exact .assistant text calls details results ids ih

lemma plain (text : String) (details : Option Json) : Paired [.assistant text [] details] :=
  .assistant text [] details [] rfl .nil

lemma exchange (results : List ToolResult)
    (ids : results.map ToolResult.providerId = calls.map ToolCall.providerId) :
    Paired (.assistant text calls details :: results.map .toolResult) := by
  have h := Paired.assistant text calls details results ids .nil
  rw [append_nil] at h
  exact h

lemma of_append_user {before after : History}
    (h : Paired (before ++ .user text :: after)) : Paired (.user text :: after) := by
  generalize heq : before ++ .user text :: after = history at h
  induction h generalizing before with
  | nil => simp at heq
  | user text' hrest ih =>
    cases before with
    | nil =>
      cases heq
      exact .user text hrest
    | cons item before =>
      cases heq
      exact ih rfl
  | assistant text' calls details results ids hrest ih =>
    cases before with
    | nil => cases heq
    | cons item before =>
      obtain ⟨-, heq⟩ := cons_eq_cons.mp heq
      -- the user item is none of the results, so it stands behind all of them
      rcases append_eq_append_iff.mp heq with ⟨mid, hmid, hafter⟩ | ⟨mid, hmid, hafter⟩
      · cases mid with
        | nil => exact @ih [] hafter
        | cons item' mid =>
          obtain ⟨rfl, -⟩ := cons_eq_cons.mp hafter
          have hmem : HistoryItem.user text ∈ results.map .toolResult := by
            rw [hmid]
            exact mem_append_right _ (mem_cons_self ..)
          obtain ⟨r, -, hr⟩ := mem_map.mp hmem
          cases hr
      · exact ih hafter.symm

lemma withoutImages (h : Paired history) : Paired (replaceUnsupportedImages history).1 := by
  unfold replaceUnsupportedImages
  induction h with
  | nil => exact .nil
  | user text _ ih => exact .user text ih
  | @assistant text calls details results rest ids _ ih =>
    have hress : (results.map HistoryItem.toolResult).map (fun item => item.withoutImages.1) =
        (results.map fun r => r.withoutImages.1).map .toolResult := by
      rw [map_map, map_map]
      rfl
    have hids : (results.map fun r => r.withoutImages.1).map ToolResult.providerId =
        calls.map ToolCall.providerId := by
      rw [← ids, map_map]
      refine map_congr_left fun r _ => ?_
      simp only [Function.comp_apply, ToolResult.withoutImages]
      split_ifs <;> rfl
    simp only [map_cons, map_append]
    rw [hress]
    exact .assistant text calls details _ hids ih

lemma hookOutputs (hook : String) (nonce : ℕ) (outputs : List ((String × String) × ℕ)) :
    Paired (outputs.flatMap fun e => hookExchange hook (nonce + e.2) e.1) := by
  induction outputs with
  | nil => exact .nil
  | cons e outputs ih =>
    have hpair : Paired (hookExchange hook (nonce + e.2) e.1) := exchange [_] rfl
    exact hpair.append ih

end Paired

namespace WellFormed

variable {history more : History}

section

variable (h : WellFormed history)
include h

lemma append (hmore : Paired more) : WellFormed (history ++ more) := by
  obtain ⟨⟨text, rest, rfl⟩, hpaired⟩ := h
  exact ⟨⟨text, rest ++ more, rfl⟩, hpaired.append hmore⟩

lemma pushUser (text : String) : WellFormed (history ++ [.user text]) :=
  h.append (.user text .nil)

lemma withoutImages : WellFormed (replaceUnsupportedImages history).1 := by
  obtain ⟨⟨text, rest, rfl⟩, hpaired⟩ := h
  exact ⟨⟨text, _, rfl⟩, hpaired.withoutImages⟩

lemma hookOutputs (hook : String) (nonce : ℕ) (outputs : List (String × String)) :
    WellFormed (pushHookOutputsAsToolResults history hook nonce outputs) :=
  h.append (.hookOutputs hook nonce _)

lemma dropExchange (hne : dropExchange history ≠ []) : WellFormed (dropExchange history) := by
  obtain ⟨⟨text, rest, rfl⟩, hpaired⟩ := h
  have hsplit : rest.takeWhile (fun item => !item.isUser) ++
      Agent.dropExchange (.user text :: rest) = rest := takeWhile_append_dropWhile
  have hhead : (!((Agent.dropExchange (.user text :: rest)).head hne).isUser) = false :=
    head_dropWhile_not (fun item : HistoryItem => !item.isUser) hne
  cases hdrop : Agent.dropExchange (.user text :: rest) with
  | nil => exact absurd hdrop hne
  | cons item rest' =>
    simp only [hdrop, head_cons, Bool.not_eq_false'] at hhead hsplit
    cases item with
    | user text' =>
      refine ⟨⟨text', rest', rfl⟩, ?_⟩
      rw [← hsplit, ← cons_append] at hpaired
      exact hpaired.of_append_user
    | assistant text' calls details => cases hhead
    | toolResult r => cases hhead

lemma truncateHistory (maxBytes : ℕ) : WellFormed (truncateHistory history maxBytes) := by
  unfold Agent.truncateHistory
  generalize total estimatedBytes history = bytes
  fun_induction truncateLoop maxBytes bytes history with
  | case1 bytes history hmore _ dropped ih => exact ih (h.dropExchange hmore.2)
  | case2 bytes history hdone => exact h

end

end WellFormed

end Buzz.Agent
