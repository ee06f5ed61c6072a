import Buzz.Workflow.EvalContext

/-!
Templates of workflow steps.

`resolveTemplate` moves a cursor over the template; `Splits` says, without one, which placeholders a
text has: they begin at the first pair of opening braces and end at the first pair of closing ones
after it.  The result is the template with its placeholders substituted, but an unknown placeholder
loses the white space around its expression, which the source means to leave as it is.

Texts are lists of characters.  `toNpub` is the encoding of a hex key as an `npub`, from a library.
-/

namespace Buzz.Workflow

open Lib Buzz.Core List

/-! ### Variables and filters -/

def splitn (sep : Char) : ℕ → List Char → List (List Char)
  | 0, _ => []
  | 1, s => [s]
  | n + 2, s =>
    match s.span (· ≠ sep) with
    | (before, []) => [before]
    | (before, _ :: rest) => before :: splitn sep (n + 1) rest

def TriggerContext.getField (ctx : TriggerContext) : String → Option String
  | "text" => some ctx.text
  | "author" => some ctx.author
  | "channel_id" => some ctx.channelId
  | "timestamp" => some ctx.timestamp
  | "emoji" => some ctx.emoji
  | "message_id" => some ctx.messageId
  | other => ctx.webhookFields.lookup other

def jsonToString : Json → List Char
  | .string s => s.toList
  | .null => []
  | other => other.compact

def jsonGetStr (value : Json) (key : String) : Option (List Char) :=
  match value with
  | .object map => (map.lookup key).map jsonToString
  | _ => none

/-- What a template is resolved with. -/
structure TemplateEnv where
  toNpub : List Char → Option (List Char)
  triggerCtx : TriggerContext
  stepOutputs : List (String × Json)

section Resolve

variable (V : TemplateEnv)

def resolveVariable (path : List Char) : Option (List Char) :=
  match path.dropPrefix? "trigger.".toList, path.dropPrefix? "steps.".toList with
  | some field, _ => (V.triggerCtx.getField (String.ofList field)).map String.toList
  | none, some rest =>
    match (splitn '.' 3 rest).map String.ofList with
    | [stepId, "output", field] => (V.stepOutputs.lookup stepId).bind (jsonGetStr · field)
    | _ => none
  | none, none => none

/-- An error is the message of a `TemplateError`. -/
def applyFilter (value filter : List Char) : Except String (List Char) :=
  let filter := trim filter
  match (filter.dropPrefix? "truncate(".toList).bind (·.dropSuffix? [')']) with
  | some inner =>
    match parseU64 (trim inner) with
    | some n => .ok (value.take n)
    | none => .error ("truncate() requires a number, got: " ++ String.ofList inner)
  | none =>
    if filter = "npub".toList ∨ filter = "truncate_pubkey".toList then
      .ok ((V.toNpub value).getD value)
    else .error ("unknown filter: " ++ String.ofList filter)

/-- The filtered value of the variable that an expression names. -/
def valueOf (expr : List Char) : Except String (Option (List Char)) :=
  let parts := splitn '|' 2 expr
  match resolveVariable V (trim (parts.headD [])), parts[1]?.map trim with
  | some value, some filter => (applyFilter V value filter).map some
  | some value, none => .ok (some value)
  | none, _ => .ok none

/-! ### The scanner -/

def openBraces : List Char := ['{', '{']

def closeBraces : List Char := ['}', '}']

def strFind (pat : List Char) : List Char → Option ℕ
  | [] => none
  | c :: s => if pat.isPrefixOf (c :: s) then some 0 else (strFind pat s).map (· + 1)

def resolveLoop : ℕ → List Char → List Char → Except String (List Char)
  | 0, remaining, result => .ok (result ++ remaining)
  | fuel + 1, remaining, result =>
    match strFind openBraces remaining with
    | none => .ok (result ++ remaining)
    | some start =>
      let result := result ++ remaining.take start
      let remaining := remaining.drop (start + 2)
      match strFind closeBraces remaining with
      | none => .ok (result ++ openBraces ++ remaining)
      | some stop => do
        let expr := trim (remaining.take stop)
        let remaining := remaining.drop (stop + 2)
        match ← valueOf V expr with
        | some value => resolveLoop fuel remaining (result ++ value)
        | none => resolveLoop fuel remaining (result ++ openBraces ++ expr ++ closeBraces)

/-- A turn of the loop shortens the text, so its length is fuel enough. -/
def resolveTemplate (template : List Char) : Except String (List Char) :=
  if strFind openBraces template = none then .ok template
  else resolveLoop V template.length template []

/-! ### What is meant -/

inductive Piece
  | text (s : List Char)
  | placeholder (inner : List Char)

/-- The pieces of a text.  Nothing of `before` and `inner` can be taken for the braces that follow. -/
inductive Splits : List Char → List Piece → Prop
  | text {s} : ¬ openBraces <:+: s → Splits s [.text s]
  | unclosed {before rest} : ¬ openBraces <:+: before ++ ['{'] → ¬ closeBraces <:+: rest →
      Splits (before ++ openBraces ++ rest) [.text (before ++ openBraces ++ rest)]
  | placeholder {before inner rest pieces} : ¬ openBraces <:+: before ++ ['{'] →
      ¬ closeBraces <:+: inner ++ ['}'] → Splits rest pieces →
      Splits (before ++ openBraces ++ (inner ++ closeBraces ++ rest))
        (.text before :: .placeholder inner :: pieces)

/-- The pieces with their placeholders substituted; `f` writes the expressions that are unknown. -/
def renderAll (f : List Char → List Char) : List Piece → Except String (List Char)
  | [] => .ok []
  | .text s :: pieces => (renderAll f pieces).map (s ++ ·)
  | .placeholder inner :: pieces => do
    let value ← valueOf V (trim inner)
    (renderAll f pieces).map (value.getD (openBraces ++ f inner ++ closeBraces) ++ ·)

/-! ### The scanner finds the pieces -/

lemma strFind_eq_none (h : ¬ pat <:+: s) : strFind pat s = none := by
  induction s with
  | nil => rfl
  | cons c s ih =>
    rw [infix_cons_iff, not_or] at h
    simp [strFind, List.isPrefixOf_iff_prefix, h.1, ih h.2]

lemma strFind_append (h : ¬ [a, a] <:+: before ++ [a]) (rest : List Char) :
    strFind [a, a] (before ++ [a, a] ++ rest) = some before.length := by
  induction before with
  | nil => simp [strFind]
  | cons c before ih =>
    rw [cons_append, infix_cons_iff, not_or] at h
    have hhere : ¬ [a, a] <+: c :: (before ++ [a, a] ++ rest) := fun hpre => h.1 (by
      cases before <;> simpa using hpre)
    rw [← List.isPrefixOf_iff_prefix] at hhere
    rw [cons_append, cons_append, strFind, if_neg hhere, ih h.2]
    rfl

lemma infix_cases (a : Char) (s : List Char) : ¬ [a, a] <:+: s ∨
    ∃ before rest, s = before ++ [a, a] ++ rest ∧ ¬ [a, a] <:+: before ++ [a] := by
  induction s with
  | nil => exact .inl (by simp)
  | cons c s ih =>
    by_cases hhere : [a, a] <+: c :: s
    · obtain ⟨rest, hrest⟩ := hhere
      refine .inr ⟨[], rest, hrest.symm, fun h => ?_⟩
      have hlen := h.length_le
      simp at hlen
    rcases ih with hnot | ⟨before, rest, rfl, hnot⟩
    · exact .inl (infix_cons_iff.not.mpr (not_or_intro hhere hnot))
    refine .inr ⟨c :: before, rest, rfl, ?_⟩
    rw [cons_append, infix_cons_iff]
    refine not_or_intro (fun h => hhere (h.trans ?_)) hnot
    exact ⟨a :: rest, by simp⟩

lemma exists_splits (n : ℕ) (s : List Char) (h : s.length ≤ n) : ∃ pieces, Splits s pieces := by
  induction n generalizing s with
  | zero =>
    obtain rfl := length_eq_zero_iff.mp (Nat.le_zero.mp h)
    exact ⟨_, .text (by simp [openBraces])⟩
  | succ n ih =>
    rcases infix_cases '{' s with hnot | ⟨before, rest, rfl, hnot⟩
    · exact ⟨_, .text hnot⟩
    rcases infix_cases '}' rest with hnone | ⟨inner, after, rfl, hfst⟩
    · exact ⟨_, .unclosed hnot hnone⟩
    simp only [length_append, length_cons, length_nil] at h
    obtain ⟨pieces, hpieces⟩ := ih after (by omega)
    exact ⟨_, .placeholder hnot hfst hpieces⟩

lemma resolveLoop_spec (hpieces : Splits remaining pieces) (h : remaining.length ≤ fuel)
    (result : List Char) :
    resolveLoop V fuel remaining result = (renderAll V trim pieces).map (result ++ ·) := by
  induction hpieces generalizing fuel result with
  | text hnot => cases fuel <;> simp [resolveLoop, strFind_eq_none hnot, renderAll, Except.map]
  | @unclosed before rest hnot hnone =>
    obtain _ | fuel := fuel
    · simp [openBraces] at h
    have hopen : strFind openBraces (before ++ openBraces ++ rest) = _ := strFind_append hnot rest
    have hrest : (before ++ openBraces ++ rest).drop (before.length + 2) = rest := by
      simp [openBraces]
    simp only [resolveLoop, hopen, hrest, strFind_eq_none hnone]
    simp [renderAll, Except.map]
  | @placeholder before inner rest pieces hnot hfst _ ih =>
    obtain _ | fuel := fuel
    · simp [openBraces] at h
    generalize hall : inner ++ closeBraces ++ rest = after at h ⊢
    have hopen : strFind openBraces (before ++ openBraces ++ after) = _ := strFind_append hnot after
    have hcl : strFind closeBraces after = _ := hall ▸ strFind_append hfst rest
    have hafter : (before ++ openBraces ++ after).drop (before.length + 2) = after := by
      simp [openBraces]
    have hrest : after.drop (inner.length + 2) = rest := by simp [← hall, closeBraces]
    have hinner : after.take inner.length = inner := by simp [← hall]
    have hsh : rest.length ≤ fuel := by
      simp [← hall, openBraces] at h
      omega
    simp only [resolveLoop, hopen, hafter, hcl, hrest, hinner, renderAll]
    cases hval : valueOf V (trim inner) with
    | error e => rfl
    | ok value =>
      cases value <;> simp only [ok_bind, ih hsh] <;>
        cases renderAll V trim pieces <;> simp [Except.map]

/-! ### What comes out and what is meant -/

lemma trim_sublist (s : List Char) : trim s <+ s := by
  have hback := (dropWhile_sublist isWhiteSpace (l := (s.dropWhile isWhiteSpace).reverse)).reverse
  rw [reverse_reverse] at hback
  exact hback.trans (dropWhile_sublist _)

lemma renderAll_compare (h : renderAll V trim pieces = .ok out) :
    ∃ meant, renderAll V id pieces = .ok meant ∧ out.length ≤ meant.length ∧
      (out = meant ↔ ∀ inner, .placeholder inner ∈ pieces →
        valueOf V (trim inner) = .ok none → trim inner = inner) := by
  induction pieces generalizing out with
  | nil =>
    cases h
    exact ⟨[], rfl, le_rfl, by simp⟩
  | cons piece pieces ih =>
    cases piece with
    | text s =>
      obtain ⟨rest, hrest, rfl⟩ := map_eq_ok.mp h
      obtain ⟨meant, hmeant, hle, hiff⟩ := ih hrest
      refine ⟨s ++ meant, by rw [renderAll, hmeant]; rfl, by simpa, ?_⟩
      simp [hiff]
    | placeholder inner =>
      obtain ⟨value, hval, h⟩ := bind_eq_ok.mp h
      obtain ⟨rest, hrest, rfl⟩ := map_eq_ok.mp h
      obtain ⟨meant, hmeant, hle, hiff⟩ := ih hrest
      refine ⟨_, by rw [renderAll, hval, hmeant]; rfl, ?_⟩
      cases value with
      | some value => simp [hle, hiff, hval]
      | none =>
        have hsh := (trim_sublist inner).length_le
        refine ⟨by simp; omega, ?_⟩
        constructor
        · intro heq
          have hlen := congrArg length heq
          simp at hlen
          have htrim := (trim_sublist inner).eq_of_length (by omega)
          rw [htrim] at heq
          have hoth := hiff.mp (append_cancel_left heq)
          simpa [htrim] using hoth
        intro hall
        have htrim := hall inner mem_cons_self hval
        have hoth := hiff.mpr fun other hmem => hall other (mem_cons_of_mem _ hmem)
        rw [htrim, hoth]
        rfl

/-- **Templates.** What a template comes out as is the template with the placeholders that name a
variable substituted exactly if no unknown placeholder has white space around its expression. -/
theorem resolveTemplate_exact_iff (template : List Char) :
    (∃ pieces, Splits template pieces) ∧ ∀ pieces, Splits template pieces →
      ∀ out, resolveTemplate V template = .ok out →
        (renderAll V id pieces = .ok out ↔ ∀ inner, .placeholder inner ∈ pieces →
          valueOf V (trim inner) = .ok none → trim inner = inner) := by
  refine ⟨exists_splits _ _ le_rfl, fun pieces hpieces out hout => ?_⟩
  have hfast : resolveTemplate V template = resolveLoop V template.length template [] := by
    unfold resolveTemplate
    split_ifs with hnone
    · cases template with
      | nil => rfl
      | cons c s => simp [resolveLoop, hnone]
    · rfl
  rw [hfast, resolveLoop_spec V hpieces le_rfl] at hout
  obtain ⟨_, hrender, rfl⟩ := map_eq_ok.mp hout
  obtain ⟨meant, hmeant, -, hiff⟩ := renderAll_compare V hrender
  rw [hmeant, ← hiff, Except.ok.injEq, eq_comm]
  rfl

end Resolve

def bareEnv : TemplateEnv := ⟨fun _ => none, ⟨"", "", "", "", "", "", false, []⟩, []⟩

/-- The placeholder of a variable that does not exist, with blanks. -/
theorem unknown_loses_blanks :
    Splits ['{', '{', ' ', 'x', ' ', '}', '}'] [.text [], .placeholder [' ', 'x', ' '], .text []] ∧
      resolveTemplate bareEnv ['{', '{', ' ', 'x', ' ', '}', '}'] =
        .ok ['{', '{', 'x', '}', '}'] ∧
      renderAll bareEnv id [.text [], .placeholder [' ', 'x', ' '], .text []] =
        .ok ['{', '{', ' ', 'x', ' ', '}', '}'] :=
  ⟨@Splits.placeholder [] [' ', 'x', ' '] [] _ (by decide) (by decide) (.text (by decide)), rfl, rfl⟩

end Buzz.Workflow
