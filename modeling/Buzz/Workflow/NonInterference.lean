import Buzz.Workflow.EvalContext

/-!
Webhook fields and the standard trigger variables.

The fields of a webhook are written first, as strings; the standard trigger fields are strings too and
overwrite them.  The one standard variable that is not a string is `trigger_is_reply`: a webhook field
of that name makes the write fail, and with it every condition.  Otherwise two contexts that differ in
their webhook fields agree on everything a condition over standard variables and step outputs can name
(`condition_ignores_webhook_iff`).
-/

namespace Buzz.Workflow

open Lib Buzz.Core List Prod

def standardVariables : List String :=
  ["trigger_text", "trigger_author", "trigger_channel_id", "trigger_timestamp", "trigger_emoji",
    "trigger_message_id", "trigger_is_reply"]

/-- A standard trigger variable, or one of step outputs. -/
def IsStandard (name : String) : Prop :=
  name ∈ standardVariables ∨ "steps_".toList <+: name.toList

/-! ### Single writes -/

namespace HashMapContext

section Writes

variable {c d : HashMapContext}

lemma lookup_write (c : HashMapContext) (name : String) (v : EvalValue) (x : String) :
    (c.write name v).vars.lookup x = if x = name then some v else c.vars.lookup x := by
  exact Table.lookup_insert_if c.vars name x v

def AllStrings (c : HashMapContext) : Prop :=
  ∀ x, ∀ v ∈ c.vars.lookup x, EvalValue.type v = .string

lemma setValue_string (h : c.AllStrings) (s : String) :
    c.setValue name (.string s) = .ok (c.write name (.string s)) := by
  unfold setValue
  cases hold : c.vars.lookup name with
  | none => rfl
  | some old =>
    exact if_pos (h name old hold)

lemma AllStrings.write (h : c.AllStrings) (s : String) : (c.write name (.string s)).AllStrings := by
  intro x w hw
  rw [lookup_write] at hw
  split_ifs at hw with hx
  · cases hw
    rfl
  · exact h x w hw

/-- The contexts have the same functions, and the same variables as far as `S` goes. -/
structure AgreeOn (S : String → Prop) (c d : HashMapContext) : Prop where
  functions : c.functions = d.functions
  vars : ∀ x, S x → c.vars.lookup x = d.vars.lookup x

lemma AgreeOn.write (h : AgreeOn S c d) : AgreeOn S (c.write name v) (d.write name v) where
  functions := h.functions
  vars x hx := by rw [lookup_write, lookup_write, h.vars x hx]

lemma AgreeOn.setValue (h : AgreeOn S c d) (hname : S name) :
    Lockstep (AgreeOn S) (c.setValue name v) (d.setValue name v) := by
  unfold HashMapContext.setValue
  rw [h.vars name hname]
  cases d.vars.lookup name with
  | none => exact .ok h.write
  | some old =>
    simp only
    split_ifs
    · exact .ok h.write
    · exact .error _

end Writes

end HashMapContext

open HashMapContext

/-! ### The passes -/

section Passes

lemma isReply_prefixes : "trigger_".toList.isPrefixOf "is_reply".toList = false ∧
    "steps_".toList.isPrefixOf "is_reply".toList = false := by decide

lemma webhookName_ne_steps (h : "steps_".toList <+: name.toList) : name ≠ "trigger_" ++ key := by
  rintro rfl
  obtain ⟨rest, hrest⟩ := h
  rw [String.toList_append] at hrest
  cases congrArg head? hrest

lemma webhookName_eq_isReply : "trigger_is_reply" = "trigger_" ++ key ↔ key = "is_reply" := by
  constructor
  · intro h
    have happ : "trigger_".toList ++ "is_reply".toList = "trigger_".toList ++ key.toList := by
      have htext := congrArg String.toList h
      rwa [String.toList_append] at htext
    exact (String.toList_injective (append_cancel_left happ)).symm
  · rintro rfl
    rfl

/-- What the webhook pass leaves: strings, and no step outputs; `trigger_is_reply` if there was such
a field. -/
structure AfterWebhook (fields : List (String × String)) (c : HashMapContext) : Prop where
  functions : c.functions = helperContext.functions
  strings : c.AllStrings
  noSteps : ∀ x, "steps_".toList <+: x.toList → c.vars.lookup x = none
  isReply : (c.vars.lookup "trigger_is_reply").isSome ↔ "is_reply" ∈ fields.map fst

lemma afterWebhook_nil : AfterWebhook [] helperContext where
  functions := rfl
  strings x v hv := by cases hv
  noSteps x _ := rfl
  isReply := by
    refine ⟨?_, ?_⟩
    all_goals
      intro h
      cases h

lemma AfterWebhook.step (h : AfterWebhook fields c) (field : String × String) :
    ∃ d, setWebhookField c field = .ok d ∧ AfterWebhook (fields ++ [field]) d := by
  unfold setWebhookField
  split_ifs with hskip
  · refine ⟨c, rfl, h.functions, h.strings, h.noSteps, ?_⟩
    have hne : field.1 ≠ "is_reply" := by
      rintro heq
      rw [heq, isReply_prefixes.1, isReply_prefixes.2] at hskip
      cases hskip
    rw [h.isReply, map_append, mem_append]
    simp [hne.symm]
  refine ⟨_, setValue_string h.strings _, h.functions, h.strings.write _, ?_, ?_⟩
  · intro x hx
    rw [lookup_write, if_neg (webhookName_ne_steps hx), h.noSteps x hx]
  rw [lookup_write, map_append, mem_append, ← h.isReply]
  by_cases heq : "trigger_is_reply" = "trigger_" ++ field.1
  · simp [webhookName_eq_isReply.mp heq]
  have hne : "is_reply" ≠ field.1 := fun hkey =>
    heq (webhookName_eq_isReply.mpr hkey.symm)
  simp [if_neg heq, hne]

/-- **The webhook pass** always succeeds. -/
theorem webhookPass_ok (fields : List (String × String)) :
    ∃ c, fields.foldlM setWebhookField helperContext = .ok c ∧ AfterWebhook fields c := by
  induction fields using reverseRecOn with
  | nil => exact ⟨_, rfl, afterWebhook_nil⟩
  | append_singleton fields field ih =>
    obtain ⟨c, hc, haft⟩ := ih
    obtain ⟨d, hd, haft⟩ := haft.step field
    refine ⟨d, ?_, haft⟩
    rw [foldlM_append, hc]
    show [field].foldlM setWebhookField c = .ok d
    rw [foldlM_cons, hd]
    rfl

def writeAll (fields : List (String × String)) (c : HashMapContext) : HashMapContext :=
  fields.foldl (fun c field => c.write field.1 (.string field.2)) c

variable {c d : HashMapContext} {fields : List (String × String)}

lemma triggerPass_ok (h : c.AllStrings) :
    fields.foldlM setTriggerField c = .ok (writeAll fields c) := by
  induction fields generalizing c with
  | nil => rfl
  | cons field fields ih =>
    rw [foldlM_cons, setTriggerField, setValue_string h]
    exact ih (h.write _)

lemma lookup_writeAll_of_not_mem (h : x ∉ fields.map fst) :
    (writeAll fields c).vars.lookup x = c.vars.lookup x := by
  induction fields generalizing c with
  | nil => rfl
  | cons field fields ih =>
    rw [map_cons, mem_cons, not_or] at h
    refine (ih h.2).trans ?_
    rw [lookup_write, if_neg h.1]

lemma HashMapContext.AgreeOn.writeAll (h : AgreeOn S c d) (fields : List (String × String)) :
    AgreeOn (fun x => S x ∨ x ∈ fields.map fst) (Workflow.writeAll fields c)
      (Workflow.writeAll fields d) := by
  induction fields generalizing c d S with
  | nil => exact ⟨h.functions, fun x hx => h.vars x (hx.resolve_right not_mem_nil)⟩
  | cons field fields ih =>
    have hfst : AgreeOn (fun x => S x ∨ x = field.1) (c.write field.1 (.string field.2))
        (d.write field.1 (.string field.2)) := by
      refine ⟨h.functions, ?_⟩
      intro x hx
      rw [lookup_write, lookup_write]
      split_ifs with heq
      · rfl
      · exact h.vars x (hx.resolve_right heq)
    refine ⟨(ih hfst).functions, ?_⟩
    intro x hx
    refine (ih hfst).vars x ?_
    rw [map_cons, mem_cons] at hx
    tauto

lemma HashMapContext.AgreeOn.stepPass (h : AgreeOn IsStandard c d)
    (stepOutputs : List (String × Json)) :
    Lockstep (AgreeOn IsStandard) (stepOutputs.foldlM setStepOutput c)
      (stepOutputs.foldlM setStepOutput d) := by
  refine Lockstep.foldlM ?_ h
  rintro ⟨stepId, output⟩ _ c d h
  unfold setStepOutput
  cases output with
  | object fields =>
    refine Lockstep.foldlM ?_ h
    intro field _ c d h
    refine h.setValue (.inr ?_)
    simp only [String.toList_append, append_assoc]
    exact prefix_append _ _
  | _ => exact .ok h

end Passes

/-! ### The whole context -/

section Filled

variable {ctx : TriggerContext} {stepOutputs : List (String × Json)}

lemma fillContext_strings (ctx : TriggerContext) (stepOutputs : List (String × Json)) :
    ∃ c, AfterWebhook ctx.webhookFields c ∧ fillContext ctx stepOutputs =
      ((writeAll (triggerFields ctx) c).setValue "trigger_is_reply" (.boolean ctx.isReply) >>=
        fun c => stepOutputs.foldlM setStepOutput c) := by
  obtain ⟨c, hc, haft⟩ := webhookPass_ok ctx.webhookFields
  refine ⟨c, haft, ?_⟩
  unfold fillContext
  rw [hc]
  show ((triggerFields ctx).foldlM setTriggerField c >>= _) = _
  rw [triggerPass_ok haft.strings]
  rfl

lemma isReply_not_mem (ctx : TriggerContext) :
    "trigger_is_reply" ∉ (triggerFields ctx).map fst := by
  simp [triggerFields]

/-- A webhook field `is_reply` is a string where a Boolean is to be written. -/
theorem fillContext_isReply (h : "is_reply" ∈ ctx.webhookFields.map fst) :
    fillContext ctx stepOutputs = .error (.expected .string (.boolean ctx.isReply)) := by
  obtain ⟨c, haft, hfill⟩ := fillContext_strings ctx stepOutputs
  obtain ⟨old, hold⟩ := Option.isSome_iff_exists.mp (haft.isReply.mpr h)
  have htype : EvalValue.type old = .string := haft.strings _ old hold
  rw [hfill, setValue, lookup_writeAll_of_not_mem (isReply_not_mem ctx), hold]
  simp only [htype]
  rfl

lemma fillContext_eq (ctx : TriggerContext) (stepOutputs : List (String × Json))
    (h : "is_reply" ∉ ctx.webhookFields.map fst) :
    ∃ c, AfterWebhook ctx.webhookFields c ∧ fillContext ctx stepOutputs =
      stepOutputs.foldlM setStepOutput
        ((writeAll (triggerFields ctx) c).write "trigger_is_reply" (.boolean ctx.isReply)) := by
  obtain ⟨c, haft, hfill⟩ := fillContext_strings ctx stepOutputs
  refine ⟨c, haft, ?_⟩
  have hnone : c.vars.lookup "trigger_is_reply" = none := by
    rw [← Option.not_isSome_iff_eq_none, haft.isReply]
    exact h
  rw [hfill, setValue, lookup_writeAll_of_not_mem (isReply_not_mem ctx), hnone]
  rfl

theorem fillContext_agree (h : "is_reply" ∉ fields.map fst) (h' : "is_reply" ∉ fields'.map fst) :
    Lockstep (AgreeOn IsStandard) (fillContext { ctx with webhookFields := fields } stepOutputs)
      (fillContext { ctx with webhookFields := fields' } stepOutputs) := by
  obtain ⟨c, haft, hfill⟩ := fillContext_eq { ctx with webhookFields := fields } stepOutputs h
  obtain ⟨c', hafter', hfill'⟩ :=
    fillContext_eq { ctx with webhookFields := fields' } stepOutputs h'
  rw [hfill, hfill']
  refine AgreeOn.stepPass ?_ stepOutputs
  have hss : AgreeOn (fun x => "steps_".toList <+: x.toList) c c' :=
    ⟨haft.functions.trans hafter'.functions.symm,
      fun x hx => (haft.noSteps x hx).trans (hafter'.noSteps x hx).symm⟩
  have hstrings := hss.writeAll (triggerFields ctx)
  refine ⟨hstrings.functions, ?_⟩
  intro x hx
  rw [lookup_write, lookup_write]
  split_ifs with heq
  · rfl
  refine hstrings.vars x ?_
  rcases hx with hx | hx
  · right
    simpa [standardVariables, triggerFields, heq] using hx
  · exact .inl hx

end Filled

/-! ### Conditions -/

section Conditions

variable (E : Evalexpr)

/-- The condition names standard variables and step outputs only. -/
def StandardCondition (expr : String) : Prop := ∀ x ∈ E.identifiers expr, IsStandard x

lemma evaluateCondition_true (ctx : TriggerContext) :
    evaluateCondition E .completes "true" ctx [] = .ok true ↔
      "is_reply" ∉ ctx.webhookFields.map fst := by
  by_cases h : "is_reply" ∈ ctx.webhookFields.map fst
  · simp [evaluateCondition, buildEvalContext, fillContext_isReply h, Except.mapError, bind,
      Except.bind, h]
  obtain ⟨c, _, hfill⟩ := fillContext_eq ctx [] h
  have hsize : ¬"true".utf8ByteSize > 4096 := by decide
  simp only [evaluateCondition, buildEvalContext, hfill, bind_eq_ok, mapError_eq_ok,
    refuseIf_eq_ok, E.evalBoolean_true]
  exact iff_of_true ⟨_, rfl, (), hsize, trivial⟩ h

/-- Contexts that agree where the condition looks give it the same result. -/
lemma evaluateCondition_congr (hexpr : StandardCondition E expr)
    (h : Lockstep (AgreeOn IsStandard) (fillContext ctx stepOutputs)
      (fillContext ctx' stepOutputs)) : evaluateCondition E task expr ctx stepOutputs =
      evaluateCondition E task expr ctx' stepOutputs := by
  unfold evaluateCondition buildEvalContext
  refine h.mapError.bind_eq ?_
  intro c d hagr
  have heval : E.evalBoolean expr c = E.evalBoolean expr d :=
    E.evalBoolean_congr expr c d hagr.functions fun x hx => hagr.vars x (hexpr x hx)
  rw [heval]

/-- **Webhook fields and conditions.** Two maps of webhook fields give every condition over standard
variables and step outputs the same result exactly if both have a field `is_reply` or neither has. -/
theorem condition_ignores_webhook_iff (ctx : TriggerContext)
    (fields fields' : List (String × String)) :
    (∀ task expr stepOutputs, StandardCondition E expr →
      evaluateCondition E task expr { ctx with webhookFields := fields } stepOutputs =
        evaluateCondition E task expr { ctx with webhookFields := fields' } stepOutputs) ↔
    ("is_reply" ∈ fields.map fst ↔ "is_reply" ∈ fields'.map fst) := by
  constructor
  · intro hsame
    have htrue := hsame .completes "true" [] (by simp [StandardCondition, E.identifiers_true])
    have hfields := evaluateCondition_true E { ctx with webhookFields := fields }
    rw [htrue, evaluateCondition_true] at hfields
    exact not_iff_not.mp hfields.symm
  intro hkeys task expr stepOutputs hexpr
  refine evaluateCondition_congr E hexpr ?_
  by_cases h : "is_reply" ∈ fields.map fst
  · rw [fillContext_isReply h, fillContext_isReply (hkeys.mp h)]
    exact .error _
  · exact fillContext_agree h (fun h' => h (hkeys.mpr h'))

end Conditions

/-! ### Expressions of one name -/

def evalWord (expr : String) (c : HashMapContext) : Except EvalexprError Bool :=
  if expr = "true" then .ok true
  else if expr = "false" then .ok false
  else
    match c.vars.lookup expr with
    | some (.boolean b) => .ok b
    | some v => .error (.expected .boolean v)
    | none => .error (.variableIdentifierNotFound expr)

def wordEvalexpr : Evalexpr where
  describe
    | .expected .string (.boolean true) => "Expected a Value::String, but got Boolean(true)."
    | .expected .string (.boolean false) => "Expected a Value::String, but got Boolean(false)."
    | _ => "error"
  identifiers expr := if expr = "true" ∨ expr = "false" then [] else [expr]
  evalBoolean := evalWord
  evalBoolean_congr expr c d _ h := by
    unfold evalWord
    split_ifs with htrue hfalse
    · rfl
    · rfl
    · rw [h expr (by simp [htrue, hfalse])]
  identifiers_true := rfl
  evalBoolean_true _ := rfl

def demoTrigger : TriggerContext where
  text := "P1 incident"
  author := "abc123"
  channelId := "ops"
  timestamp := "1700000000"
  emoji := ""
  messageId := "e1"
  isReply := true
  webhookFields := []

/-- The condition `trigger_is_reply` is true; a webhook field `is_reply` turns it into an error. -/
theorem webhook_breaks_condition :
    StandardCondition wordEvalexpr "trigger_is_reply" ∧
    evaluateCondition wordEvalexpr .completes "trigger_is_reply" demoTrigger [] = .ok true ∧
    evaluateCondition wordEvalexpr .completes "trigger_is_reply"
        { demoTrigger with webhookFields := [("is_reply", "no")] } [] =
      .error (.conditionError "Expected a Value::String, but got Boolean(true).") := by
  refine ⟨?_, by decide, by decide⟩
  simp [StandardCondition, wordEvalexpr, IsStandard, standardVariables]

end Buzz.Workflow
