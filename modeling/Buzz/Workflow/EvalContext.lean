import Buzz.Core.Json
import Buzz.Lib.Lockstep
import Buzz.Workflow.Schedule

/-!
Conditions of workflow steps.

A condition is evaluated in a context of variables: the fields of the webhook that triggered the
workflow, the standard trigger fields and the outputs of earlier steps, written one after the other
into one namespace.  A variable keeps its type: a write of another type fails.

Expressions are parsed and evaluated by a library; `Evalexpr` says what is assumed of it.
-/

namespace Buzz.Workflow

open Lib Buzz.Core

/-! ### The expression context -/

inductive EvalValue
  | string (s : String)
  /-- The float that is nearest to a literal. -/
  | float (n : JsonNumber)
  | int (n : ℤ)
  | boolean (b : Bool)
  | tuple (items : List EvalValue)
  | empty

inductive ValueType
  | string | float | int | boolean | tuple | empty
deriving DecidableEq

def EvalValue.type : EvalValue → ValueType
  | .string _ => .string
  | .float _ => .float
  | .int _ => .int
  | .boolean _ => .boolean
  | .tuple _ => .tuple
  | .empty => .empty

inductive EvalexprError
  | expected (type : ValueType) (actual : EvalValue)
  | expectedFixedLengthTuple (length : ℕ) (actual : EvalValue)
  | variableIdentifierNotFound (name : String)
  | other (message : String)

def EvalValue.asString : EvalValue → Except EvalexprError String
  | .string s => .ok s
  | v => .error (.expected .string v)

def EvalValue.asFixedLenTuple (length : ℕ) : EvalValue → Except EvalexprError (List EvalValue)
  | .tuple items =>
    if items.length = length then .ok items
    else .error (.expectedFixedLengthTuple length (.tuple items))
  | v => .error (.expected .tuple v)

abbrev EvalFunction := EvalValue → Except EvalexprError EvalValue

structure HashMapContext where
  vars : Table String EvalValue
  functions : Table String EvalFunction

namespace HashMapContext

def new : HashMapContext := ⟨∅, ∅⟩

variable (c : HashMapContext) (name : String)

def setFunction (f : EvalFunction) : HashMapContext :=
  { c with functions := c.functions.insert name f }

def write (v : EvalValue) : HashMapContext :=
  { c with vars := c.vars.insert name v }

/-- A stored variable is only replaced by a value of its type. -/
def setValue (v : EvalValue) : Except EvalexprError HashMapContext :=
  match c.vars.lookup name with
  | some old => if old.type = v.type then .ok (c.write name v) else .error (.expected old.type v)
  | none => .ok (c.write name v)

end HashMapContext

/-- **The expression library.** An expression is evaluated on the variables it names and on the
functions of the context, and the expression `true` is true. -/
structure Evalexpr where
  describe : EvalexprError → String
  identifiers : String → List String
  evalBoolean : String → HashMapContext → Except EvalexprError Bool
  evalBoolean_congr : ∀ expr c d, c.functions = d.functions →
    (∀ x ∈ identifiers expr, c.vars.lookup x = d.vars.lookup x) →
      evalBoolean expr c = evalBoolean expr d
  identifiers_true : identifiers "true" = []
  evalBoolean_true : ∀ c, evalBoolean "true" c = .ok true

/-! ### The string helpers -/

def stringTest (test : List Char → List Char → Bool) : EvalFunction := fun args => do
  match ← args.asFixedLenTuple 2 with
  | [a, b] => do
    let s ← a.asString
    let t ← b.asString
    return .boolean (test s.toList t.toList)
  | _ => .error (.expectedFixedLengthTuple 2 args)

def strContains : EvalFunction :=
  stringTest fun haystack needle => haystack.tails.any fun rest => needle.isPrefixOf rest

def strStartsWith : EvalFunction := stringTest fun s begins => begins.isPrefixOf s

def strEndsWith : EvalFunction := stringTest fun s ends => ends.isSuffixOf s

def strLen : EvalFunction := fun arg => do
  let s ← arg.asString
  return .int s.utf8ByteSize

def helperContext : HashMapContext :=
  (((HashMapContext.new.setFunction "str_contains" strContains).setFunction "str_starts_with"
    strStartsWith).setFunction "str_ends_with" strEndsWith).setFunction "str_len" strLen

/-! ### Filling the context -/

structure TriggerContext where
  text : String
  author : String
  channelId : String
  timestamp : String
  emoji : String
  messageId : String
  isReply : Bool
  /-- The map of webhook fields, in the order it is walked in. -/
  webhookFields : List (String × String)

def asI64 (n : JsonNumber) : Option ℤ :=
  match n.literal with
  | '-' :: digits => if isDecimal digits ∧ Nat.ofDigitChars 10 digits 0 ≤ 9223372036854775808
    then some (-(Nat.ofDigitChars 10 digits 0 : ℤ)) else none
  | digits => if isDecimal digits ∧ Nat.ofDigitChars 10 digits 0 ≤ 9223372036854775807
    then some (Nat.ofDigitChars 10 digits 0 : ℤ) else none

def jsonValueToEval : Json → EvalValue
  | .string s => .string s
  | .bool b => .boolean b
  | .number n =>
    match asI64 n with
    | some i => .int i
    | none => .float n
  | .null => .empty
  | other => .string (String.ofList other.compact)

variable (c : HashMapContext)

/-- One webhook field becomes `trigger_FIELD`, unless its key looks like a variable already. -/
def setWebhookField (field : String × String) : Except EvalexprError HashMapContext :=
  if "trigger_".toList.isPrefixOf field.1.toList || "steps_".toList.isPrefixOf field.1.toList then
    .ok c
  else c.setValue ("trigger_" ++ field.1) (.string field.2)

def triggerFields (ctx : TriggerContext) : List (String × String) :=
  [("trigger_text", ctx.text), ("trigger_author", ctx.author),
    ("trigger_channel_id", ctx.channelId), ("trigger_timestamp", ctx.timestamp),
    ("trigger_emoji", ctx.emoji), ("trigger_message_id", ctx.messageId)]

def setTriggerField (field : String × String) : Except EvalexprError HashMapContext :=
  c.setValue field.1 (.string field.2)

def setOutputField (stepId : String) (c : HashMapContext) (field : String × Json) :
    Except EvalexprError HashMapContext :=
  c.setValue ("steps_" ++ stepId ++ "_output_" ++ field.1) (jsonValueToEval field.2)

/-- The fields of one step's output, if it is an object. -/
def setStepOutput (step : String × Json) : Except EvalexprError HashMapContext :=
  match step.2 with
  | .object fields => fields.foldlM (setOutputField step.1) c
  | _ => .ok c

/-- The passes over the context; step outputs come in the order the map is walked in. -/
def fillContext (ctx : TriggerContext) (stepOutputs : List (String × Json)) :
    Except EvalexprError HashMapContext := do
  let c ← ctx.webhookFields.foldlM setWebhookField helperContext
  let c ← (triggerFields ctx).foldlM setTriggerField c
  let c ← c.setValue "trigger_is_reply" (.boolean ctx.isReply)
  stepOutputs.foldlM setStepOutput c

def buildEvalContext (E : Evalexpr) (ctx : TriggerContext) (stepOutputs : List (String × Json)) :
    Except WorkflowError HashMapContext :=
  (fillContext ctx stepOutputs).mapError fun e => .conditionError (E.describe e)

/-- How the blocking task of an evaluation ends. -/
inductive EvalTask
  | completes
  | timesOut
  | panics (message : String)

def evaluateCondition (E : Evalexpr) (task : EvalTask) (expr : String) (ctx : TriggerContext)
    (stepOutputs : List (String × Json)) : Except WorkflowError Bool := do
  let c ← buildEvalContext E ctx stepOutputs
  refuseIf (expr.utf8ByteSize > 4096)
    (.conditionError "condition expression exceeds 4096 byte limit")
  match task with
  | .completes =>
    (E.evalBoolean expr c).mapError fun e => .conditionError ("'" ++ expr ++ "': " ++ E.describe e)
  | .timesOut => .error (.conditionError ("'" ++ expr ++ "': evaluation timed out after 100ms"))
  | .panics message =>
    .error (.conditionError ("'" ++ expr ++ "': eval task panicked: " ++ message))

end Buzz.Workflow
