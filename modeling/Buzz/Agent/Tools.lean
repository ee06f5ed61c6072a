import Buzz.Agent.History

/-!
Tool calls.

The calls of a reply are executed in three phases.  The preflight looks at each call in turn: a
cancelled run fills every slot that is still empty, a built-in or an unknown tool fills its own
slot, and the others are spawned.  The tasks end in any order, may panic, and may be cut short by a
cancellation. At the end the slots become results in the order of the calls, and an empty slot
becomes an error.

A slot holds a result with the id of its call, whoever fills it.  So the results that are appended
are those of the calls.
-/

namespace Buzz.Agent

open Buzz.Core Lib List

/-! ### What the world does -/

/-- How a spawned task ends, if it does not panic.  Whatever goes wrong, from a closed semaphore and
a refused permission to a timeout of the tool, ends in a message. -/
inductive TaskEnd
  | done (content : List ToolResultContent) (isError : Bool)
  | failed (message : String)

/-- A finished task that is collected; `none` for one that panicked. -/
abbrev Join := Option (ℕ × TaskEnd)

structure McpRegistry where
  has : String → Bool
  isHook : String → Bool

/-- What happens while the calls of one reply are executed. -/
structure ToolWorld where
  mcp : McpRegistry
  /-- Whether the run is seen to be cancelled before the call of an index. -/
  cancelledAt : ℕ → Bool
  /-- What the built-in tool returns for the call of an index. -/
  loadSkill : ℕ → List ToolResultContent × Bool
  /-- The tasks collected before a cancellation, and those collected while draining after one. -/
  joined : List Join
  cancelled : Bool
  drained : List Join
  /-- Whether the run is cancelled when all is done. -/
  cancelledAfter : Bool

/-! ### The three phases -/

def loadSkillTool : String := "load_skill"

abbrev Slots := List (Option ToolResult)

def syntheticToolResult (call : ToolCall) (message : String) : ToolResult :=
  ⟨call.providerId, [.text message], true⟩

/-- What is made of the answer of a server has the id of the call. -/
def doCall (call : ToolCall) (content : List ToolResultContent) (isError : Bool) : ToolResult :=
  ⟨call.providerId, content, isError⟩

inductive InvokeOutcome
  | done (result : ToolResult)
  | failed (message : String)

def invokeToolInner (call : ToolCall) : TaskEnd → InvokeOutcome
  | .done content isError => .done (doCall call content isError)
  | .failed message => .failed message

def outcomeToResult (call : ToolCall) : InvokeOutcome → ToolResult
  | .done result => result
  | .failed message => syntheticToolResult call message

variable (calls : List ToolCall) (w : ToolWorld) (slots : Slots)

def fillCancelled : Slots :=
  calls.zipIdx.map fun e =>
    some ((slots[e.2]?.join).getD (syntheticToolResult e.1 "cancelled"))

/-- One call of the preflight: the slots filled and the calls to spawn, or the slots of a run that
is cancelled. -/
def preflightCall (calls : List ToolCall) (acc : Slots × List ℕ)
    (entry : ToolCall × ℕ) : Except Slots (Slots × List ℕ) :=
  let call := entry.1
  let idx := entry.2
  if w.cancelledAt idx then .error (fillCancelled calls acc.1)
  else if call.name = loadSkillTool then
    let result : ToolResult := ⟨call.providerId, (w.loadSkill idx).1, (w.loadSkill idx).2⟩
    .ok (acc.1.set idx (some result), acc.2)
  else if w.mcp.has call.name = false ∨ w.mcp.isHook call.name then
    .ok (acc.1.set idx (some (syntheticToolResult call ("unknown tool: " ++ call.name))), acc.2)
  else .ok (acc.1, acc.2 ++ [idx])

def preflight (calls : List ToolCall) : Except Slots (Slots × List ℕ) :=
  calls.zipIdx.foldlM (preflightCall w calls) (List.replicate calls.length none, [])

def collect (runnable : List ℕ) (slots : Slots) : Join → Slots
  | none => slots
  | some (i, result) =>
    if i ∈ runnable then
      match calls[i]? with
      | some call => slots.set i (some (outcomeToResult call (invokeToolInner call result)))
      | none => slots
    else slots

def collectDrained (runnable : List ℕ) (slots : Slots) (join : Join) : Slots :=
  match join with
  | none => slots
  | some (i, _) => if slots[i]?.join.isNone then collect calls runnable slots join else slots

def fillRunnable (i : ℕ) : Slots :=
  match calls[i]? with
  | some call =>
    if slots[i]?.join.isNone then slots.set i (some (syntheticToolResult call "cancelled"))
    else slots
  | none => slots

def executeParallel (calls : List ToolCall) (runnable : List ℕ) (slots : Slots) : Slots :=
  let joined := w.joined.foldl (collect calls runnable) slots
  let drained :=
    if w.cancelled then w.drained.foldl (collectDrained calls runnable) joined else joined
  runnable.foldl (fillRunnable calls) drained

def errorReflectionSuffix : String :=
  "\n\n[Reflect] Before retrying, identify the cause and change your approach."

def closeSlot (call : ToolCall) (slot : Option ToolResult) : ToolResult :=
  let result := slot.getD ⟨call.providerId, [.text "internal error: missing result"], true⟩
  if result.isError then
    { result with content := result.content ++ [.text errorReflectionSuffix] }
  else result

def resultsOf : List ToolResult :=
  calls.zipIdx.map fun e => closeSlot e.1 slots[e.2]?.join

def appendResults (history : History) (calls : List ToolCall) (slots : Slots) : History :=
  history ++ (resultsOf calls slots).map .toolResult

/-- The history with the results, and whether the run is cancelled. -/
def executeCalls (history : History) (calls : List ToolCall) : History × Bool :=
  match preflight w calls with
  | .error slots => (appendResults history calls slots, true)
  | .ok (slots, runnable) =>
    (appendResults history calls (executeParallel w calls runnable slots), w.cancelledAfter)

/-! ### Slots and ids -/

def IdsRight : Prop :=
  ∀ (i : ℕ) (call : ToolCall) (r : ToolResult), calls[i]? = some call → slots[i]?.join = some r →
    r.providerId = call.providerId

section Slots

variable {calls : List ToolCall} {slots : Slots} {w : ToolWorld} {runnable : List ℕ}

lemma idsRight_replicate (calls : List ToolCall) (n : ℕ) :
    IdsRight calls (List.replicate n none) := by
  intro i call r _ hr
  rw [Option.join_eq_some_iff, getElem?_replicate] at hr
  split_ifs at hr
  cases hr

section

variable (h : IdsRight calls slots)

include h

lemma IdsRight.set (hcall : calls[i]? = some call) (hid : result.providerId = call.providerId) :
    IdsRight calls (slots.set i (some result)) := by
  intro j call' r hcall' hr
  rw [getElem?_set] at hr
  split_ifs at hr with heq hlt
  · subst heq
    obtain rfl : result = r := Option.some.inj hr
    obtain rfl := Option.mem_unique hcall hcall'
    exact hid
  · cases hr
  · exact h j call' r hcall' hr

lemma IdsRight.fillCancelled : IdsRight calls (fillCancelled calls slots) := by
  intro i call r hcall hr
  unfold Agent.fillCancelled at hr
  rw [getElem?_map, getElem?_zipIdx, hcall] at hr
  simp only [Option.map_some, Option.join_some, Nat.zero_add, Option.some.injEq] at hr
  subst hr
  cases hslot : slots[i]?.join with
  | none => rfl
  | some r => exact h i call r hcall hslot

lemma IdsRight.collect (join : Join) : IdsRight calls (collect calls runnable slots join) := by
  cases join with
  | none => exact h
  | some e =>
    simp only [Agent.collect]
    split_ifs
    · cases hcall : calls[e.1]? with
      | none => exact h
      | some call => exact h.set hcall (by cases e.2 <;> rfl)
    · exact h

lemma IdsRight.collectDrained (join : Join) :
    IdsRight calls (collectDrained calls runnable slots join) := by
  cases join with
  | none => exact h
  | some e =>
    simp only [Agent.collectDrained]
    split_ifs
    · exact h.collect _
    · exact h

lemma IdsRight.fillRunnable (i : ℕ) : IdsRight calls (fillRunnable calls slots i) := by
  unfold Agent.fillRunnable
  cases hcall : calls[i]? with
  | none => exact h
  | some call =>
    simp only
    split_ifs
    · exact h.set hcall rfl
    · exact h

end

lemma IdsRight.foldl {α : Type} {f : Slots → α → Slots}
    (hf : ∀ slots, IdsRight calls slots → ∀ a, IdsRight calls (f slots a)) (as : List α)
    (h : IdsRight calls slots) : IdsRight calls (as.foldl f slots) := by
  induction as generalizing slots with
  | nil => exact h
  | cons a as ih => exact ih (hf slots h a)

lemma IdsRight.executeParallel (h : IdsRight calls slots) :
    IdsRight calls (executeParallel w calls runnable slots) := by
  have hjoined : IdsRight calls (w.joined.foldl (Agent.collect calls runnable) slots) :=
    .foldl (fun _ hs join => hs.collect join) _ h
  refine .foldl (fun _ hs i => hs.fillRunnable i) _ ?_
  split_ifs
  · exact .foldl (fun _ hs join => hs.collectDrained join) _ hjoined
  · exact hjoined

/-- The slots that a computation of the preflight ends with have the right ids. -/
def EndsRight (calls : List ToolCall) (x : Except Slots (Slots × List ℕ)) : Prop :=
  (∀ slots, x = .error slots → IdsRight calls slots) ∧ ∀ acc, x = .ok acc → IdsRight calls acc.1

lemma endsRight_ok (h : IdsRight calls acc.1) : EndsRight calls (.ok acc) := by
  refine ⟨fun _ heq => (nomatch heq), ?_⟩
  rintro _ ⟨⟩
  exact h

lemma endsRight_preflightCall (h : IdsRight calls acc.1) (hent : calls[entry.2]? = some entry.1) :
    EndsRight calls (preflightCall w calls acc entry) := by
  unfold preflightCall
  simp only
  split_ifs
  · refine ⟨?_, fun _ heq => (nomatch heq)⟩
    rintro _ ⟨⟩
    exact h.fillCancelled
  · exact endsRight_ok (h.set hent rfl)
  · exact endsRight_ok (h.set hent rfl)
  · exact endsRight_ok h

lemma endsRight_preflight (w : ToolWorld) (calls : List ToolCall) :
    EndsRight calls (preflight w calls) := by
  have hloop : ∀ (entries : List (ToolCall × ℕ)) (acc : Slots × List ℕ),
      (∀ e ∈ entries, calls[e.2]? = some e.1) → IdsRight calls acc.1 →
        EndsRight calls (entries.foldlM (preflightCall w calls) acc) := by
    intro entries
    induction entries with
    | nil =>
      intro acc _ h
      exact endsRight_ok h
    | cons e entries ih =>
      intro acc hents h
      obtain ⟨he, hrest⟩ := forall_mem_cons.mp hents
      have hcall := @endsRight_preflightCall calls w acc e h he
      rw [foldlM_cons]
      cases hx : preflightCall w calls acc e with
      | error slots =>
        rw [hx] at hcall
        exact ⟨hcall.1, fun _ heq => nomatch heq⟩
      | ok acc' =>
        rw [hx] at hcall
        exact ih acc' hrest (hcall.2 acc' rfl)
  refine hloop _ _ ?_ (idsRight_replicate calls _)
  intro e he
  exact mem_zipIdx_iff_getElem?.mp he

lemma IdsRight.providerIds (h : IdsRight calls slots) :
    (resultsOf calls slots).map ToolResult.providerId = calls.map ToolCall.providerId := by
  have hids : (resultsOf calls slots).map ToolResult.providerId =
      calls.zipIdx.map fun e => e.1.providerId := by
    unfold resultsOf
    rw [map_map]
    refine map_congr_left fun e he => ?_
    have hcall : calls[e.2]? = some e.1 := mem_zipIdx_iff_getElem?.mp he
    have hclose : (closeSlot e.1 slots[e.2]?.join).providerId = e.1.providerId := by
      unfold closeSlot
      cases hslot : slots[e.2]?.join with
      | none => rfl
      | some r =>
        simp only [Option.getD_some]
        split_ifs <;> exact h e.2 e.1 r hcall hslot
    exact hclose
  rw [hids]
  exact (map_map ..).symm.trans (congrArg _ (zipIdx_map_fst 0 calls))

/-- **Executing calls** appends one result for each call, in their order and with their ids. -/
theorem exists_executeCalls (w : ToolWorld) (history : History) (calls : List ToolCall) :
    ∃ results : List ToolResult, results.map ToolResult.providerId = calls.map ToolCall.providerId ∧
        (executeCalls w history calls).1 = history ++ results.map .toolResult := by
  obtain ⟨herr, hok⟩ := endsRight_preflight w calls
  unfold executeCalls
  cases hpre : preflight w calls with
  | error slots => exact ⟨_, (herr slots hpre).providerIds, rfl⟩
  | ok acc => exact ⟨_, (hok acc hpre).executeParallel.providerIds, rfl⟩

end Slots

end Buzz.Agent
