import Buzz.Acp.RelayState
import Buzz.Agent.Tools

/-!
The agent loop.

A run takes a prompt and goes through rounds until one of them returns.  A round may fold in steers,
hand the context off to a summary or truncate the history, ask the provider, recover from an error,
and execute the calls of a reply.  What the world does in a round is its input: the provider's
answer, the hooks, the tools and every place where a cancellation is seen.

A run that is still going has used up its inputs without an answer; a session takes no other prompt
then.  `sent` and `left` record the histories that went to the provider and those that runs left
behind.

The texts that are built for the summariser and for the client, and the accounts of tokens used, are
left out: nothing here reads them.  Counters are numbers without a bound.
-/

namespace Buzz.Agent

open Buzz.Core Lib

/-! ### Replies and errors -/

inductive ProviderStop
  | endTurn | toolUse | maxTokens | refusal | other
deriving DecidableEq

inductive StopReason
  | endTurn | cancelled | maxTokens | maxTurnRequests | refusal
deriving DecidableEq

def mapStop : ProviderStop → StopReason
  | .endTurn | .toolUse | .other => .endTurn
  | .maxTokens => .maxTokens
  | .refusal => .refusal

inductive AgentError
  | invalidParams (message : String)
  | llm (message : String)
  | llmAuth (message : String)
  | llmModelNotFound (message : String)
  | llmContextExceeded (message : String)
  | unsupportedImageInput (message : String)
  | mcp (message : String)
  | cancelled

structure LlmResponse where
  text : String
  toolCalls : List ToolCall
  stop : ProviderStop
  inputTokens : Option ℕ
  inputTokensOverflowed : Bool
  reasoningDetails : Option Json

structure Config where
  maxRounds : ℕ
  maxHistoryBytes : ℕ
  maxContextTokens : ℕ
  maxHandoffs : ℕ
  stopMaxRejections : ℕ
  maxTokenRecoveries : ℕ
  requireReply : Bool

def maxPromptBytes : ℕ := 1048576
def maxToolCallsPerTurn : ℕ := 64
def maxContextRecoveriesPerRun : ℕ := 3
def handoffMinPromptBudgetBytes : ℕ := 4096
def maxReplyNags : ℕ := 2

/-! ### Prompts -/

inductive ContentBlock
  | text (text : String)
  | resourceLink (uri : String)
  | unsupported

def blockText : ContentBlock → Except AgentError String
  | .text text => .ok text
  | .resourceLink uri => .ok ("[resource: " ++ uri ++ "]")
  | .unsupported => .error (.invalidParams
      "prompt: unsupported content block (only text and resource_link are advertised)")

def promptToText (prompt : List ContentBlock) : Except AgentError String :=
  (prompt.mapM blockText).map fun parts => "\n".intercalate parts

def isBlank (text : String) : Bool := (trim text.toList).isEmpty

/-! ### What the world does in a round -/

structure HandoffWorld where
  cancelled : Bool
  summary : Except AgentError String
  postCompact : List (String × String)

inductive Completion
  | cancelled
  | finished (result : Except AgentError LlmResponse)

structure RoundInput where
  cancelled : Bool
  steers : List (List ContentBlock)
  handoff : HandoffWorld
  completion : Completion
  /-- The attempts to recover from an overflow, in their order. -/
  recovery : ℕ → HandoffWorld
  stopHooks : List (String × String)
  nonce : ℕ
  tools : ToolWorld

/-! ### The state of a run -/

structure Run where
  history : History
  lastRequestInputTokens : Option ℕ
  lastRequestHistoryBytes : Option ℕ
  handoffAttempts : ℕ
  round : ℕ
  stopRejections : ℕ
  buzzReplyCallSeen : Bool
  replyNags : ℕ
  contextRecoveries : ℕ
  maxTokensRecoveries : ℕ
  sent : List History

abbrev Returned := Option (Except AgentError StopReason)

namespace Run

/-! ### Handoffs -/

def tokenThreshold (maxContextTokens : ℕ) : ℕ := maxContextTokens / 10 * 9

def byteFallbackThreshold (maxContextTokens maxHistoryBytes : ℕ) : ℕ :=
  min (tokenThreshold maxContextTokens) (maxHistoryBytes / 10 * 9)

variable (st : Run)

def projectedHandoffInputTokens : ℕ :=
  match st.lastRequestInputTokens with
  | some measured =>
    measured + (contextPressure st.history - st.lastRequestHistoryBytes.getD 0)
  | none => contextPressure st.history

variable (cfg : Config) (st : Run) (i : RoundInput) (response : LlmResponse) (w : HandoffWorld)

def shouldHandoff : Bool :=
  match st.lastRequestInputTokens with
  | some _ => tokenThreshold cfg.maxContextTokens ≤ st.projectedHandoffInputTokens
  | none =>
    byteFallbackThreshold cfg.maxContextTokens cfg.maxHistoryBytes < contextPressure st.history

inductive HandoffOutcome
  | performed | skipped | cancelled
deriving DecidableEq

def hookOutputsText (outputs : List (String × String)) : String :=
  "\n\n".intercalate (outputs.map fun o => "[" ++ o.1 ++ "]\n" ++ o.2)

def handoffText (summary : String) (postCompact : List (String × String)) : String :=
  let text := "[Context Handoff]\n" ++ summary
  if postCompact.isEmpty then text
  else text ++ "\n\n[Post-compact hook output — untrusted]\n" ++ hookOutputsText postCompact

def currentPrompt (history : History) : Option String :=
  history.reverse.findSome? fun item =>
    match item with
    | .user s => some s
    | _ => none

def freshHistory (history : History) (summary : String) (postCompact : List (String × String)) :
    History :=
  .user (handoffText summary postCompact) :: ((currentPrompt history).map .user).toList

def handoff : Run × HandoffOutcome :=
  if w.cancelled then (st, .cancelled)
  else
    match w.summary with
    | .ok summary =>
      if isBlank summary then (st, .skipped)
      else ({ st with history := freshHistory st.history summary w.postCompact }, .performed)
    | .error _ => (st, .skipped)

def maybeHandoff : Run × HandoffOutcome :=
  if st.shouldHandoff cfg = false then (st, .skipped)
  else if cfg.maxHandoffs ≤ st.handoffAttempts then (st, .skipped)
  else { st with handoffAttempts := st.handoffAttempts + 1 }.handoff w

def forgetUsage : Run :=
  { st with lastRequestInputTokens := none, lastRequestHistoryBytes := none }

inductive ContextRecovery
  | recovered | cancelled | exhausted

/-- The rungs of the ladder: each halves the summariser's prompt. -/
def recoverLoop (rejectedBytes : ℕ) (recovery : ℕ → HandoffWorld) : ℕ → Run → Run × ContextRecovery
  | 0, st => (st, .exhausted)
  | fuel + 1, st =>
    if maxContextRecoveriesPerRun ≤ st.contextRecoveries then (st, .exhausted)
    else
      let budget := rejectedBytes >>> (st.contextRecoveries + 1)
      let w := recovery st.contextRecoveries
      let st := { st with contextRecoveries := st.contextRecoveries + 1 }
      if budget < handoffMinPromptBudgetBytes then (st, .exhausted)
      else
        match st.handoff w with
        | (st, .performed) => (st, .recovered)
        | (st, .cancelled) => (st, .cancelled)
        | (st, .skipped) => recoverLoop rejectedBytes recovery fuel st

/-- The loop ends by itself: each rung spends one of the attempts. -/
def recoverFromContextOverflow (recovery : ℕ → HandoffWorld) : Run × ContextRecovery :=
  recoverLoop (contextPressure st.history) recovery (maxContextRecoveriesPerRun + 1) st

/-! ### A round -/

/-- Each steer that can be read and is not blank becomes a user item. -/
def drainSteer (blocks : List ContentBlock) : Run :=
  match promptToText blocks with
  | .ok text => if isBlank text then st else { st with history := st.history ++ [.user text] }
  | .error _ => st

def drainSteers (steers : List (List ContentBlock)) : Run := steers.foldl drainSteer st

def prepare : Run × HandoffOutcome :=
  match st.maybeHandoff cfg w with
  | (st, .performed) => (st.forgetUsage, .performed)
  | (st, .skipped) =>
    ({ st with history := truncateHistory st.history cfg.maxHistoryBytes }, .skipped)
  | (st, .cancelled) => (st, .cancelled)

def send : Run :=
  { st with round := st.round + 1, sent := st.history :: st.sent }

def onError (e : AgentError) : Run × Returned :=
  match e with
  | .unsupportedImageInput _ =>
    let replaced := replaceUnsupportedImages st.history
    if replaced.2 = 0 then (st, some (.error e)) else ({ st with history := replaced.1 }, none)
  | .llmContextExceeded _ =>
    match st.recoverFromContextOverflow i.recovery with
    | (st, .recovered) => ({ st with round := st.round - 1 }.forgetUsage, none)
    | (st, .cancelled) => (st, some (.ok .cancelled))
    | (st, .exhausted) => (st, some (.error e))
  | _ => (st, some (.error e))

def recordUsage : Run :=
  if response.inputTokensOverflowed then st
  else
    match response.inputTokens with
    | some tokens =>
      { st with
        lastRequestInputTokens := some tokens
        lastRequestHistoryBytes := some (contextPressure st.history) }
    | none => st

def maxTokensRecoveryMessage : String :=
  "Your previous response reached the model's output token limit and was truncated. Any incomplete "
    ++ "tool calls were discarded and were not run. Stop prolonged internal reasoning now. Use the "
    ++ "available tools immediately: write a script or artifact to a file and run it in small, "
    ++ "verifiable steps instead of emitting the entire solution inline. Continue the task "
    ++ "concisely from the preserved text."

/-- A reply that was cut off: its text stays, its calls do not. -/
def onMaxTokens : Run × Returned :=
  let history := st.history ++ [.assistant response.text [] response.reasoningDetails]
  if cfg.maxTokenRecoveries ≤ st.maxTokensRecoveries then
    ({ st with history }, some (.ok .maxTokens))
  else
    ({ st with
       maxTokensRecoveries := st.maxTokensRecoveries + 1
       history := history ++ [.user maxTokensRecoveryMessage] }, none)

def replyGuardServer : String := "buzz-agent"

def replyGuardNag : String :=
  "You are about to end this turn without calling `buzz messages send`. Your assistant text and "
    ++ "reasoning are never shown to anyone — if you did work, found an answer, or hit a blocker "
    ++ "that someone is waiting on, it exists only if you publish it. If you already posted, or if "
    ++ "silence is genuinely correct for this turn, ignore this and end your turn."

def nags : Bool :=
  cfg.requireReply && !st.buzzReplyCallSeen && st.replyNags < maxReplyNags

def objections : List (String × String) :=
  if st.nags cfg then i.stopHooks ++ [(replyGuardServer, replyGuardNag)] else i.stopHooks

/-- A reply that ends the turn, unless a hook or the reply guard objects. -/
def onEndTurn : Run × Returned :=
  if cfg.stopMaxRejections ≤ st.stopRejections then (st, some (.ok .endTurn))
  else if (st.objections cfg i).isEmpty then (st, some (.ok .endTurn))
  else
    ({ st with
       replyNags := if st.nags cfg then st.replyNags + 1 else st.replyNags
       stopRejections := st.stopRejections + 1
       history :=
        pushHookOutputsAsToolResults st.history "_Stop" i.nonce (st.objections cfg i) }, none)

def onText : Run × Returned :=
  if response.stop = .toolUse then
    (st, some (.error (.llm "provider: stop=tool_use but zero tool_calls")))
  else
    let history := st.history ++ [.assistant response.text [] response.reasoningDetails]
    let st := { st with history }
    if mapStop response.stop = .endTurn then st.onEndTurn cfg i
    else (st, some (.ok (mapStop response.stop)))

def isReplyShaped (name : String) (arguments : Json) : Bool :=
  "__shell".toList.isSuffixOf name.toList &&
    match arguments.field? "command" with
    | some (.string cmd) =>
      Acp.RelayTask.containsText cmd "messages send" ||
        Acp.RelayTask.containsText cmd "reactions add"
    | _ => false

def isBuzzReplyCall (mcp : McpRegistry) (call : ToolCall) : Bool :=
  mcp.has call.name && !mcp.isHook call.name && isReplyShaped call.name call.arguments

def onCalls : Run × Returned :=
  let calls := response.toolCalls.take maxToolCallsPerTurn
  let asked := st.history ++ [.assistant response.text calls response.reasoningDetails]
  let executed := executeCalls i.tools asked calls
  ({ st with
     buzzReplyCallSeen := st.buzzReplyCallSeen || calls.any (isBuzzReplyCall i.tools.mcp)
     history := executed.1 }, if executed.2 then some (.ok .cancelled) else none)

def onResponse : Run × Returned :=
  let st := st.recordUsage response
  if response.stop = .maxTokens then st.onMaxTokens cfg response
  else if response.toolCalls.isEmpty then st.onText cfg i response
  else st.onCalls i response

def onCompletion : Run × Returned :=
  match i.completion with
  | .cancelled => (st, some (.ok .cancelled))
  | .finished (.error e) => st.onError i e
  | .finished (.ok response) => st.onResponse cfg i response

def turn : Run × Returned :=
  if cfg.maxRounds > 0 ∧ st.round ≥ cfg.maxRounds then (st, some (.ok .maxTurnRequests))
  else if i.cancelled then (st, some (.ok .cancelled))
  else
    let prepared := (st.drainSteers i.steers).prepare cfg i.handoff
    if prepared.2 = .cancelled then (prepared.1, some (.ok .cancelled))
    else prepared.1.send.onCompletion cfg i

def loop (cfg : Config) (st : Run) : List RoundInput → Run × Returned
  | [] => (st, none)
  | i :: is =>
    match st.turn cfg i with
    | (st, none) => loop cfg st is
    | (st, some result) => (st, some result)

/-! ### Shape -/

/-- The history is well formed, and so was each one that was sent. -/
structure Sound (st : Run) : Prop where
  history : WellFormed st.history
  sent : ∀ h ∈ st.sent, WellFormed h

namespace Sound

variable {st : Run}

lemma withHistory (h : st.Sound) {history : History} (hwf : WellFormed history) :
    { st with history }.Sound :=
  ⟨hwf, h.sent⟩

lemma wellFormed_freshHistory (history : History) (summary : String)
    (postCompact : List (String × String)) :
    WellFormed (freshHistory history summary postCompact) := by
  unfold freshHistory
  cases currentPrompt history with
  | none => exact ⟨⟨_, _, rfl⟩, .user _ .nil⟩
  | some text => exact ⟨⟨_, _, rfl⟩, .user _ (.user text .nil)⟩

section

variable (h : st.Sound) (cfg : Config) (i : RoundInput) (response : LlmResponse) (w : HandoffWorld)
include h

lemma handoff : (st.handoff w).1.Sound := by
  unfold Run.handoff
  split
  · exact h
  split
  · split
    · exact h
    · exact h.withHistory (wellFormed_freshHistory _ _ _)
  · exact h

lemma maybeHandoff : (st.maybeHandoff cfg w).1.Sound := by
  have hspent : { st with handoffAttempts := st.handoffAttempts + 1 }.Sound := ⟨h.history, h.sent⟩
  unfold Run.maybeHandoff
  split_ifs
  · exact h
  · exact h
  · exact hspent.handoff w

lemma recoverLoop (rejectedBytes : ℕ) (recovery : ℕ → HandoffWorld) (fuel : ℕ) :
    (recoverLoop rejectedBytes recovery fuel st).1.Sound := by
  induction fuel generalizing st with
  | zero => exact h
  | succ fuel ih =>
    have hspent : { st with contextRecoveries := st.contextRecoveries + 1 }.Sound :=
      ⟨h.history, h.sent⟩
    have hhandoff := hspent.handoff (recovery st.contextRecoveries)
    rw [Run.recoverLoop]
    split
    · exact h
    dsimp only
    split
    · exact hspent
    split
    · next heq => rw [heq] at hhandoff; exact hhandoff
    · next heq => rw [heq] at hhandoff; exact hhandoff
    · next heq => rw [heq] at hhandoff; exact ih hhandoff

lemma drainSteer (blocks : List ContentBlock) : (st.drainSteer blocks).Sound := by
  unfold Run.drainSteer
  split
  · split
    · exact h
    · exact h.withHistory (h.history.pushUser _)
  · exact h

lemma drainSteers (steers : List (List ContentBlock)) : (st.drainSteers steers).Sound := by
  induction steers generalizing st with
  | nil => exact h
  | cons blocks steers ih => exact ih (h.drainSteer blocks)

lemma prepare : (st.prepare cfg w).1.Sound := by
  have hmaybe := h.maybeHandoff cfg w
  unfold Run.prepare
  split
  · next heq => rw [heq] at hmaybe; exact ⟨hmaybe.history, hmaybe.sent⟩
  · next heq =>
    rw [heq] at hmaybe
    exact hmaybe.withHistory (hmaybe.history.truncateHistory cfg.maxHistoryBytes)
  · next heq => rw [heq] at hmaybe; exact hmaybe

lemma send : st.send.Sound where
  history := h.history
  sent := List.forall_mem_cons.mpr ⟨h.history, h.sent⟩

lemma onError (e : AgentError) : (st.onError i e).1.Sound := by
  have hrec := h.recoverLoop (contextPressure st.history) i.recovery
    (maxContextRecoveriesPerRun + 1)
  unfold Run.onError recoverFromContextOverflow
  split
  · dsimp only
    split
    · exact h
    · exact h.withHistory h.history.withoutImages
  · split
    · next heq => rw [heq] at hrec; exact ⟨hrec.history, hrec.sent⟩
    all_goals next heq => rw [heq] at hrec; exact hrec
  · exact h

lemma recordUsage : (st.recordUsage response).Sound := by
  unfold Run.recordUsage
  split
  · exact h
  split
  · exact ⟨h.history, h.sent⟩
  · exact h

lemma onMaxTokens : (st.onMaxTokens cfg response).1.Sound := by
  have hplain := h.history.append (.plain response.text response.reasoningDetails)
  unfold Run.onMaxTokens
  split
  · exact h.withHistory hplain
  · exact ⟨hplain.pushUser _, h.sent⟩

lemma onEndTurn : (st.onEndTurn cfg i).1.Sound := by
  unfold Run.onEndTurn
  split
  · exact h
  split
  · exact h
  · exact ⟨h.history.hookOutputs _ _ _, h.sent⟩

lemma onText : (st.onText cfg i response).1.Sound := by
  have hplain := h.withHistory (h.history.append (.plain response.text response.reasoningDetails))
  unfold Run.onText
  split
  · exact h
  split
  · exact hplain.onEndTurn cfg i
  · exact hplain

lemma onCalls : (st.onCalls i response).1.Sound := by
  obtain ⟨results, hids, hexecuted⟩ := exists_executeCalls i.tools
    (st.history ++ [.assistant response.text (response.toolCalls.take maxToolCallsPerTurn)
      response.reasoningDetails])
    (response.toolCalls.take maxToolCallsPerTurn)
  have hwf := h.history.append
    (@Paired.exchange response.text _ response.reasoningDetails results hids)
  refine ⟨?_, h.sent⟩
  show WellFormed (executeCalls _ _ _).1
  rw [hexecuted, List.append_assoc]
  exact hwf

lemma onResponse : (st.onResponse cfg i response).1.Sound := by
  have husage := h.recordUsage response
  unfold Run.onResponse
  split
  · exact husage.onMaxTokens cfg response
  split
  · exact husage.onText cfg i response
  · exact husage.onCalls i response

lemma onCompletion : (st.onCompletion cfg i).1.Sound := by
  unfold Run.onCompletion
  split
  · exact h
  · exact h.onError i _
  · exact h.onResponse cfg i _

lemma turn : (st.turn cfg i).1.Sound := by
  have hprepared := (h.drainSteers i.steers).prepare cfg i.handoff
  unfold Run.turn
  split
  · exact h
  split
  · exact h
  dsimp only
  split
  · exact hprepared
  · exact hprepared.send.onCompletion cfg i

lemma loop (inputs : List RoundInput) : (st.loop cfg inputs).1.Sound := by
  induction inputs generalizing st with
  | nil => exact h
  | cons i inputs ih =>
    have hturn := h.turn cfg i
    unfold Run.loop
    split
    · next heq => rw [heq] at hturn; exact ih hturn
    · next heq => rw [heq] at hturn; exact hturn

end

end Sound

end Run

/-! ### Sessions -/

structure Session where
  history : History
  lastRequestInputTokens : Option ℕ
  lastRequestHistoryBytes : Option ℕ
  busy : Bool
  sent : List History
  left : List (Except AgentError StopReason × History)

namespace Session

def new : Session := ⟨[], none, none, false, [], []⟩

def promptText (prompt : List ContentBlock) : Except AgentError String := do
  let text ← promptToText prompt
  refuseIf (text.utf8ByteSize > maxPromptBytes)
    (AgentError.invalidParams ("prompt: exceeds " ++ toString maxPromptBytes ++ " bytes"))
  pure text

def start (s : Session) (text : String) : Run where
  history := s.history ++ [.user text]
  lastRequestInputTokens := s.lastRequestInputTokens
  lastRequestHistoryBytes := s.lastRequestHistoryBytes
  handoffAttempts := 0
  round := 0
  stopRejections := 0
  buzzReplyCallSeen := false
  replyNags := 0
  contextRecoveries := 0
  maxTokensRecoveries := 0
  sent := s.sent

/-- The session after a run: what a run that has returned leaves behind, or one that is still going.
-/
def finish (s : Session) (r : Run × Returned) : Session :=
  match r.2 with
  | some result =>
    { history := r.1.history
      lastRequestInputTokens := r.1.lastRequestInputTokens
      lastRequestHistoryBytes := r.1.lastRequestHistoryBytes
      busy := false
      sent := r.1.sent
      left := (result, r.1.history) :: s.left }
  | none => { s with busy := true, sent := r.1.sent }

/-- A prompt, and what the world does while it is worked on.  A prompt that is refused starts no
run. -/
def prompt (cfg : Config) (s : Session) (p : List ContentBlock × List RoundInput) : Session :=
  if s.busy then s
  else
    match promptText p.1 with
    | .error _ => s
    | .ok text => s.finish ((s.start text).loop cfg p.2)

def run (cfg : Config) (prompts : List (List ContentBlock × List RoundInput)) : Session :=
  prompts.foldl (prompt cfg) new

/-! ### Pairing -/

/-- Before the first prompt is taken the history is empty; from then on it is well formed. -/
structure Sound (s : Session) : Prop where
  history : s.history = [] ∧ s.left = [] ∨ WellFormed s.history
  sent : ∀ h ∈ s.sent, WellFormed h
  left : ∀ l ∈ s.left, WellFormed l.2

namespace Sound

variable {s : Session}

lemma new : new.Sound where
  history := .inl ⟨rfl, rfl⟩
  sent := fun _ h => (nomatch h)
  left := fun _ h => (nomatch h)

lemma start (h : s.Sound) (text : String) : (s.start text).Sound where
  history := by
    obtain ⟨hempty, -⟩ | hwf := h.history
    · show WellFormed (s.history ++ [.user text])
      rw [hempty]
      exact ⟨⟨text, [], rfl⟩, .user text .nil⟩
    · exact hwf.pushUser text
  sent := h.sent

lemma finish (h : s.Sound) (hr : r.1.Sound) : (s.finish r).Sound := by
  unfold Session.finish
  split
  · exact ⟨.inr hr.history, hr.sent, List.forall_mem_cons.mpr ⟨hr.history, h.left⟩⟩
  · exact ⟨h.history, hr.sent, h.left⟩

lemma prompt (h : s.Sound) (cfg : Config) (p : List ContentBlock × List RoundInput) :
    (s.prompt cfg p).Sound := by
  unfold Session.prompt
  split
  · exact h
  split
  · exact h
  · exact h.finish ((h.start _).loop cfg p.2)

lemma run (cfg : Config) (prompts : List (List ContentBlock × List RoundInput)) :
    (run cfg prompts).Sound := by
  unfold Session.run
  generalize hs : Session.new = s
  have h : s.Sound := hs ▸ .new
  clear hs
  induction prompts generalizing s with
  | nil => exact h
  | cons p prompts ih => exact ih _ (h.prompt cfg p)

end Sound

/-- Whatever the provider, the tools, the hooks and the user do, each history that is sent, and each
that a run leaves behind, starts with a user item and has its calls and results paired.  The session
keeps such a history as soon as it has taken a prompt. -/
theorem calls_paired_with_results (cfg : Config)
    (prompts : List (List ContentBlock × List RoundInput)) :
    (∀ h ∈ (run cfg prompts).sent, WellFormed h) ∧
      (∀ l ∈ (run cfg prompts).left, WellFormed l.2) ∧
      ((run cfg prompts).history = [] ∧ (run cfg prompts).left = [] ∨
        WellFormed (run cfg prompts).history) := by
  have h := Sound.run cfg prompts
  exact ⟨h.sent, h.left, h.history⟩

end Session

end Buzz.Agent
