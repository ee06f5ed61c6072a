import Buzz.Acp.RelayState
import Buzz.Core.WriteKind
import Mathlib.Data.List.MinMax
import Mathlib.Data.Prod.Lex

/-!
The agent's relay task.

The task reads frames of the relay and commands of the harness.  It asks for the events of a channel
with a `REQ`, and asks again where a subscription was closed or refused, after a reconnect, and where
it had to drop events.  A `REQ` that repeats an earlier one starts at `channelSince`; the write of such
a `REQ` retires the loss cursor of its channel.

`log` is a record that no step reads: the events handed on, the events dropped for want of space, the
`REQ`s written and the channels given up.
-/

namespace Buzz.Acp.RelayTask

open Buzz.Core Lib

/-! ### Requests and the log -/

/-- The subscriptions that lose events to a full channel. -/
inductive Sub
  | membership
  | channel (channelId : Uuid)
deriving DecidableEq

def Sub.id : Sub → String
  | membership => membershipNotifSubId
  | channel channelId => channelSubId channelId

/-- A `REQ`: its subscription id, and its one filter. -/
structure Req where
  subId : String
  kinds : Option (List ℕ)
  hTags : List String
  pTags : List String
  since : ℕ
deriving DecidableEq

/-- The `since` of a `REQ`: some seconds early for a known start, else the present. -/
def reqSince (unixNow : ℕ) : Option ℕ → ℕ
  | some ts => ts - sinceSkewSecs
  | none => unixNow

def channelReq (agentPubkeyHex : String) (unixNow : ℕ) (channelId : Uuid) (since : Option ℕ)
    (filter : ChannelFilter) : Req where
  subId := channelSubId channelId
  kinds := filter.kinds
  hTags := [channelId.toString]
  pTags := if filter.requireMention then [agentPubkeyHex] else []
  since := reqSince unixNow since

def membershipReq (agentPubkeyHex : String) (unixNow : ℕ) (since : Option ℕ) : Req where
  subId := membershipNotifSubId
  kinds := some [kindMemberAddedNotification, kindMemberRemovedNotification]
  hTags := []
  pTags := [agentPubkeyHex]
  since := reqSince unixNow since

structure BuzzEvent where
  connectionGeneration : ℕ
  channelId : Uuid
  event : Event

inductive Entry
  | forwarded (event : Event)
  | dropped (sub : Sub) (event : Event)
  | wrote (sub : Sub) (req : Req)
  | unsubscribed (channelId : Uuid)
deriving DecidableEq

/-! ### The task -/

/-- In the main loop, between two connections, or gone. -/
inductive Phase
  | up | down | stopped

structure Task where
  agentPubkeyHex : String
  st : BgState
  maxCapacity : ℕ
  queue : List (Option BuzzEvent)
  receiverOpen : Bool
  phase : Phase
  log : List Entry

inductive SendOutcome
  | ok | full | closed
deriving DecidableEq

namespace Task

variable (t : Task)

def note (o : Entry) : Task := { t with log := t.log ++ [o] }

def setSt (st : BgState) : Task := { t with st := st }

def sendOutcome : SendOutcome :=
  if t.receiverOpen = false then .closed
  else if t.maxCapacity ≤ t.queue.length then .full
  else .ok

def push (m : Option BuzzEvent) : Task := { t with queue := t.queue ++ [m] }

/-- `try_send` of the sentinel that tells the harness of a lost connection. -/
def signalLoss : Task := if t.sendOutcome = .ok then t.push none else t

/-! ### Requests that repeat an earlier one -/

/-- Ask for a channel again, from its cursor; the write retires the loss cursor. -/
def replayChannel (r : Reading) (channelId : Uuid) (filter : ChannelFilter) : Bool × Task :=
  if r.sent then
    let req := channelReq t.agentPubkeyHex r.unixNow channelId (t.st.channelSince channelId) filter
    let dropped := t.st.channelDroppedSince.erase channelId
    (true, (t.setSt { t.st with channelDroppedSince := dropped }).note (.wrote (.channel channelId) req))
  else (false, t)

def replayMembership (r : Reading) : Bool × Task :=
  if r.sent then
    let req := membershipReq t.agentPubkeyHex r.unixNow t.st.membershipSince
    (true, (t.setSt { t.st with membershipDroppedSince := none }).note (.wrote .membership req))
  else (false, t)

/-! ### Commands -/

end Task

/-- A `Shutdown` also stands for the end of the channel of commands. -/
inductive RelayCommand
  | subscribe (channelId : Uuid) (filter : ChannelFilter) (replaySince : Option ℕ)
  | unsubscribe (channelId : Uuid)
  | reconnect
  | shutdown
  | subscribeMembership
  | subscribeObserverControls
  | publishEvent
  | setStartupWatermark (ts : ℕ)

def RelayCommand.isSubscribe : RelayCommand → Bool
  | subscribe .. | subscribeMembership | subscribeObserverControls => true
  | unsubscribe _ | reconnect | shutdown | publishEvent | setStartupWatermark _ => false

namespace BgState

variable (st : BgState)

/-- `entry(..).or_insert_with(..)` of the floor of a subscription. -/
def seedSubscribeSince (unixNow : ℕ) (channelId : Uuid) (replaySince : Option ℕ) : BgState :=
  match st.subscribeSince.lookup channelId with
  | some _ => st
  | none =>
    let floor := (replaySince.or st.startupWatermark).getD unixNow
    { st with subscribeSince := st.subscribeSince.insert channelId floor }

def setStartupWatermark (ts : ℕ) : BgState :=
  { st with
    startupWatermark := some ts
    membershipLastSeen := st.membershipLastSeen.or (some ts) }

def recordSubscribe (unixNow : ℕ) (channelId : Uuid) (filter : ChannelFilter)
    (replaySince : Option ℕ) : BgState :=
  let st :=
    { st with
      activeSubscriptions := st.activeSubscriptions.insert channelId (channelSubId channelId)
      activeFilters := st.activeFilters.insert channelId filter }
  st.seedSubscribeSince unixNow channelId replaySince

def parkPending (channelId : Uuid) (deadline : ℕ) : BgState :=
  { st with rateLimitedPending := st.rateLimitedPending.insert channelId deadline }

def parkRetry (channelId : Uuid) : BgState :=
  { st with resubscribeRetry := st.resubscribeRetry.insert channelId () }

end BgState

namespace Task

variable (t : Task) (r : Reading)

def dropChannel (channelId : Uuid) : Task :=
  let st := { t.st with activeSubscriptions := t.st.activeSubscriptions.erase channelId }
  (t.setSt (st.clearChannelState channelId)).note (.unsubscribed channelId)

/-- Record what a command wants, without a connection. -/
def applyCommandToState : RelayCommand → Task
  | .subscribe channelId filter replaySince =>
    t.setSt (t.st.recordSubscribe r.unixNow channelId filter replaySince)
  | .unsubscribe channelId => t.dropChannel channelId
  | .subscribeMembership => t.setSt { t.st with membershipSubActive := true }
  | .subscribeObserverControls => t.setSt { t.st with observerControlSubActive := true }
  | .setStartupWatermark ts => t.setSt (t.st.setStartupWatermark ts)
  | .publishEvent | .reconnect | .shutdown => t

/-- The `Subscribe` of a live connection that is not gated.  Its `REQ` starts at the last event seen
or at the floor of the subscription; the loss cursor is neither read nor retired. -/
def subscribeLive (channelId : Uuid) (filter : ChannelFilter)
    (replaySince : Option ℕ) : Bool × Task :=
  let st := t.st.seedSubscribeSince r.unixNow channelId replaySince
  let since := (st.lastSeen.lookup channelId).or (st.subscribeSince.lookup channelId)
  if r.sent then
    let req := channelReq t.agentPubkeyHex r.unixNow channelId since filter
    let st :=
      { st with
        activeSubscriptions := st.activeSubscriptions.insert channelId (channelSubId channelId)
        activeFilters := st.activeFilters.insert channelId filter
        rateLimitedPending := st.rateLimitedPending.erase channelId
        resubscribeRetry := st.resubscribeRetry.erase channelId }
    (true, (t.setSt st).note (.wrote (.channel channelId) req))
  else (false, (t.setSt st).applyCommandToState r (.subscribe channelId filter replaySince))

def subscribeMembershipLive : Bool × Task :=
  let since := t.st.membershipLastSeen.or t.st.startupWatermark
  if r.sent then
    let st :=
      { t.st with membershipResubNeeded := false, membershipLastSeen := t.st.membershipLastSeen.or since }
    (true, (t.setSt st).note (.wrote .membership (membershipReq t.agentPubkeyHex r.unixNow since)))
  else (false, t.setSt { t.st with membershipResubNeeded := true })

/-- Carry out a command; `false` if the socket did not take what it writes. -/
def executeConnectedCommand : RelayCommand → Bool × Task
  | .subscribe channelId filter replaySince =>
    match t.st.checkRateGate r.now with
    | (some retryAfter, st) =>
      let t := (t.setSt st).applyCommandToState r (.subscribe channelId filter replaySince)
      (true, t.setSt (t.st.parkPending channelId retryAfter))
    | (none, st) => (t.setSt st).subscribeLive r channelId filter replaySince
  | .unsubscribe channelId => (true, t.dropChannel channelId)
  | .subscribeMembership =>
    match ({ t.st with membershipSubActive := true } : BgState).checkRateGate r.now with
    | (some _, st) => (true, t.setSt { st with membershipResubNeeded := true })
    | (none, st) => (t.setSt st).subscribeMembershipLive r
  | .subscribeObserverControls =>
    match ({ t.st with observerControlSubActive := true } : BgState).checkRateGate r.now with
    | (some _, st) => (true, t.setSt { st with observerResubNeeded := true })
    | (none, st) => (r.sent, t.setSt { st with observerResubNeeded := !r.sent })
  | .publishEvent => (true, t.setSt (t.st.checkRateGate r.now).2)
  | .setStartupWatermark ts => (true, t.setSt (t.st.setStartupWatermark ts))
  | .reconnect | .shutdown => (true, t)

end Task

/-! ### Frames -/

/-- `verified` is the verdict of `verify_event`. -/
inductive RelayMessage
  | event (subscriptionId : String) (event : Event) (verified : Bool)
  | eose (subscriptionId : String)
  | notice (message : String)
  | closed (subscriptionId message : String)
  | auth (challenge : String)
  | ok (eventId : String) (accepted : Bool) (message : String)

/-- `ignored` is a text that does not parse, or a binary frame. -/
inductive WsFrame
  | text (msg : RelayMessage)
  | ping
  | pong
  | close
  | ignored

def channelAccessDeniedReasons : List String :=
  ["restricted: not a channel member", "restricted: channel access revoked"]

namespace BgState

variable (st : BgState)

/-- Forget an event that was dropped and note the time the replay has to start at. -/
def noteDropped (channelId : Uuid) (event : Event) : BgState :=
  let ts := event.createdAt
  let since := (st.channelDroppedSince.lookup channelId).elim ts fun d => min d ts
  { st with
    seenIds := st.seenIds.remove event.id
    channelDroppedSince := st.channelDroppedSince.insert channelId since }

def noteMembershipDropped (event : Event) : BgState :=
  let ts := event.createdAt
  { st with
    seenIds := st.seenIds.remove event.id
    membershipDroppedSince := some (st.membershipDroppedSince.elim ts fun d => min d ts) }

def noteAttempt (sub : Sub) (now : ℕ) : BgState :=
  let attempts := st.recovery.lastAttempt.insert sub.id now
  { st with recovery := { st.recovery with lastAttempt := attempts } }

def paceRecovery (next : ℕ) : BgState :=
  { st with recovery := { st.recovery with nextAttempt := some next } }

def armGate (r : Reading) (message : String) : ℕ × BgState :=
  st.setRateLimitGate r ((parseRateLimitRetrySecs message).getD 0)

end BgState

namespace Task

variable (t : Task) (r : Reading) (channelId : Uuid) (subscriptionId : String)
  (deferred : List (RelayCommand × Reading)) (event : Event)

/-- An event of a channel; `false` once the harness has let go of the receiver. -/
def handleChannelEvent : Bool × Task :=
  match t.st.recordEvent channelId event with
  | (false, _) => (true, t)
  | (true, st) =>
    match t.sendOutcome with
    | .ok =>
      let t := (t.setSt st).push (some ⟨st.connectionGeneration, channelId, event⟩)
      (true, t.note (.forwarded event))
    | .full =>
      (true, (t.setSt (st.noteDropped channelId event)).note (.dropped (.channel channelId) event))
    | .closed => (false, t.setSt st)

/-- A membership notification.  It leaves the watermark of its channel alone. -/
def handleMembershipEvent : Bool × Task :=
  match extractHTagUuid event with
  | none => (true, t)
  | some channelId =>
    match t.st.seenIds.insert event.id with
    | (false, _) => (true, t)
    | (true, seenIds) =>
      let st := { t.st with seenIds := seenIds }
      match t.sendOutcome with
      | .ok =>
        let seen := max (st.membershipLastSeen.getD 0) event.createdAt
        let t := (t.setSt { st with membershipLastSeen := some seen }).push
          (some ⟨st.connectionGeneration, channelId, event⟩)
        (true, t.note (.forwarded event))
      | .full => (true, (t.setSt (st.noteMembershipDropped event)).note (.dropped .membership event))
      | .closed => (false, t.setSt st)

def handleEvent : Bool × Task :=
  if subscriptionId = observerControlSubId then (r.controlOpen, t)
  else if subscriptionId = membershipNotifSubId then t.handleMembershipEvent event
  else
    match channelIdFromSubId subscriptionId with
    | some channelId => t.handleChannelEvent channelId event
    | none => (true, t)

/-- A subscription refused for its rate: park it and keep the socket. -/
def parkRateLimited (message : String) : Task :=
  let (deadline, st) := t.st.armGate r message
  match channelIdFromSubId subscriptionId with
  | some channelId => t.setSt (st.parkPending channelId deadline)
  | none =>
    if subscriptionId = membershipNotifSubId then t.setSt { st with membershipResubNeeded := true }
    else if subscriptionId = observerControlSubId then t.setSt { st with observerResubNeeded := true }
    else t.setSt st

/-- A subscription closed for another reason: ask again, for what is still wanted. -/
def resubscribeClosed : Bool × Task :=
  if subscriptionId = observerControlSubId then
    if r.sent then (true, t.setSt { t.st with observerControlSubActive := true }) else (false, t)
  else if subscriptionId = membershipNotifSubId then t.replayMembership r
  else
    match channelIdFromSubId subscriptionId with
    | none => (true, t)
    | some channelId =>
      if (t.st.activeSubscriptions.lookup channelId).isNone then (true, t)
      else
        match t.st.activeFilters.lookup channelId with
        | none => (false, t)
        | some filter =>
          match t.replayChannel r channelId filter with
          | (true, t) =>
            let active := t.st.activeSubscriptions.insert channelId (channelSubId channelId)
            (true, t.setSt { t.st with activeSubscriptions := active })
          | (false, t) => (false, t)

def handleClosed (message : String) : Bool × Task :=
  match channelIdFromSubId subscriptionId, decide (message ∈ channelAccessDeniedReasons) with
  | some channelId, true => (true, t.dropChannel channelId)
  | _, _ =>
    if startsWith message "rate-limited:" then (true, t.parkRateLimited r subscriptionId message)
    else if startsWith message "auth-required" ∨ startsWith message "restricted" ∨
        containsText message "auth" then (false, t)
    else t.resubscribeClosed r subscriptionId

def handleMessage : RelayMessage → Bool × Task
  | .event subscriptionId event verified =>
    if verified then t.handleEvent r subscriptionId event else (true, t)
  | .eose _ => (true, t)
  | .notice message =>
    if startsWith message "rate-limited:" then (true, t.setSt (t.st.armGate r message).2)
    else (true, t)
  | .closed subscriptionId message => t.handleClosed r subscriptionId message
  | .auth _ => (r.sent, t)
  | .ok _ accepted message =>
    if accepted = false ∧ startsWith message "auth" then (false, t)
    else if accepted = false ∧ startsWith message "rate-limited:" then
      (true, t.setSt (t.st.armGate r message).2)
    else (true, t)

def handleWsMessage : WsFrame → Bool × Task
  | .text msg => t.handleMessage r msg
  | .ping => (r.sent, t)
  | .close => (false, t)
  | .pong | .ignored => (true, t)

def take (count : ℕ) : Task := { t with queue := t.queue.drop count }

def handleBuffered (msg : RelayMessage) : Bool × Task :=
  match msg with
  | .auth _ => (true, t)
  | msg => t.handleMessage r msg

/-- The messages that came in during the handshake.  The harness may take events before each. -/
def processHandshakeBuffer (t : Task) : List (RelayMessage × Reading × ℕ) → Bool × Task
  | [] => (true, t)
  | (msg, r, taken) :: rest =>
    match (t.take taken).handleBuffered r msg with
    | (true, t) => t.processHandshakeBuffer rest
    | (false, t) => (false, t)

/-! ### Parked requests -/

/-- One parked channel of the drain after a rate limit; `true` if its `REQ` was written. -/
def drainPendingChannel : Bool × Task :=
  match t.st.checkRateGate r.now with
  | (some retryAfter, st) => (false, t.setSt (st.parkPending channelId retryAfter))
  | (none, st) =>
    let t := t.setSt st
    let unparked := t.st.rateLimitedPending.erase channelId
    match t.st.activeFilters.lookup channelId with
    | none => (false, t.setSt { t.st with rateLimitedPending := unparked })
    | some filter =>
      match t.replayChannel r channelId filter with
      | (true, t) => (true, t.setSt { t.st with rateLimitedPending := unparked })
      | (false, t) => (false, t.setSt (t.st.parkPending channelId (r.ended + secs 5)))

def drainRetryChannel : Bool × Task :=
  match t.st.checkRateGate r.now with
  | (some retryAfter, st) =>
    let st := st.parkPending channelId retryAfter
    (false, t.setSt { st with resubscribeRetry := st.resubscribeRetry.erase channelId })
  | (none, st) =>
    let t := t.setSt st
    let unparked := t.st.resubscribeRetry.erase channelId
    match t.st.activeFilters.lookup channelId with
    | none => (false, t.setSt { t.st with resubscribeRetry := unparked })
    | some filter =>
      match t.replayChannel r channelId filter with
      | (true, t) => (true, t.setSt { t.st with resubscribeRetry := unparked })
      | (false, t) => (false, t)

def drainChannels (drain : Task → Reading → Uuid → Bool × Task) (r : Uuid → Reading) (t : Task) :
    List Uuid → ℕ × Task
  | [] => (0, t)
  | channelId :: rest =>
    let (sent, t) := drain t (r channelId) channelId
    let (count, t) := drainChannels drain r t rest
    (count + sent.toNat, t)

def drainRateLimitedPending (now : ℕ) (rank : Uuid → ℕ) (r : Uuid → Reading)
    (budget : ℕ) : ℕ × Task :=
  let ready := (iter rank t.st.rateLimitedPending).filter fun e => e.2 ≤ now
  drainChannels drainPendingChannel r t ((ready.map Sigma.fst).take budget)

def drainResubscribeRetry (rank : Uuid → ℕ) (r : Uuid → Reading) (budget : ℕ) : ℕ × Task :=
  let channels := (iter rank t.st.resubscribeRetry).map Sigma.fst
  drainChannels drainRetryChannel r t (channels.take budget)

/-- What the drain at the head of the main loop meets. -/
structure DrainReadings where
  gateNow : ℕ
  pendingNow : ℕ
  rank : Uuid → ℕ
  membership : Reading
  observer : Reading
  pending : Uuid → Reading
  retry : Uuid → Reading

def drainBudgetPerIter : ℕ := 1

/-- The membership subscription, if it has to be asked for again; also what is left of the budget. -/
def drainMembership (budget : ℕ) : ℕ × Task :=
  if t.st.membershipResubNeeded ∧ 0 < budget then
    match t.replayMembership r with
    | (true, t) => (budget - 1, t.setSt { t.st with membershipResubNeeded := false })
    | (false, t) => (budget, t)
  else (budget, t)

def drainObserver (budget : ℕ) : ℕ × Task :=
  if t.st.observerResubNeeded ∧ 0 < budget ∧ r.sent then
    (budget - 1, t.setSt { t.st with observerResubNeeded := false })
  else (budget, t)

def drainControl (i : DrainReadings) : ℕ × Task :=
  match t.st.checkRateGate i.gateNow with
  | (some _, st) => (drainBudgetPerIter, t.setSt st)
  | (none, st) =>
    let membership := (t.setSt st).drainMembership i.membership drainBudgetPerIter
    membership.2.drainObserver i.observer membership.1

def drain (i : DrainReadings) : Task :=
  let control := t.drainControl i
  let pending := control.2.drainRateLimitedPending i.pendingNow i.rank i.pending control.1
  (pending.2.drainResubscribeRetry i.rank i.retry (control.1 - pending.1)).2

/-! ### Recovery -/

/-- When a subscription was last attempted, with its id to tell equals apart. -/
def attemptKey (st : BgState) (sub : Sub) : WithBot ℕ ×ₗ String :=
  toLex (st.recovery.lastAttempt.lookup sub.id, sub.id)

/-- The subscription least recently attempted among those with a loss of their own to recover. -/
def nextChannel (st : BgState) : Option Sub :=
  let channels := st.channelDroppedSince.keys.filter fun channelId =>
    (st.activeSubscriptions.lookup channelId).isSome ∧ (st.activeFilters.lookup channelId).isSome ∧
      (st.rateLimitedPending.lookup channelId).isNone ∧ (st.resubscribeRetry.lookup channelId).isNone
  let membership :=
    st.membershipSubActive ∧ st.membershipDroppedSince.isSome ∧ st.membershipResubNeeded = false
  let subs := channels.map Sub.channel ++ if membership then [Sub.membership] else []
  subs.argmin (attemptKey st)

def recoveryDue : Bool :=
  t.receiverOpen ∧ (t.maxCapacity + 1) / 2 ≤ t.maxCapacity - t.queue.length ∧
    t.st.recovery.nextAttempt.all (fun next => next ≤ r.now)

/-- The attempt at one subscription; `sub` stands in `lastAttempt` already. -/
def recoverSub : Sub → Task
  | .channel channelId =>
    match t.st.activeFilters.lookup channelId with
    | none => t
    | some filter => (t.replayChannel r channelId filter).2
  | .membership => (t.replayMembership r).2

def recoverOne : Task :=
  if t.recoveryDue r then
    match t.st.checkRateGate r.now with
    | (some _, st) => t.setSt st
    | (none, st) =>
      match nextChannel st with
      | none => t.setSt st
      | some sub =>
        let t := (t.setSt (st.noteAttempt sub r.now)).recoverSub r sub
        t.setSt (t.st.paceRecovery (r.ended + recoveryInterval))
  else t

/-! ### Reconnecting -/

inductive ReconnectOutcome
  | ok | failed | shutdown

def retainCommand (c : RelayCommand × Reading) : Task := t.applyCommandToState c.2 c.1

/-- Whether a command is followed by a pacing sleep: a subscription that is not gated. -/
def paceCommand (cmd : RelayCommand) : Bool × Task :=
  if cmd.isSubscribe then
    match t.st.checkRateGate r.now with
    | (gate, st) => (gate.isNone, t.setSt st)
  else (false, t)

/-- The commands that came in meanwhile, in their order, until a write fails; the rest is recorded. -/
def drainCommands (t : Task) (sendFailed : Bool) : List (RelayCommand × Reading) →
    ReconnectOutcome × Task
  | [] => (if sendFailed then .failed else .ok, t)
  | (.shutdown, _) :: _ => (.shutdown, t)
  | (.reconnect, _) :: rest => t.drainCommands sendFailed rest
  | (cmd, r) :: rest =>
    if sendFailed then (t.retainCommand (cmd, r)).drainCommands true rest
    else
      match t.paceCommand r cmd with
      | (paced, t) =>
        match t.executeConnectedCommand r cmd with
        | (false, t) => t.drainCommands true rest
        | (true, t) => if paced && r.shutdown then (.shutdown, t) else t.drainCommands false rest

/-- What `resubscribe_after_reconnect` meets.  `deferred` has the commands of its pacing sleeps and,
if it gets there, those received after them. -/
structure ResubscribeReadings where
  rank : Uuid → ℕ
  channels : Uuid → Reading
  membership : Reading
  observer : Reading
  deferred : List (RelayCommand × Reading)

def resubscribeChannel : Bool × Task :=
  match t.st.checkRateGate r.now with
  | (some retryAfter, st) => (false, t.setSt (st.parkPending channelId retryAfter))
  | (none, st) =>
    let t := t.setSt st
    match t.st.activeFilters.lookup channelId with
    | none => (false, t.setSt (t.st.parkRetry channelId))
    | some filter =>
      match t.replayChannel r channelId filter with
      | (true, t) => (true, t)
      | (false, t) => (false, t.setSt (t.st.parkRetry channelId))

def resubscribeChannels (r : Uuid → Reading) (t : Task) : List Uuid → Bool × Task
  | [] => (true, t)
  | channelId :: rest =>
    let first := t.resubscribeChannel (r channelId) channelId
    if first.1 && (r channelId).shutdown then (false, first.2)
    else resubscribeChannels r first.2 rest

def retainDeferred : Task :=
  deferred.foldl retainCommand t

def resubscribeMembership : ReconnectOutcome × Task :=
  if t.st.membershipSubActive then
    match t.st.checkRateGate r.now with
    | (some _, st) => (.ok, t.setSt { st with membershipResubNeeded := true })
    | (none, st) =>
      let t := t.setSt st
      if t.st.activeSubscriptions.keys ≠ [] ∧ r.shutdown then (.shutdown, t)
      else
        match t.replayMembership r with
        | (true, t) => (.ok, t.setSt { t.st with membershipResubNeeded := false })
        | (false, t) => (.failed, t.retainDeferred deferred)
  else (.ok, t)

def resubscribeObserver : ReconnectOutcome × Task :=
  if t.st.observerControlSubActive then
    match t.st.checkRateGate r.now with
    | (some _, st) => (.ok, t.setSt { st with observerResubNeeded := true })
    | (none, st) =>
      let t := t.setSt st
      if r.shutdown then (.shutdown, t)
      else if r.sent then (.ok, t.setSt { t.st with observerResubNeeded := false })
      else (.failed, t.retainDeferred deferred)
  else (.ok, t)

def andThen (x : ReconnectOutcome × Task) (f : Task → ReconnectOutcome × Task) :
    ReconnectOutcome × Task :=
  match x with
  | (.ok, t) => f t
  | (outcome, t) => (outcome, t)

def resubscribeAfterReconnect (i : ResubscribeReadings) : ReconnectOutcome × Task :=
  let t := t.setSt { t.st with rateLimitedPending := ∅, resubscribeRetry := ∅ }
  let channels := (iter i.rank t.st.activeSubscriptions).map Sigma.fst
  match resubscribeChannels i.channels t channels with
  | (false, t) => (.shutdown, t)
  | (true, t) =>
    andThen (t.resubscribeMembership i.membership i.deferred) fun t =>
      andThen (t.resubscribeObserver i.observer i.deferred) fun t =>
        t.drainCommands false i.deferred

/-! ### Runs -/

/-- A connection that was made: its handshake buffer, the resubscription, and the commands received
after it. -/
structure Connection where
  handshake : List (RelayMessage × Reading × ℕ)
  resubscribe : ResubscribeReadings
  commands : List (RelayCommand × Reading)

/-- A socket was opened.  A drop signal of its handshake, or a write of the resubscription that
fails, leaves the task to try again. -/
def connected (c : Connection) : Task :=
  let t := t.setSt { t.st with connectionGeneration := t.st.connectionGeneration + 1 }
  match t.processHandshakeBuffer c.handshake with
  | (false, t) => t
  | (true, t) =>
    match t.resubscribeAfterReconnect c.resubscribe with
    | (.failed, t) => t
    | (.shutdown, t) => { t with phase := .stopped }
    | (.ok, t) =>
      match t.drainCommands false c.commands with
      | (.shutdown, t) => { t with phase := .stopped }
      | (_, t) => { t with phase := .up }

def socketLost : Task := { t.signalLoss with phase := .down }

end Task

inductive Input
  /-- The head of the main loop. -/
  | drain (i : Task.DrainReadings)
  | recover (r : Reading)
  | frame (f : WsFrame) (r : Reading)
  | command (cmd : RelayCommand) (r : Reading)
  /-- The stream ends, or a ping fails. -/
  | lost
  | connected (c : Task.Connection)
  /-- The harness takes an event. -/
  | receive
  | dropReceiver

namespace Task

def stepUp (t : Task) : Input → Task
  | .drain i => t.drain i
  | .recover r => t.recoverOne r
  | .frame f r =>
    match t.handleWsMessage r f with
    | (true, t) => t
    | (false, t) => t.socketLost
  | .command .shutdown _ => { t with phase := .stopped }
  | .command .reconnect _ => { t with phase := .down }
  | .command cmd r =>
    match t.executeConnectedCommand r cmd with
    | (true, t) => t
    | (false, t) => t.socketLost
  | .lost => t.socketLost
  | .connected _ | .receive | .dropReceiver => t

def stepDown (t : Task) : Input → Task
  | .command .shutdown _ => { t with phase := .stopped }
  | .command cmd r => t.applyCommandToState r cmd
  | .connected c => t.connected c
  | .drain _ | .recover _ | .frame .. | .lost | .receive | .dropReceiver => t

def step (t : Task) (i : Input) : Task :=
  match i with
  | .receive => t.take 1
  | .dropReceiver => { t with receiverOpen := false, queue := [] }
  | i =>
    match t.phase with
    | .up => t.stepUp i
    | .down => t.stepDown i
    | .stopped => t

def fresh (agentPubkeyHex : String) (maxCapacity : ℕ) : Task where
  agentPubkeyHex := agentPubkeyHex
  st := .new
  maxCapacity := maxCapacity
  queue := []
  receiverOpen := true
  phase := .up
  log := []

/-- The task at the head of its main loop for the first time, or between two connections if the
handshake asked for that. -/
def start (agentPubkeyHex : String) (maxCapacity : ℕ)
    (handshake : List (RelayMessage × Reading × ℕ)) : Task :=
  match (fresh agentPubkeyHex maxCapacity).processHandshakeBuffer handshake with
  | (true, t) => t
  | (false, t) => t.socketLost

def run (t : Task) (inputs : List Input) : Task := inputs.foldl step t

end Task

end Buzz.Acp.RelayTask
