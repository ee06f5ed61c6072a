import Buzz.Core.Event
import Buzz.Lib.Tally
import Mathlib.Data.Finset.Basic
import Mathlib.Data.List.MinMax

/-!
The event queue of the agent harness.

`EventQueue` partitions incoming events by session scope.  A scope's events are flushed in batches to
an agent; a batch that failed, or could not run, is put back.  Times are nanoseconds on a monotonic
clock, and every operation that reads the clock takes its reading as an argument.  An operation that
walks a hash table takes the order it happens to be walked in (`HashOrders`), which decides between
events received at the same time.

The queue and the withheld events are stored by scope with events of that scope only
(`ScopedEvent`).  `gone` is a record that no operation reads: the events that left the queue for
good, and how.
-/

namespace Buzz.Acp

open Buzz.Core Lib

/-! ### Scopes and events -/

inductive SessionScope
  | conversation (channelId : Uuid)
  | thread (channelId : Uuid) (rootEventId : String)
deriving DecidableEq

def SessionScope.channelId : SessionScope → Uuid
  | conversation channelId => channelId
  | thread channelId _ => channelId

inductive DedupMode
  | drop | queue
deriving DecidableEq

inductive CancelReason
  | interrupt | steer
deriving DecidableEq

/-- An event waiting in the queue.  Its channel is that of its scope, as `push` asserts. -/
structure QueuedEvent where
  scope : SessionScope
  event : Event
  receivedAt : ℕ
  promptTag : String
deriving DecidableEq

structure BatchEvent where
  event : Event
  promptTag : String
  receivedAt : ℕ
deriving DecidableEq

variable (s : SessionScope)

abbrev ScopedEvent := {e : QueuedEvent // e.scope = s}

abbrev Queues := AList fun s : SessionScope => List (ScopedEvent s)

def BatchEvent.toQueued (be : BatchEvent) : ScopedEvent s :=
  ⟨⟨s, be.event, be.receivedAt, be.promptTag⟩, rfl⟩

def toBatchEvent {s : SessionScope} (e : ScopedEvent s) : BatchEvent :=
  ⟨e.1.event, e.1.promptTag, e.1.receivedAt⟩

@[simp] lemma toQueued_toBatchEvent {s : SessionScope} (e : ScopedEvent s) :
    (toBatchEvent e).toQueued s = e := by
  obtain ⟨⟨scope, event, receivedAt, promptTag⟩, hsc⟩ := e
  obtain rfl : scope = s := hsc
  rfl

structure FlushBatch where
  scope : SessionScope
  events : List BatchEvent
  /-- Events of an earlier batch whose turn was cancelled. -/
  cancelledEvents : List BatchEvent
  cancelReason : Option CancelReason
deriving DecidableEq

/-! ### Limits -/

def maxPendingPerScope : ℕ := 500
def maxPendingPerChannel : ℕ := 500
def maxBatchEvents : ℕ := 50
def maxRetries : ℕ := 10
def baseRetryDelaySecs : ℕ := 5
def maxRetryDelaySecs : ℕ := 300
def inFlightDeadlineBufferSecs : ℕ := 100
def defaultInFlightDeadlineSecs : ℕ := 7300

def secs (n : ℕ) : ℕ := n * 10 ^ 9

/-- The backoff of an attempt.  The jitter is `0.8 + 0.4 * subsecNanos / u32::MAX`, taken here
without the rounding of the code's double. -/
def retryDelay (attempt subsecNanos : ℕ) : ℕ :=
  let baseSecs := baseRetryDelaySecs * 2 ^ min (attempt - 1) 6
  let cappedSecs := min baseSecs maxRetryDelaySecs
  let u32Max := 2 ^ 32 - 1
  secs cappedSecs * (8 * u32Max + 4 * subsecNanos) / (10 * u32Max)

/-! ### The queue -/

/-- How an event left the queue for good. -/
inductive Fate
  | evicted | removed | drained
deriving DecidableEq

structure EventQueue where
  queues : AList fun s : SessionScope => List (ScopedEvent s)
  inFlightScopes : Finset SessionScope
  inFlightDeadlines : AList fun _ : SessionScope => ℕ
  inFlightBatchSizes : AList fun _ : SessionScope => ℕ
  retryAfter : AList fun _ : SessionScope => ℕ
  retryCounts : AList fun _ : SessionScope => ℕ
  dedupMode : DedupMode
  cancelledBatches : AList fun _ : SessionScope => List BatchEvent
  cancelReasons : AList fun _ : SessionScope => CancelReason
  withheldNativeSteer : AList fun s : SessionScope => List (ScopedEvent s)
  inFlightDeadline : ℕ
  gone : Multiset (Fate × QueuedEvent)

def queuedItems (es : List (ScopedEvent s)) : Multiset QueuedEvent :=
  (es.map Subtype.val : List QueuedEvent)

def batchItems (bes : List BatchEvent) : Multiset QueuedEvent :=
  queuedItems s (bes.map (·.toQueued s))

/-- The orders in which the hash tables are walked. -/
structure HashOrders where
  queues : SessionScope → ℕ
  deadlines : SessionScope → ℕ
  cancelled : SessionScope → ℕ

namespace EventQueue

def new (dedupMode : DedupMode) : EventQueue where
  queues := ∅
  inFlightScopes := ∅
  inFlightDeadlines := ∅
  inFlightBatchSizes := ∅
  retryAfter := ∅
  retryCounts := ∅
  dedupMode := dedupMode
  cancelledBatches := ∅
  cancelReasons := ∅
  withheldNativeSteer := ∅
  inFlightDeadline := secs defaultInFlightDeadlineSecs
  gone := 0

def withInFlightDeadline (q : EventQueue) (maxTurnDurationSecs : ℕ) : EventQueue :=
  { q with inFlightDeadline := secs (maxTurnDurationSecs + inFlightDeadlineBufferSecs) }

variable (now : ℕ) (o : HashOrders) (s : SessionScope) (eventId : String) (q : EventQueue)

/-- A successful steer moves the deadline of a scope in flight, never backward. -/
def extendInFlightDeadline (maxTurnSecs : ℕ) (q : EventQueue) : EventQueue :=
  match q.inFlightDeadlines.lookup s with
  | none => q
  | some current =>
    let extended := now + secs (maxTurnSecs + inFlightDeadlineBufferSecs)
    if extended > current then
      { q with inFlightDeadlines := q.inFlightDeadlines.insert s extended }
    else q

def discard (fate : Fate) (es : List QueuedEvent) (q : EventQueue) : EventQueue :=
  { q with gone := q.gone + (es.map fun e => (fate, e) : List (Fate × QueuedEvent)) }

/-! ### Caps -/

variable (channelId : Uuid)

def channelEventTotal : ℕ :=
  ((q.queues.entries.filter fun e => e.1.channelId = channelId).map fun e => e.2.length).sum

def headReceivedAt (e : Sigma fun s : SessionScope => List (ScopedEvent s)) : ℕ :=
  (e.2.head?.map fun e => e.1.receivedAt).getD 0

/-- The scope of the channel whose head event is the oldest. -/
def capVictim : Option SessionScope :=
  (((iter o.queues q.queues).filter fun e =>
    e.1.channelId = channelId && !e.2.isEmpty).argmin headReceivedAt).map Sigma.fst

def popFront : EventQueue :=
  let queue := listAt q.queues s
  ({ q with queues := setList q.queues s (queue.drop 1) }).discard .evicted
    ((queue.take 1).map Subtype.val)

/-- The eviction loop; every round takes one event, so that the number of events is enough fuel. -/
def capLoop (o : HashOrders) (channelId : Uuid) : ℕ → EventQueue → EventQueue
  | 0, q => q
  | fuel + 1, q =>
    if q.channelEventTotal channelId > maxPendingPerChannel then
      match q.capVictim o channelId with
      | none => q
      | some s => capLoop o channelId fuel (q.popFront s)
    else q

def enforceChannelCap (q : EventQueue) : EventQueue :=
  capLoop o channelId (q.channelEventTotal channelId) q

/-- What every eviction brings about, the loop does. -/
lemma capLoop_rel {R : EventQueue → EventQueue → Prop} {o : HashOrders} {channelId : Uuid}
    (hrefl : ∀ q, R q q) (hpop : ∀ q q' s, maxPendingPerChannel < q.channelEventTotal channelId →
      q.capVictim o channelId = some s → R (q.popFront s) q' → R q q') (fuel : ℕ) (q : EventQueue) :
    R q (capLoop o channelId fuel q) := by
  induction fuel generalizing q with
  | zero => exact hrefl q
  | succ fuel ih =>
    rw [capLoop]
    split_ifs with hover
    · split
      · exact hrefl q
      · next s hs => exact hpop q _ s hover hs (ih _)
    · exact hrefl q

/-- Put events in front of a scope's queue, trim the queue at its back, and enforce the cap of the
channel. -/
def putFront (es : List (ScopedEvent s)) (q : EventQueue) : EventQueue :=
  let queue := es ++ listAt q.queues s
  let trimmed := { q with queues := q.queues.insert s (queue.take maxPendingPerScope) }
  (trimmed.discard .evicted ((queue.drop maxPendingPerScope).map Subtype.val)).enforceChannelCap o
    s.channelId

/-! ### Pushing -/

/-- The result says whether the event was accepted. -/
def push (e : QueuedEvent) (q : EventQueue) : Bool × EventQueue :=
  if q.dedupMode = .drop ∧ e.scope ∈ q.inFlightScopes then (false, q)
  else
    let entry : ScopedEvent e.scope := ⟨e, rfl⟩
    let queue := listAt q.queues e.scope
    let n := if queue.length ≥ maxPendingPerScope then 1 else 0
    let pushed := { q with queues := q.queues.insert e.scope (queue.drop n ++ [entry]) }
    (true, (pushed.discard .evicted ((queue.take n).map Subtype.val)).enforceChannelCap o
      e.scope.channelId)

/-! ### Flushing -/

def recoverWithheldForExpiredScope : EventQueue :=
  match q.withheldNativeSteer.lookup s with
  | none => q
  | some entries =>
    ({ q with withheldNativeSteer := q.withheldNativeSteer.erase s }).putFront o s entries

def release : EventQueue :=
  { q with
    inFlightScopes := q.inFlightScopes.erase s
    inFlightDeadlines := q.inFlightDeadlines.erase s
    inFlightBatchSizes := q.inFlightBatchSizes.erase s }

def expireInFlight : EventQueue :=
  let expired := ((iter o.deadlines q.inFlightDeadlines).filter fun e => now ≥ e.2).map Sigma.fst
  expired.foldl (fun q s => (q.release s).recoverWithheldForExpiredScope o s) q

def isThrottled (s : SessionScope) : Bool :=
  (q.retryAfter.lookup s).any fun t => t > now

/-- The scopes that may be flushed, the one with the oldest head event first. -/
def readyScope : Option SessionScope :=
  (((iter o.queues q.queues).filter fun e =>
    !e.2.isEmpty && e.1 ∉ q.inFlightScopes && !q.isThrottled now e.1).argmin
      headReceivedAt).map Sigma.fst

/-- A scope with cancelled events that is not in flight; a throttle is not looked at. -/
def cancelledScope : Option SessionScope :=
  ((iter o.cancelled q.cancelledBatches).find? fun e => e.1 ∉ q.inFlightScopes).map Sigma.fst

def setInFlight (size : ℕ) (q : EventQueue) : EventQueue :=
  { q with
    inFlightScopes := insert s q.inFlightScopes
    inFlightDeadlines := q.inFlightDeadlines.insert s (now + q.inFlightDeadline)
    inFlightBatchSizes := q.inFlightBatchSizes.insert s size }

def takeCancelled : EventQueue :=
  { q with
    cancelledBatches := q.cancelledBatches.erase s
    cancelReasons := q.cancelReasons.erase s }

/-- The next events of a scope, in the order of their creation, with its cancelled events. -/
def flushQueue : FlushBatch × EventQueue :=
  let queue := listAt q.queues s
  let events := ((queue.take maxBatchEvents).map toBatchEvent).insertionSort fun a b =>
    a.event.createdAt ≤ b.event.createdAt
  let cancelled := listAt q.cancelledBatches s
  (⟨s, events, cancelled, if cancelled.isEmpty then none else q.cancelReasons.lookup s⟩,
    (({ q with queues := setList q.queues s (queue.drop maxBatchEvents) }).setInFlight now s
      events.length).takeCancelled s)

/-- The cancelled events of a scope as an ordinary batch. -/
def flushCancelled : FlushBatch × EventQueue :=
  let cancelled := listAt q.cancelledBatches s
  (⟨s, cancelled, [], q.cancelReasons.lookup s⟩,
    (q.setInFlight now s cancelled.length).takeCancelled s)

def flushNext : Option FlushBatch × EventQueue :=
  let expired := q.expireInFlight now o
  match expired.readyScope now o with
  | some s => (some (expired.flushQueue now s).1, (expired.flushQueue now s).2)
  | none =>
    match expired.cancelledScope o with
    | some s => (some (expired.flushCancelled now s).1, (expired.flushCancelled now s).2)
    | none => (none, expired)

/-- Whether something can be flushed; stuck scopes are released on the way. -/
def hasFlushableWork : Bool × EventQueue :=
  let expired := q.expireInFlight now o
  ((expired.queues.entries.any fun e => !e.2.isEmpty && e.1 ∉ expired.inFlightScopes &&
      (expired.retryAfter.lookup e.1).all fun t => t ≤ now) ||
    expired.cancelledBatches.keys.any fun s => s ∉ expired.inFlightScopes, expired)

/-! ### Completion and retries -/

def markComplete : EventQueue :=
  let released := q.release s
  if q.isThrottled now s then released
  else
    { released with
      retryAfter := q.retryAfter.erase s
      retryCounts := q.retryCounts.erase s }

/-- Put a failed batch back, or return it when its scope has used up its retries. -/
def requeue (subsecNanos : ℕ) (o : HashOrders) (batch : FlushBatch) (q : EventQueue) :
    Option FlushBatch × EventQueue :=
  let s := batch.scope
  let attempt := (q.retryCounts.lookup s).getD 0 + 1
  if attempt > maxRetries then
    (some batch,
      { q with retryCounts := q.retryCounts.erase s, retryAfter := q.retryAfter.erase s })
  else
    let counted :=
      { q with
        retryCounts := q.retryCounts.insert s attempt
        retryAfter := q.retryAfter.insert s (now + retryDelay attempt subsecNanos) }
    (none, counted.putFront o s (batch.events.map (·.toQueued s)))

def requeuePreserveTimestamps (batch : FlushBatch) (q : EventQueue) : EventQueue :=
  let s := batch.scope
  let restored :=
    if batch.cancelledEvents.isEmpty then q
    else
      { q with
        cancelledBatches :=
          q.cancelledBatches.insert s (batch.cancelledEvents ++ listAt q.cancelledBatches s)
        cancelReasons :=
          match batch.cancelReason, q.cancelReasons.lookup s with
          | some reason, none => q.cancelReasons.insert s reason
          | _, _ => q.cancelReasons }
  restored.putFront o s (batch.events.map (·.toQueued s))

def requeueAsCancelled (batch : FlushBatch) (reason : CancelReason) (q : EventQueue) : EventQueue :=
  let s := batch.scope
  { q with
    cancelledBatches := q.cancelledBatches.insert s
      (listAt q.cancelledBatches s ++ batch.cancelledEvents ++ batch.events)
    cancelReasons := q.cancelReasons.insert s reason }

/-- Forget throttles that have passed, and the counts of idle scopes. -/
def compactExpiredState : EventQueue :=
  let retryAfter := retain (fun _ deadline => deadline > now) q.retryAfter
  { q with
    retryAfter := retryAfter
    retryCounts := retain (fun s _ => (retryAfter.lookup s).isSome ||
      !(listAt q.queues s).isEmpty || s ∈ q.inFlightScopes) q.retryCounts }

/-! ### Steers and removal -/

def hasId {s : SessionScope} (eventId : String) (e : ScopedEvent s) : Bool :=
  e.1.event.id.toHex = eventId

def markNativeSteerPending : Bool × EventQueue :=
  let queue := listAt q.queues s
  match queue.find? (hasId eventId) with
  | none => (false, q)
  | some e =>
    (true, { q with
      queues := setList q.queues s (queue.eraseP (hasId eventId))
      withheldNativeSteer :=
        q.withheldNativeSteer.insert s (listAt q.withheldNativeSteer s ++ [e]) })

def releaseNativeSteer : EventQueue :=
  let entries := listAt q.withheldNativeSteer s
  match entries.find? (hasId eventId) with
  | none => q
  | some e =>
    ({ q with
      withheldNativeSteer := setList q.withheldNativeSteer s
        (entries.eraseP (hasId eventId)) }).putFront o s [e]

def removeEvent : EventQueue :=
  let entries := listAt q.withheldNativeSteer s
  let queue := listAt q.queues s
  ({ q with
    withheldNativeSteer :=
      setList q.withheldNativeSteer s (entries.filter fun e => !hasId eventId e)
    queues := setList q.queues s (queue.filter fun e => !hasId eventId e) }).discard .removed
      ((entries.filter (hasId eventId) ++ queue.filter (hasId eventId)).map Subtype.val)

def ofChannel {β : SessionScope → Type} (channelId : Uuid) (t : AList β) : AList β :=
  retain (fun s _ => decide (s.channelId = channelId)) t

def ofOthers {β : SessionScope → Type} (channelId : Uuid) (t : AList β) : AList β :=
  retain (fun s _ => !decide (s.channelId = channelId)) t

/-- Drop everything of a channel but what is in flight.  Only the ids of the queued events are
returned. -/
def drainChannel (q : EventQueue) : List String × EventQueue :=
  ((iter o.queues (ofChannel channelId q.queues)).flatMap fun e =>
      e.2.map fun e => e.1.event.id.toHex,
    { q with
      queues := ofOthers channelId q.queues
      retryAfter := ofOthers channelId q.retryAfter
      retryCounts := ofOthers channelId q.retryCounts
      cancelledBatches := ofOthers channelId q.cancelledBatches
      cancelReasons := ofOthers channelId q.cancelReasons
      withheldNativeSteer := ofOthers channelId q.withheldNativeSteer
      gone := q.gone + (tally queuedItems (ofChannel channelId q.queues) +
        tally queuedItems (ofChannel channelId q.withheldNativeSteer) +
        tally batchItems (ofChannel channelId q.cancelledBatches)).map fun e => (.drained, e) })

end EventQueue

/-! ### Sample events -/

def sampleScope : SessionScope := .conversation ⟨0⟩

def mention (id received : ℕ) : QueuedEvent :=
  ⟨sampleScope, ⟨⟨BitVec.ofNat 256 id⟩, ⟨0⟩, received, 9, [], ""⟩, secs received, "mention"⟩

def anyOrder : HashOrders := ⟨fun _ => 0, fun _ => 0, fun _ => 0⟩

end Buzz.Acp
