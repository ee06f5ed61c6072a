import Buzz.Lib.Tally
import Buzz.Relay.UuidText
import Mathlib.Data.Finset.Card

/-!
The state of the agent's relay task.

One task owns the connection to the relay.  It hands the events of the subscribed channels on through
a bounded channel, and when that is full it drops an event and remembers, for the event's channel,
the earliest time of what was dropped.  A later request (`REQ`) for the channel asks for the events
since then.

Instants are numbers on a monotonic clock, in nanoseconds.  What a call reads from the clocks and
whether the socket takes what it writes come with the call as a `Reading`.  The task also parks frames
of the observer, writes pings and counts its attempts to connect; these touch nothing here and are
left out.
-/

namespace Buzz.Acp.RelayTask

open Buzz.Core Lib
open Relay (parseUuid)

def secs (n : ℕ) : ℕ := n * 1000000000

def seenIdLimit : ℕ := 12000

def sinceSkewSecs : ℕ := 5

def recoveryInterval : ℕ := secs 5

/-! ### Messages as texts -/

def startsWith (message head : String) : Bool := head.toList.isPrefixOf message.toList

def afterFirst (sep : List Char) : List Char → Option (List Char)
  | [] => none
  | c :: s => if sep.isPrefixOf (c :: s) then some ((c :: s).drop sep.length) else afterFirst sep s

def containsText (message part : String) : Bool :=
  (afterFirst part.toList message.toList).isSome

/-- The number of seconds in `retry in {N}s`. -/
def parseRateLimitRetrySecs (message : String) : Option ℕ :=
  (afterFirst "retry in ".toList message.toList).bind fun s => parseU64 (s.takeWhile Char.isDigit)

/-- The hint of a message. -/
example : parseRateLimitRetrySecs "rate-limited: retry in 30s" = some 30 := by decide +kernel

/-! ### Subscription ids -/

def membershipNotifSubId : String := "membership-notif"

def observerControlSubId : String := "agent-observer-control"

def channelSubId (channelId : Uuid) : String := "ch-" ++ channelId.toString

def channelIdFromSubId (subId : String) : Option Uuid :=
  if startsWith subId "ch-" then
    parseUuid (String.ofList (subId.toList.drop 3))
  else none

def extractHTagUuid (event : Event) : Option Uuid :=
  event.tags.findSome? fun tag => if tag.name = "h" then tag.content.bind parseUuid else none

/-! ### The set of seen ids -/

/-- The ids seen lately, in two generations. -/
structure TwoGenDedup where
  current : Finset EventId
  previous : Finset EventId
  limit : ℕ

namespace TwoGenDedup

def new (limit : ℕ) : TwoGenDedup := ⟨∅, ∅, limit⟩

variable (d : TwoGenDedup) (id : EventId)

def contains : Bool := id ∈ d.current ∨ id ∈ d.previous

def insert : Bool × TwoGenDedup :=
  if d.contains id then (false, d)
  else
    let current := Insert.insert id d.current
    if d.limit / 2 ≤ current.card then (true, ⟨∅, current, d.limit⟩)
    else (true, { d with current := current })

def remove : TwoGenDedup :=
  { d with current := d.current.erase id, previous := d.previous.erase id }

@[simp] lemma contains_remove (id' : EventId) :
    (d.remove id).contains id' = (decide (id' ≠ id) && d.contains id') := by
  unfold contains remove
  simp [← and_or_left]

lemma contains_insert {d : TwoGenDedup} {id id' : EventId} (hne : id' ≠ id)
    (h : d.contains id' = false) : (d.insert id).2.contains id' = false := by
  have hout : id' ∉ d.current ∧ id' ∉ d.previous := by simpa [contains] using h
  simp only [insert]
  split_ifs
  · exact h
  · simpa [contains, hne] using hout.1
  · simpa [contains, hne] using hout

end TwoGenDedup

/-! ### The state -/

/-- What a subscription asks for; without `kinds` it is every kind. -/
structure ChannelFilter where
  kinds : Option (List ℕ)
  requireMention : Bool

structure RecoverySchedule where
  nextAttempt : Option ℕ
  lastAttempt : Table String ℕ

structure BgState where
  activeSubscriptions : Table Uuid String
  lastSeen : Table Uuid ℕ
  seenIds : TwoGenDedup
  activeFilters : Table Uuid ChannelFilter
  membershipDroppedSince : Option ℕ
  membershipLastSeen : Option ℕ
  membershipSubActive : Bool
  observerControlSubActive : Bool
  channelDroppedSince : Table Uuid ℕ
  recovery : RecoverySchedule
  startupWatermark : Option ℕ
  subscribeSince : Table Uuid ℕ
  rateLimitGate : Option ℕ
  rateLimitedPending : Table Uuid ℕ
  membershipResubNeeded : Bool
  observerResubNeeded : Bool
  resubscribeRetry : Table Uuid Unit
  connectionGeneration : ℕ

/-- What a call meets: the clocks, at its end too, how its durations are jittered, whether the socket takes what it
writes, whether the channel of the observer controls is still read, and whether a shutdown comes in
the pacing sleep behind it. -/
structure Reading where
  now : ℕ
  ended : ℕ
  unixNow : ℕ
  jittered : ℕ → ℕ
  sent : Bool
  controlOpen : Bool
  shutdown : Bool

namespace BgState

def new : BgState where
  activeSubscriptions := ∅
  lastSeen := ∅
  seenIds := TwoGenDedup.new seenIdLimit
  activeFilters := ∅
  membershipDroppedSince := none
  membershipLastSeen := none
  membershipSubActive := false
  observerControlSubActive := false
  channelDroppedSince := ∅
  recovery := ⟨none, ∅⟩
  startupWatermark := none
  subscribeSince := ∅
  rateLimitGate := none
  rateLimitedPending := ∅
  membershipResubNeeded := false
  observerResubNeeded := false
  resubscribeRetry := ∅
  connectionGeneration := 0

variable (st : BgState) (channelId : Uuid)

/-- Note an event for the dedup set and the watermark of its channel; `false` for a duplicate. -/
def recordEvent (event : Event) : Bool × BgState :=
  match st.seenIds.insert event.id with
  | (false, _) => (false, st)
  | (true, seenIds) =>
    let ts := event.createdAt
    let seen := (st.lastSeen.lookup channelId).elim ts fun t => max t ts
    (true, { st with seenIds := seenIds, lastSeen := st.lastSeen.insert channelId seen })

def channelSince : Option ℕ :=
  match st.lastSeen.lookup channelId, st.channelDroppedSince.lookup channelId with
  | some l, some d => some (min l d)
  | some l, none => some l
  | none, some d => some d
  | none, none => (st.subscribeSince.lookup channelId).or st.startupWatermark

def membershipSince : Option ℕ :=
  match st.membershipDroppedSince, st.membershipLastSeen with
  | some d, some l => some (min d l)
  | some d, none => some d
  | none, some l => some l
  | none, none => st.startupWatermark

def clearChannelState : BgState :=
  let lastAttempt := st.recovery.lastAttempt.erase (channelSubId channelId)
  { st with
    recovery := { st.recovery with lastAttempt := lastAttempt }
    lastSeen := st.lastSeen.erase channelId
    subscribeSince := st.subscribeSince.erase channelId
    channelDroppedSince := st.channelDroppedSince.erase channelId
    activeFilters := st.activeFilters.erase channelId
    rateLimitedPending := st.rateLimitedPending.erase channelId
    resubscribeRetry := st.resubscribeRetry.erase channelId }

/-! ### The rate-limit gate -/

/-- Arm the gate or move it further out; also its deadline. -/
def setRateLimitGate (r : Reading) (retrySecs : ℕ) : ℕ × BgState :=
  let base := if retrySecs < 2 then secs 5 else secs retrySecs
  let deadline := r.now + r.jittered base
  let gate :=
    match st.rateLimitGate with
    | some existing => if existing > deadline then existing else deadline
    | none => deadline
  (gate, { st with rateLimitGate := some gate })

/-- The deadline of a gate that is armed; one that has expired is cleared. -/
def checkRateGate (now : ℕ) : Option ℕ × BgState :=
  match st.rateLimitGate with
  | none => (none, st)
  | some deadline =>
    if now < deadline then (some deadline, st) else (none, { st with rateLimitGate := none })

end BgState

end Buzz.Acp.RelayTask
