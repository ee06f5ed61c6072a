import Buzz.Lib.Run
import Buzz.Relay.FanOut

/-!
Membership and visibility look-ups on one pod, interleaved.

A pod answers membership questions from a cache in front of the database, and so the visibility of
private channels.  A cached look-up is several steps (cache, database, cache fill), and any number
of look-ups run at once, together with changes of the database and with the invalidations that
follow a removal.  The callers are the membership check of a write, the access filter of a fan-out
and the ingest that hands a visibility on to its fan-out.

Each call carries a record of what was true when it began.  The record is read by no step; it is
there to state what the call must not do.
-/

namespace Buzz.Relay

open Buzz.Core Lib

structure MemberKey where
  communityId : CommunityId
  channelId : Uuid
  pubkey : PublicKey
deriving DecidableEq

abbrev ChannelKey := CommunityId × Uuid

/-! ### The cached look-ups -/

/-- Where a call of `isMemberCached` stands: about to ask the cache, to read the database, to fill
the cache with what it read, or done. -/
inductive MemberLookup
  | get
  | read
  | insert (value : Bool)
  | done (answer : Except String Bool)

/-- Where a call of `channelVisibilityCached` stands. -/
inductive VisibilityLookup
  | get (prefetched : Option String)
  | read
  | insert (visibility : String)
  | done (answer : Except String String)

/-- What was true when a call began, and what has happened since: the members, the removals not yet
invalidated on this pod, the members added since, and whether the channel has been private all
along. -/
structure CallRecord where
  members : List MemberKey
  unsettled : List MemberKey
  readded : List MemberKey
  stayedPrivate : Bool

/-- A membership check of a write: `row` is the channel row the request already holds. -/
inductive CheckPhase
  | member (lookup : MemberLookup)
  | channel
  | finished (verdict : Except String Unit)

structure CheckCall where
  key : MemberKey
  row : Option String
  phase : CheckPhase
  record : CallRecord
  ingestPrivate : Bool

/-- The access filter of a fan-out: resolve the visibility, then look the recipients up one by one.
`kept` are the recipients kept so far. -/
inductive FanoutPhase
  | resolving (lookup : VisibilityLookup)
  | checking (rest : List (ConnId × SubId)) (lookup : MemberLookup)
  | finished

structure FanoutCall where
  communityId : CommunityId
  channelId : Uuid
  threaded : Option String
  hits : List (ConnId × SubId)
  phase : FanoutPhase
  kept : List (ConnId × SubId)
  record : CallRecord
  ingestPrivate : Bool

/-- The part of an ingest that fetches the channel row and resolves the visibility it threads. -/
inductive IngestPhase
  | begun
  | fetched (row : String) (lookup : VisibilityLookup)
  | ready (row : Option String) (threaded : Option String)

structure IngestCall where
  communityId : CommunityId
  channelId : Uuid
  phase : IngestPhase
  stayedPrivate : Bool

/-- The database as the pod reads it, the pod's caches and its running calls.  `unsettled` records
the removals whose invalidation has not run here yet. -/
structure PodState where
  members : List MemberKey
  visibility : Table ChannelKey String
  membershipCache : Table MemberKey Bool
  channelVisibilityCache : Table ChannelKey String
  unsettled : List MemberKey
  ingests : ℕ → Option IngestCall
  checks : ℕ → Option CheckCall
  fanouts : ℕ → Option FanoutCall

def PodState.start (members : List MemberKey) (visibility : Table ChannelKey String) : PodState where
  members := members
  visibility := visibility
  membershipCache := ∅
  channelVisibilityCache := ∅
  unsettled := []
  ingests := fun _ => none
  checks := fun _ => none
  fanouts := fun _ => none

variable (s : PodState)

/-- The step of a membership look-up; `dbOk` is whether a database read succeeds. -/
def MemberLookup.next (key : MemberKey) (dbOk : Bool) : MemberLookup → MemberLookup
  | get =>
    match s.membershipCache.lookup key with
    | some cached => done (.ok cached)
    | none => read
  | read => if dbOk then insert (decide (key ∈ s.members)) else done (.error "database error")
  | insert value => done (.ok value)
  | done answer => done answer

/-- What the step of a membership look-up writes to the cache. -/
def MemberLookup.fill : MemberLookup → Option Bool
  | insert value => some value
  | _ => none

/-- Only a private visibility is cached. -/
def VisibilityLookup.resolved (visibility : String) : VisibilityLookup :=
  if visibility = "private" then insert visibility else done (.ok visibility)

def VisibilityLookup.next (chan : ChannelKey) (dbOk : Bool) : VisibilityLookup → VisibilityLookup
  | get prefetched =>
    match s.channelVisibilityCache.lookup chan with
    | some cached => done (.ok cached)
    | none =>
      match prefetched with
      | some row => resolved row
      | none => read
  | read =>
    match if dbOk then s.visibility.lookup chan else none with
    | some row => resolved row
    | none => done (.error "database error")
  | insert visibility => done (.ok visibility)
  | done answer => done answer

def VisibilityLookup.fill : VisibilityLookup → Option String
  | insert visibility => some visibility
  | _ => none

/-! ### The callers -/

/-- `checkChannelMembership`: a member, or anyone on an open channel. -/
def openVerdict (visibility : Option String) : Except String Unit :=
  if visibility = some "open" then .ok () else .error "restricted: not a channel member"

def CheckPhase.next (key : MemberKey) (row : Option String) (dbOk : Bool) : CheckPhase → CheckPhase
  | member (.done (.ok true)) => finished (.ok ())
  | member (.done (.ok false)) =>
    match row with
    | some visibility => finished (openVerdict (some visibility))
    | none => channel
  | member (.done (.error e)) => finished (.error ("error: database error: " ++ e))
  | member lookup => member (lookup.next s key dbOk)
  | channel =>
    finished (openVerdict
      (if dbOk then s.visibility.lookup (key.communityId, key.channelId) else none))
  | finished verdict => finished verdict

def CheckCall.next (dbOk : Bool) (k : CheckCall) : CheckCall :=
  { k with phase := k.phase.next s k.key k.row dbOk }

def CheckCall.fill (k : CheckCall) : Option (MemberKey × Bool) :=
  match k.phase with
  | .member lookup => lookup.fill.map fun v => (k.key, v)
  | _ => none

section Fanout

variable (conns : ConnectionManager) (f : FanoutCall)

/-- One recipient's look-up is over: keep the recipient if the answer was yes. -/
def FanoutCall.settle (x : ConnId × SubId) (rest : List (ConnId × SubId))
    (keep : Bool) : FanoutCall :=
  { f with
    phase := .checking rest .get
    kept := if keep then f.kept ++ [x] else f.kept }

def FanoutCall.next (s : PodState) (dbOk : Bool) (f : FanoutCall) : FanoutCall :=
  match f.phase with
  | .resolving (.done (.ok visibility)) =>
    if visibility ≠ "private" then { f with phase := .finished, kept := f.hits }
    else { f with phase := .checking f.hits .get }
  | .resolving (.done (.error _)) => { f with phase := .finished }
  | .resolving lookup =>
    { f with phase := .resolving (lookup.next s (f.communityId, f.channelId) dbOk) }
  | .checking [] _ => { f with phase := .finished }
  | .checking (x :: rest) lookup =>
    match pubkeyForConn conns x.1 with
    | none => f.settle x rest false
    | some pk =>
      match lookup with
      | .done answer => f.settle x rest (keepsMember answer)
      | lookup =>
        { f with
          phase := .checking (x :: rest) (lookup.next s ⟨f.communityId, f.channelId, pk⟩ dbOk) }
  | .finished => f

def FanoutCall.fill : Option (MemberKey × Bool) :=
  match f.phase with
  | .checking (x :: _) lookup =>
    (pubkeyForConn conns x.1).bind fun pk =>
      lookup.fill.map fun v => (⟨f.communityId, f.channelId, pk⟩, v)
  | _ => none

def FanoutCall.visibilityFill : Option String :=
  match f.phase with
  | .resolving lookup => lookup.fill
  | _ => none

end Fanout

def IngestCall.next (dbOk : Bool) (i : IngestCall) : IngestCall :=
  match i.phase with
  | .begun =>
    match if dbOk then s.visibility.lookup (i.communityId, i.channelId) else none with
    | some row => { i with phase := .fetched row (.get (some row)) }
    | none => { i with phase := .ready none none }
  | .fetched row (.done answer) => { i with phase := .ready (some row) answer.toOption }
  | .fetched row lookup =>
    { i with phase := .fetched row (lookup.next s (i.communityId, i.channelId) dbOk) }
  | .ready _ _ => i

def IngestCall.visibilityFill (i : IngestCall) : Option String :=
  match i.phase with
  | .fetched _ lookup => lookup.fill
  | _ => none

end Buzz.Relay
