import Buzz.Relay.Membership

/-!
One pod and its database.

The machine interleaves commits, invalidations and the steps of the pod's calls in any order: ingests,
membership checks and fan-outs, each with the look-ups it makes on the way.
-/

namespace Buzz.Relay

open Buzz.Core Lib Function

/-! ### The machine -/

/-- One step of the pod or of its database. -/
inductive PodAct
  | addMember (key : MemberKey)
  | removeMember (key : MemberKey)
  | setVisibility (chan : ChannelKey) (visibility : String)
  | invalidateMembership (key : MemberKey)
  | evictMembership (key : MemberKey)
  | dropVisibility (chan : ChannelKey)
  | beginIngest (id : ℕ) (chan : ChannelKey)
  | stepIngest (id : ℕ) (dbOk : Bool)
  | beginCheck (id : ℕ) (key : MemberKey) (source : Option ℕ)
  | stepCheck (id : ℕ) (dbOk : Bool)
  | beginFanout (id : ℕ) (chan : ChannelKey) (e : Event) (hits : List (ConnId × SubId))
      (source : Option ℕ)
  | stepFanout (id : ℕ) (dbOk : Bool)

def CallRecord.noteAdd (key : MemberKey) (g : CallRecord) : CallRecord :=
  { g with readded := key :: g.readded }

def fillMembership (cache : Table MemberKey Bool) : Option (MemberKey × Bool) → Table MemberKey Bool
  | some (key, value) => cache.insert key value
  | none => cache

def fillVisibility (cache : Table ChannelKey String) (chan : ChannelKey) :
    Option String → Table ChannelKey String
  | some v => cache.insert chan v
  | none => cache

namespace PodState

variable (s : PodState) (chan : ChannelKey) (conns : ConnectionManager)

def isPrivate : Bool := s.visibility.lookup chan = some "private"

lemma isPrivate_iff {chan : ChannelKey} :
    s.isPrivate chan ↔ s.visibility.lookup chan = some "private" := decide_eq_true_iff

def newRecord : CallRecord where
  members := s.members
  unsettled := s.unsettled
  readded := []
  stayedPrivate := s.isPrivate chan

/-- What a finished ingest of the channel hands on: its row, the visibility it threads, and whether
the channel has been private since it began.  A call without such an ingest has neither value. -/
def handedOn (source : Option ℕ) : Option String × Option String × Bool :=
  match source.bind s.ingests with
  | none => (none, none, s.isPrivate chan)
  | some i =>
    match i.phase with
    | .ready row threaded =>
      if (i.communityId, i.channelId) = chan then (row, threaded, i.stayedPrivate)
      else (none, none, s.isPrivate chan)
    | _ => (none, none, s.isPrivate chan)

def beginCheck (key : MemberKey) (source : Option ℕ) : CheckCall :=
  let chan : ChannelKey := (key.communityId, key.channelId)
  let (row, _, ingestPrivate) := s.handedOn chan source
  { key, row, phase := .member .get, record := s.newRecord chan, ingestPrivate }

def beginFanout (chan : ChannelKey) (e : Event)
    (hits : List (ConnId × SubId)) (source : Option ℕ) : FanoutCall :=
  let (_, threaded, ingestPrivate) := s.handedOn chan source
  { communityId := chan.1
    channelId := chan.2
    threaded
    hits := hits.filter fun x => accessGate conns chan.1 e x.1
    phase := .resolving (match threaded with
      | some v => .done (.ok v)
      | none => .get none)
    kept := []
    record := s.newRecord chan
    ingestPrivate }

def noteVisibility (at' : ChannelKey) (visibility : String) (flag : Bool) : Bool :=
  flag && !(decide (at' = chan) && decide (visibility ≠ "private"))

def step (s : PodState) : PodAct → PodState
  | .addMember key =>
    { s with
      members := key :: s.members
      checks := fun id => (s.checks id).map fun k => { k with record := k.record.noteAdd key }
      fanouts := fun id => (s.fanouts id).map fun f => { f with record := f.record.noteAdd key } }
  | .removeMember key =>
    { s with
      members := s.members.filter fun k => ¬ k = key
      unsettled := if key ∈ s.members then key :: s.unsettled else s.unsettled }
  | .setVisibility chan v =>
    { s with
      visibility := s.visibility.insert chan v
      ingests := fun id => (s.ingests id).map fun i =>
        { i with
          stayedPrivate := noteVisibility chan (i.communityId, i.channelId) v i.stayedPrivate }
      checks := fun id => (s.checks id).map fun k =>
        let at' : ChannelKey := (k.key.communityId, k.key.channelId)
        { k with
          record := { k.record with
            stayedPrivate := noteVisibility chan at' v k.record.stayedPrivate }
          ingestPrivate := noteVisibility chan at' v k.ingestPrivate }
      fanouts := fun id => (s.fanouts id).map fun f =>
        let at' : ChannelKey := (f.communityId, f.channelId)
        { f with
          record := { f.record with
            stayedPrivate := noteVisibility chan at' v f.record.stayedPrivate }
          ingestPrivate := noteVisibility chan at' v f.ingestPrivate } }
  | .invalidateMembership key =>
    { s with
      membershipCache := s.membershipCache.erase key
      unsettled := s.unsettled.filter fun k => ¬ k = key }
  | .evictMembership key => { s with membershipCache := s.membershipCache.erase key }
  | .dropVisibility chan =>
    { s with channelVisibilityCache := s.channelVisibilityCache.erase chan }
  | .beginIngest id chan =>
    match s.ingests id with
    | some _ => s
    | none =>
      { s with ingests := update s.ingests id
                (some ⟨chan.1, chan.2, .begun, s.isPrivate chan⟩) }
  | .stepIngest id dbOk =>
    match s.ingests id with
    | none => s
    | some i =>
      { s with
        channelVisibilityCache :=
          fillVisibility s.channelVisibilityCache (i.communityId, i.channelId) i.visibilityFill
        ingests := update s.ingests id (some (i.next s dbOk)) }
  | .beginCheck id key source =>
    match s.checks id with
    | some _ => s
    | none => { s with checks := update s.checks id (some (s.beginCheck key source)) }
  | .stepCheck id dbOk =>
    match s.checks id with
    | none => s
    | some k =>
      { s with
        membershipCache := fillMembership s.membershipCache k.fill
        checks := update s.checks id (some (k.next s dbOk)) }
  | .beginFanout id chan e hits source =>
    match s.fanouts id with
    | some _ => s
    | none =>
      { s with fanouts := update s.fanouts id
                (some (s.beginFanout conns chan e hits source)) }
  | .stepFanout id dbOk =>
    match s.fanouts id with
    | none => s
    | some f =>
      { s with
        membershipCache := fillMembership s.membershipCache (f.fill conns)
        channelVisibilityCache :=
          fillVisibility s.channelVisibilityCache (f.communityId, f.channelId) f.visibilityFill
        fanouts := update s.fanouts id (some (f.next conns s dbOk)) }

def pendingFill : PodAct → Option (MemberKey × Bool)
  | .stepCheck id _ => (s.checks id).bind CheckCall.fill
  | .stepFanout id _ => (s.fanouts id).bind (FanoutCall.fill conns)
  | _ => none

end PodState

end Buzz.Relay
