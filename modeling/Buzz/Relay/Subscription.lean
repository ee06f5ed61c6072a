import Buzz.Core.Filter
import Buzz.Lib.InvertedIndex

/-!
The subscription registry.

The registry keeps the live subscriptions of every connection and, beside them, five indexes that
narrow an event's fan-out to the subscriptions that could match it: by channel and kind, by channel
alone, and for community-global subscriptions by kind, by kind and recipient, or by neither.  This
module holds the registry's operations as the relay runs them; `SubscriptionIndex` says what the
indexes hold.
-/

namespace Buzz.Relay

open Buzz.Core Lib Table

abbrev ConnId := Uuid
abbrev SubId := String

/-- Where a subscription listens: community-global events, or the events of some channels. -/
inductive SubscriptionScope
  | global
  | channels (ids : List Uuid)
deriving DecidableEq

def SubscriptionScope.matchesChannel : SubscriptionScope → Option Uuid → Bool
  | global, none => true
  | channels ids, some ch => ids.contains ch
  | _, _ => false

def SubscriptionScope.channelIds : SubscriptionScope → List Uuid
  | global => []
  | channels ids => ids

/-- A live subscription: its filters, the community and the scope the server resolved. -/
structure SubEntry where
  filters : List Filter
  communityId : CommunityId
  scope : SubscriptionScope

structure IndexKey where
  channelId : Uuid
  kind : Kind
deriving DecidableEq

structure GlobalPKindIndexKey where
  communityId : CommunityId
  kind : Kind
  p : String
deriving DecidableEq

structure RemovedSubscription where
  communityId : CommunityId
  scope : SubscriptionScope

structure ChannelSubscriptionUpdate where
  subId : SubId
  removed : Bool

structure SubscriptionRegistry where
  subs : Table ConnId (Table SubId SubEntry) := ∅
  channelKindIndex : Table (CommunityId × IndexKey) (List (ConnId × SubId)) := ∅
  channelWildcardIndex : Table (CommunityId × Uuid) (List (ConnId × SubId)) := ∅
  globalKindIndex : Table (CommunityId × Kind) (List (ConnId × SubId)) := ∅
  globalPKindIndex : Table GlobalPKindIndexKey (List (ConnId × SubId)) := ∅
  globalWildcardIndex : Table CommunityId (List (ConnId × SubId)) := ∅

/-! ### What the filters are indexed by -/

/-- The union of the kinds of all filters, or `none` as soon as one filter names no kinds. -/
def extractKindsFromFilters (filters : List Filter) : Option (List Kind) :=
  filters.foldlM (fun kinds f => f.kinds.map fun fk => fk.foldl pushNew kinds) []

def pTag : SingleLetterTag := ⟨'p', by decide⟩

/-- The kind-and-recipient keys of the filters, or `none` when some filter that names a kind is not
held to recipients. -/
def extractGlobalPKindIndexKeys (c : CommunityId) (filters : List Filter) :
    Option (List GlobalPKindIndexKey) :=
  filters.foldlM (fun keys f =>
    match f.kinds with
    | none => none
    | some [] => some keys
    | some kinds =>
      match f.genericTags.lookup pTag with
      | none => none
      | some [] => none
      | some ps => some ((kinds.flatMap fun k => ps.map fun p => ⟨c, k, p⟩).foldl pushNew keys)) []

def eventPTagValues (ev : StoredEvent) : List String :=
  (ev.event.tagContents "p").foldl pushNew []

namespace SubscriptionRegistry

/-! ### Index maintenance -/

variable (c : CommunityId) (x : ConnId × SubId) (filters : List Filter) (r : SubscriptionRegistry)

def insertChannelIndex (ch : Uuid) : SubscriptionRegistry :=
  match extractKindsFromFilters filters with
  | none => { r with channelWildcardIndex := push r.channelWildcardIndex (c, ch) x }
  | some [] => r
  | some kinds =>
    { r with
      channelKindIndex := pushAll r.channelKindIndex (kinds.map fun k => (c, ⟨ch, k⟩)) x }

def insertGlobalIndex : SubscriptionRegistry :=
  match extractGlobalPKindIndexKeys c filters with
  | some keys => { r with globalPKindIndex := pushAll r.globalPKindIndex keys x }
  | none =>
    match extractKindsFromFilters filters with
    | none => { r with globalWildcardIndex := push r.globalWildcardIndex c x }
    | some [] => r
    | some kinds =>
      { r with globalKindIndex := pushAll r.globalKindIndex (kinds.map fun k => (c, k)) x }

variable (r : SubscriptionRegistry) (conn : ConnId)

def insertIntoIndex (x : ConnId × SubId) (e : SubEntry) : SubscriptionRegistry :=
  match e.scope with
  | .channels ids => ids.foldl (insertChannelIndex e.communityId x e.filters) r
  | .global => insertGlobalIndex e.communityId x e.filters r

def removeChannelIndex (ch : Uuid) : SubscriptionRegistry :=
  match extractKindsFromFilters filters with
  | none => { r with channelWildcardIndex := prune r.channelWildcardIndex (c, ch) x }
  | some [] => r
  | some kinds =>
    { r with
      channelKindIndex := pruneAll r.channelKindIndex (kinds.map fun k => (c, ⟨ch, k⟩)) x }

def removeGlobalIndex : SubscriptionRegistry :=
  match extractGlobalPKindIndexKeys c filters with
  | some keys => { r with globalPKindIndex := pruneAll r.globalPKindIndex keys x }
  | none =>
    match extractKindsFromFilters filters with
    | none => { r with globalWildcardIndex := prune r.globalWildcardIndex c x }
    | some [] => r
    | some kinds =>
      { r with globalKindIndex := pruneAll r.globalKindIndex (kinds.map fun k => (c, k)) x }

def removeFromIndex (x : ConnId × SubId) (e : SubEntry) : SubscriptionRegistry :=
  match e.scope with
  | .channels ids => ids.foldl (removeChannelIndex e.communityId x e.filters) r
  | .global => removeGlobalIndex e.communityId x e.filters r

/-! ### Operations -/

def live (x : ConnId × SubId) : Option SubEntry :=
  (r.subs.lookup x.1).bind fun connSubs => connSubs.lookup x.2

def removeSubscription (sub : SubId) : SubscriptionRegistry × Option RemovedSubscription :=
  match r.subs.lookup conn with
  | none => (r, none)
  | some connSubs =>
    match connSubs.lookup sub with
    | none => (r, none)
    | some e =>
      (removeFromIndex { r with subs := r.subs.insert conn (connSubs.erase sub) } (conn, sub) e,
        some ⟨e.communityId, e.scope⟩)

def registerWithScope (c : CommunityId) (conn : ConnId) (sub : SubId)
    (filters : List Filter) (scope : SubscriptionScope) :
    SubscriptionRegistry × Option RemovedSubscription :=
  let (r, removed) := r.removeSubscription conn sub
  let connSubs := (r.subs.lookup conn).getD ∅
  let e : SubEntry := ⟨filters, c, scope⟩
  (insertIntoIndex { r with subs := r.subs.insert conn (connSubs.insert sub e) } (conn, sub) e,
    removed)

def registerScoped (c : CommunityId) (conn : ConnId) (sub : SubId)
    (filters : List Filter) (channelId : Option Uuid) :
    SubscriptionRegistry × Option RemovedSubscription :=
  r.registerWithScope c conn sub filters
    ((channelId.map fun ch => SubscriptionScope.channels [ch]).getD .global)

def registerChannelsScoped (c : CommunityId) (conn : ConnId)
    (sub : SubId) (filters : List Filter) (channelIds : List Uuid) :
    SubscriptionRegistry × Option RemovedSubscription :=
  r.registerWithScope c conn sub filters (.channels channelIds)

def removeConnection : SubscriptionRegistry × List RemovedSubscription :=
  match r.subs.lookup conn with
  | none => (r, [])
  | some connSubs =>
    (connSubs.entries.foldl (fun r s => removeFromIndex r (conn, s.1) s.2)
      { r with subs := r.subs.erase conn },
      connSubs.entries.map fun s => ⟨s.2.communityId, s.2.scope⟩)

/-- One round of the loop of `removeChannelSubscriptionsScoped`: take the channel out of one
subscription, and drop the subscription once it has no channel left. -/
def removeChannelOf (ch : Uuid)
    (s : SubscriptionRegistry × List ChannelSubscriptionUpdate) (sub : SubId) :
    SubscriptionRegistry × List ChannelSubscriptionUpdate :=
  let (r, updates) := s
  match r.subs.lookup conn with
  | none => s
  | some connSubs =>
    match connSubs.lookup sub with
    | none => s
    | some e =>
      match e.scope with
      | .global => s
      | .channels ids =>
        let rest := ids.filter fun candidate => ¬ candidate = ch
        let connSubs :=
          if rest = [] then connSubs.erase sub
          else connSubs.insert sub { e with scope := .channels rest }
        (removeFromIndex { r with subs := r.subs.insert conn connSubs } (conn, sub)
          ⟨e.filters, c, .channels [ch]⟩, updates ++ [⟨sub, rest = []⟩])

def removeChannelSubscriptionsScoped (c : CommunityId) (conn : ConnId)
    (ch : Uuid) : SubscriptionRegistry × List ChannelSubscriptionUpdate :=
  let subIds := ((r.subs.lookup conn).map fun connSubs =>
    (connSubs.entries.filter fun s =>
      s.2.communityId = c && s.2.scope.channelIds.contains ch).map Sigma.fst).getD []
  subIds.foldl (removeChannelOf c conn ch) (r, [])

/-! ### Fan-out -/

def selects (ev : StoredEvent) (e : SubEntry) : Bool :=
  e.communityId = c && e.scope.matchesChannel ev.channelId && filtersMatch e.filters ev

/-- Check one candidate against its live entry; `results` is also the set of those seen. -/
def pushMatch (c : CommunityId) (ev : StoredEvent)
    (results : List (ConnId × SubId)) (x : ConnId × SubId) : List (ConnId × SubId) :=
  match r.subs.lookup x.1 with
  | none => results
  | some connSubs =>
    match connSubs.lookup x.2 with
    | none => results
    | some e => if selects c ev e then pushNew results x else results

def fanOutScoped (c : CommunityId) (ev : StoredEvent) : List (ConnId × SubId) :=
  let scan := fun results candidates => List.foldl (pushMatch r c ev) results candidates
  match ev.channelId with
  | some ch =>
    let results := scan [] (postings r.channelKindIndex (c, ⟨ch, ev.event.kind⟩))
    scan results (postings r.channelWildcardIndex (c, ch))
  | none =>
    let results := (eventPTagValues ev).foldl (fun results p =>
      scan results (postings r.globalPKindIndex ⟨c, ev.event.kind, p⟩)) []
    let results := scan results (postings r.globalKindIndex (c, ev.event.kind))
    scan results (postings r.globalWildcardIndex c)

end SubscriptionRegistry

end Buzz.Relay
