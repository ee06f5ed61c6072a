import Buzz.Core.Filter
import Buzz.Core.Kind
import Buzz.Lib.InvertedIndex
import Buzz.Relay.UuidText

/-!
Filters as queries of the event table.

A filter is turned into a query: the conditions that the database checks.  The channel condition is
put in by the callers, from the channels that a filter names with `#h` and those that the reader has
access to.  What the database gives back is every row that meets the conditions, or the first so many.

The values of a tag condition are a set in the source and a list here; `tagValues` has each once.
-/

namespace Buzz.Relay

open Buzz.Core Lib

/-! ### The event table -/

/-- A row, with the keys that `event_mentions` has for it. -/
structure EventRow where
  communityId : CommunityId
  stored : StoredEvent
  dTag : Option String
  deleted : Bool
  mentions : List String

def EventRow.key (row : EventRow) : CommunityId × ℕ × EventId :=
  (row.communityId, row.stored.event.createdAt, row.stored.event.id)

structure EventStore where
  rows : List EventRow
  distinct : (rows.map EventRow.key).Nodup

/-- Containment `tags @> [[name, value]]`: some tag has both texts, wherever. -/
def EventRow.containsTag (row : EventRow) (name value : String) : Bool :=
  row.stored.event.tags.any fun t =>
    (t.name :: t.values).contains name && (t.name :: t.values).contains value

/-! ### Queries -/

/-- A query, but for the conditions that no caller here sets. -/
structure EventQuery where
  communityId : CommunityId
  channelId : Option Uuid := none
  kinds : Option (List ℕ) := none
  pubkey : Option PublicKey := none
  since : Option ℤ := none
  «until» : Option ℤ := none
  limit : Option ℕ := none
  pTagHex : Option String := none
  dTag : Option String := none
  dTags : Option (List String) := none
  authors : Option (List PublicKey) := none
  ids : Option (List EventId) := none
  eTags : Option (List String) := none
  channelIds : Option (List Uuid) := none
  channelIdsIncludeGlobal : Bool := true
  maxLimit : Option ℕ := none
  sharedGatedReader : Option PublicKey := none

def defaultMaxPageLimit : ℕ := 1000

namespace EventQuery

variable (q : EventQuery) (row : EventRow)

def holds {α : Type} (condition : Option α) (check : α → Bool) : Bool :=
  match condition with
  | some a => check a
  | none => true

def channelClause : Bool :=
  holds q.channelId (fun ch => row.stored.channelId = some ch) &&
  holds q.channelIds fun ids =>
    match row.stored.channelId with
    | some ch => ids.contains ch
    | none => q.channelIdsIncludeGlobal

def dTagClause : Bool :=
  match q.dTag, q.dTags with
  | some d, _ => row.dTag = some d
  | none, some ds => ds.isEmpty || (row.dTag.map ds.contains).getD false
  | none, none => true

def whereClause : Bool :=
  row.communityId = q.communityId && !row.deleted &&
  holds q.pTagHex (fun p => row.mentions.contains p.toLower) &&
  q.channelClause row &&
  holds q.kinds (fun ks => ks.contains row.stored.event.kind.toNat) &&
  holds q.pubkey (fun pk => row.stored.event.pubkey = pk) &&
  holds q.authors (fun pks => pks.contains row.stored.event.pubkey) &&
  holds q.ids (fun ids => ids.contains row.stored.event.id) &&
  holds q.eTags (fun es => es.any fun e => row.containsTag "e" e) &&
  holds q.since (fun s => decide (s ≤ row.stored.event.createdAt)) &&
  holds q.«until» (fun u => decide ((row.stored.event.createdAt : ℤ) ≤ u)) &&
  q.dTagClause row

/-- Kinds that need sharing are shared or the reader's own. -/
def sharedClause : Bool :=
  holds q.sharedGatedReader fun reader =>
    !sharedGatedKinds.contains row.stored.event.kind.toNat ||
      row.stored.event.pubkey = reader || row.containsTag "shared" "true"

def countEvents (store : EventStore) : ℕ := store.rows.countP q.whereClause

def rowOrder (a b : EventRow) : Bool :=
  b.stored.event.createdAt < a.stored.event.createdAt ||
    (a.stored.event.createdAt = b.stored.event.createdAt &&
      a.stored.event.id.bits.toNat ≤ b.stored.event.id.bits.toNat)

def queryEvents (store : EventStore) : List StoredEvent :=
  let limit := min (q.limit.getD 100) (q.maxLimit.getD defaultMaxPageLimit)
  (((store.rows.filter fun row => q.whereClause row && q.sharedClause row).mergeSort rowOrder).take
    limit).map EventRow.stored

end EventQuery

/-! ### From filters to queries -/

/-- A filter of a request, with the fields that matching does not look at. -/
structure RequestFilter extends Filter where
  limit : Option ℕ := none
  search : Option String := none

def hTag : SingleLetterTag := ⟨'h', by decide⟩
def pTagKey : SingleLetterTag := ⟨'p', isAlpha_p⟩
def dTagKey : SingleLetterTag := ⟨'d', by decide⟩
def eTagKey : SingleLetterTag := ⟨'e', by decide⟩

variable (f : RequestFilter)

def RequestFilter.tagValues (key : SingleLetterTag) : Option (List String) :=
  (f.genericTags.lookup key).map List.dedup

def isParameterizedReplaceable (kind : ℕ) : Bool := 30000 ≤ kind && kind ≤ 39999

def nip33Only : Bool :=
  match f.kinds with
  | some ks => !ks.isEmpty && ks.all fun k => isParameterizedReplaceable k.toNat
  | none => false

/-- Seconds as a signed 64-bit number, if the calendar reaches that far. -/
def fromTimestamp (secs : ℕ) : Option ℤ :=
  let n : ℤ := (BitVec.ofNat 64 secs).toInt
  if -8334601228800 ≤ n ∧ n ≤ 8210266876799 then some n else none

def extractChannelIdFromFilter : Option Uuid :=
  match f.tagValues hTag with
  | some [value] => parseUuid value
  | _ => none

def single {α : Type} : List α → Option α
  | [a] => some a
  | _ => none

def several {α : Type} (xs : List α) : Option (List α) := if 1 < xs.length then some xs else none

def filterToQueryParams (channelId : Option Uuid) (communityId : CommunityId) : EventQuery where
  communityId := communityId
  channelId := channelId
  kinds := f.kinds.map fun ks => ks.map UInt16.toNat
  pubkey := f.authors.bind fun pks => single pks.dedup
  since := f.since.bind fromTimestamp
  «until» := f.«until».bind fromTimestamp
  limit := some (min (f.limit.getD defaultMaxPageLimit) defaultMaxPageLimit)
  pTagHex := (f.tagValues pTagKey).bind single
  dTag := if nip33Only f then (f.tagValues dTagKey).bind single else none
  dTags := if nip33Only f then (f.tagValues dTagKey).bind several else none
  authors := f.authors.bind fun pks => several pks.dedup
  ids := f.ids.bind fun ids => if ids.isEmpty then none else some ids
  eTags := (f.tagValues eTagKey).bind fun es => if es.isEmpty then none else some es

def buildEventQueryFromFilter (communityId : CommunityId) : EventQuery :=
  filterToQueryParams f (extractChannelIdFromFilter f) communityId

/-- Put in the channels that the reader has access to, of those that the filter names. -/
def applyChannelScopeToQuery (query : EventQuery) (f : RequestFilter) (channelId : Option Uuid)
    (accessibleChannels : List Uuid) : EventQuery :=
  if channelId.isSome then query
  else
    match f.tagValues hTag with
    | some values =>
      { query with
        channelIds := some ((values.filterMap parseUuid).filter accessibleChannels.contains)
        channelIdsIncludeGlobal := false }
    | none => { query with channelIds := some accessibleChannels }

def requestedChannels (values : List String) : List Uuid :=
  (values.filterMap parseUuid).foldl pushNew []

def extractChannelIdsFromFilter : Option (List Uuid) :=
  (f.tagValues hTag).map requestedChannels

def maxExplicitChannelValues : ℕ := 128

def explicitChannelValues (filters : List RequestFilter) : ℕ :=
  filters.foldl (fun count f => count + ((f.tagValues hTag).map List.length).getD 0) 0

def filterFullyPushable : Bool :=
  (f.genericTags.entries.all fun e =>
    let values := e.2.dedup
    if e.1 = hTag ∨ e.1 = eTagKey then true
    else if e.1 = pTagKey then values.length ≤ 1
    else if e.1 = dTagKey then values.isEmpty || nip33Only f
    else values.isEmpty) &&
  f.search.isNone

end Buzz.Relay
