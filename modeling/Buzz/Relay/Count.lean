import Buzz.Relay.EventQuery
import Buzz.Relay.Ingest

/-!
Counting events for a reader.

The filters of a COUNT request are checked, the channels of the reader are looked up and narrowed to
its token, and each filter is counted: by the database alone if it can check everything, otherwise by
reading a bounded number of rows and looking at each.  A channel that a filter names and the lookup does
not have is confirmed with the database.
-/

namespace Buzz.Relay

open Buzz.Core Lib

/-! ### What a reader may ask for -/

def kindAgentEngram : ℕ := 30174

/-- The kinds that are for those whom a `p` tag names. -/
def pGatedKinds : List ℕ := [24200, 44100, 44101, 1059, kindDmVisibility, kindAgentTurnMetric]

def resultGatedKinds : List ℕ := [kindDmVisibility, kindAgentTurnMetric]

def canMatchKinds (kinds : List ℕ) (f : RequestFilter) : Bool :=
  match f.kinds with
  | some ks => ks.any fun k => kinds.contains k.toNat
  | none => true

section Gates

variable (reader : PublicKey) (f : RequestFilter)

def pIsReader : Bool :=
  match f.tagValues pTagKey with
  | some values => !values.isEmpty && values.all fun v => v = reader.toHex
  | none => false

def authorsAreReader : Bool :=
  match f.authors with
  | some authors => !authors.isEmpty && authors.all fun a => a = reader
  | none => false

def namesIds : Bool :=
  match f.ids with
  | some ids => !ids.isEmpty
  | none => false

def pGatedFilterAuthorized : Bool :=
  if !canMatchKinds pGatedKinds f then true
  else
    let explicitlyNoIdsExemption := f.kinds.isSome && canMatchKinds resultGatedKinds f
    (!explicitlyNoIdsExemption && namesIds f) || pIsReader reader f

def engramFilterAuthorized : Bool :=
  namesIds f || !canMatchKinds [kindAgentEngram] f || authorsAreReader reader f || pIsReader reader f

def authorOnlyFilterAuthorized : Bool :=
  let targetsOnlyAuthorOnly := match f.kinds with
    | some ks => !ks.isEmpty && ks.all fun k => authorOnlyKinds.contains k.toNat
    | none => false
  !targetsOnlyAuthorOnly || authorsAreReader reader f

end Gates

/-! ### The handler -/

inductive CountReply
  | closed (message : String)
  | count (total : ℕ)
deriving DecidableEq

def AuthContext.tokenAllows (ctx : AuthContext) (ch : Uuid) : Bool :=
  match ctx.channelIds with
  | some allowed => allowed.contains ch
  | none => true

/-- What is known of the reader's channels: a cached list, and the database. -/
structure ChannelAccess where
  cached : Except String (List Uuid)
  isMember : Uuid → Except String Bool

def resolveRequestLocalAccess (accessibleChannels : List Uuid) (ch : Uuid) (tokenAllows : Bool)
    (dbIsMember : Option Bool) : Bool × List Uuid :=
  if tokenAllows = false then (false, accessibleChannels)
  else if accessibleChannels.contains ch then (true, accessibleChannels)
  else if dbIsMember = some true then (true, accessibleChannels ++ [ch])
  else (false, accessibleChannels)

def countFallbackCandidateLimit : ℕ := 5000

def applyCountFallbackLimit (query : EventQuery) : EventQuery :=
  { query with
    limit := some (countFallbackCandidateLimit + 1)
    maxLimit := some (countFallbackCandidateLimit + 1) }

def databaseError : CountReply := .closed "error: database error"

def tooBroad : CountReply := .closed "restricted: count filter requires narrower constraints"

section Handler

variable (communityId : CommunityId) (access : ChannelAccess) (ctx : AuthContext)
  (store : EventStore)

def confirmChannel (accessibleChannels : List Uuid) (ch : Uuid) : Except CountReply (List Uuid) :=
  if accessibleChannels.contains ch then .ok accessibleChannels
  else if ctx.tokenAllows ch then
    match access.isMember ch with
    | .ok member => .ok (resolveRequestLocalAccess accessibleChannels ch true (some member)).2
    | .error _ => .error databaseError
  else .ok (resolveRequestLocalAccess accessibleChannels ch false none).2

def countMatching (f : RequestFilter) (query : EventQuery) : Except CountReply ℕ :=
  let needsAuthorOnlyFiltering := canMatchKinds authorOnlyKinds f
  let needsSharedGateFiltering := canMatchKinds sharedGatedKinds f
  let needsResultGatedFiltering := canMatchKinds resultGatedKinds f && !pIsReader ctx.pubkey f
  let query := if needsSharedGateFiltering then { query with sharedGatedReader := some ctx.pubkey }
    else query
  if filterFullyPushable f && (!needsAuthorOnlyFiltering || authorsAreReader ctx.pubkey f) &&
      !needsResultGatedFiltering && !needsSharedGateFiltering then
    .ok (query.countEvents store)
  else
    let storedEvents := (applyCountFallbackLimit query).queryEvents store
    if storedEvents.length > countFallbackCandidateLimit then .error tooBroad
    else .ok (storedEvents.countP fun se =>
      filtersMatch [f.toFilter] se && eventVisibleToReader se.event ctx.pubkey)

/-- The query for a filter that names channels, or `none` if the reader has access to none of them. -/
def explicitQuery (f : RequestFilter) (requested accessibleChannels : List Uuid) :
    Option EventQuery :=
  match requested.filter accessibleChannels.contains with
  | [] => none
  | first :: _ =>
    let ch := if requested.length = 1 then some first else none
    some (applyChannelScopeToQuery (buildEventQueryFromFilter f communityId) f ch accessibleChannels)

def countFilter (st : List Uuid × ℕ) (f : RequestFilter) : Except CountReply (List Uuid × ℕ) :=
  match extractChannelIdsFromFilter f with
  | some requested => do
    let accessibleChannels ← requested.foldlM (confirmChannel access ctx) st.1
    match explicitQuery communityId f requested accessibleChannels with
    | none => .ok (accessibleChannels, st.2)
    | some query =>
      let n ← countMatching ctx store f query
      .ok (accessibleChannels, st.2 + n)
  | none => do
    let query := { buildEventQueryFromFilter f communityId with channelIds := some st.1 }
    let n ← countMatching ctx store f query
    .ok (st.1, st.2 + n)

def checkFilters (filters : List RequestFilter) : Except CountReply Unit := do
  refuseIf (filters.all (pGatedFilterAuthorized ctx.pubkey) = false)
    (.closed "restricted: p-gated kinds require #p tag matching your pubkey")
  refuseIf (filters.all (engramFilterAuthorized ctx.pubkey) = false)
    (.closed "restricted: agent-engram reads require authors=[self] or #p=[self]")
  refuseIf (filters.all (authorOnlyFilterAuthorized ctx.pubkey) = false)
    (.closed "restricted: author-only kinds require authors=[self]")
  refuseIf (explicitChannelValues filters > maxExplicitChannelValues)
    (.closed "restricted: too many explicit channels")

def cachedChannels : Except CountReply (List Uuid) :=
  match access.cached with
  | .ok ids => .ok (ids.filter ctx.tokenAllows)
  | .error _ => .error databaseError

def countAll (filters : List RequestFilter) : Except CountReply ℕ := do
  checkFilters ctx filters
  let accessibleChannels ← cachedChannels access ctx
  let st ← filters.foldlM (countFilter communityId access ctx store) (accessibleChannels, 0)
  .ok st.2

end Handler

def handleCount (communityId : CommunityId) (access : ChannelAccess) (auth : AuthState)
    (filters : List RequestFilter) (store : EventStore) : CountReply :=
  match auth with
  | .authenticated ctx =>
    match countAll communityId access ctx store filters with
    | .ok total => .count total
    | .error reply => reply
  | _ => .closed "auth-required: not authenticated"

end Buzz.Relay
