import Buzz.Relay.Count
import Buzz.Relay.RegistryCalls

/-!
The commands of one connection.

The receive loop of a connection takes one frame after the other.  A REQ is handed to a task of its
own, which looks up what the reader may see before it enters the subscription, first in the
connection's own list and then in the registry.  A CLOSE is carried out by the loop itself.  When the
connection ends, the loop takes its subscriptions out of the registry; it waits for none of the tasks.

What a task looks up is asked of the database and of caches that others change, so a frame comes with
the answers its task will get.  A frame that is turned away before a task is started changes nothing
and is left out; so are the topics that follow the registry and the delivery of stored events.
-/

namespace Buzz.Relay

open Buzz.Core Lib

/-! ### What a REQ may subscribe to -/

def kindHuddleLiveness : ℕ := 48104

variable (filters : List RequestFilter)

def filtersAreNip43MembershipOnly : Bool :=
  !filters.isEmpty && filters.all fun f => f.kinds.any fun ks =>
    !ks.isEmpty && ks.all fun k => k.toNat = kindNip43MembershipList

def filtersAreHuddleLivenessOnly : Bool :=
  !filters.isEmpty && filters.all fun f => f.kinds.any fun ks =>
    ks.dedup.length = 1 && ks.all fun k => k.toNat = kindHuddleLiveness

def extractChannelIdFromFilters : List RequestFilter → Option Uuid → Option Uuid
  | [], found => found
  | f :: rest, found =>
    match ((f.tagValues hTag).getD []).filterMap parseUuid with
    | [] => none
    | first :: others =>
      let id := found.getD first
      if (first :: others).all fun other => other = id then
        extractChannelIdFromFilters rest (some id)
      else none

def extractChannelIdsFromFilters : Option (List Uuid) :=
  filters.foldlM (fun ids f => (f.tagValues hTag).map fun values =>
    (values.filterMap parseUuid).foldl pushNew ids) []

section Access

variable (access : ChannelAccess) (ctx : AuthContext) (filters : List RequestFilter)

def accessibleChannels : Except String (List Uuid) :=
  if filtersAreNip43MembershipOnly filters then .ok []
  else match access.cached with
    | .ok ids => .ok (ids.filter ctx.tokenAllows)
    | .error _ => .error "error: database error"

/-- A channel that a filter names is confirmed with the database, if the cache does not have it. -/
def confirmRequested (accessible : List Uuid) (ch : Uuid) : Except String (List Uuid) :=
  if !ctx.tokenAllows ch || accessible.contains ch then
    .ok (resolveRequestLocalAccess accessible ch (ctx.tokenAllows ch) none).2
  else match access.isMember ch with
    | .ok member => .ok (resolveRequestLocalAccess accessible ch true (some member)).2
    | .error _ => .error "error: database error"

def checkGlobal : Except String Unit := do
  refuseIf (filters.all (pGatedFilterAuthorized ctx.pubkey) = false)
    "restricted: p-gated events require #p matching your pubkey"
  refuseIf (filters.all (engramFilterAuthorized ctx.pubkey) = false)
    "restricted: agent-engram reads require authors=[self] or #p=[self]"
  refuseIf (filters.all (authorOnlyFilterAuthorized ctx.pubkey) = false)
    "restricted: author-only kinds require authors=[self]"

/-- The scope a REQ is registered with; `none` for a request that is answered and not registered. -/
def reqScope : Except String (Option SubscriptionScope) := do
  refuseIf (explicitChannelValues filters > maxExplicitChannelValues)
    "restricted: too many explicit channels"
  let accessible ← accessibleChannels access ctx filters
  let requested := extractChannelIdsFromFilters filters
  let accessible ← (requested.getD []).foldlM (confirmRequested access ctx) accessible
  let authorized : Option (List Uuid) := requested.map fun ids => ids.filter accessible.contains
  refuseIf (authorized = some []) "restricted: not a channel member"
  if filtersAreHuddleLivenessOnly filters then pure none
  else do
    if (extractChannelIdFromFilters filters none).isNone then checkGlobal ctx filters
    if filters.any fun f => f.search.isSome then do
      refuseIf (filters.any fun f => f.search.isNone)
        "error: mixed search and non-search filters not supported"
      pure none
    else pure (some ((authorized.map SubscriptionScope.channels).getD .global))

end Access

/-! ### The task of a REQ -/

/-- A REQ with what its task will find: the state of the authentication and the reader's channels. -/
structure ReqFrame where
  subId : SubId
  filters : List RequestFilter
  auth : AuthState
  access : ChannelAccess

/-- A connection: its own list of subscriptions, and the registry it shares with the others. -/
structure Conn where
  connId : ConnId
  communityId : CommunityId
  subscriptions : Table SubId (List RequestFilter)
  registry : SubscriptionRegistry

def maxSubscriptions : ℕ := 1024

def ReqFrame.entry (r : ReqFrame) (communityId : CommunityId) (scope : SubscriptionScope) :
    SubEntry :=
  ⟨r.filters.map RequestFilter.toFilter, communityId, scope⟩

/-- The second half of `register_with_scope`, after the old subscription is gone. -/
def SubscriptionRegistry.enter (r : SubscriptionRegistry) (conn : ConnId) (sub : SubId)
    (e : SubEntry) : SubscriptionRegistry :=
  insertIntoIndex { r with subs := r.subs.insert conn (((r.subs.lookup conn).getD ∅).insert sub e) }
    (conn, sub) e

namespace Conn

variable (c : Conn)

def hasRoom (sub : SubId) : Bool :=
  (c.subscriptions.lookup sub).isSome || decide (c.subscriptions.entries.length < maxSubscriptions)

def insertSub (r : ReqFrame) : Conn :=
  { c with subscriptions := c.subscriptions.insert r.subId r.filters }

def eraseSub (sub : SubId) : Conn :=
  { c with subscriptions := c.subscriptions.erase sub }

def removeSubscription (sub : SubId) : Conn :=
  { c with registry := (c.registry.removeSubscription c.connId sub).1 }

def enter (r : ReqFrame) (scope : SubscriptionScope) : Conn :=
  { c with registry := c.registry.enter c.connId r.subId (r.entry c.communityId scope) }

def removeConnection : Conn :=
  { c with registry := (c.registry.removeConnection c.connId).1 }

end Conn

/-- How far the task of a REQ has come. -/
inductive Handler
  /-- The authentication and the number of subscriptions are checked. -/
  | starting (r : ReqFrame)
  /-- The reader's channels are looked up. -/
  | resolving (r : ReqFrame) (ctx : AuthContext)
  | inserting (r : ReqFrame) (scope : SubscriptionScope)
  /-- `register_with_scope` takes out what is registered under the id, -/
  | removing (r : ReqFrame) (scope : SubscriptionScope)
  /-- and enters the new subscription. -/
  | entering (r : ReqFrame) (scope : SubscriptionScope)
  /-- The request was refused or answered, or its subscription is registered. -/
  | finished

/-- `handle_req`, from one point where others can come in between to the next. -/
def Handler.step (c : Conn) : Handler → Conn × Handler
  | .starting r =>
    match r.auth with
    | .authenticated ctx =>
      if !ctx.scopes.isEmpty && !ctx.scopes.contains .messagesRead then (c, .finished)
      else if c.hasRoom r.subId then (c, .resolving r ctx)
      else (c, .finished)
    | .pending | .failed => (c, .finished)
  | .resolving r ctx =>
    match reqScope r.access ctx r.filters with
    | .ok (some scope) => (c, .inserting r scope)
    | .ok none | .error _ => (c, .finished)
  | .inserting r scope => (c.insertSub r, .removing r scope)
  | .removing r scope => (c.removeSubscription r.subId, .entering r scope)
  | .entering r scope => (c.enter r scope, .finished)
  | .finished => (c, .finished)

/-! ### The receive loop -/

inductive Frame
  | req (r : ReqFrame)
  | close (sub : SubId)

/-- A connection with the tasks of its REQs.  `closing` is the CLOSE that the loop is at. -/
structure Session where
  conn : Conn
  handlers : List Handler
  closing : Option SubId
  ended : Bool
  /-- The frames that were received, in their order. -/
  received : List Frame

/-- What can happen next. -/
inductive Move
  | receive (f : Frame)
  /-- The loop goes on with the CLOSE it is at. -/
  | close
  /-- The next step of a task. -/
  | handler (i : ℕ)
  /-- The loop has come to its end and cleans up. -/
  | finish
  /-- Another connection uses the registry. -/
  | other (op : SubOp)

namespace Session

def start (connId : ConnId) (communityId : CommunityId) : Session :=
  ⟨⟨connId, communityId, ∅, {}⟩, [], none, false, []⟩

/-- The loop can turn to something else. -/
def idle (s : Session) : Bool := s.closing.isNone && !s.ended

def receive (s : Session) : Frame → Session
  | .req r => { s with handlers := s.handlers ++ [.starting r], received := s.received ++ [.req r] }
  | .close sub =>
    { s with
      conn := s.conn.eraseSub sub, closing := some sub, received := s.received ++ [.close sub] }

def step (s : Session) : Move → Session
  | .receive f => if s.idle then s.receive f else s
  | .close =>
    match s.closing with
    | none => s
    | some sub => { s with conn := s.conn.removeSubscription sub, closing := none }
  | .handler i =>
    match s.handlers[i]? with
    | none => s
    | some h =>
      { s with conn := (h.step s.conn).1, handlers := s.handlers.set i (h.step s.conn).2 }
  | .finish => if s.idle then { s with conn := s.conn.removeConnection, ended := true } else s
  | .other op =>
    if op.conn = s.conn.connId then s
    else { s with conn := { s.conn with registry := op.exec s.conn.registry } }

def run (connId : ConnId) (communityId : CommunityId) (moves : List Move) : Session :=
  moves.foldl step (start connId communityId)

end Session

/-! ### One frame after the other -/

namespace Conn

/-- `handle_req` without anyone coming in between. -/
def handleReq (c : Conn) (r : ReqFrame) : Conn :=
  ((fun p : Conn × Handler => p.2.step p.1)^[5] (c, .starting r)).1

def handleFrame (c : Conn) : Frame → Conn
  | .req r => c.handleReq r
  | .close sub => (c.eraseSub sub).removeSubscription sub

def sequential (connId : ConnId) (communityId : CommunityId) (frames : List Frame) : Conn :=
  frames.foldl handleFrame ⟨connId, communityId, ∅, {}⟩

end Conn

end Buzz.Relay
