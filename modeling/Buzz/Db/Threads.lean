import Buzz.Core.Nip10
import Buzz.Core.WriteKind
import Buzz.Lib.Timeline

/-!
Threads.

A reply has a row in the table `thread_metadata` with its parent, its root and its depth.  The rows of
the parent and of the root count the replies; a message without one gets a stub with its first reply.
The key of a row is the community, the time the event was created and its id, and the counters are
updated by community and id alone.

The parent and the root are resolved before the transaction that stores the reply, in three reads of
their own.  A root that is not found, or whose read fails, lends its time from the parent.  A deletion
looks up the row of its target before its transaction in the same way.

Times are those of `chrono`: `fromTimestamp` is its conversion from seconds, of which nothing is
assumed.  The columns of `events` that no call reads are left out, and so are the checks of who may
post or delete, which only refuse requests; `replies` is not a table but the history of the replies
stored, for the statements about the counters.
-/

namespace Buzz.Db.Thread

open Buzz.Core Lib

/-! ### The tables -/

abbrev DateTime := ℤ

abbrev EventKey := CommunityId × EventId

structure EventRow where
  communityId : CommunityId
  event : Event
  createdAt : DateTime
  channelId : Option Uuid
  deletedAt : Option DateTime

structure ThreadRow where
  communityId : CommunityId
  eventCreatedAt : DateTime
  eventId : EventId
  channelId : Uuid
  parentEventId : Option EventId
  parentEventCreatedAt : Option DateTime
  rootEventId : Option EventId
  rootEventCreatedAt : Option DateTime
  depth : ℕ
  replyCount : ℕ
  descendantCount : ℕ
  lastReplyAt : Option DateTime
  broadcast : Bool

def EventRow.key (row : EventRow) : EventKey := (row.communityId, row.event.id)

def EventRow.isLive (row : EventRow) : Bool := row.deletedAt = none

variable (row : ThreadRow)

def ThreadRow.key : EventKey := (row.communityId, row.eventId)

structure Reply where
  communityId : CommunityId
  eventId : EventId
  parentEventId : EventId
  rootEventId : Option EventId

def Reply.key (r : Reply) : EventKey := (r.communityId, r.eventId)

def Reply.parentKey (r : Reply) : EventKey := (r.communityId, r.parentEventId)

def Reply.rootKey (r : Reply) : Option EventKey := r.rootEventId.map (r.communityId, ·)

structure Store where
  events : List EventRow
  threads : List ThreadRow
  replies : List Reply

namespace Store

def empty : Store := ⟨[], [], []⟩

variable (s : Store) (community : CommunityId) (key : EventKey)

def getEventById (id : EventId) : Option EventRow :=
  s.events.find? fun row => row.key = (community, id) ∧ row.isLive

def getEventByIdIncludingDeleted (id : EventId) : Option EventRow :=
  s.events.find? fun row => row.key = (community, id)

/-- `LIMIT 1`: one of the rows of an id. -/
def getThreadMetadataByEvent (id : EventId) : Option ThreadRow :=
  s.threads.find? fun row => row.key = (community, id)

def isLive : Bool := s.events.any fun row => row.key = key && row.isLive

def liveCount (p : Reply → Bool) : ℕ := s.replies.countP fun r => p r && s.isLive r.key

def liveReplies : ℕ := s.liveCount fun r => r.parentKey = key

def liveDescendants : ℕ := s.liveCount fun r => r.rootKey = some key

end Store

/-! ### Ancestry -/

structure ThreadMetadata where
  eventId : EventId
  eventCreatedAt : DateTime
  channelId : Uuid
  parentEventId : Option EventId
  parentEventCreatedAt : Option DateTime
  rootEventId : Option EventId
  rootEventCreatedAt : Option DateTime
  depth : ℕ
  broadcast : Bool

/-- What the three reads of a resolution see: a version of the store, or an error. -/
structure View where
  parentEvent : Except String Store
  parentMeta : Except String Store
  rootEvent : Except String Store
  now : DateTime

structure ReplyAncestry where
  parentEventId : EventId
  parentEventCreatedAt : DateTime
  rootEventId : EventId
  rootEventCreatedAt : DateTime
  depth : ℕ

section Resolve

variable (fromTimestamp : ℕ → Option DateTime) (v : View) (community : CommunityId) (parent : Event)
  (parentCreated : DateTime) (event : Event)

namespace View

/-- The parent, which must be a live event of the same channel. -/
def findParent (parentId : EventId) (channelId : Uuid) : Except String EventRow := do
  let s ← v.parentEvent.mapError ("db error looking up parent: " ++ ·)
  let parent ← okOr (s.getEventById community parentId) "reply parent not found"
  match parent.channelId with
  | some parentChannel =>
    refuseIf (parentChannel ≠ channelId) "parent event belongs to a different channel"
    pure parent
  | none => .error "parent event has no channel association"

def findParentMeta (parentId : EventId) : Except String (Option ThreadRow) :=
  (v.parentMeta.mapError ("db error looking up thread metadata: " ++ ·)).map
    (·.getThreadMetadataByEvent community parentId)

/-- When the root was created; the parent's time stands in for one that is not found. -/
def rootCreated (rootId : EventId) (parentCreated : DateTime) : DateTime :=
  match v.rootEvent with
  | .ok s =>
    match s.getEventById community rootId with
    | some row => (fromTimestamp row.event.createdAt).getD parentCreated
    | none => parentCreated
  | .error _ => parentCreated

end View

/-- The root that the tags of an event mark, or the event itself. -/
def markedRoot : EventId :=
  (((parseThreadMarkers event.tags).resolve.bind fun m => decodeEventId m.1).bind id).getD event.id

def deriveAncestryFromParentTags : ReplyAncestry :=
  let root := markedRoot parent
  if root = parent.id then ⟨parent.id, parentCreated, root, parentCreated, 1⟩
  else ⟨parent.id, parentCreated, root, v.rootCreated fromTimestamp community root parentCreated, 2⟩

/-- The ancestry of a client's reply, checked against the root it names. -/
def clientAncestry
    (clientRoot : Option EventId) (parentMeta : Option ThreadRow) : Except String ReplyAncestry :=
  match parentMeta with
  | some m => do
    let effectiveRoot := m.rootEventId.getD parent.id
    refuseIf (clientRoot ≠ some effectiveRoot) "root tag does not match thread ancestry"
    refuseIf (m.depth + 1 > 100) "thread depth limit exceeded"
    pure ⟨parent.id, parentCreated, effectiveRoot,
      v.rootCreated fromTimestamp community effectiveRoot parentCreated, m.depth + 1⟩
  | none => do
    let ancestry := deriveAncestryFromParentTags fromTimestamp v community parent parentCreated
    refuseIf (clientRoot ≠ some ancestry.rootEventId) "root tag does not match thread ancestry"
    pure ancestry

def isBroadcast : Bool :=
  event.tags.any fun t => t.name = "broadcast" && t.values.head? = some "1"

/-- The metadata of a reply that is stored with this ancestry. -/
def ReplyAncestry.intoThreadMeta (a : ReplyAncestry) (eventId : EventId) (createdAt : DateTime)
    (channelId : Uuid) (broadcast : Bool) : ThreadMetadata where
  eventId := eventId
  eventCreatedAt := createdAt
  channelId := channelId
  parentEventId := some a.parentEventId
  parentEventCreatedAt := some a.parentEventCreatedAt
  rootEventId := some a.rootEventId
  rootEventCreatedAt := some a.rootEventCreatedAt
  depth := a.depth
  broadcast := broadcast

/-- The ancestry of a client's reply from its tags; none for a top-level message. -/
def resolveNip10ThreadMeta (channelId : Uuid) : Except String (Option ThreadMetadata) :=
  match (parseThreadMarkers event.tags).resolve with
  | none => .ok none
  | some (rootHex, parentHex) => do
    let parentId ← okOr (decodeEventId parentHex) "invalid parent event ID hex"
    let parent ← (okOr parentId "reply parent not found").bind
      fun id => v.findParent community id channelId
    let parentCreated := (fromTimestamp parent.event.createdAt).getD v.now
    let clientRoot ← okOr (decodeEventId rootHex) "invalid root event ID hex"
    let parentMeta ← v.findParentMeta community parent.event.id
    let ancestry ← clientAncestry fromTimestamp v community parent.event parentCreated clientRoot
      parentMeta
    pure (some (ancestry.intoThreadMeta event.id ((fromTimestamp event.createdAt).getD v.now)
      channelId (isBroadcast event)))

/-- The ancestry of a relay-built reply from its parent's. -/
def relayAncestry (parentMeta : Option ThreadRow) : ReplyAncestry :=
  match parentMeta with
  | some m =>
    let effectiveRoot := m.rootEventId.getD parent.id
    let rootTs :=
      if effectiveRoot = parent.id then parentCreated
      else v.rootCreated fromTimestamp community effectiveRoot parentCreated
    ⟨parent.id, parentCreated, effectiveRoot, rootTs, m.depth + 1⟩
  | none => deriveAncestryFromParentTags fromTimestamp v community parent parentCreated

def resolveRelayReplyThreadMeta (parentHex : String)
    (channelId : Uuid) : Except String ReplyAncestry := do
  let parentId ← okOr (decodeEventId parentHex) "invalid parent event ID hex"
  let parent ← (okOr parentId "reply parent not found").bind
    fun id => v.findParent community id channelId
  let parentCreated := (fromTimestamp parent.event.createdAt).getD v.now
  let parentMeta ← v.findParentMeta community parent.event.id
  let ancestry := relayAncestry fromTimestamp v community parent.event parentCreated parentMeta
  refuseIf (ancestry.depth > 100) "thread depth limit exceeded"
  pure ancestry

end Resolve

/-! ### The statements -/

variable (threads : List ThreadRow) (community : CommunityId) (m : ThreadMetadata) (s : Store)

/-- `INSERT … ON CONFLICT DO NOTHING`, and whether there is a new row. -/
def insertThread (row : ThreadRow) : List ThreadRow × Bool :=
  if threads.any fun r => r.key = row.key && r.eventCreatedAt = row.eventCreatedAt then
    (threads, false)
  else (row :: threads, true)

def updateThreads (key : EventKey) (f : ThreadRow → ThreadRow) : List ThreadRow :=
  threads.map fun row => if row.key = key then f row else row

def stubRow (createdAt : DateTime) (id : EventId) (channelId : Uuid) : ThreadRow :=
  ⟨community, createdAt, id, channelId, none, none, none, none, 0, 0, 0, none, false⟩

def ThreadMetadata.toRow (community : CommunityId) : ThreadRow where
  communityId := community
  eventCreatedAt := m.eventCreatedAt
  eventId := m.eventId
  channelId := m.channelId
  parentEventId := m.parentEventId
  parentEventCreatedAt := m.parentEventCreatedAt
  rootEventId := m.rootEventId
  rootEventCreatedAt := m.rootEventCreatedAt
  depth := m.depth
  replyCount := 0
  descendantCount := 0
  lastReplyAt := none
  broadcast := m.broadcast

def countReply (now : DateTime) (row : ThreadRow) : ThreadRow :=
  { row with replyCount := row.replyCount + 1, lastReplyAt := some now }

def countDescendant : ThreadRow :=
  { row with descendantCount := row.descendantCount + 1 }

def uncountReply : ThreadRow := { row with replyCount := row.replyCount - 1 }

def uncountDescendant : ThreadRow :=
  { row with descendantCount := row.descendantCount - 1 }

/-- Stubs for the parent and for a root other than the parent. -/
def ensureAncestors (parentId : EventId) : List ThreadRow :=
  let parentTs := m.parentEventCreatedAt.getD m.eventCreatedAt
  let withParent := (insertThread threads (stubRow community parentTs parentId m.channelId)).1
  match m.rootEventId with
  | some rootId =>
    if rootId ≠ parentId then
      let rootTs := m.rootEventCreatedAt.getD m.eventCreatedAt
      (insertThread withParent (stubRow community rootTs rootId m.channelId)).1
    else withParent
  | none => withParent

def countAncestors (parentId : EventId) (now : DateTime) : List ThreadRow :=
  let counted := updateThreads threads (community, parentId) (countReply now)
  match m.rootEventId with
  | some rootId => updateThreads counted (community, rootId) countDescendant
  | none => counted

def recordThread (now : DateTime) : List ThreadRow :=
  let inserted := insertThread threads (m.toRow community)
  if inserted.2 then
    match m.parentEventId with
    | some parentId =>
      countAncestors (ensureAncestors inserted.1 community m parentId) community m parentId now
    | none => inserted.1
  else inserted.1

inductive DbError
  | authEventRejected
  | ephemeralEventRejected (kind : ℕ)
  | invalidTimestamp (secs : ℕ)
  | noSuchColumn

/-- What is stored as a reply: the history behind the counters. -/
def ThreadMetadata.reply? (community : CommunityId) : Option Reply :=
  m.parentEventId.map fun parentId => ⟨community, m.eventId, parentId, m.rootEventId⟩

/-- `INSERT INTO events … ON CONFLICT DO NOTHING`, and the rows of the thread with a new event. -/
def Store.insertEvent (row : EventRow) (m : Option ThreadMetadata) (now : DateTime) :
    Store × Bool :=
  if s.events.any fun r => r.key = row.key && r.createdAt = row.createdAt then (s, false)
  else
    match m with
    | none => ({ s with events := row :: s.events }, true)
    | some m =>
      ({ events := row :: s.events
         threads := recordThread s.threads row.communityId m now
         replies := (m.reply? row.communityId).toList ++ s.replies }, true)

def insertEventWithThreadMetadataTx (fromTimestamp : ℕ → Option DateTime) (s : Store)
    (community : CommunityId) (event : Event) (channelId : Option Uuid) (m : Option ThreadMetadata)
    (now : DateTime) : Except DbError (Store × Bool) := do
  refuseIf (eventKindU32 event = kindAuth) .authEventRejected
  refuseIf (isEphemeral (eventKindU32 event)) (.ephemeralEventRejected (eventKindU32 event))
  let createdAt ← okOr (fromTimestamp event.createdAt) (.invalidTimestamp event.createdAt)
  pure (s.insertEvent ⟨community, event, createdAt, channelId, none⟩ m now)

/-- `UPDATE events SET deleted_at = NOW()` of the live rows of an id. -/
def Store.markDeleted (key : EventKey) (now : DateTime) : Store :=
  { s with
    events := s.events.map fun row =>
      if row.key = key ∧ row.isLive then { row with deletedAt := some now } else row }

def uncountAncestors (parentId rootId : Option EventId) : List ThreadRow :=
  match parentId with
  | none => threads
  | some parentId =>
    let uncounted := updateThreads threads (community, parentId) uncountReply
    match rootId with
    | some rootId => updateThreads uncounted (community, rootId) uncountDescendant
    | none => uncounted

def softDeleteEventAndUpdateThread (community : CommunityId) (id : EventId)
    (parentId rootId : Option EventId) (now : DateTime) : Store × Bool :=
  let deleted := s.isLive (community, id)
  let marked := s.markDeleted (community, id) now
  if deleted then
    ({ marked with threads := uncountAncestors marked.threads community parentId rootId }, true)
  else (marked, false)

/-- The deletion of a moderator's action.  With a parent its second statement names a column that
`events` does not have.  `owned` and `unmarked` are the fences of the action's own row. -/
def executeDeleteWithMarker (community : CommunityId) (id : EventId)
    (parentId : Option EventId) (owned unmarked : Bool) (now : DateTime) :
    Except DbError (Store × Bool) :=
  if owned = false then .ok (s, false)
  else
    match parentId with
    | some _ => .error .noSuchColumn
    | none =>
      let marked := s.markDeleted (community, id) now
      if unmarked then .ok (marked, true) else .ok (s, false)

/-! ### Requests -/

def requiresHChannelScope (kind : ℕ) : Bool :=
  [kindStreamMessage, kindStreamMessageV2, kindStreamMessageEdit, kindStreamMessagePinned,
    kindStreamMessageBookmarked, kindStreamMessageScheduled, kindStreamReminder,
    kindStreamMessageDiff, kindCanvas, kindForumPost, kindForumVote, kindForumComment,
    kindNip29PutUser, kindNip29RemoveUser, kindNip29EditMetadata, kindNip29DeleteEvent,
    kindNip29DeleteGroup, kindNip29LeaveRequest, kindHuddleStarted, kindHuddleParticipantJoined,
    kindHuddleParticipantLeft, kindHuddleEnded, kindHuddleGuidelines].contains kind

/-- When the reads of a resolution are made, in writes ago; none for one that fails. -/
structure Moments where
  parentEvent : Option ℕ
  parentMeta : Option ℕ
  rootEvent : Option ℕ
  now : DateTime

def readAt (t : Timeline Store) : Option ℕ → Except String Store
  | some n => .ok (t.ago n)
  | none => .error "pool timed out"

def Moments.view (m : Moments) (t : Timeline Store) : View :=
  ⟨readAt t m.parentEvent, readAt t m.parentMeta, readAt t m.rootEvent, m.now⟩

/-- A request.  `commits` says whether its transaction is committed in the end. -/
inductive Request
  /-- An event that is stored without metadata, by whatever path. -/
  | store (community : CommunityId) (event : Event) (channelId : Option Uuid) (now : DateTime)
    (commits : Bool)
  /-- A client's message. -/
  | ingest (community : CommunityId) (event : Event) (channelId : Option Uuid) (reads : Moments)
    (commits : Bool)
  /-- A message that the relay builds for a workflow. -/
  | workflow (community : CommunityId) (event : Event) (channelId : Uuid) (replyTo : Option String)
    (reads : Moments) (commits : Bool)
  /-- A deletion.  The target is looked up `found + row` writes ago, its thread row `row` ago. -/
  | delete (community : CommunityId) (target : EventId) (found row : ℕ) (now : DateTime)
    (commits : Bool)
  /-- The deletion of a moderator's action, which does not look up its target. -/
  | moderate (community : CommunityId) (target : EventId) (row : ℕ) (owned unmarked : Bool)
    (now : DateTime) (commits : Bool)

section Requests

variable (fromTimestamp : ℕ → Option DateTime)

def ingestThreadMeta (v : View) (community : CommunityId) (event : Event) (channelId : Option Uuid) :
    Except String (Option ThreadMetadata) :=
  if requiresHChannelScope (eventKindU32 event) then
    match channelId with
    | some channel => resolveNip10ThreadMeta fromTimestamp v community event channel
    | none => .ok none
  else .ok none

/-- What a message of a workflow is stored with: a row of its own even when it is no reply. -/
def workflowThreadMeta (v : View) (community : CommunityId) (event : Event) (channelId : Uuid)
    (replyTo : Option String) : Except String ThreadMetadata :=
  let createdAt := (fromTimestamp event.createdAt).getD v.now
  match replyTo with
  | some parentHex =>
    (resolveRelayReplyThreadMeta fromTimestamp v community parentHex channelId).map
      fun a => a.intoThreadMeta event.id createdAt channelId false
  | none => .ok ⟨event.id, createdAt, channelId, none, none, none, none, 0, false⟩

def Store.accept (s : Store) (community : CommunityId) (event : Event) (channelId : Option Uuid)
    (m : Option ThreadMetadata) (now : DateTime) : Store :=
  match insertEventWithThreadMetadataTx fromTimestamp s community event channelId m now with
  | .ok r => r.1
  | .error _ => s

/-- The parent and the root that a deletion finds in the row of its target. -/
def deleteTargets (s : Store) (community : CommunityId) (target : EventId) :
    Option EventId × Option EventId :=
  let row := s.getThreadMetadataByEvent community target
  (row.bind ThreadRow.parentEventId, row.bind ThreadRow.rootEventId)

def Request.serve (t : Timeline Store) : Request → Store
  | .store community event channelId now _ =>
    t.now.accept fromTimestamp community event channelId none now
  | .ingest community event channelId reads _ =>
    match ingestThreadMeta fromTimestamp (reads.view t) community event channelId with
    | .ok m => t.now.accept fromTimestamp community event channelId m reads.now
    | .error _ => t.now
  | .workflow community event channelId replyTo reads _ =>
    match workflowThreadMeta fromTimestamp (reads.view t) community event channelId replyTo with
    | .ok m => t.now.accept fromTimestamp community event (some channelId) (some m) reads.now
    | .error _ => t.now
  | .delete community target found row now _ =>
    match (t.ago (found + row)).getEventByIdIncludingDeleted community target with
    | none => t.now
    | some _ =>
      let targets := deleteTargets (t.ago row) community target
      (softDeleteEventAndUpdateThread t.now community target targets.1 targets.2 now).1
  | .moderate community target row owned unmarked now _ =>
    let targets := deleteTargets (t.ago row) community target
    match executeDeleteWithMarker t.now community target targets.1 owned unmarked now with
    | .ok r => r.1
    | .error _ => t.now

def Request.commits : Request → Bool
  | .store _ _ _ _ commits | .ingest _ _ _ _ commits | .workflow _ _ _ _ _ commits
  | .delete _ _ _ _ _ commits | .moderate _ _ _ _ _ _ commits => commits

/-- One request: a transaction that is not committed leaves the store as it is. -/
def step (t : Timeline Store) (r : Request) : Timeline Store :=
  if r.commits then t.push (r.serve fromTimestamp t) else t

def run (requests : List Request) : Timeline Store :=
  requests.foldl (step fromTimestamp) ⟨.empty, []⟩

end Requests

end Buzz.Db.Thread
