import Buzz.Core.Event
import Buzz.Git.RefPattern
import Buzz.Lib.Transaction

/-!
The roster of a channel.

A membership is a row of the table `channel_members`, keyed by community, channel and public key.  A
removed member keeps the row: `removed_at` is set, and the role it held stays in it.  The calls
`add_member` and `remove_member` are transactions.  Each begins with the membership lock of its
channel, so those of one channel run one after another, and each of its statements may fail.

The columns `hidden_at` of a membership and those of a channel that no call reads are left out.
-/

namespace Buzz.Db

open Buzz.Core Lib Tx
open Git (MemberRole)

/-! ### The tables -/

abbrev Bytes := List UInt8

abbrev ChannelKey := CommunityId × Uuid

structure MemberKey where
  channel : ChannelKey
  pubkey : Bytes
deriving DecidableEq

inductive ChannelVisibility
  | openChannel | privateChannel

def ChannelVisibility.asStr : ChannelVisibility → String
  | openChannel => "open"
  | privateChannel => "private"

structure ChannelRow where
  visibility : ChannelVisibility
  createdBy : Bytes
  deletedAt : Option ℕ

structure MemberRow where
  role : MemberRole
  joinedAt : ℕ
  invitedBy : Option Bytes
  removedAt : Option ℕ
  removedBy : Option Bytes

/-- The tables the calls read.  `agentOwners` holds the users that have an `agent_owner_pubkey`. -/
structure Store where
  channels : Table ChannelKey ChannelRow
  members : Table MemberKey MemberRow
  agentOwners : Table (CommunityId × Bytes) Bytes

/-- A membership as the calls return it. -/
structure MemberRecord where
  channelId : Uuid
  pubkey : Bytes
  role : String
  joinedAt : ℕ
  invitedBy : Option Bytes
  removedAt : Option ℕ

def rowToMemberRecord (key : MemberKey) (row : MemberRow) : MemberRecord where
  channelId := key.channel.2
  pubkey := key.pubkey
  role := row.role.asStr
  joinedAt := row.joinedAt
  invitedBy := row.invitedBy
  removedAt := row.removedAt

def MemberRow.isActive (row : MemberRow) : Bool := row.removedAt = none

namespace Store

variable (s : Store) (key : MemberKey)

def activeRole : Option MemberRole :=
  ((s.members.lookup key).filter MemberRow.isActive).map MemberRow.role

def ownerCount (chan : ChannelKey) : ℕ :=
  s.members.entries.countP fun e => e.1.channel = chan ∧ e.2.role = .owner ∧ e.2.isActive

/-- `INSERT … ON CONFLICT DO UPDATE`: a new row, or the old one back in force at the new role. -/
def upsertMember (role : MemberRole) (invitedBy : Option Bytes) (now : ℕ) : Store :=
  let row : MemberRow :=
    match s.members.lookup key with
    | none => ⟨role, now, invitedBy, none, none⟩
    | some row => { row with removedAt := none, removedBy := none, role := role }
  { s with members := s.members.insert key row }

def softDelete (removedBy : Bytes) (now : ℕ) : Store :=
  match (s.members.lookup key).filter MemberRow.isActive with
  | none => s
  | some row =>
    let removed := { row with removedAt := some now, removedBy := some removedBy }
    { s with members := s.members.insert key removed }

def isAgentOwner (community : CommunityId) (target actor : Bytes) : Bool :=
  match s.agentOwners.lookup (community, target) with
  | none => false
  | some owner => owner = actor

/-- The active members of a channel in the order they joined; none once the channel is deleted. -/
def getMembers (chan : ChannelKey) : List MemberRecord :=
  match (s.channels.lookup chan).filter fun c => c.deletedAt = none with
  | none => []
  | some _ =>
    let rows := s.members.entries.filter fun e => e.1.channel = chan ∧ e.2.isActive
    (rows.mergeSort fun a b => a.2.joinedAt ≤ b.2.joinedAt).map fun e => rowToMemberRecord e.1 e.2

end Store

/-! ### The statements -/

inductive DbError
  | invalidData (message : String)
  | accessDenied (message : String)
  | channelNotFound (channelId : Uuid)
  | memberNotFound (channelId : Uuid)
  | sqlx

/-- What the calls wait for, in the order they do. -/
inductive Statement
  | isAgentOwner | acquireWriter | begin | lock | getChannel | inviterRole | granterRole
  | currentRole | actorRole | targetRole | ownerCount | upsert | fetchRecord | softDelete | commit
deriving DecidableEq

/-- The statements that the database fails to carry out. -/
abbrev Faults := Statement → Bool

abbrev DbTx := Tx DbError Store

section Calls

variable (faults : Faults) (chan : ChannelKey) (pubkey : Bytes) (st : Statement) (actor : Bytes)

def await : DbTx Unit := check (refuseIf (faults st) .sqlx)

def fetch {α : Type} (st : Statement) (f : Store → α) : DbTx α := do
  await faults st
  query f

def execute (f : Store → Store) : DbTx Unit := do
  await faults st
  update f

def getChannelTx : DbTx ChannelRow := do
  let row ← fetch faults .getChannel fun s =>
    (s.channels.lookup chan).filter fun c => c.deletedAt = none
  check (okOr row (.channelNotFound chan.2))

def getActiveRoleTx (key : MemberKey) : DbTx (Option String) :=
  fetch faults st fun s => (s.activeRole key).map MemberRole.asStr

def invitedByRole (chan : ChannelKey) (invitedBy : Option Bytes) : DbTx (Option String) :=
  match invitedBy with
  | some inviter => getActiveRoleTx faults st ⟨chan, inviter⟩
  | none => pure none

def invalidRole (role : String) : DbError := .invalidData ("invalid role in database: " ++ role)

/-! ### `add_member` -/

/-- The first check of `add_member`, on the role to be granted. -/
def effectiveRole (channel : ChannelRow) (pubkey : Bytes) (role : MemberRole)
    (invitedBy : Option Bytes) : DbTx MemberRole :=
  if channel.visibility.asStr = "private" then do
    let inviter ← check (okOr invitedBy (.accessDenied "private channel requires an invite"))
    -- the bootstrap: the creator adds themselves, whoever else is or was a member
    if inviter = pubkey ∧ inviter = channel.createdBy then
      return role
    else do
      let stored ← getActiveRoleTx faults .inviterRole ⟨chan, inviter⟩
      let stored ← check (okOr stored (.accessDenied "inviter is not an active member"))
      let inviterRole ← check (okOr (MemberRole.fromStr stored) (invalidRole stored))
      check (refuseIf (role.isElevated ∧ inviterRole.isElevated = false)
        (.accessDenied "only owners/admins may grant elevated roles"))
      return role
  else
    if role.isElevated then do
      let granterRole ← invitedByRole faults .granterRole chan invitedBy
      check (refuseIf (granterRole ≠ some "owner" ∧ granterRole ≠ some "admin")
        (.accessDenied "only owners/admins may grant elevated roles"))
      return role
    else
      return role

/-- The second check of `add_member`, on the role an active member would lose. -/
def guardRoleChange (effectiveRole : MemberRole) (invitedBy : Option Bytes) : DbTx Unit := do
  let currentRole ← getActiveRoleTx faults .currentRole ⟨chan, pubkey⟩
  match currentRole.filter fun r => r ≠ effectiveRole.asStr with
  | none => return ()
  | some currentRole => do
    let actorRole ← invitedByRole faults .actorRole chan invitedBy
    check (refuseIf (¬ (actorRole.bind MemberRole.fromStr).any MemberRole.isElevated)
      (.accessDenied "only owners/admins may change an active member's role"))
    if currentRole = "owner" ∧ effectiveRole ≠ .owner then do
      let ownerCount ← fetch faults .ownerCount fun s => s.ownerCount chan
      check (refuseIf (ownerCount ≤ 1)
        (.accessDenied "cannot demote the last owner — transfer ownership first"))
    else
      return ()

def addMember (role : MemberRole) (invitedBy : Option Bytes) (now : ℕ) : DbTx MemberRecord := do
  check (refuseIf (pubkey.length ≠ 32)
    (.invalidData ("pubkey must be 32 bytes, got " ++ toString pubkey.length)))
  await faults .acquireWriter
  await faults .begin
  await faults .lock
  let channel ← getChannelTx faults chan
  let granted ← effectiveRole faults chan channel pubkey role invitedBy
  guardRoleChange faults chan pubkey granted invitedBy
  execute faults .upsert fun s => s.upsertMember ⟨chan, pubkey⟩ granted invitedBy now
  let row ← fetch faults .fetchRecord fun s => s.members.lookup ⟨chan, pubkey⟩
  let row ← check (okOr row .sqlx)
  await faults .commit
  return rowToMemberRecord ⟨chan, pubkey⟩ row

/-! ### `remove_member` -/

/-- Whether the actor owns the agent they remove.  It never changes once it is set, and so is read
before the lock. -/
def actorIsAgentOwner : DbTx Bool :=
  if pubkey = actor then
    return false
  else
    fetch faults .isAgentOwner fun s => s.isAgentOwner chan.1 pubkey actor

/-- The check of `remove_member` on an actor who is not the target. -/
def guardActor (actorIsAgentOwner : Bool) : DbTx Unit :=
  if pubkey = actor then
    return ()
  else do
    let stored ← getActiveRoleTx faults .actorRole ⟨chan, actor⟩
    let stored ← check (okOr stored (.accessDenied "actor is not an active member"))
    let actorRole ← check (okOr (MemberRole.fromStr stored) (invalidRole stored))
    check (refuseIf (actorRole.isElevated = false ∧ actorIsAgentOwner = false)
      (.accessDenied "only owners/admins or the agent's owner may remove other members"))

/-- The check of `remove_member` that an owner stays. -/
def guardLastOwner : DbTx Unit := do
  let targetRole ← getActiveRoleTx faults .targetRole ⟨chan, pubkey⟩
  if targetRole = some "owner" then do
    let ownerCount ← fetch faults .ownerCount fun s => s.ownerCount chan
    check (refuseIf (ownerCount ≤ 1)
      (.accessDenied "cannot remove the last owner — transfer ownership first"))
  else
    return ()

def removeMember (now : ℕ) : DbTx Unit := do
  let isAgentOwner ← actorIsAgentOwner faults chan pubkey actor
  await faults .acquireWriter
  await faults .begin
  await faults .lock
  guardActor faults chan pubkey actor isAgentOwner
  guardLastOwner faults chan pubkey
  -- the update, and whether it met a row
  let met ← fetch faults .softDelete fun s => (s.activeRole ⟨chan, pubkey⟩).isSome
  update fun s => s.softDelete ⟨chan, pubkey⟩ actor now
  check (refuseIf (met = false) (.memberNotFound chan.2))
  await faults .commit

end Calls

/-! ### Runs -/

/-- A call of either function, with the statements that fail in it. -/
inductive Call
  | add (faults : Faults) (chan : ChannelKey) (pubkey : Bytes) (role : MemberRole)
      (invitedBy : Option Bytes) (now : ℕ)
  | remove (faults : Faults) (chan : ChannelKey) (pubkey actor : Bytes) (now : ℕ)

namespace Call

def actor : Call → Option Bytes
  | add _ _ _ _ invitedBy _ => invitedBy
  | remove _ _ _ actor _ => some actor

def outcome {α : Type} : Except DbError α × Store → Option DbError × Store
  | (.ok _, t) => (none, t)
  | (.error e, t) => (some e, t)

def exec (s : Store) : Call → Option DbError × Store
  | add faults chan pubkey role invitedBy now =>
    outcome (transact (addMember faults chan pubkey role invitedBy now) s)
  | remove faults chan pubkey actor now =>
    outcome (transact (removeMember faults chan pubkey actor now) s)

end Call

namespace Store

def step (s : Store) (call : Call) : Store := (call.exec s).2

def run (s : Store) (calls : List Call) : Store := calls.foldl step s

end Store

end Buzz.Db
