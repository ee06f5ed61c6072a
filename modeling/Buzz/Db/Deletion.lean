import Buzz.Core.Event
import Buzz.Lib.Guard
import Buzz.Lib.Text
import Mathlib.Data.List.Sort

/-!
The deletion of a community.

An approved request is carried out stage by stage by executors, each of which holds a claim of the
request for some time.  While the relay serves a community, its writers hold leases.  The executor
first makes the community quiescing, so that no new lease is given, and once the leases are gone
fences it; an operator can abort the request until objects are deleted.

Each operation is one transaction, ordered with the others by the community's advisory lock: it
returns the tables that it commits, or the error it is rolled back with.  Times are microseconds of
the database's clock, and `now` is the time at which the transaction began.

`blocked_at` is only compared with `NULL` and is a `Bool` here.  The frozen inventory is its digest:
both are written at once and a trigger keeps them, so the digest that `approve` computes again is the
stored one.  Checkpoints, heartbeats of executors, texts of errors and the frozen list of objects are
written and not read by these operations, and are left out.
-/

namespace Buzz.Db.Deletion

open Buzz.Core Lib

/-! ### Stages and states -/

inductive DeletionStage
  | submitted | inventoried | approved | fenced | drained | bindingsRemoved | postgresPurged
  | cachePurged | logicallyVerified | retentionPending | aborted
deriving DecidableEq

namespace DeletionStage

def next : DeletionStage → Option DeletionStage
  | submitted => some inventoried
  | inventoried => some approved
  | approved => some fenced
  | fenced => some drained
  | drained => some bindingsRemoved
  | bindingsRemoved => some postgresPurged
  | postgresPurged => some cachePurged
  | cachePurged => some logicallyVerified
  | logicallyVerified => some retentionPending
  | retentionPending | aborted => none

def runnable : DeletionStage → Bool
  | approved | fenced | drained | bindingsRemoved | postgresPurged | cachePurged
  | logicallyVerified => true
  | submitted | inventoried | retentionPending | aborted => false

def text : DeletionStage → String
  | submitted => "submitted"
  | inventoried => "inventoried"
  | approved => "approved"
  | fenced => "fenced"
  | drained => "drained"
  | bindingsRemoved => "bindings_removed"
  | postgresPurged => "postgres_purged"
  | cachePurged => "cache_purged"
  | logicallyVerified => "logically_verified"
  | retentionPending => "retention_pending"
  | aborted => "aborted"

end DeletionStage

inductive DeletionState
  | active | quiescing | fenced | tombstone
deriving DecidableEq

/-! ### Rows -/

structure Digest where
  bits : BitVec 256
deriving DecidableEq

structure CommunityRow where
  host : String
  deletionState : DeletionState
  /-- `deletion_fence_generation` -/
  fenceGeneration : ℕ
  archivedAt : Option ℤ
  deletedAt : Option ℤ

structure DeletionRequest where
  communityId : CommunityId
  stage : DeletionStage
  retryStage : Option DeletionStage
  requestedBy : String
  inventoryDigest : Option Digest
  fenceGeneration : Option ℕ
  leaseOwner : Option String
  leaseGeneration : ℕ
  leaseUntil : Option ℤ
  attempts : ℕ
  retryCount : ℕ
  nextAttemptAt : ℤ
  blocked : Bool
  createdAt : ℤ
  preQuiesceArchivedAt : Option ℤ
  quiescingStartedAt : Option ℤ

structure DeletionApproval where
  communityId : CommunityId
  inventoryDigest : Digest

structure LeaseToken where
  requestId : Uuid
  owner : String
  generation : ℕ
  communityId : CommunityId
  fenceGeneration : Option ℕ

structure ServingWriteLease where
  id : Uuid
  communityId : CommunityId
  operation : String
  owner : String
  generation : ℕ
  fenceGeneration : ℕ
  leaseUntil : ℤ

structure ServingLeaseRow where
  communityId : CommunityId
  operation : String
  owner : String
  generation : ℕ
  fenceGeneration : ℕ
  leaseUntil : ℤ

structure Store where
  communities : Table CommunityId CommunityRow
  requests : Table Uuid DeletionRequest
  approvals : Table Uuid DeletionApproval
  servingWriteLeases : Table Uuid ServingLeaseRow

def Store.empty : Store := ⟨∅, ∅, ∅, ∅⟩

inductive DbError
  /-- The database refused a statement: a duplicate key, a missing row, a number out of range. -/
  | sqlx
  | notFound (text : String)
  | invalidData (text : String)
  | deletionSafety (text : String)
  /-- `AccessDenied`: stale deletion lease -/
  | staleLease (token : LeaseToken)
  /-- `AccessDenied`: stale lease or fencing generation -/
  | staleFence (requestId : Uuid)
  /-- `AccessDenied`: stale serving write lease -/
  | staleServingLease (leaseId : Uuid)
  /-- `AccessDenied`: the community is write-fenced or missing -/
  | writeFenced (communityId : CommunityId)
  | servingWritesNotDrained (communityId : CommunityId) (activeCount : ℕ) (operations : List String)

/-! ### Numbers and times -/

def maxI64 : ℕ := 9223372036854775807
def maxI32 : ℕ := 2147483647

/-- The end of the database's timestamps, in microseconds from the year 2000. -/
def endTimestamp : ℤ := 9223371331200000000

/-- `now() + make_interval(secs => …)` for a number of seconds that is cut to 64 bits. -/
def after (now : ℤ) (seconds : ℕ) : Except DbError ℤ := do
  let time := now + (min seconds maxI64 : ℕ) * 1000000
  refuseIf (endTimestamp ≤ time) .sqlx
  pure time

def nextGeneration (generation : ℕ) : Except DbError ℕ := do
  refuseIf (maxI64 ≤ generation)
    (.deletionSafety "community deletion fence generation overflow")
  pure (generation + 1)

/-! ### Claims of a request -/

def Store.isApproved (s : Store) (id : Uuid) (r : DeletionRequest) : Bool :=
  (s.approvals.lookup id).any fun a =>
    a.communityId = r.communityId && r.inventoryDigest = some a.inventoryDigest

/-- The claim of the token is the one the row has, and has not expired. -/
def DeletionRequest.claimedBy (r : DeletionRequest) (t : LeaseToken) (now : ℤ) : Bool :=
  r.leaseOwner = some t.owner && r.leaseGeneration = t.generation &&
    r.leaseUntil.any fun time => now ≤ time

/-- The row names an executor whose claim has not expired by the caller's own clock. -/
def DeletionRequest.held (r : DeletionRequest) (wallClock : ℤ) : Bool :=
  r.leaseOwner.isSome && r.leaseUntil.any fun time => wallClock ≤ time

namespace Store

variable (s : Store) (now : ℤ) (t : LeaseToken) (l : ServingWriteLease) (id : Uuid)
  (stage : DeletionStage) (r : DeletionRequest) (c : CommunityId)

def verifyLease : Except DbError DeletionRequest := do
  let r ← okOr (s.requests.lookup t.requestId) (.staleLease t)
  refuseIf (¬ (s.isApproved t.requestId r ∧ r.communityId = t.communityId ∧ r.stage = stage ∧
    r.claimedBy t now ∧ r.blocked = false)) (.staleLease t)
  pure r

def verifyLeaseAndFence (generation : ℕ) : Except DbError DeletionRequest := do
  let r ← okOr (s.requests.lookup t.requestId) (.staleFence t.requestId)
  let c ← okOr (s.communities.lookup r.communityId) (.staleFence t.requestId)
  refuseIf (¬ (s.isApproved t.requestId r ∧ r.communityId = t.communityId ∧ r.stage = stage ∧
    r.claimedBy t now ∧ r.blocked = false ∧ r.fenceGeneration = some generation ∧
    (c.deletionState = .fenced ∨ c.deletionState = .tombstone) ∧ c.fenceGeneration = generation))
    (.staleFence t.requestId)
  pure r

def requireFenceGeneration : Except DbError ℕ :=
  okOr t.fenceGeneration (.deletionSafety
    ("deletion " ++ t.requestId.toString ++ " has no durable fence generation"))

def setRequest : Store :=
  { s with requests := s.requests.insert id r }

def setCommunity (id : CommunityId) (c : CommunityRow) : Store :=
  { s with communities := s.communities.insert id c }

def advanceRequest (old new : DeletionStage)
    (fenceGeneration : Option ℕ) : Except DbError Store := do
  refuseIf (old.next ≠ some new)
    (.deletionSafety ("illegal deletion transition " ++ old.text ++ " -> " ++ new.text))
  let r ← okOr (s.requests.lookup t.requestId) (.staleLease t)
  refuseIf (¬ (r.stage = old ∧ r.claimedBy t now ∧ r.blocked = false)) (.staleLease t)
  pure (s.setRequest t.requestId { r with
    stage := new, fenceGeneration := fenceGeneration.or r.fenceGeneration
    retryCount := 0, retryStage := none })

/-! ### Submission and approval -/

def liveRequest : Option (Uuid × DeletionRequest) :=
  s.requests.find fun _ r => r.communityId = c && r.stage ≠ .aborted

def findHost (host : String) : Option (CommunityId × CommunityRow) :=
  s.communities.find fun _ c =>
    c.host.toLower = host.toLower && c.deletionState = .active && c.deletedAt.isNone

def submit (host requestedBy : String) (id : Uuid) : Except DbError (Uuid × Store) := do
  let refused := DbError.deletionSafety ("community " ++ host ++
    " is missing, already requested, fenced, or tombstoned")
  let (c, _) ← okOr (s.findHost host) refused
  match s.liveRequest c with
  | some (old, r) => do
    refuseIf (¬ (r.stage = .submitted ∧ r.requestedBy = requestedBy)) refused
    pure (old, s)
  | none => do
    refuseIf (s.requests.lookup id).isSome .sqlx
    pure (id, s.setRequest id
      { communityId := c, stage := .submitted, retryStage := none, requestedBy := requestedBy
        inventoryDigest := none, fenceGeneration := none, leaseOwner := none, leaseGeneration := 0
        leaseUntil := none, attempts := 0, retryCount := 0, nextAttemptAt := now, blocked := false
        createdAt := now, preQuiesceArchivedAt := none, quiescingStartedAt := none })

def freezeInventory (digest : Digest) : Except DbError Store := do
  let refused := DbError.deletionSafety
    ("deletion " ++ id.toString ++ " is not an unblocked submitted request")
  let r ← okOr (s.requests.lookup id) refused
  refuseIf (¬ (r.stage = .submitted ∧ r.blocked = false)) refused
  pure (s.setRequest id { r with stage := .inventoried, inventoryDigest := some digest })

def approve : Except DbError Store := do
  let refused := DbError.deletionSafety
    ("deletion " ++ id.toString ++ " is not an unblocked inventoried request")
  let r ← okOr (s.requests.lookup id) refused
  refuseIf (¬ (r.stage = .inventoried ∧ r.blocked = false)) refused
  let digest ← okOr r.inventoryDigest .sqlx
  refuseIf (s.approvals.lookup id).isSome .sqlx
  pure ({ s with approvals := s.approvals.insert id ⟨r.communityId, digest⟩ }.setRequest id
    { r with stage := .approved, nextAttemptAt := now })

/-! ### Claiming -/

def claimable : Bool :=
  s.isApproved id r && r.stage.runnable && !r.blocked && decide (r.nextAttemptAt ≤ now) &&
    r.leaseUntil.all fun time => time < now

/-- The oldest request that can be claimed; rows that another transaction has locked are skipped. -/
def candidate (requestId : Option Uuid) (locked : List Uuid) : Option (Uuid × DeletionRequest) :=
  let found := (s.requests.entries.map fun e => (e.1, e.2)).filter fun e =>
    (requestId.all fun id => e.1 = id) && s.claimable now e.1 e.2 && !locked.contains e.1
  (found.mergeSort fun a b => a.2.createdAt < b.2.createdAt ||
    a.2.createdAt = b.2.createdAt && a.1.bits.toNat ≤ b.1.bits.toNat).head?

def claim (requestId : Option Uuid) (owner : String) (leaseDuration : ℕ)
    (locked : List Uuid) (catalog : Except DbError Unit) :
    Except DbError (Option LeaseToken × Store) :=
  match s.candidate now requestId locked, catalog with
  | none, _ => .ok (none, s)
  | some (id, r), .error _ =>
    .ok (none, s.setRequest id { r with blocked := true, leaseOwner := none, leaseUntil := none })
  | some (id, r), .ok () => do
    refuseIf (maxI64 ≤ r.leaseGeneration) .sqlx
    refuseIf (maxI32 ≤ r.attempts) .sqlx
    let time ← after now leaseDuration
    pure (some ⟨id, owner, r.leaseGeneration + 1, r.communityId, r.fenceGeneration⟩,
      s.setRequest id { r with
        leaseOwner := some owner, leaseGeneration := r.leaseGeneration + 1
        leaseUntil := some time, attempts := r.attempts + 1 })

def heartbeat (leaseDuration : ℕ) : Except DbError Store := do
  let r ← okOr (s.requests.lookup t.requestId) (.staleLease t)
  refuseIf (¬ (r.claimedBy t now ∧ r.blocked = false ∧ r.stage.runnable ∧
    s.isApproved t.requestId r)) (.staleLease t)
  let time ← after now leaseDuration
  pure (s.setRequest t.requestId { r with leaseUntil := some time })

/-- The row of a request, if its claim is the token's, without the claim. -/
def releaseClaim : Store :=
  match s.requests.lookup t.requestId with
  | some r =>
    if r.leaseOwner = some t.owner ∧ r.leaseGeneration = t.generation then
      s.setRequest t.requestId { r with leaseOwner := none, leaseUntil := none }
    else s
  | none => s

def stopExecutor (t : Option LeaseToken) : Store :=
  match t with
  | some t => s.releaseClaim t
  | none => s

/-! ### Quiescing, fencing and draining -/

def activeLeases : List ServingLeaseRow :=
  (s.servingWriteLeases.entries.map fun e => e.2).filter fun l =>
    l.communityId = c && decide (now ≤ l.leaseUntil)

def beginQuiescing : Except DbError Store := do
  let r ← s.verifyLease now t .approved
  let c ← okOr (s.communities.lookup t.communityId) .sqlx
  let r' := if r.quiescingStartedAt.isNone then
    { r with preQuiesceArchivedAt := c.archivedAt, quiescingStartedAt := some now } else r
  refuseIf (¬ ((c.deletionState = .active ∨ c.deletionState = .quiescing) ∧ c.deletedAt = none))
    (.deletionSafety ("community " ++ t.communityId.uuid.toString ++ " cannot enter quiescing"))
  pure ((s.setRequest t.requestId r').setCommunity t.communityId { c with
    deletionState := .quiescing, archivedAt := c.archivedAt.or (some now) })

def fence : Except DbError (ℕ × Store) := do
  let _ ← s.verifyLease now t .approved
  let leases := s.activeLeases now t.communityId
  refuseIf (leases ≠ []) (.servingWritesNotDrained t.communityId leases.length
    ((leases.map ServingLeaseRow.operation).dedup.insertionSort (· ≤ ·)))
  let c ← okOr (s.communities.lookup t.communityId) .sqlx
  let generation ← nextGeneration c.fenceGeneration
  refuseIf (c.deletionState ≠ .quiescing)
    (.deletionSafety ("community " ++ t.communityId.uuid.toString ++
      " is no longer quiescing while fencing"))
  let s' ← (s.setCommunity t.communityId { c with
    deletionState := .fenced, fenceGeneration := generation
    archivedAt := c.archivedAt.or (some now) }).advanceRequest now t .approved .fenced
      (some generation)
  pure (generation, s')

def markDrained : Except DbError Store := do
  let generation ← requireFenceGeneration t
  let _ ← s.verifyLeaseAndFence now t .fenced generation
  refuseIf (s.activeLeases now t.communityId ≠ [])
    (.deletionSafety "serving writes have not drained")
  s.advanceRequest now t .fenced .drained (some generation)

def advanceWithCheckpoint (old new : DeletionStage) : Except DbError Store := do
  let generation ← requireFenceGeneration t
  let _ ← s.verifyLeaseAndFence now t old generation
  s.advanceRequest now t old new (some generation)

def markBindingsRemoved : Except DbError Store :=
  s.advanceWithCheckpoint now t .drained .bindingsRemoved

/-- The community's row after the purge of its tables, which are not modelled. -/
def purgePostgres (catalog : Except DbError Unit) : Except DbError Store := do
  let generation ← requireFenceGeneration t
  catalog
  let _ ← s.verifyLeaseAndFence now t .bindingsRemoved generation
  let c ← okOr (s.communities.lookup t.communityId) .sqlx
  refuseIf (¬ (c.deletionState = .fenced ∧ c.fenceGeneration = generation))
    (.deletionSafety ("community " ++ t.communityId.uuid.toString ++
      " tombstone update affected 0 rows"))
  (s.setCommunity t.communityId { c with
    deletionState := .tombstone, deletedAt := c.deletedAt.or (some now)
    archivedAt := c.archivedAt.or (some now) }).advanceRequest now t .bindingsRemoved
      .postgresPurged (some generation)

def markCachePurged : Except DbError Store :=
  s.advanceWithCheckpoint now t .postgresPurged .cachePurged

def markLogicallyVerified : Except DbError Store :=
  s.advanceWithCheckpoint now t .cachePurged .logicallyVerified

/-- The last step ends the claim too, and does not look at the block again. -/
def markRetentionPending : Except DbError Store := do
  let generation ← requireFenceGeneration t
  let r ← s.verifyLeaseAndFence now t .logicallyVerified generation
  refuseIf (¬ (r.stage = .logicallyVerified ∧ r.claimedBy t now ∧
    r.fenceGeneration = some generation)) (.staleLease t)
  pure (s.setRequest t.requestId { r with
    stage := .retentionPending, leaseOwner := none, leaseUntil := none
    retryCount := 0, retryStage := none })

/-! ### Failures and recovery -/

/-- When a request that has failed so often in a row can be claimed again. -/
def retryTime (retries retryAfter : ℕ) : Except DbError ℤ :=
  if 8 ≤ retries then .ok r.nextAttemptAt else after now retryAfter

/-- The eighth failure in a row at a stage blocks the request. -/
def recordRetry (retryAfter : ℕ) : Except DbError Store := do
  let r ← s.verifyLease now t stage
  let retries := if r.retryStage = some stage then min (r.retryCount + 1) maxI32 else 1
  let time ← retryTime now r retries retryAfter
  pure (s.setRequest t.requestId { r with
    retryCount := retries, retryStage := some stage, nextAttemptAt := time
    blocked := if 8 ≤ retries then true else r.blocked, leaseOwner := none, leaseUntil := none })

def block : Except DbError Store := do
  let r ← s.verifyLease now t stage
  pure (s.setRequest t.requestId { r with blocked := true, leaseOwner := none, leaseUntil := none })

def blockPreclaimSetup (wallClock : ℤ) (id : Uuid) : Except DbError Store := do
  let r ← okOr (s.requests.lookup id) (.notFound ("community deletion " ++ id.toString))
  refuseIf (r.stage = .retentionPending ∨ r.stage = .aborted)
    (.deletionSafety ("deletion " ++ id.toString ++ " at terminal stage " ++ r.stage.text ++
      " cannot record a setup failure"))
  refuseIf (r.held wallClock)
    (.deletionSafety ("deletion " ++ id.toString ++ " is leased by another executor"))
  pure (s.setRequest id { r with blocked := true })

def explained (operator reason : String) : Bool :=
  !(trim operator.toList).isEmpty && !(trim reason.toList).isEmpty

def unblock (wallClock : ℤ) (id : Uuid) (unblockedBy reason : String) : Except DbError Store := do
  refuseIf (explained unblockedBy reason = false)
    (.invalidData "unblock requires non-empty operator identity and remediation reason")
  let refused := DbError.deletionSafety
    ("deletion " ++ id.toString ++ " is missing or is not blocked")
  let r ← okOr (s.requests.lookup id) refused
  refuseIf (r.blocked = false) refused
  refuseIf (r.stage = .retentionPending ∨ r.stage = .aborted)
    (.deletionSafety ("blocked deletion " ++ id.toString ++ " at terminal stage " ++
      r.stage.text ++ " cannot resume"))
  refuseIf (r.held wallClock)
    (.deletionSafety ("blocked deletion " ++ id.toString ++ " still has a live executor lease"))
  pure (s.setRequest id { r with
    blocked := false, retryCount := 0, retryStage := none, nextAttemptAt := now
    leaseOwner := none, leaseUntil := none })

def abort (abortedBy reason : String) : Except DbError Store := do
  refuseIf (explained abortedBy reason = false)
    (.deletionSafety "abort requires non-empty operator identity and reason")
  let r ← okOr (s.requests.lookup id) (.notFound ("community deletion " ++ id.toString))
  refuseIf (¬ (r.stage = .approved ∨ r.stage = .fenced))
    (.deletionSafety ("deletion " ++ id.toString ++ " at stage " ++ r.stage.text ++
      " cannot be aborted"))
  refuseIf (s.activeLeases now r.communityId ≠ [])
    (.deletionSafety ("deletion " ++ id.toString ++ " cannot abort while " ++
      Nat.repr (s.activeLeases now r.communityId).length ++
      " serving write lease(s) remain active"))
  let c ← okOr (s.communities.lookup r.communityId) .sqlx
  let generation ← nextGeneration c.fenceGeneration
  let archivedAt := if r.quiescingStartedAt.isSome then r.preQuiesceArchivedAt else c.archivedAt
  refuseIf (¬ (c.deletionState ≠ .tombstone ∧ c.deletedAt = none))
    (.deletionSafety ("community " ++ r.communityId.uuid.toString ++
      " cannot be restored during abort"))
  refuseIf (maxI64 ≤ r.leaseGeneration) .sqlx
  pure ((s.setCommunity r.communityId { c with
    deletionState := .active, fenceGeneration := generation, archivedAt := archivedAt }).setRequest
    id { r with
      stage := .aborted, fenceGeneration := some generation, leaseOwner := none
      leaseUntil := none, leaseGeneration := r.leaseGeneration + 1, blocked := false
      retryCount := 0, retryStage := none, nextAttemptAt := now })

/-! ### Leases of serving writers -/

def acquireServingWriteLease (operation owner : String)
    (leaseDuration : ℕ) (id : Uuid) : Except DbError (ServingWriteLease × Store) := do
  let row ← okOr (s.communities.lookup c) (.writeFenced c)
  refuseIf (¬ (row.deletionState = .active ∧ row.deletedAt = none)) (.writeFenced c)
  let time ← after now leaseDuration
  refuseIf (s.servingWriteLeases.lookup id).isSome .sqlx
  let lease : ServingLeaseRow := ⟨c, operation, owner, 1, row.fenceGeneration, time⟩
  pure (⟨id, c, operation, owner, 1, row.fenceGeneration, time⟩,
    { s with servingWriteLeases := s.servingWriteLeases.insert id lease })

def leaseRow : Option ServingLeaseRow :=
  (s.servingWriteLeases.lookup l.id).filter fun row =>
    row.communityId = l.communityId && row.owner = l.owner && row.generation = l.generation &&
      row.fenceGeneration = l.fenceGeneration

/-- The lease has not expired, and the community is still served at the lease's generation. -/
def verifyServingWriteLease : Except DbError ServingLeaseRow := do
  let row ← okOr (s.leaseRow l) (.staleServingLease l.id)
  let c ← okOr (s.communities.lookup row.communityId) (.staleServingLease l.id)
  refuseIf (¬ (now ≤ row.leaseUntil ∧ c.deletedAt = none ∧
    (c.deletionState = .active ∨ c.deletionState = .quiescing) ∧
    c.fenceGeneration = row.fenceGeneration)) (.staleServingLease l.id)
  pure row

/-- `guard_transaction_with_serving_lease` makes the same check in the transaction of the write. -/
def guardTransactionWithServingLease : Except DbError Unit := do
  let _ ← s.verifyServingWriteLease now l
  pure ()

def renewServingWriteLease (leaseDuration : ℕ) : Except DbError (ServingWriteLease × Store) := do
  let row ← s.verifyServingWriteLease now l
  let time ← after now leaseDuration
  let renewed : ServingLeaseRow := { row with leaseUntil := time }
  pure ({ l with leaseUntil := time },
    { s with servingWriteLeases := s.servingWriteLeases.insert l.id renewed })

def releaseServingWriteLease : Bool × Store :=
  match s.leaseRow l with
  | some _ => (true, { s with servingWriteLeases := s.servingWriteLeases.erase l.id })
  | none => (false, s)

/-- `reap_expired_serving_write_leases`; `batch` are the rows that the statement reaches. -/
def reapExpiredServingWriteLeases (batch : List Uuid) : Store :=
  { s with servingWriteLeases := s.servingWriteLeases.select fun id l =>
      !(batch.contains id && decide (l.leaseUntil < now)) }

/-! ### Communities -/

def createCommunity (id : CommunityId) (host : String) : Except DbError Store := do
  refuseIf (s.communities.lookup id).isSome .sqlx
  refuseIf (s.communities.find fun _ c => c.host.toLower = host.toLower).isSome .sqlx
  pure (s.setCommunity id ⟨host, .active, 0, none, none⟩)

/-- Archiving and restoring by the owner, which is for active communities only. -/
def setArchived (id : CommunityId) (archived : Bool) : Store :=
  match s.communities.lookup id with
  | some c =>
    if c.deletionState = .active ∧ c.deletedAt = none then
      s.setCommunity id { c with
        archivedAt := if archived then c.archivedAt.or (some now) else none }
    else s
  | none => s

end Store

end Buzz.Db.Deletion
