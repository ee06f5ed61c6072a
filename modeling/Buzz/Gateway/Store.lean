import Buzz.Lib.Transaction
import Buzz.Tunnel.LeaseText

/-!
The authority store of the push gateway.

An installation enrols its token; it delegates to relays, one delegation for each relay; a relay
that holds a delegation asks for the delivery of a wake.  Each operation returns the store that it
commits, or an error; a delivery is a transaction of several statements and may fail after some of them.

The rows are keyed by what the tables are unique by, so two rows of one key cannot be built: an
installation by its id, a delegation by its installation and the relay's key.  The other unique
indexes are checks of the statements.  `revoked_at` is only ever compared with `NULL` and is a
`Bool` here.  The challenges and the assertion counter, which no operation here reads, are left out.

`DateTime::from_timestamp` is outside the repository: `inRange` says which seconds it accepts.
-/

namespace Buzz.Gateway

open Buzz.Core Lib

abbrev Bytes := List UInt8

inductive AppProfile
  | buzzIosDogfood
deriving DecidableEq

inductive AuthorityError
  | rejected | conflict | rateLimited | unavailable
deriving DecidableEq

open AuthorityError

inductive DeliveryDisposition
  | terminal | retryable

/-! ### Rows -/

structure NewInstallation where
  id : Uuid
  appAttestKeyId : Bytes
  appAttestPublicKey : Bytes
  profile : AppProfile
  tokenCiphertext : Bytes
  tokenFingerprint : Bytes
  endpointEpoch : ℤ
  expiresAt : ℤ

structure InstallationRow where
  appAttestKeyId : Bytes
  appAttestPublicKey : Bytes
  profile : AppProfile
  tokenCiphertext : Bytes
  tokenFingerprint : Bytes
  endpointEpoch : ℤ
  expiresAt : ℤ
  revoked : Bool

structure Delegation where
  id : Uuid
  installationId : Uuid
  relayPubkey : String
  endpointEpoch : ℤ
  generation : ℤ
  notBefore : ℤ
  expiresAt : ℤ

structure DelegationRow where
  id : Uuid
  endpointEpoch : ℤ
  generation : ℤ
  notBefore : ℤ
  expiresAt : ℤ
  revoked : Bool

structure QuotaRow where
  windowStartedAt : ℤ
  admitted : ℤ
  updatedAt : ℤ

structure DeliveryAuthority where
  delegationId : Uuid
  installationId : Uuid
  relayPubkey : String
  profile : AppProfile
  tokenCiphertext : Bytes
  endpointEpoch : ℤ
  generation : ℤ
  expiresAt : ℤ

structure DeliveryPermit where
  authority : DeliveryAuthority
  relayPubkey : String
  requestId : Uuid

structure Store where
  installations : Table Uuid InstallationRow
  delegations : Table (Uuid × Bytes) DelegationRow
  endpointQuotas : Table Bytes QuotaRow
  deliveryAuthReplays : Table (Bytes × Bytes) ℤ
  deliveryRequestReplays : Table (Bytes × Uuid) ℤ

def Store.empty : Store := ⟨∅, ∅, ∅, ∅, ∅⟩

/-! ### Decoding -/

def hexDecode : List Char → Option Bytes
  | [] => some []
  | [_] => none
  | high :: low :: rest => do
    let h ← Tunnel.hexValue high
    let l ← Tunnel.hexValue low
    let bytes ← hexDecode rest
    pure (UInt8.ofNat (16 * h + l) :: bytes)

def relayBytes (relay : String) : Except AuthorityError Bytes :=
  okOr (hexDecode relay.toList) .rejected

def timeAt (inRange : ℤ → Bool) (ts : ℤ) : Except AuthorityError ℤ := do
  refuseIf (inRange ts = false) rejected
  pure ts

def nextEpoch (expected : ℤ) : Except AuthorityError ℤ := do
  refuseIf (expected = 9223372036854775807) rejected
  pure (expected + 1)

namespace Store

/-! ### Installations -/

def sameDevice (keyId : Bytes) (profile : AppProfile) (fingerprint : Bytes) (i : InstallationRow) :
    Bool :=
  i.appAttestKeyId = keyId || (i.profile = profile && i.tokenFingerprint = fingerprint)

def newRow (n : NewInstallation) : InstallationRow where
  appAttestKeyId := n.appAttestKeyId
  appAttestPublicKey := n.appAttestPublicKey
  profile := n.profile
  tokenCiphertext := n.tokenCiphertext
  tokenFingerprint := n.tokenFingerprint
  endpointEpoch := n.endpointEpoch
  expiresAt := n.expiresAt
  revoked := false

def installationChecks (i : InstallationRow) : Bool :=
  1 ≤ i.appAttestKeyId.length && i.appAttestKeyId.length ≤ 128 &&
    33 ≤ i.appAttestPublicKey.length && i.appAttestPublicKey.length ≤ 256 &&
    1 ≤ i.tokenCiphertext.length && i.tokenCiphertext.length ≤ 2048 &&
    i.tokenFingerprint.length = 32 && 0 < i.endpointEpoch

variable (inRange : ℤ → Bool) (s : Store) (id : Uuid)

/-- The rows of an installation that has expired, with its delegations. -/
def dropInstallations (expired : InstallationRow → Bool) : Store :=
  { s with
    installations := s.installations.select fun _ i => !expired i
    delegations := s.delegations.select fun key _ => !(s.installations.lookup key.1).any expired }

/-- An installation is enrolled, unless a live one holds its key or its token. -/
def createInstallation (n : NewInstallation) (now : ℤ) : Except AuthorityError Store := do
  let now ← timeAt inRange now
  let existing := sameDevice n.appAttestKeyId n.profile n.tokenFingerprint
  refuseIf ((s.installations.find fun _ i => existing i && !i.revoked && now ≤ i.expiresAt).isSome)
    conflict
  let s := s.dropInstallations fun i => existing i && i.expiresAt < now
  let _ ← timeAt inRange n.expiresAt
  refuseIf (installationChecks (newRow n) = false) unavailable
  -- `ON CONFLICT DO NOTHING`: the id, and the indexes of the rows that are not revoked
  refuseIf ((s.installations.find fun id i => id = n.id || (!i.revoked && existing i)).isSome)
    conflict
  pure { s with installations := s.installations.insert n.id (newRow n) }

def rotateEndpoint (expected new : ℤ) (ciphertext fingerprint : Bytes) :
    Except AuthorityError Store := do
  let next ← nextEpoch expected
  refuseIf (new ≠ next) rejected
  let i ← okOr (s.installations.lookup id) rejected
  refuseIf (i.endpointEpoch ≠ expected ∨ i.revoked) rejected
  let row := { i with
    endpointEpoch := new, tokenCiphertext := ciphertext, tokenFingerprint := fingerprint }
  refuseIf (installationChecks row = false) unavailable
  -- the unique index of the tokens that are not revoked
  refuseIf ((s.installations.find fun other j =>
      other ≠ id && !j.revoked && j.profile = i.profile && j.tokenFingerprint = fingerprint).isSome)
    unavailable
  pure { s with installations := s.installations.insert id row }

def revokeInstallation (expected new : ℤ) : Except AuthorityError Store := do
  let next ← nextEpoch expected
  refuseIf (new ≠ next) rejected
  let i ← okOr (s.installations.lookup id) rejected
  if i.endpointEpoch = expected ∧ i.revoked = false then
    refuseIf (¬0 < new) unavailable
    pure { s with
      installations := s.installations.insert id { i with endpointEpoch := new, revoked := true } }
  else
    -- a repeated revocation
    refuseIf (¬(i.endpointEpoch = new ∧ i.revoked)) rejected
    pure s

/-! ### Delegations -/

def delegationRow (d : Delegation) : DelegationRow where
  id := d.id
  endpointEpoch := d.endpointEpoch
  generation := d.generation
  notBefore := d.notBefore
  expiresAt := d.expiresAt
  revoked := false

def delegationChecks (relay : Bytes) (d : DelegationRow) : Bool :=
  relay.length = 32 && 0 < d.endpointEpoch && 0 < d.generation && d.notBefore < d.expiresAt

/-- A delegation of a later generation takes the place of the one before, and its installation lives
at least as long. -/
def upsertDelegation (d : Delegation) : Except AuthorityError Store := do
  let i ← okOr (s.installations.lookup d.installationId) rejected
  refuseIf (i.revoked ∨ i.endpointEpoch ≠ d.endpointEpoch) rejected
  let relay ← relayBytes d.relayPubkey
  let _ ← timeAt inRange d.notBefore
  let _ ← timeAt inRange d.expiresAt
  let key := (d.installationId, relay)
  refuseIf (delegationChecks relay (delegationRow d) = false) unavailable
  refuseIf ((s.delegations.lookup key).any fun old => d.generation ≤ old.generation)
    rejected
  -- the primary key
  refuseIf ((s.delegations.find fun other old => other ≠ key && old.id = d.id).isSome)
    unavailable
  pure { s with
    delegations := s.delegations.insert key (delegationRow d)
    installations := s.installations.insert d.installationId
      { i with expiresAt := max i.expiresAt d.expiresAt } }

def revokeDelegation (relay : String) (expectedGeneration : ℤ) : Except AuthorityError Store := do
  let relay ← relayBytes relay
  let d ← okOr (s.delegations.lookup (id, relay)) rejected
  refuseIf (d.generation ≠ expectedGeneration) rejected
  if d.revoked then pure s
  else pure { s with delegations := s.delegations.insert (id, relay) { d with revoked := true } }

/-! ### Deliveries -/

structure DeliveryCall where
  delegationId : Uuid
  relay : String
  epoch : ℤ
  generation : ℤ
  eventId : String
  requestId : Uuid
  requestExpiresAt : ℤ
  quotaWindowSeconds : ℤ
  quotaMaxDeliveries : ℤ
  now : ℤ
  /-- `now()` of the database. -/
  dbNow : ℤ

variable (c : DeliveryCall)

def delegationById : Option ((Uuid × Bytes) × DelegationRow) :=
  s.delegations.find fun _ d => d.id = id

def admitQuota (quota : Option QuotaRow) (c : DeliveryCall) : Option QuotaRow :=
  match quota with
  | none => some ⟨c.now, 1, c.dbNow⟩
  | some q =>
    if q.windowStartedAt ≤ c.now - c.quotaWindowSeconds then some ⟨c.now, 1, c.dbNow⟩
    else if q.admitted < c.quotaMaxDeliveries then
      some ⟨q.windowStartedAt, q.admitted + 1, c.dbNow⟩
    else none

def deliveryAuthority (installationId : Uuid) (i : InstallationRow)
    (d : DelegationRow) : DeliveryAuthority where
  delegationId := c.delegationId
  installationId := installationId
  relayPubkey := c.relay
  profile := i.profile
  tokenCiphertext := i.tokenCiphertext
  endpointEpoch := c.epoch
  generation := c.generation
  expiresAt := d.expiresAt

def checkAuthority (relay : Bytes) (now : ℤ) :
    Except AuthorityError (DeliveryAuthority × Bytes) := do
  let found ← okOr (s.delegationById c.delegationId) rejected
  let i ← okOr (s.installations.lookup found.1.1) rejected
  refuseIf (i.revoked ∨ i.endpointEpoch ≠ c.epoch ∨ i.expiresAt < now) rejected
  let d := found.2
  refuseIf (¬(found.1.2 = relay ∧ d.endpointEpoch = c.epoch ∧ d.generation = c.generation ∧
    d.revoked = false ∧ d.notBefore ≤ now ∧ now ≤ d.expiresAt)) rejected
  pure (deliveryAuthority c found.1.1 i d, i.tokenFingerprint)

def authorizeDelivery : Tx AuthorityError Store DeliveryPermit := do
  let relay ← .check (relayBytes c.relay)
  let event ← .check (relayBytes c.eventId)
  .check (refuseIf (event.length ≠ 32) rejected)
  let now ← .check (timeAt inRange c.now)
  let read ← .query (·.checkAuthority c relay now)
  let (authority, fingerprint) ← .check read
  .check (refuseIf (c.requestExpiresAt < now ∨ c.requestExpiresAt > authority.expiresAt) rejected)
  .check (refuseIf (c.quotaWindowSeconds < 1 ∨ c.quotaMaxDeliveries < 1) unavailable)
  .write fun s => do
    let quota ← okOr (admitQuota (s.endpointQuotas.lookup fingerprint) c) rejected
    pure { s with endpointQuotas := s.endpointQuotas.insert fingerprint quota }
  -- from here on a refusal has to undo the quota
  let expires ← .check (timeAt inRange c.requestExpiresAt)
  let authKnown ← .query fun s => (s.deliveryAuthReplays.lookup (relay, event)).isSome
  .update fun s => if authKnown then s else
    { s with deliveryAuthReplays := s.deliveryAuthReplays.insert (relay, event) expires }
  let requestKnown ← .query fun s => (s.deliveryRequestReplays.lookup (relay, c.requestId)).isSome
  .update fun s => if requestKnown then s else
    { s with deliveryRequestReplays := s.deliveryRequestReplays.insert (relay, c.requestId) expires }
  .check (refuseIf (authKnown ∨ requestKnown) rejected)
  pure ⟨authority, c.relay, c.requestId⟩

/-- A request that may be retried is released. -/
def finishDelivery (permit : DeliveryPermit) (disposition : DeliveryDisposition) :
    Except AuthorityError Store :=
  match disposition with
  | .terminal => pure s
  | .retryable => do
    let relay ← okOr (hexDecode permit.relayPubkey.toList) unavailable
    pure { s with
      deliveryRequestReplays := s.deliveryRequestReplays.erase (relay, permit.requestId) }

/-- What has expired goes; a delegation also goes with its installation. -/
def reapExpired (now : ℤ) : Except AuthorityError Store := do
  let now ← timeAt inRange now
  let s := { s with
    deliveryAuthReplays := s.deliveryAuthReplays.select fun _ expires => now ≤ expires
    deliveryRequestReplays := s.deliveryRequestReplays.select fun _ expires => now ≤ expires
    endpointQuotas := s.endpointQuotas.select fun _ q => now - 86400 ≤ q.updatedAt
    delegations := s.delegations.select fun _ d => now ≤ d.expiresAt }
  pure (s.dropInstallations fun i => i.expiresAt < now)

end Store

end Buzz.Gateway
