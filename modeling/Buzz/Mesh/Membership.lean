import Buzz.Core.Event
import Buzz.Git.PktLine
import Buzz.Lib.Guard

/-!
The membership table of the relay mesh.

A runtime learns of its peers in two ways: from the ready registry, whose records carry a signature
of the relay's key over the runtime's id, and from the gossip of the peers it is connected to.  Both
end in `applyGossipRecord`, which takes over a record that is newer than the one it has, or one of a
runtime it does not know.  The signature scheme and its encodings are parameters, of which nothing
is assumed.

Of a peer's state this keeps its record and the state of its connection; the failure detector and
the counters are read by nothing here.
-/

namespace Buzz.Mesh

open Buzz.Core Lib
open Git (utf8)

/-- The endpoint key of one run of a relay, thirty-two bytes. -/
structure RuntimeId where
  bits : BitVec 256
deriving DecidableEq

variable (id : RuntimeId)

def RuntimeId.toHex : String := String.ofList (hexDigits 64 id.bits.toNat)

inductive MeshError
  | decode
  | transport (message : String)

/-! ### Ready records -/

/-- Public keys, signatures and their verification, and SHA-256. -/
structure Attestation where
  Signature : Type
  publicKeyFromHex : String → Except String PublicKey
  xonly : PublicKey → Except String PublicKey
  signatureFromStr : String → Except String Signature
  sha256 : List UInt8 → List UInt8
  verifySchnorr : Signature → List UInt8 → PublicKey → Except String Unit

def attestationContext : String := "buzz-relay-mesh-ready-v1"

def attestationPreimage (relayPubkey : String) : String :=
  attestationContext ++ "\nruntime_pubkey=" ++ id.toHex ++ "\nrelay_pubkey=" ++ relayPubkey

variable (A : Attestation)

def attestationMessage (id : RuntimeId) (relayPubkey : String) : List UInt8 :=
  A.sha256 (utf8 (attestationPreimage id relayPubkey))

def verifyAttestation (id : RuntimeId) (relayPubkey relaySig : String) : Except MeshError Unit := do
  let relayPubkey ← (A.publicKeyFromHex relayPubkey).mapError fun err =>
    .transport ("ready registry attestation invalid relay_pubkey: " ++ err)
  let xonly ← (A.xonly relayPubkey).mapError fun err =>
    .transport ("ready registry attestation relay_pubkey xonly conversion failed: " ++ err)
  let sig ← (A.signatureFromStr relaySig).mapError fun err =>
    .transport ("ready registry attestation invalid relay_sig: " ++ err)
  let message := attestationMessage A id relayPubkey.toHex
  (A.verifySchnorr sig message xonly).mapError fun err =>
    .transport ("ready registry attestation signature verification failed: " ++ err)

structure ReadyRecord where
  runtimeId : RuntimeId
  runtimePubkey : String
  relayPubkey : String
  relaySig : String
  endpointAddrs : List String
  protoVersion : UInt16
  capabilities : List String

def readyKey : String := "mesh:ready:" ++ id.toHex

def ReadyRecord.verifyAttestation (r : ReadyRecord) : Except MeshError Unit := do
  refuseIf (r.runtimePubkey ≠ r.runtimeId.toHex)
    (.transport ("ready registry runtime_id/runtime_pubkey mismatch: " ++ r.runtimeId.toHex ++
      " != " ++ r.runtimePubkey))
  Mesh.verifyAttestation A r.runtimeId r.relayPubkey r.relaySig

/-- The record is signed by the key that is expected. -/
def ReadyRecord.AttestedBy (expected : Option String) (r : ReadyRecord) : Prop :=
  expected = some r.relayPubkey ∧ r.verifyAttestation A = .ok ()

def scanReady (entries : List (String × Option ReadyRecord)) : List ReadyRecord :=
  entries.filterMap fun entry =>
    match entry.2 with
    | none => none
    | some record =>
      if readyKey record.runtimeId = entry.1 then
        match record.verifyAttestation A with
        | .ok () => some record
        | .error _ => none
      else none

/-! ### Gossip -/

/-- What is gossiped of a runtime.  The load is kept as the bits of its 32-bit float. -/
structure GossipRecord where
  runtimeId : RuntimeId
  endpointAddrs : List String
  protoVersion : UInt16
  load : BitVec 32
  draining : Bool
  capabilities : List String
  version : ℕ
  heartbeatMillis : ℕ

def GossipRecord.new (endpointAddrs : List String) (protoVersion : UInt16)
    (nowMillis : ℕ) : GossipRecord where
  runtimeId := id
  endpointAddrs := endpointAddrs
  protoVersion := protoVersion
  load := 0
  draining := false
  capabilities := []
  version := 1
  heartbeatMillis := nowMillis

structure GossipDigestEntry where
  runtimeId : RuntimeId
  version : ℕ

inductive GossipMessage
  | digest (version : UInt8) (entries : List GossipDigestEntry)
  | delta (version : UInt8) (records : List GossipRecord)

def gossipPayloadVersion : UInt8 := 1

def GossipMessage.version : GossipMessage → UInt8
  | digest version _ => version
  | delta version _ => version

def decodeMessage (payload : Option GossipMessage) : Except MeshError GossipMessage := do
  let message ← okOr payload .decode
  refuseIf (message.version ≠ gossipPayloadVersion)
    (.transport ("unknown gossip payload version " ++ toString message.version))
  return message

/-! ### The table -/

inductive ConnectionState
  | disconnected | connecting | connected | suspect

structure PeerState where
  record : GossipRecord
  connectionState : ConnectionState

structure MeshMembership where
  localRuntimeId : RuntimeId
  localRecord : GossipRecord
  peers : Table RuntimeId PeerState := ∅
  foreignRelayRejections : ℕ := 0
  /-- The key that ready records must be attested by; without one none is accepted. -/
  expectedRelayPubkey : Option String := none

namespace MeshMembership

def new (localRecord : GossipRecord) : MeshMembership where
  localRuntimeId := localRecord.runtimeId
  localRecord := localRecord

variable (m : MeshMembership)

def withExpectedRelayPubkey (pubkeyHex : String) : MeshMembership :=
  { m with expectedRelayPubkey := some pubkeyHex }

def fresh (localRecord : GossipRecord) (expectedRelayPubkey : Option String) : MeshMembership :=
  match expectedRelayPubkey with
  | some pubkeyHex => (new localRecord).withExpectedRelayPubkey pubkeyHex
  | none => new localRecord

/-- Take over a record that is newer than the one there is, or of a runtime not known yet. -/
def applyGossipRecord (record : GossipRecord) : MeshMembership × Bool :=
  if record.runtimeId = m.localRuntimeId then (m, false)
  else
    match m.peers.lookup record.runtimeId with
    | some peer =>
      if record.version ≤ peer.record.version then (m, false)
      else ({ m with peers := m.peers.insert record.runtimeId ⟨record, .connected⟩ }, true)
    | none => ({ m with peers := m.peers.insert record.runtimeId ⟨record, .connected⟩ }, true)

def applyReadyRecord (A : Attestation) (nowMillis : ℕ) (m : MeshMembership) (ready : ReadyRecord) :
    MeshMembership :=
  if ready.runtimeId = m.localRuntimeId then m
  else if m.expectedRelayPubkey ≠ some ready.relayPubkey then
    { m with foreignRelayRejections := m.foreignRelayRejections + 1 }
  else
    match ready.verifyAttestation A with
    | .error _ => m
    | .ok () =>
      (m.applyGossipRecord
        { GossipRecord.new ready.runtimeId ready.endpointAddrs ready.protoVersion nowMillis with
          capabilities := ready.capabilities }).1

def applyReadyRecords (A : Attestation) (nowMillis : ℕ) (m : MeshMembership)
    (records : List ReadyRecord) : MeshMembership :=
  records.foldl (applyReadyRecord A nowMillis) m

def markConnectionState (id : RuntimeId) (state : ConnectionState) : MeshMembership :=
  match m.peers.lookup id with
  | some peer => { m with peers := m.peers.insert id { peer with connectionState := state } }
  | none => m

def hasPeer (id : RuntimeId) : Bool := (m.peers.lookup id).isSome

def records : List GossipRecord :=
  m.peers.entries.map (fun peer => peer.2.record) ++ [m.localRecord]

def deltaFor (digest : List GossipDigestEntry) : GossipMessage :=
  let remote : Table RuntimeId ℕ :=
    digest.foldl (fun remote entry => remote.insert entry.runtimeId entry.version) ∅
  let behind := m.records.filter fun record =>
    match remote.lookup record.runtimeId with
    | none => true
    | some version => version < record.version
  .delta gossipPayloadVersion
    (behind.mergeSort fun a b => a.runtimeId.toHex ≤ b.runtimeId.toHex)

def receiveGossip (payload : Option GossipMessage) : MeshMembership × Option GossipMessage :=
  match decodeMessage payload with
  | .ok (.digest _ entries) => (m, some (m.deltaFor entries))
  | .ok (.delta _ records) =>
    (records.foldl (fun m record => (m.applyGossipRecord record).1) m, none)
  | .error _ => (m, none)

/-! ### Who is in the table -/

section HasPeer

variable (m : MeshMembership) (id : RuntimeId)

lemma hasPeer_insert (id' : RuntimeId) (peer : PeerState) :
    hasPeer { m with peers := m.peers.insert id' peer } id ↔
      id = id' ∨ m.hasPeer id := by
  rw [hasPeer, Table.lookup_insert_if]
  split_ifs with h <;> simp [h, hasPeer]

lemma hasPeer_applyGossipRecord (record : GossipRecord) :
    (m.applyGossipRecord record).1.hasPeer id ↔
      m.hasPeer id ∨ id = record.runtimeId ∧ id ≠ m.localRuntimeId := by
  unfold applyGossipRecord
  by_cases hloc : record.runtimeId = m.localRuntimeId
  · rw [if_pos hloc]
    constructor
    · exact .inl
    rintro (h | ⟨rfl, hne⟩)
    · exact h
    · exact absurd hloc hne
  rw [if_neg hloc]
  cases hpeer : m.peers.lookup record.runtimeId with
  | none =>
    dsimp only
    rw [hasPeer_insert]
    constructor
    · rintro (rfl | h)
      · exact .inr ⟨rfl, hloc⟩
      · exact .inl h
    rintro (h | ⟨rfl, -⟩)
    · exact .inr h
    · exact .inl rfl
  | some peer =>
    have hkn : m.hasPeer record.runtimeId := by simp [hasPeer, hpeer]
    dsimp only
    split_ifs
    · constructor
      · exact .inl
      rintro (h | ⟨rfl, -⟩)
      · exact h
      · exact hkn
    rw [hasPeer_insert]
    constructor
    · rintro (rfl | h)
      · exact .inl hkn
      · exact .inl h
    rintro (h | ⟨rfl, -⟩)
    · exact .inr h
    · exact .inl rfl

lemma localRuntimeId_applyGossipRecord (record : GossipRecord) :
    (m.applyGossipRecord record).1.localRuntimeId = m.localRuntimeId ∧
      (m.applyGossipRecord record).1.expectedRelayPubkey = m.expectedRelayPubkey := by
  unfold applyGossipRecord
  repeat' split
  all_goals exact ⟨rfl, rfl⟩

lemma foldl_applyGossipRecord (gossiped : List GossipRecord) :
    let m' := gossiped.foldl (fun m record => (m.applyGossipRecord record).1) m
    (m'.hasPeer id ↔ m.hasPeer id ∨
      ∃ record ∈ gossiped, id = record.runtimeId ∧ id ≠ m.localRuntimeId) ∧
    m'.localRuntimeId = m.localRuntimeId ∧ m'.expectedRelayPubkey = m.expectedRelayPubkey := by
  induction gossiped generalizing m with
  | nil => simp
  | cons record gossiped ih =>
    obtain ⟨hpeer, hloc, hwant⟩ := ih (m.applyGossipRecord record).1
    obtain ⟨hlocal', hexpected'⟩ := localRuntimeId_applyGossipRecord m record
    refine ⟨?_, hloc.trans hlocal', hwant.trans hexpected'⟩
    rw [List.foldl_cons, hpeer, hasPeer_applyGossipRecord, hlocal', List.exists_mem_cons_iff,
      or_assoc]

lemma applyReadyRecord_spec (A : Attestation) (now : ℕ) (ready : ReadyRecord) :
    let m' := applyReadyRecord A now m ready
    (m'.hasPeer id ↔ m.hasPeer id ∨ id = ready.runtimeId ∧ id ≠ m.localRuntimeId ∧
      ready.AttestedBy A m.expectedRelayPubkey) ∧
    m'.localRuntimeId = m.localRuntimeId ∧ m'.expectedRelayPubkey = m.expectedRelayPubkey := by
  unfold applyReadyRecord ReadyRecord.AttestedBy
  dsimp only
  split_ifs with hself hforeign
  · refine ⟨⟨.inl, ?_⟩, rfl, rfl⟩
    rintro (h | ⟨rfl, hne, -⟩)
    · exact h
    · exact absurd hself hne
  · refine ⟨⟨.inl, ?_⟩, rfl, rfl⟩
    rintro (h | ⟨-, -, hwant, -⟩)
    · exact h
    · exact absurd hwant hforeign
  cases hvf : ready.verifyAttestation A with
  | error err =>
    refine ⟨⟨.inl, ?_⟩, rfl, rfl⟩
    rintro (h | ⟨-, -, -, hok⟩)
    · exact h
    · cases hok
  | ok u =>
    refine ⟨?_, localRuntimeId_applyGossipRecord m _⟩
    rw [hasPeer_applyGossipRecord]
    have hwant : m.expectedRelayPubkey = some ready.relayPubkey := not_not.mp hforeign
    constructor
    · rintro (h | ⟨hid, hne⟩)
      · exact .inl h
      · exact .inr ⟨hid, hne, hwant, rfl⟩
    rintro (h | ⟨hid, hne, -⟩)
    · exact .inl h
    · exact .inr ⟨hid, hne⟩

/-- **The registry brings in what is attested, and nothing else.** -/
theorem applyReadyRecords_spec (A : Attestation) (now : ℕ) (ready : List ReadyRecord) :
    let m' := applyReadyRecords A now m ready
    (m'.hasPeer id ↔ m.hasPeer id ∨ ∃ r ∈ ready, id = r.runtimeId ∧
      id ≠ m.localRuntimeId ∧ r.AttestedBy A m.expectedRelayPubkey) ∧
    m'.localRuntimeId = m.localRuntimeId ∧ m'.expectedRelayPubkey = m.expectedRelayPubkey := by
  induction ready generalizing m with
  | nil => simp [applyReadyRecords]
  | cons r ready ih =>
    obtain ⟨hpeer, hloc, hwant⟩ := ih (applyReadyRecord A now m r)
    obtain ⟨hpeer', hlocal', hexpected'⟩ := applyReadyRecord_spec m id A now r
    refine ⟨?_, hloc.trans hlocal', hwant.trans hexpected'⟩
    unfold applyReadyRecords at hpeer ⊢
    rw [List.foldl_cons, hpeer, hpeer', hlocal', hexpected', List.exists_mem_cons_iff, or_assoc]

end HasPeer

end MeshMembership

end Buzz.Mesh
