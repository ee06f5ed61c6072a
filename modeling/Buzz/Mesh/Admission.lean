import Buzz.Lib.Run
import Buzz.Mesh.Membership
import Mathlib.Data.List.Induction

/-!
Who is admitted to the mesh.

A runtime scans the ready registry, dials the peers it knows, accepts connections of runtimes that
are in its membership table, and takes over what its peers gossip.  Ids come into the table in two
ways, of which only the registry's asks for an attestation: `hasPeer_attested` holds for the runs in
which gossip brings no id that is not in the table already.
-/

namespace Buzz.Mesh

open Lib List MeshMembership Buzz.Core.PublicKey

/-! ### The runtime -/

/-- A connection: who dialed it, and whether its control stream has a writer. -/
structure PeerEntry where
  dialedByUs : Bool
  control : Bool

structure MeshRuntime where
  membership : MeshMembership
  peers : Table RuntimeId PeerEntry := ∅
  /-- The peers whose gossip is read.  The task that reads it does not end with the connection's
  entry. -/
  exchanges : List RuntimeId := []
  /-- The inbound connections that were let in. -/
  admitted : List RuntimeId := []

/-- Of two connections the one that the smaller runtime dialed wins. -/
def newConnectionWins (own remote : RuntimeId) (newDialedByUs : Bool) : Bool :=
  if own.bits < remote.bits then newDialedByUs else !newDialedByUs

/-- The admission check of an inbound connection.  An id that is not known has the registry scanned
once more, if there is one and it answers. -/
def isKnownPeer (A : Attestation) (now : ℕ) (m : MeshMembership) (id : RuntimeId)
    (rescan : Option (List (String × Option ReadyRecord))) : MeshMembership × Bool :=
  if m.hasPeer id then (m, true)
  else
    let m := match rescan with
      | some entries => m.applyReadyRecords A now (scanReady A entries)
      | none => m
    (m, m.hasPeer id)

namespace MeshRuntime

def start (membership : MeshMembership) : MeshRuntime where
  membership := membership

def installPeer (s : MeshRuntime) (remote : RuntimeId) (dialedByUs : Bool) : MeshRuntime :=
  if (s.peers.lookup remote).isSome &&
      !newConnectionWins s.membership.localRuntimeId remote dialedByUs then s
  else
    { s with
      peers := s.peers.insert remote ⟨dialedByUs, dialedByUs⟩
      membership := s.membership.markConnectionState remote .connected }

def removePeer (s : MeshRuntime) (id : RuntimeId) : MeshRuntime :=
  if (s.peers.lookup id).isSome then
    { s with
      peers := s.peers.erase id
      membership := s.membership.markConnectionState id .disconnected }
  else s

/-- One round of the dial loop: a peer that is known, not draining and not connected is dialed. -/
def dialPeer (s : MeshRuntime) (id : RuntimeId) (connects : Bool) : MeshRuntime :=
  let candidate := s.membership.records.any fun record =>
    record.runtimeId = id && record.runtimeId ≠ s.membership.localRuntimeId && !record.draining
  if candidate && (s.peers.lookup id).isNone then
    if connects then installPeer s id true
    else { s with membership := s.membership.markConnectionState id .disconnected }
  else s

end MeshRuntime

open MeshRuntime

inductive MeshEvent
  | scan (now : ℕ) (entries : List (String × Option ReadyRecord))
  | dial (id : RuntimeId) (connects : Bool)
  | inbound (now : ℕ) (remote : RuntimeId) (rescan : Option (List (String × Option ReadyRecord)))
  /-- The control stream of a connection is up. -/
  | control (remote : RuntimeId)
  | gossip (remote : RuntimeId) (payload : Option GossipMessage)
  | disconnect (id : RuntimeId)

namespace MeshRuntime

def step (A : Attestation) (s : MeshRuntime) : MeshEvent → MeshRuntime
  | .scan now entries =>
    { s with membership := s.membership.applyReadyRecords A now (scanReady A entries) }
  | .dial id connects => s.dialPeer id connects
  | .inbound now remote rescan =>
    let (m, known) := isKnownPeer A now s.membership remote rescan
    let s := { s with membership := m }
    if known then installPeer { s with admitted := remote :: s.admitted } remote false else s
  | .control remote =>
    { s with
      peers := match s.peers.lookup remote with
        | some entry => s.peers.insert remote { entry with control := true }
        | none => s.peers
      exchanges := remote :: s.exchanges }
  | .gossip remote payload =>
    if remote ∈ s.exchanges then
      { s with membership := (s.membership.receiveGossip payload).1 }
    else s
  | .disconnect id => s.removePeer id

def run (s : MeshRuntime) (A : Attestation) (evs : List MeshEvent) : MeshRuntime :=
  evs.foldl (step A) s

end MeshRuntime

/-! ### Attested ids -/

def MeshEvent.readyRecords : MeshEvent → List ReadyRecord
  | scan _ entries => entries.filterMap Prod.snd
  | inbound _ _ (some entries) => entries.filterMap Prod.snd
  | _ => []

/-- The id stands in a ready record of the registry that the expected key has signed. -/
def Attested (A : Attestation) (expected : Option String) (evs : List MeshEvent) (id : RuntimeId) :
    Prop :=
  ∃ ready ∈ evs.flatMap MeshEvent.readyRecords, id = ready.runtimeId ∧ ready.AttestedBy A expected

def gossipedIds (payload : Option GossipMessage) : List RuntimeId :=
  match decodeMessage payload with
  | .ok (.delta _ records) => records.map GossipRecord.runtimeId
  | _ => []

/-- Gossip that is read brings no id but the own one and those that are in the table. -/
def Vouched (s : MeshRuntime) : MeshEvent → Prop
  | .gossip remote payload => remote ∈ s.exchanges →
    ∀ id ∈ gossipedIds payload, id = s.membership.localRuntimeId ∨ s.membership.hasPeer id
  | _ => True

instance (s : MeshRuntime) : ∀ ev, Decidable (Vouched s ev)
  | .gossip remote payload => inferInstanceAs (Decidable (remote ∈ s.exchanges →
      ∀ id ∈ gossipedIds payload,
        id = s.membership.localRuntimeId ∨ s.membership.hasPeer id))
  | .scan _ _ | .dial _ _ | .inbound _ _ _ | .control _ | .disconnect _ =>
    inferInstanceAs (Decidable True)

section Admission

variable {A : Attestation} {s : MeshRuntime} {m m' m'' : MeshMembership} {found : List ReadyRecord}

lemma mem_scanReady (h : ready ∈ scanReady A entries) : ready ∈ entries.filterMap Prod.snd := by
  obtain ⟨⟨key, decoded⟩, hent, hsome⟩ := mem_filterMap.mp h
  refine mem_filterMap.mpr ⟨(key, decoded), hent, ?_⟩
  cases decoded with
  | none => cases hsome
  | some record =>
    dsimp only at hsome ⊢
    split_ifs at hsome
    split at hsome
    · exact hsome
    · cases hsome

/-- What a change of the table keeps, and what it brings: the attested ids of some records. -/
structure Grows (A : Attestation) (found : List ReadyRecord) (m m' : MeshMembership) : Prop where
  local_eq : m'.localRuntimeId = m.localRuntimeId
  expected_eq : m'.expectedRelayPubkey = m.expectedRelayPubkey
  kept : ∀ id, m.hasPeer id → m'.hasPeer id
  brought : ∀ id, m'.hasPeer id → m.hasPeer id ∨
    ∃ ready ∈ found, id = ready.runtimeId ∧ ready.AttestedBy A m.expectedRelayPubkey

lemma Grows.refl (m : MeshMembership) : Grows A found m m :=
  ⟨rfl, rfl, fun _ h => h, fun _ h => .inl h⟩

lemma Grows.trans (h : Grows A found m m') (h' : Grows A found m' m'') : Grows A found m m'' where
  local_eq := h'.local_eq.trans h.local_eq
  expected_eq := h'.expected_eq.trans h.expected_eq
  kept := fun id hid => h'.kept id (h.kept id hid)
  brought := by
    intro id hid
    rcases h'.brought id hid with hid | hfnd
    · exact h.brought id hid
    · rw [h.expected_eq] at hfnd
      exact .inr hfnd

lemma grows_markConnectionState (id : RuntimeId) (state : ConnectionState) :
    Grows A found m (m.markConnectionState id state) := by
  unfold markConnectionState
  cases hpeer : m.peers.lookup id with
  | none => exact .refl m
  | some peer =>
    have hkn : m.hasPeer id := by simp [hasPeer, hpeer]
    refine ⟨rfl, rfl, ?_, ?_⟩
    · intro id' h
      exact (m.hasPeer_insert id' id _).mpr (.inr h)
    intro id' h
    rcases (m.hasPeer_insert id' id _).mp h with rfl | h
    · exact .inl hkn
    · exact .inl h

lemma grows_scan (now : ℕ) (entries : List (String × Option ReadyRecord)) :
    Grows A (entries.filterMap Prod.snd) m (m.applyReadyRecords A now (scanReady A entries)) := by
  have hspec := fun id => m.applyReadyRecords_spec id A now (scanReady A entries)
  refine ⟨(hspec m.localRuntimeId).2.1, (hspec m.localRuntimeId).2.2, ?_, ?_⟩
  · intro id' h
    exact (hspec id').1.mpr (.inl h)
  intro id' h
  rcases (hspec id').1.mp h with h | ⟨ready, hmem, hid, -, hatt⟩
  · exact .inl h
  · exact .inr ⟨ready, mem_scanReady hmem, hid, hatt⟩

lemma grows_installPeer (remote : RuntimeId) (dialedByUs : Bool) :
    Grows A found s.membership (s.installPeer remote dialedByUs).membership := by
  unfold installPeer
  split_ifs
  · exact .refl _
  · exact grows_markConnectionState remote .connected

lemma grows_isKnownPeer (now : ℕ) (remote : RuntimeId)
    (rescan : Option (List (String × Option ReadyRecord))) :
    Grows A (MeshEvent.inbound now remote rescan).readyRecords m
      (isKnownPeer A now m remote rescan).1 := by
  unfold isKnownPeer
  split_ifs
  · exact .refl m
  cases rescan with
  | none => exact .refl m
  | some entries => exact grows_scan now entries

lemma grows_receiveGossip (h : ∀ id ∈ gossipedIds payload, id = m.localRuntimeId ∨ m.hasPeer id) :
    Grows A found m (m.receiveGossip payload).1 := by
  unfold receiveGossip
  unfold gossipedIds at h
  split
  case h_1 => exact .refl m
  case h_2 version records hdec =>
    rw [hdec] at h
    have hspec := fun id => m.foldl_applyGossipRecord id records
    refine ⟨(hspec m.localRuntimeId).2.1, (hspec m.localRuntimeId).2.2, ?_, ?_⟩
    · intro id hid
      exact (hspec id).1.mpr (.inl hid)
    intro id hid
    rcases (hspec id).1.mp hid with hid | ⟨record, hmem, rfl, hne⟩
    · exact .inl hid
    -- the own id is not taken over, and the others were there
    rcases h record.runtimeId (mem_map.mpr ⟨record, hmem, rfl⟩) with hloc | hkn
    · exact absurd hloc hne
    · exact .inl hkn
  case h_3 => exact .refl m

variable {ev : MeshEvent}

/-- **One step.** The table keeps what it has, and if gossip is vouched for, what is new in it is
attested. -/
theorem grows_step (h : Vouched s ev) :
    Grows A ev.readyRecords s.membership (s.step A ev).membership := by
  cases ev with
  | scan now entries => exact grows_scan now entries
  | dial id connects =>
    simp only [step, dialPeer]
    split_ifs
    · exact grows_installPeer id true
    · exact grows_markConnectionState id .disconnected
    · exact .refl _
  | inbound now remote rescan =>
    have hkn := grows_isKnownPeer (A := A) (m := s.membership) now remote rescan
    simp only [step]
    split_ifs
    · apply hkn.trans
      exact grows_installPeer (s := ⟨_, _, _, _⟩) remote false
    · exact hkn
  | control remote => exact .refl _
  | gossip remote payload =>
    simp only [step]
    split_ifs with hread
    · exact grows_receiveGossip (h hread)
    · exact .refl _
  | disconnect id =>
    simp only [step, removePeer]
    split_ifs
    · exact grows_markConnectionState id .disconnected
    · exact .refl _

lemma admitted_installPeer (remote : RuntimeId) (dialedByUs : Bool) :
    (s.installPeer remote dialedByUs).admitted = s.admitted := by
  unfold installPeer
  split_ifs <;> rfl

lemma admitted_step (h : Vouched s ev) (hs : ∀ id ∈ s.admitted, s.membership.hasPeer id) :
    ∀ id ∈ (s.step A ev).admitted, (s.step A ev).membership.hasPeer id := by
  have hkept := (grows_step (A := A) h).kept
  have hsame : (s.step A ev).admitted = s.admitted →
      ∀ id ∈ (s.step A ev).admitted, (s.step A ev).membership.hasPeer id := by
    intro heq id hid
    rw [heq] at hid
    exact hkept id (hs id hid)
  cases ev with
  | scan now entries => exact hsame rfl
  | dial id connects =>
    apply hsame
    simp only [step, dialPeer]
    split_ifs
    · exact admitted_installPeer id true
    · rfl
    · rfl
  | inbound now remote rescan =>
    by_cases hkn : (isKnownPeer A now s.membership remote rescan).2
    · intro id hid
      have hin : (isKnownPeer A now s.membership remote rescan).1.hasPeer remote := by
        unfold isKnownPeer at hkn ⊢
        split_ifs at hkn ⊢ with hthere
        · exact hthere
        · exact hkn
      simp only [step, hkn, if_true] at hid hkept ⊢
      rw [admitted_installPeer] at hid
      rcases mem_cons.mp hid with rfl | hid
      · have hinst : ∀ s' : MeshRuntime, Grows A [] s'.membership
            (s'.installPeer id false).membership := fun s' => grows_installPeer id false
        exact (hinst _).kept id hin
      · exact hkept id (hs id hid)
    · apply hsame
      simp only [step, if_neg hkn]
  | control remote => exact hsame rfl
  | gossip remote payload =>
    apply hsame
    simp only [step]
    split_ifs <;> rfl
  | disconnect id =>
    apply hsame
    simp only [step, removePeer]
    split_ifs <;> rfl

lemma Attested.append {id : RuntimeId}
    (h : Attested A expected evs id) (ev : MeshEvent) : Attested A expected (evs ++ [ev]) id := by
  obtain ⟨ready, hmem, hrdy⟩ := h
  refine ⟨ready, ?_, hrdy⟩
  rw [flatMap_append]
  exact mem_append_left _ hmem

/-- What holds after vouched events: ids in the table are attested, and who was let in is there. -/
structure Anchored (A : Attestation) (expected : Option String) (evs : List MeshEvent)
    (s : MeshRuntime) : Prop where
  expected_eq : s.membership.expectedRelayPubkey = expected
  peers : ∀ id, s.membership.hasPeer id → Attested A expected evs id
  admitted : ∀ id ∈ s.admitted, s.membership.hasPeer id

lemma anchored_start (record : GossipRecord) (expected : Option String) :
    Anchored A expected [] (.start (.fresh record expected)) := by
  have hfr : (fresh record expected).peers = ∅ ∧
      (fresh record expected).expectedRelayPubkey = expected := by
    cases expected <;> exact ⟨rfl, rfl⟩
  refine ⟨hfr.2, ?_, ?_⟩
  · intro id hid
    simp [start, hasPeer, hfr.1] at hid
  · intro id hid
    cases hid

lemma Anchored.step (h : Anchored A expected evs s) (hvouched : Vouched s ev) :
    Anchored A expected (evs ++ [ev]) (s.step A ev) := by
  have hgrows := grows_step (A := A) hvouched
  refine ⟨hgrows.expected_eq.trans h.expected_eq, ?_, admitted_step hvouched h.admitted⟩
  intro id hid
  rcases hgrows.brought id hid with hid | ⟨ready, hmem, hrdy, hatt⟩
  · exact (h.peers id hid).append ev
  rw [h.expected_eq] at hatt
  refine ⟨ready, ?_, hrdy, hatt⟩
  rw [flatMap_append]
  exact mem_append_right _ (by simpa using hmem)

lemma anchored_run (record : GossipRecord) (expected : Option String) (evs : List MeshEvent)
    (h : AllSteps (step A) Vouched (.start (.fresh record expected)) evs) :
    Anchored A expected evs (run (.start (.fresh record expected)) A evs) := by
  induction evs using reverseRecOn with
  | nil => exact anchored_start record expected
  | append_singleton evs ev ih =>
    obtain ⟨hpre, hlast, -⟩ := allSteps_append.mp h
    have hnext := (ih hpre).step hlast
    unfold run at hnext ⊢
    rw [foldl_concat]
    exact hnext

/-- **Only attested runtimes are known and admitted.**  In every run from an empty table whose
gossip is vouched for, every id in the table, and every inbound connection that was let in, stands
in a ready record signed by the expected key. -/
theorem hasPeer_attested (A : Attestation) (record : GossipRecord) (expected : Option String)
    (evs : List MeshEvent)
    (h : AllSteps (MeshRuntime.step A) Vouched (.start (.fresh record expected)) evs)
    (id : RuntimeId)
    (hid : (MeshRuntime.run (.start (.fresh record expected)) A evs).membership.hasPeer id = true ∨
      id ∈ (MeshRuntime.run (.start (.fresh record expected)) A evs).admitted) :
    Attested A expected evs id := by
  have hanchored := anchored_run record expected evs h
  rcases hid with hid | hid
  · exact hanchored.peers id hid
  · exact hanchored.peers id (hanchored.admitted id hid)

end Admission

/-! ### A runtime that only a peer vouches for -/

def demoAttestation : Attestation where
  Signature := Unit
  publicKeyFromHex := fun text =>
    if text = (mk 5).toHex then .ok ⟨5⟩ else .error "no such key"
  xonly := fun key => .ok key
  signatureFromStr := fun text => if text = "signed" then .ok () else .error "malformed signature"
  sha256 := fun bytes => bytes
  verifySchnorr := fun _ message _ =>
    if message = Git.utf8 (attestationPreimage ⟨2⟩ (mk 5).toHex) then .ok ()
    else .error "signature failed verification"

def demoRecord (id : RuntimeId) : GossipRecord := .new id ["127.0.0.1:3478"] 1 1000

def demoEntries : List (String × Option ReadyRecord) :=
  [(readyKey ⟨2⟩, some ⟨⟨2⟩, RuntimeId.toHex ⟨2⟩, (mk 5).toHex, "signed",
    ["127.0.0.1:3478"], 1, []⟩)]

def demoStart : MeshRuntime :=
  .start (.fresh (demoRecord ⟨1⟩) (some (mk 5).toHex))

def demoGossip : List MeshEvent :=
  [.scan 1000 demoEntries, .inbound 1000 ⟨2⟩ none, .control ⟨2⟩,
    .gossip ⟨2⟩ (some (.delta 1 [demoRecord ⟨9⟩])), .inbound 1000 ⟨9⟩ (some demoEntries)]

/-- Runtime 9 is in the table, and its connection is let in, but no ready record names it. -/
theorem unattested_admitted :
    (demoStart.run demoAttestation demoGossip).membership.hasPeer ⟨9⟩ = true ∧
    ⟨9⟩ ∈ (demoStart.run demoAttestation demoGossip).admitted ∧
    ∀ ready ∈ demoGossip.flatMap MeshEvent.readyRecords, ready.runtimeId ≠ ⟨9⟩ := by
  decide +kernel

def demoVouched : List MeshEvent :=
  [.scan 1000 demoEntries, .inbound 1000 ⟨2⟩ none, .control ⟨2⟩,
    .gossip ⟨2⟩ (some (.delta 1 [{ demoRecord ⟨2⟩ with version := 2 }])),
    .inbound 1000 ⟨9⟩ (some demoEntries)]

theorem demo_hasPeer_attested :
    (demoStart.run demoAttestation demoVouched).admitted = [⟨2⟩] ∧
    Attested demoAttestation (some (Core.PublicKey.mk 5).toHex) demoVouched ⟨2⟩ := by
  have hin : (demoStart.run demoAttestation demoVouched).admitted = [⟨2⟩] := by decide +kernel
  refine ⟨hin, hasPeer_attested demoAttestation (demoRecord ⟨1⟩) _ demoVouched (by decide +kernel)
    ⟨2⟩ (.inr ?_)⟩
  change ⟨2⟩ ∈ (demoStart.run demoAttestation demoVouched).admitted
  rw [hin]
  exact mem_singleton_self _

end Buzz.Mesh
