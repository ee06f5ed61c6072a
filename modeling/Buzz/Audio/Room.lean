import Buzz.Tunnel.Directory
import Mathlib.Data.Finset.Basic

/-!
Audio rooms.

A room is the list of its peers, each with a sink for frames: the socket of a client of this relay,
or the link to the relay that has the client.  The admission guard gives out routing indices, with an
epoch that counts how often an index was given out.  A frame goes to the sinks of all peers but its
author, who is known by its id or, if the frame came from another relay, by its index.

Peer ids are random in the source and count up here; peers come in the order of admission, where the
source has no order.  Rosters and control messages are left out.
-/

namespace Buzz.Audio

open Buzz.Core Lib List
open Mesh (RuntimeId)
open Tunnel (FencedHeader)

/-- Where the frames for a peer go. -/
inductive AudioSink
  | socket
  | mesh (pod : RuntimeId) (fenced : FencedHeader)
deriving DecidableEq

structure AudioPeer where
  peerId : ℕ
  peerIndex : UInt8
  epoch : UInt8
  protocolVersion : UInt8
  audioTx : AudioSink
deriving DecidableEq

def maxPeersPerRoom : ℕ := 25

inductive AdmissionError
  | ended
  | full
  | versionMismatch (pinned requested : UInt8)

/-! ### The admission guard -/

structure AdmissionGuard where
  nextCandidate : UInt8
  activeIndices : Finset UInt8
  indexEpochs : Table UInt8 UInt8
  ended : Bool
  pinnedVersion : Option UInt8

namespace AdmissionGuard

def new : AdmissionGuard := ⟨0, ∅, ∅, false, none⟩

/-- The indices are 0 to 254. -/
def following (idx : UInt8) : UInt8 := if idx = 254 then 0 else idx + 1

variable (g : AdmissionGuard)

def nextEpochFor (idx : UInt8) : UInt8 × AdmissionGuard :=
  let epoch := (g.indexEpochs.lookup idx).getD 0
  (epoch, { g with indexEpochs := g.indexEpochs.insert idx (epoch + 1) })

def allocLoop : ℕ → AdmissionGuard → Option (UInt8 × UInt8) × AdmissionGuard
  | 0, g => (none, g)
  | n + 1, g =>
    let idx := g.nextCandidate
    let g := { g with nextCandidate := following idx }
    if idx ∈ g.activeIndices then allocLoop n g
    else
      let (epoch, g) := { g with activeIndices := insert idx g.activeIndices }.nextEpochFor idx
      (some (idx, epoch), g)

def alloc : Option (UInt8 × UInt8) × AdmissionGuard := allocLoop 255 g

def pin (version : UInt8) : AdmissionGuard :=
  { g with pinnedVersion := some (g.pinnedVersion.getD version) }

def checkVersion (requested : UInt8) : Except AdmissionError Unit :=
  match g.pinnedVersion with
  | some pinned => refuseIf (pinned ≠ requested) (.versionMismatch pinned requested)
  | none => .ok ()

end AdmissionGuard

/-! ### Rooms -/

structure Room where
  communityId : CommunityId
  channelId : Uuid
  peers : List AudioPeer
  guard : AdmissionGuard
  nextPeerId : ℕ

namespace Room

def new (communityId : CommunityId) (channelId : Uuid) : Room := ⟨communityId, channelId, [], .new, 0⟩

variable (room : Room)

def admitPeer (guard : AdmissionGuard) (peerIndex epoch version : UInt8)
    (sink : AudioSink) : AudioPeer × Room :=
  let peer : AudioPeer := ⟨room.nextPeerId, peerIndex, epoch, version, sink⟩
  (peer, { room with peers := room.peers ++ [peer], guard, nextPeerId := room.nextPeerId + 1 })

/-- What is checked of every new peer; `taken` if its index is not free. -/
def admissible (version : UInt8) (taken : Bool) : Except AdmissionError Unit := do
  refuseIf (room.guard.ended) .ended
  refuseIf (room.peers.length ≥ maxPeersPerRoom ∨ taken) .full
  room.guard.checkVersion version

def addPeer (version : UInt8) (sink : AudioSink) : Except AdmissionError AudioPeer × Room :=
  match room.admissible version false with
  | .error e => (.error e, room)
  | .ok () =>
    match room.guard.alloc with
    | (none, g) => (.error .full, { room with guard := g })
    | (some (peerIndex, epoch), g) =>
      let (peer, room) := room.admitPeer (g.pin version) peerIndex epoch version sink
      (.ok peer, room)

/-- Admit a peer at the index that the huddle's owner has given it. -/
def addPeerAtIndex (version peerIndex : UInt8) (sink : AudioSink) :
    Except AdmissionError AudioPeer × Room :=
  match room.admissible version (decide (peerIndex ∈ room.guard.activeIndices)) with
  | .error e => (.error e, room)
  | .ok () =>
    let g := room.guard.pin version
    let g := { g with activeIndices := insert peerIndex g.activeIndices }
    let (epoch, g) := g.nextEpochFor peerIndex
    let g := { g with nextCandidate := AdmissionGuard.following peerIndex }
    let (peer, room) := room.admitPeer g peerIndex epoch version sink
    (.ok peer, room)

def removePeer (peerId : ℕ) : Option AudioPeer × Room :=
  match room.peers.find? (fun p => p.peerId = peerId) with
  | none => (none, room)
  | some peer =>
    (some peer, { room with
      peers := room.peers.filter fun p => p.peerId ≠ peerId
      guard := { room.guard with activeIndices := room.guard.activeIndices.erase peer.peerIndex } })

def removePeerAndCheckEnded (peerId : ℕ) : Option (AudioPeer × Bool) × Room :=
  match room.removePeer peerId with
  | (none, room) => (none, room)
  | (some peer, room) =>
    let shouldEnd := !room.guard.ended && room.peers.isEmpty
    (some (peer, shouldEnd),
      { room with guard := { room.guard with ended := room.guard.ended || shouldEnd } })

def clearEnded : Room := { room with guard := { room.guard with ended := false } }

def framePrefix (peerIndex epoch version : UInt8) : List UInt8 :=
  if version ≥ 3 then [peerIndex, epoch] else [peerIndex]

/-- The frames that are put into sinks for a frame of a peer of this room. -/
def broadcastFrame (senderId : ℕ) (frame : List UInt8) : List (AudioPeer × List UInt8) :=
  match room.peers.find? (fun p => p.peerId = senderId) with
  | none => []
  | some sender =>
    (room.peers.filter fun p => p.peerId ≠ senderId).map fun p =>
      (p, framePrefix sender.peerIndex sender.epoch sender.protocolVersion ++ frame)

def deliverPrefixed (authorIndex : UInt8) (prefixed : List UInt8) : List (AudioPeer × List UInt8) :=
  (room.peers.filter fun p => p.peerIndex ≠ authorIndex).map fun p => (p, prefixed)

end Room

/-! ### What admissions do -/

section Alloc

open AdmissionGuard

lemma allocLoop_some (h : allocLoop n g = (some (idx, epoch), g')) :
    idx ∉ g.activeIndices ∧ g'.activeIndices = insert idx g.activeIndices ∧
      g'.pinnedVersion = g.pinnedVersion := by
  induction n generalizing g with
  | zero => cases h
  | succ n ih =>
    rw [allocLoop] at h
    dsimp only at h
    split_ifs at h with htk
    · obtain ⟨hfree, hact, hpinned⟩ := ih h
      exact ⟨hfree, hact, hpinned⟩
    obtain ⟨hfnd, rfl⟩ := Prod.mk.inj h
    cases hfnd
    exact ⟨htk, rfl, rfl⟩

lemma allocLoop_none (h : allocLoop n g = (none, g')) :
    g'.activeIndices = g.activeIndices ∧ g'.pinnedVersion = g.pinnedVersion := by
  induction n generalizing g with
  | zero =>
    cases h
    exact ⟨rfl, rfl⟩
  | succ n ih =>
    rw [allocLoop] at h
    dsimp only at h
    split_ifs at h with htk
    · obtain ⟨hact, hpinned⟩ := ih h
      exact ⟨hact, hpinned⟩
    · cases h

end Alloc

namespace Room

/-- The guard's indices are those of the peers, which have each its own; ids are given out once. -/
structure Ok (room : Room) : Prop where
  active : ∀ idx, idx ∈ room.guard.activeIndices ↔ idx ∈ room.peers.map AudioPeer.peerIndex
  indices : (room.peers.map AudioPeer.peerIndex).Nodup
  ids : (room.peers.map AudioPeer.peerId).Nodup
  fresh : ∀ p ∈ room.peers, p.peerId < room.nextPeerId

section Admission

variable {room : Room}

lemma ok_new (communityId : CommunityId) (channelId : Uuid) : Ok (new communityId channelId) where
  active idx := by simp [new, AdmissionGuard.new]
  indices := nodup_nil
  ids := nodup_nil
  fresh p hp := by cases hp

lemma Ok.admitPeer (h : Ok room) (hfree : idx ∉ room.guard.activeIndices)
    (hact : g.activeIndices = insert idx room.guard.activeIndices) :
    Ok (room.admitPeer g idx epoch version sink).2 := by
  rw [h.active] at hfree
  refine ⟨?_, ?_, ?_, ?_⟩
  · intro i
    simp only [Room.admitPeer, hact, Finset.mem_insert, h.active, map_append, mem_append,
      map_cons, map_nil, mem_singleton]
    tauto
  · simp only [Room.admitPeer, map_append, map_cons, map_nil, nodup_append, mem_singleton]
    exact ⟨h.indices, nodup_singleton _, fun a ha b hb => by
      rintro rfl
      exact hfree (hb ▸ ha)⟩
  · simp only [Room.admitPeer, map_append, map_cons, map_nil, nodup_append, mem_singleton, mem_map]
    refine ⟨h.ids, nodup_singleton _, ?_⟩
    rintro a ⟨p, hp, rfl⟩ b rfl heq
    have hlt := h.fresh p hp
    omega
  intro p hp
  simp only [Room.admitPeer, mem_append, mem_singleton] at hp ⊢
  rcases hp with hp | rfl
  · exact Nat.lt_succ_of_lt (h.fresh p hp)
  · exact Nat.lt_succ_self _

lemma addPeer_cases (room : Room) (version : UInt8) (sink : AudioSink) :
    (∃ e g, room.addPeer version sink = (.error e, { room with guard := g }) ∧
      g.activeIndices = room.guard.activeIndices) ∨
    (∃ g idx epoch, room.addPeer version sink =
        (.ok (room.admitPeer g idx epoch version sink).1, (room.admitPeer g idx epoch version sink).2) ∧
      idx ∉ room.guard.activeIndices ∧
      g.activeIndices = insert idx room.guard.activeIndices) := by
  unfold addPeer
  split
  · next e _ => exact .inl ⟨e, room.guard, rfl, rfl⟩
  split
  · next g halloc => exact .inl ⟨.full, g, rfl, (allocLoop_none halloc).1⟩
  next idx epoch g halloc =>
  obtain ⟨hfree, hact, _⟩ := allocLoop_some halloc
  exact .inr ⟨g.pin version, idx, epoch, rfl, hfree, hact⟩

lemma addPeerAtIndex_cases (room : Room) (version idx : UInt8) (sink : AudioSink) :
    (∃ e, room.addPeerAtIndex version idx sink = (.error e, room)) ∨
    (∃ g epoch, room.addPeerAtIndex version idx sink =
        (.ok (room.admitPeer g idx epoch version sink).1, (room.admitPeer g idx epoch version sink).2) ∧
      idx ∉ room.guard.activeIndices ∧ g.activeIndices = insert idx room.guard.activeIndices) := by
  unfold addPeerAtIndex
  split
  · next e _ => exact .inl ⟨e, rfl⟩
  next hadmissible =>
  right
  refine ⟨_, _, rfl, ?_, rfl⟩
  simp only [admissible, bind_eq_ok, refuseIf_eq_ok, not_or, decide_eq_true_eq] at hadmissible
  obtain ⟨_, _, _, ⟨_, hfree⟩, _⟩ := hadmissible
  exact hfree

lemma Ok.addPeer (h : Ok room) (version : UInt8) (sink : AudioSink) :
    Ok (room.addPeer version sink).2 := by
  rcases addPeer_cases room version sink with
    ⟨e, g, heq, hact⟩ | ⟨g, idx, epoch, heq, hfree, hact⟩
  · rw [heq]
    exact ⟨fun i => by rw [hact]; exact h.active i, h.indices, h.ids, h.fresh⟩
  · rw [heq]
    exact h.admitPeer hfree hact

lemma Ok.addPeerAtIndex (h : Ok room) (version idx : UInt8) (sink : AudioSink) :
    Ok (room.addPeerAtIndex version idx sink).2 := by
  rcases addPeerAtIndex_cases room version idx sink with ⟨e, heq⟩ | ⟨g, epoch, heq, hfree, hact⟩
  · rw [heq]
    exact h
  · rw [heq]
    exact h.admitPeer hfree hact

lemma removePeer_peers (room : Room) (peerId : ℕ) :
    (room.removePeer peerId).2.peers = room.peers.filter fun p => p.peerId ≠ peerId := by
  unfold removePeer
  split
  · next hnone =>
    rw [find?_eq_none] at hnone
    exact (filter_eq_self.mpr fun p hp => by simpa using hnone p hp).symm
  · rfl

lemma Ok.removePeer (h : Ok room) (peerId : ℕ) : Ok (room.removePeer peerId).2 := by
  have hps := removePeer_peers room peerId
  refine ⟨?_, ?_, ?_, ?_⟩
  · intro idx
    rw [hps]
    unfold Room.removePeer
    split
    · next hnone =>
      rw [find?_eq_none] at hnone
      rw [filter_eq_self.mpr fun p hp => by simpa using hnone p hp]
      exact h.active idx
    next peer hfind =>
    have hmem := mem_of_find?_eq_some hfind
    have hid : peer.peerId = peerId := by simpa using find?_some hfind
    simp only [Finset.mem_erase, h.active, mem_map, mem_filter, decide_eq_true_eq]
    constructor
    · rintro ⟨hne, p, hp, rfl⟩
      refine ⟨p, ⟨hp, ?_⟩, rfl⟩
      intro heq
      exact hne (congrArg AudioPeer.peerIndex
        (inj_on_of_nodup_map h.ids hp hmem (heq.trans hid.symm)))
    rintro ⟨p, ⟨hp, hne⟩, rfl⟩
    refine ⟨?_, p, hp, rfl⟩
    intro heq
    exact hne ((congrArg AudioPeer.peerId (inj_on_of_nodup_map h.indices hp hmem heq)).trans hid)
  · rw [hps]
    exact h.indices.sublist (filter_sublist.map _)
  · rw [hps]
    exact h.ids.sublist (filter_sublist.map _)
  intro p hp
  rw [hps] at hp
  have hlt := h.fresh p (mem_of_mem_filter hp)
  unfold Room.removePeer
  split
  · exact hlt
  · exact hlt

end Admission

end Room

end Buzz.Audio
