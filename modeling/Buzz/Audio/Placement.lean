import Buzz.Audio.Huddle

/-!
Where the participants of a huddle are.

After any joins, leaves and frames the owner's room has a peer for each participant, and every other
relay's room one for each of its own, at the indices that the owner gave out (`Huddle.Ok`).
-/

namespace Buzz.Audio

open Buzz.Core Lib List Function Participant Room
open Mesh (RuntimeId)

def Participant.ownerPeer (cfg : HuddleConfig) (p : Participant) : AudioPeer where
  peerId := p.ownerPeerId
  peerIndex := p.peerIndex
  epoch := p.epoch
  protocolVersion := p.protocolVersion
  audioTx := if p.pod = cfg.owner then .socket else .mesh p.pod cfg.fenced

def Participant.localPeer (p : Participant) : AudioPeer :=
  ⟨p.localPeerId, p.peerIndex, p.localEpoch, p.protocolVersion, .socket⟩

namespace Huddle

/-! ### Rooms -/

variable {cfg : HuddleConfig}

section Rooms

variable (h : Huddle)

lemma room_eq (pod : RuntimeId) : h.room cfg pod =
    ((h.routers pod).rooms.lookup (cfg.communityId, cfg.channelId)).getD
      (Room.new cfg.communityId cfg.channelId) := by
  unfold room AudioRoomManager.getOrCreate
  split
  · next hroom => rw [hroom]; rfl
  · next hnone => rw [hnone]; rfl

variable (pod pod' : RuntimeId)

@[simp] lemma room_setRoom (r : Room) :
    (h.setRoom cfg pod r).room cfg pod' = if pod' = pod then r else h.room cfg pod' := by
  by_cases hpod : pod' = pod
  · subst hpod
    simp [room_eq, setRoom, setRouter]
  · simp [room_eq, setRoom, setRouter, hpod]

@[simp] lemma room_addParticipant (p : Participant) (pod : RuntimeId) :
    (h.addParticipant p).room cfg pod = h.room cfg pod := rfl

lemma room_cleanup (cfg : HuddleConfig) (h : Huddle) (pod pod' : RuntimeId) :
    (h.cleanup cfg pod).room cfg pod' = h.room cfg pod' ∨ (h.room cfg pod').peers = [] ∧
        (h.cleanup cfg pod).room cfg pod' = Room.new cfg.communityId cfg.channelId := by
  by_cases hpod : pod' = pod
  · subst hpod
    simp only [room_eq, cleanup, setRouter, update_self, AudioRoomManager.cleanupIfEmpty]
    split
    · next room hroom =>
      split_ifs with hemp
      · right
        simp only [hroom, Option.getD_some, AList.lookup_erase, Option.getD_none, and_true]
        exact isEmpty_iff.mp hemp
      · exact .inl rfl
    · exact .inl rfl
  · left
    simp [room_eq, cleanup, setRouter, hpod]

lemma peers_cleanup : ((h.cleanup cfg pod).room cfg pod').peers = (h.room cfg pod').peers := by
  rcases room_cleanup cfg h pod pod' with heq | ⟨hemp, heq⟩
  · rw [heq]
  · rw [heq, hemp]
    rfl

lemma ok_cleanup (hok : (h.room cfg pod').Ok) : ((h.cleanup cfg pod).room cfg pod').Ok := by
  rcases room_cleanup cfg h pod pod' with heq | ⟨_, heq⟩
  · rwa [heq]
  · rw [heq]
    exact ok_new _ _

lemma peers_removePeerAndCheckEnded (room : Room) (peerId : ℕ) :
    (room.removePeerAndCheckEnded peerId).2.peers = room.peers.filter fun p => p.peerId ≠ peerId := by
  rw [← removePeer_peers]
  unfold removePeerAndCheckEnded
  split
  · next heq => rw [heq]
  · next heq => rw [heq]

lemma ok_removePeerAndCheckEnded {room : Room} (hok : room.Ok) (peerId : ℕ) :
    (room.removePeerAndCheckEnded peerId).2.Ok := by
  have hrem := hok.removePeer peerId
  unfold removePeerAndCheckEnded
  split
  · next heq =>
    rw [heq] at hrem
    exact hrem
  next heq =>
  rw [heq] at hrem
  exact ⟨hrem.active, hrem.indices, hrem.ids, hrem.fresh⟩

end Rooms

/-! ### The invariant -/

/-- A relay has no other room, and no later generation, and its room is in order. -/
structure Sound (cfg : HuddleConfig) (h : Huddle) : Prop where
  only : ∀ pod, ∀ key ∈ (h.routers pod).rooms, key = (cfg.communityId, cfg.channelId)
  fence : ∀ pod, ∀ g ∈ (h.routers pod).fence.lookup cfg.channelId, g ≤ cfg.generation
  rooms : ∀ pod, (h.room cfg pod).Ok

/-- The rooms have the peers of the participants. -/
structure Ok (cfg : HuddleConfig) (h : Huddle) : Prop extends Sound cfg h where
  owner : (h.room cfg cfg.owner).peers = h.participants.map (Participant.ownerPeer cfg)
  mirrors : ∀ pod, pod ≠ cfg.owner → (h.room cfg pod).peers =
    (h.participants.filter fun p => p.pod = pod).map Participant.localPeer
  atOwner : ∀ p ∈ h.participants, p.pod = cfg.owner → p.localPeerId = p.ownerPeerId

section Places

variable (hok : Ok cfg h)

include hok

lemma Ok.eq_of_ownerPeerId (hp : p ∈ h.participants)
    (hq : q ∈ h.participants) (heq : p.ownerPeerId = q.ownerPeerId) : p = q := by
  have hids := (hok.rooms cfg.owner).ids
  rw [hok.owner, map_map] at hids
  exact inj_on_of_nodup_map hids hp hq heq

lemma Ok.eq_of_peerIndex (hp : p ∈ h.participants)
    (hq : q ∈ h.participants) (heq : p.peerIndex = q.peerIndex) : p = q := by
  have hindices := (hok.rooms cfg.owner).indices
  rw [hok.owner, map_map] at hindices
  exact inj_on_of_nodup_map hindices hp hq heq

lemma Ok.eq_of_localPeerId (hp : p ∈ h.participants)
    (hq : q ∈ h.participants) (hpod : p.pod = q.pod) (heq : p.localPeerId = q.localPeerId) :
    p = q := by
  by_cases hown : q.pod = cfg.owner
  · refine hok.eq_of_ownerPeerId hp hq ?_
    rw [← hok.atOwner p hp (hpod.trans hown), ← hok.atOwner q hq hown, heq]
  have hids := (hok.rooms q.pod).ids
  rw [hok.mirrors q.pod hown, map_map] at hids
  refine inj_on_of_nodup_map hids ?_ ?_ heq
  · exact mem_filter.mpr ⟨hp, decide_eq_true hpod⟩
  · exact mem_filter.mpr ⟨hq, decide_eq_true rfl⟩

lemma Ok.nodup : h.participants.Nodup := by
  have hids := (hok.rooms cfg.owner).ids
  rw [hok.owner, map_map] at hids
  exact hids.of_map _

end Places

lemma Sound.setRoom (hs : Sound cfg h) (hr : r.Ok) (pod : RuntimeId) :
    Sound cfg (h.setRoom cfg pod r) := by
  refine ⟨?_, ?_, ?_⟩
  · intro pod' key hkey
    by_cases hpod : pod' = pod
    · subst hpod
      simp only [Huddle.setRoom, setRouter, update_self, AList.mem_insert] at hkey
      exact hkey.elim id (hs.only pod' key)
    · simp only [Huddle.setRoom, setRouter, update_of_ne hpod] at hkey
      exact hs.only pod' key hkey
  · intro pod'
    by_cases hpod : pod' = pod
    · subst hpod
      simpa only [Huddle.setRoom, setRouter, update_self] using hs.fence pod'
    · simpa only [Huddle.setRoom, setRouter, update_of_ne hpod] using hs.fence pod'
  intro pod'
  rw [room_setRoom]
  split_ifs
  · exact hr
  · exact hs.rooms pod'

lemma Sound.cleanup (hs : Sound cfg h) (pod : RuntimeId) : Sound cfg (h.cleanup cfg pod) := by
  refine ⟨?_, ?_, ?_⟩
  · intro pod' key hkey
    refine hs.only pod' key ?_
    by_cases hpod : pod' = pod
    · subst hpod
      simp only [Huddle.cleanup, setRouter, update_self, AudioRoomManager.cleanupIfEmpty] at hkey
      split at hkey
      · split_ifs at hkey
        · exact (AList.mem_erase.mp hkey).2
        · exact hkey
      · exact hkey
    · simpa only [Huddle.cleanup, setRouter, update_of_ne hpod] using hkey
  · intro pod'
    by_cases hpod : pod' = pod
    · subst hpod
      simpa only [Huddle.cleanup, setRouter, update_self] using hs.fence pod'
    · simpa only [Huddle.cleanup, setRouter, update_of_ne hpod] using hs.fence pod'
  · exact fun pod' => ok_cleanup h pod pod' (hs.rooms pod')

lemma Sound.participants (hs : Sound cfg h) (ps : List Participant) :
    Sound cfg { h with participants := ps } := ⟨hs.only, hs.fence, hs.rooms⟩

lemma ok_init : Ok cfg init where
  only pod key hkey := by cases hkey
  fence pod g hg := by cases hg
  rooms pod := ok_new _ _
  owner := rfl
  mirrors pod _ := rfl
  atOwner p hp _ := by cases hp

lemma Ok.setOwnerRoom (hok : Ok cfg h) (hr : r.Ok)
    (hps : r.peers = (h.room cfg cfg.owner).peers) : Ok cfg (h.setRoom cfg cfg.owner r) where
  toSound := hok.toSound.setRoom hr _
  owner := by
    rw [room_setRoom, if_pos rfl, hps]
    exact hok.owner
  mirrors pod hpod := by
    rw [room_setRoom, if_neg hpod]
    exact hok.mirrors pod hpod
  atOwner := hok.atOwner

lemma Ok.cleanup (hok : Ok cfg h) (pod : RuntimeId) : Ok cfg (h.cleanup cfg pod) where
  toSound := hok.toSound.cleanup pod
  owner := by
    rw [peers_cleanup]
    exact hok.owner
  mirrors pod' hpod := by
    rw [peers_cleanup]
    exact hok.mirrors pod' hpod
  atOwner := hok.atOwner

lemma Ok.joinLocal (hok : Ok cfg h) (version : UInt8) : Ok cfg (h.joinLocal cfg version) := by
  have hroom := (hok.rooms cfg.owner).addPeer version .socket
  unfold Huddle.joinLocal
  rcases addPeer_cases (h.room cfg cfg.owner) version .socket with
    ⟨e, g, heq, _⟩ | ⟨g, idx, epoch, heq, _, _⟩
  · rw [heq] at hroom ⊢
    exact hok.setOwnerRoom hroom rfl
  rw [heq] at hroom ⊢
  refine ⟨(hok.toSound.setRoom hroom _).participants _, ?_, ?_, ?_⟩
  · rw [room_addParticipant, room_setRoom, if_pos rfl]
    simp [admitPeer, addParticipant, setRoom, setRouter, hok.owner, ownerPeer]
  · intro pod hpod
    rw [room_addParticipant, room_setRoom, if_neg hpod, hok.mirrors pod hpod]
    simp [addParticipant, setRoom, setRouter, Ne.symm hpod]
  intro p hp
  rcases mem_append.mp hp with hp | hp
  · exact hok.atOwner p hp
  · obtain rfl := mem_singleton.mp hp
    exact fun _ => rfl

lemma filter_admit {room : Room} (hroom : room.Ok) (g : AdmissionGuard) (idx epoch version : UInt8)
    (sink : AudioSink) : ((room.admitPeer g idx epoch version sink).2.peers.filter fun p =>
      p.peerId ≠ (room.admitPeer g idx epoch version sink).1.peerId) = room.peers := by
  have hkept : ∀ p ∈ room.peers, decide (p.peerId ≠ room.nextPeerId) := fun p hp =>
    decide_eq_true (hroom.fresh p hp).ne
  show (room.peers ++ [_]).filter (fun p => decide (p.peerId ≠ room.nextPeerId)) = room.peers
  rw [filter_append, filter_eq_self.mpr hkept]
  simp

lemma Ok.joinRemote (hok : Ok cfg h) {pod : RuntimeId} (hpod : pod ≠ cfg.owner) (version : UInt8) :
    Ok cfg (h.joinRemote cfg pod version) := by
  have hroom := (hok.rooms cfg.owner).addPeer version (.mesh pod cfg.fenced)
  unfold Huddle.joinRemote
  rcases addPeer_cases (h.room cfg cfg.owner) version (.mesh pod cfg.fenced) with
    ⟨e, g, heq, _⟩ | ⟨g, idx, epoch, heq, _, _⟩
  · rw [heq] at hroom ⊢
    exact hok.setOwnerRoom hroom rfl
  rw [heq] at hroom ⊢
  dsimp only
  have hmirror := (hok.rooms pod).addPeerAtIndex version idx .socket
  have hindex : ((h.room cfg cfg.owner).admitPeer g idx epoch version
      (.mesh pod cfg.fenced)).1.peerIndex = idx := rfl
  rw [hindex]
  rcases addPeerAtIndex_cases (h.room cfg pod) version idx .socket with
    ⟨e, hmeq⟩ | ⟨g', epoch', hmeq, _, _⟩
  · rw [hmeq]
    refine (hok.setOwnerRoom (ok_removePeerAndCheckEnded hroom _) ?_).cleanup _
    rw [peers_removePeerAndCheckEnded]
    exact filter_admit (hok.rooms cfg.owner) _ _ _ _ _
  rw [hmeq] at hmirror ⊢
  refine ⟨((hok.toSound.setRoom hroom _).setRoom hmirror _).participants _, ?_, ?_, ?_⟩
  · rw [room_addParticipant, room_setRoom, if_neg (Ne.symm hpod), room_setRoom, if_pos rfl]
    simp [admitPeer, addParticipant, setRoom, setRouter, hok.owner, ownerPeer, hpod]
  · intro pod' hpod'
    rw [room_addParticipant, room_setRoom, room_setRoom, if_neg hpod']
    split_ifs with heq'
    · subst heq'
      simp [admitPeer, addParticipant, setRoom, setRouter, hok.mirrors _ hpod', localPeer]
    · rw [hok.mirrors pod' hpod']
      simp [addParticipant, setRoom, setRouter, Ne.symm heq']
  intro p hp
  rcases mem_append.mp hp with hp | hp
  · exact hok.atOwner p hp
  · obtain rfl := mem_singleton.mp hp
    exact fun hown => absurd hown hpod

lemma filter_map_ne {β γ : Type} [DecidableEq γ] (f : Participant → β) (key : β → γ)
    {ps : List Participant} (hinj : ∀ q ∈ ps, key (f q) = key (f p) → q = p) :
    ((ps.map f).filter fun b => key b ≠ key (f p)) = (ps.filter fun q => q ≠ p).map f := by
  rw [filter_map]
  congr 1
  refine filter_congr ?_
  intro q hq
  simp only [comp_apply, ne_eq, decide_not, Bool.not_eq_eq_eq_not, Bool.not_not, decide_eq_decide]
  exact ⟨hinj q hq, fun h => by rw [h]⟩

def leaveOwner (cfg : HuddleConfig) (h : Huddle) (p : Participant) : Huddle :=
  (({ h with participants := h.participants.filter fun q => q ≠ p }).setRoom cfg cfg.owner
    ((h.room cfg cfg.owner).removePeerAndCheckEnded p.ownerPeerId).2).cleanup cfg cfg.owner

lemma peers_leaveOwner (h : Huddle) (p : Participant) (pod : RuntimeId) :
    ((h.leaveOwner cfg p).room cfg pod).peers =
      if pod = cfg.owner then (h.room cfg cfg.owner).peers.filter fun q => q.peerId ≠ p.ownerPeerId
      else (h.room cfg pod).peers := by
  rw [leaveOwner, peers_cleanup, room_setRoom]
  split_ifs
  · exact peers_removePeerAndCheckEnded _ _
  · rfl

lemma Sound.leaveOwner (hs : Sound cfg h) (p : Participant) : Sound cfg (h.leaveOwner cfg p) :=
  ((hs.participants _).setRoom (ok_removePeerAndCheckEnded (hs.rooms _) _) _).cleanup _

lemma Ok.leave (hok : Ok cfg h) {p : Participant} (hp : p ∈ h.participants) :
    Ok cfg (h.leave cfg p) := by
  have hsnd := hok.toSound.leaveOwner p
  have hown : ((h.leaveOwner cfg p).room cfg cfg.owner).peers =
      (h.participants.filter fun q => q ≠ p).map (ownerPeer cfg) := by
    rw [peers_leaveOwner, if_pos rfl, hok.owner]
    exact filter_map_ne (ownerPeer cfg) AudioPeer.peerId fun q hq heq =>
      hok.eq_of_ownerPeerId hq hp heq
  have hmirrors : ∀ pod, pod ≠ cfg.owner → ((h.leaveOwner cfg p).room cfg pod).peers =
      (h.participants.filter fun q => q.pod = pod).map localPeer := by
    intro pod hpod
    rw [peers_leaveOwner, if_neg hpod, hok.mirrors pod hpod]
  have hoth : ∀ pod, pod ≠ p.pod → (h.participants.filter fun q => q.pod = pod) =
      (h.participants.filter fun q => q ≠ p).filter fun q => q.pod = pod := by
    intro pod hpod
    rw [filter_filter]
    refine filter_congr ?_
    intro q _
    by_cases heq : q = p
    · subst heq
      simp [Ne.symm hpod]
    · simp [heq]
  have hat : ∀ q ∈ h.participants.filter (fun q => q ≠ p), q.pod = cfg.owner →
      q.localPeerId = q.ownerPeerId := fun q hq => hok.atOwner q (mem_of_mem_filter hq)
  change Ok cfg (if p.pod = cfg.owner then h.leaveOwner cfg p
    else ((h.leaveOwner cfg p).setRoom cfg p.pod
      (((h.leaveOwner cfg p).room cfg p.pod).removePeer p.localPeerId).2).cleanup cfg p.pod)
  split_ifs with hpod
  · refine ⟨hsnd, hown, ?_, hat⟩
    intro pod hne
    rw [hmirrors pod hne, hoth pod (hpod ▸ hne)]
    rfl
  refine ⟨(hsnd.setRoom ((hsnd.rooms _).removePeer _) _).cleanup _, ?_, ?_, hat⟩
  · rw [peers_cleanup, room_setRoom, if_neg (Ne.symm hpod)]
    exact hown
  intro pod hne
  rw [peers_cleanup, room_setRoom]
  split_ifs with heq
  · subst heq
    rw [removePeer_peers, hmirrors _ hne]
    refine (filter_map_ne localPeer AudioPeer.peerId ?_).trans ?_
    · intro q hq heq
      obtain ⟨hq, hqpod⟩ := mem_filter.mp hq
      exact hok.eq_of_localPeerId hq hp (of_decide_eq_true hqpod) heq
    · rw [filter_comm]
      rfl
  · rw [hmirrors pod hne, hoth pod heq]
    rfl

end Huddle

end Buzz.Audio
