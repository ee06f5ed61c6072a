import Buzz.Audio.Placement
import Mathlib.Data.List.Flatten

/-!
Frames across relays.

The owner sends a datagram for each participant elsewhere, and the relay that receives one hands it to
all of its participants but the author.  `Huddle.delivered` says what this comes to, and what is
delivered of a frame is a part of that, or all of it if nothing is lost (`Huddle.Ok.send`).
-/

namespace Buzz.Audio

open Buzz.Core Lib List Participant
open Mesh (RuntimeId)

/-! ### Losses -/

section Transmit

open Huddle

variable {α : Type}

lemma transmit_sublist (losses : List Bool) (xs : List α) : (transmit losses xs).1.Sublist xs := by
  induction xs generalizing losses with
  | nil => simp [transmit]
  | cons x xs ih =>
    match losses with
    | [] => exact List.Sublist.refl _
    | true :: losses => exact (ih losses).cons x
    | false :: losses => exact (ih losses).cons_cons x

@[simp] lemma transmit_nil (xs : List α) : transmit [] xs = (xs, []) := by
  cases xs <;> rfl

end Transmit

namespace Huddle

/-! ### Datagrams -/

/-- The places are the same, and no generation is later. -/
structure SamePlaces (cfg : HuddleConfig) (h h' : Huddle) : Prop where
  rooms : ∀ pod, (h'.routers pod).rooms = (h.routers pod).rooms
  participants : h'.participants = h.participants
  fence : ∀ pod, ∀ g ∈ (h'.routers pod).fence.lookup cfg.channelId, g ≤ cfg.generation

section

variable (hsame : SamePlaces cfg h h')

include hsame

lemma SamePlaces.room (pod : RuntimeId) : h'.room cfg pod = h.room cfg pod := by
  rw [room_eq, room_eq, hsame.rooms]

lemma SamePlaces.sound (hs : Sound cfg h) : Sound cfg h' where
  only pod := by
    rw [hsame.rooms]
    exact hs.only pod
  fence := hsame.fence
  rooms pod := by
    rw [hsame.room]
    exact hs.rooms pod

lemma SamePlaces.ok (hok : Ok cfg h) : Ok cfg h' where
  toSound := hsame.sound hok.toSound
  owner := by
    rw [hsame.room, hsame.participants]
    exact hok.owner
  mirrors pod hpod := by
    rw [hsame.room, hsame.participants]
    exact hok.mirrors pod hpod
  atOwner := by
    rw [hsame.participants]
    exact hok.atOwner

lemma SamePlaces.trans (hsame' : SamePlaces cfg h' h'') : SamePlaces cfg h h'' where
  rooms pod := (hsame'.rooms pod).trans (hsame.rooms pod)
  participants := hsame'.participants.trans hsame.participants
  fence := hsame'.fence

end

lemma ofChannel_eq {rooms : AudioRoomManager}
    (honly : ∀ k ∈ rooms, k = key) : rooms.ofChannel key.2 = (rooms.lookup key).toList := by
  obtain ⟨entries, hnd⟩ := rooms
  match entries with
  | [] => rfl
  | [⟨k, room⟩] =>
    obtain rfl := honly k (by simp [AList.mem_keys, AList.keys])
    simp [AudioRoomManager.ofChannel, AList.lookup]
  | ⟨k, _⟩ :: ⟨k', _⟩ :: rest =>
    have hk : k = key := honly k (by simp [AList.mem_keys, AList.keys])
    have hk' : k' = key := honly k' (by simp [AList.mem_keys, AList.keys])
    rw [hk, hk'] at hnd
    simp [List.NodupKeys, keys] at hnd

lemma check_accepts (h : ∀ g ∈ floor.lookup sessionId, g ≤ generation) :
    ∃ advanced, GenerationFloor.check floor sessionId generation =
      (.accept advanced, floor.insert sessionId generation) := by
  unfold GenerationFloor.check
  split
  · next known hkn =>
    rw [if_neg (not_lt.mpr (h known hkn))]
    exact ⟨_, rfl⟩
  · exact ⟨_, rfl⟩

lemma Sound.onMediaDatagram (hs : Sound cfg h) (pod : RuntimeId) (idx : UInt8) (rest : List UInt8) :
    (((h.routers pod).onMediaDatagram ⟨cfg.fenced, idx :: rest⟩).1.sent =
      (h.room cfg pod).deliverPrefixed idx (idx :: rest)) ∧ SamePlaces cfg h
      (h.setRouter pod ((h.routers pod).onMediaDatagram ⟨cfg.fenced, idx :: rest⟩).2) := by
  obtain ⟨advanced, hchk⟩ := check_accepts (hs.fence pod)
  have hroom : (h.routers pod).rooms.getUnambiguousByChannel cfg.channelId =
      (h.routers pod).rooms.lookup (cfg.communityId, cfg.channelId) := by
    unfold AudioRoomManager.getUnambiguousByChannel
    rw [ofChannel_eq (hs.only pod)]
    cases (h.routers pod).rooms.lookup (cfg.communityId, cfg.channelId) <;> rfl
  have hrouter : ((h.routers pod).onMediaDatagram ⟨cfg.fenced, idx :: rest⟩).2 =
      ⟨(h.routers pod).rooms, (h.routers pod).fence.insert cfg.channelId cfg.generation⟩ := by
    simp only [MeshAudioRouter.onMediaDatagram, HuddleConfig.fenced, hchk]
    split <;> rfl
  refine ⟨?_, ?_, rfl, ?_⟩
  · simp only [MeshAudioRouter.onMediaDatagram, HuddleConfig.fenced, hchk, hroom, room_eq]
    cases (h.routers pod).rooms.lookup (cfg.communityId, cfg.channelId) with
    | none => rfl
    | some room => rfl
  · intro pod'
    rw [hrouter]
    by_cases hpod : pod' = pod
    · subst hpod
      simp [setRouter]
    · simp [setRouter, hpod]
  intro pod' g hg
  rw [hrouter] at hg
  by_cases hpod : pod' = pod
  · subst hpod
    simp only [setRouter, Function.update_self, AList.lookup_insert, Option.mem_some] at hg
    exact hg.ge
  · simp only [setRouter, Function.update_of_ne hpod] at hg
    exact hs.fence pod' g hg

lemma Sound.receive (hs : Sound cfg h) (idx : UInt8) (rest : List UInt8)
    (hall : ∀ e ∈ arrived, e.2 = ⟨cfg.fenced, idx :: rest⟩) :
    ((h.receive arrived).1 = arrived.flatMap fun e =>
      ((h.room cfg e.1).deliverPrefixed idx (idx :: rest)).map fun x => (e.1, x)) ∧
    SamePlaces cfg h (h.receive arrived).2 := by
  induction arrived generalizing h with
  | nil => exact ⟨rfl, fun _ => rfl, rfl, hs.fence⟩
  | cons e arrived ih =>
    obtain ⟨pod, dgram⟩ := e
    obtain rfl : dgram = ⟨cfg.fenced, idx :: rest⟩ := hall _ mem_cons_self
    obtain ⟨hsent, hsame⟩ := hs.onMediaDatagram pod idx rest
    obtain ⟨hrest, hsame'⟩ := ih (hsame.sound hs) fun e he => hall e (mem_cons_of_mem _ he)
    refine ⟨?_, hsame.trans hsame'⟩
    simp [Huddle.receive, hsent, hrest, hsame.room]

/-! ### One frame -/

def others (h : Huddle) (p : Participant) : List Participant := h.participants.filter fun q => q ≠ p

def wireFrame (p : Participant) (frame : List UInt8) : List UInt8 :=
  Room.framePrefix p.peerIndex p.epoch p.protocolVersion ++ frame

/-- What is delivered without losses: to the owner's clients, and for each participant elsewhere to
everyone on its relay. -/
def delivered (cfg : HuddleConfig) (h : Huddle) (p : Participant) (payload : List UInt8) :
    List Delivered :=
  ((h.others p).filter fun q => q.pod = cfg.owner).map (fun q => ⟨cfg.owner, q.ownerPeerId, payload⟩)
    ++ ((h.others p).filter fun q => q.pod ≠ cfg.owner).flatMap fun c =>
      ((h.others p).filter fun q => q.pod = c.pod).map fun q => ⟨c.pod, q.localPeerId, payload⟩

section Frame

lemma wireFrame_eq (p : Participant) (frame : List UInt8) :
    ∃ rest, wireFrame p frame = p.peerIndex :: rest := by
  unfold wireFrame Room.framePrefix
  split_ifs
  · exact ⟨_, rfl⟩
  · exact ⟨_, rfl⟩

lemma Ok.broadcastFrame (hok : Ok cfg h) (hp : p ∈ h.participants) (frame : List UInt8) :
    (h.room cfg cfg.owner).broadcastFrame p.ownerPeerId frame =
      (h.others p).map fun q => (q.ownerPeer cfg, wireFrame p frame) := by
  have hfind : (h.room cfg cfg.owner).peers.find? (fun q => q.peerId = p.ownerPeerId) =
      some (p.ownerPeer cfg) := by
    have hmem : p.ownerPeer cfg ∈ (h.room cfg cfg.owner).peers := by
      rw [hok.owner]
      exact mem_map_of_mem hp
    cases hfnd : (h.room cfg cfg.owner).peers.find? (fun q => q.peerId = p.ownerPeerId) with
    | none => exact absurd (find?_eq_none.mp hfnd _ hmem) (by simp [ownerPeer])
    | some q =>
      have hid : q.peerId = p.ownerPeerId := by simpa using find?_some hfnd
      exact congrArg some (inj_on_of_nodup_map (hok.rooms cfg.owner).ids
        (mem_of_find?_eq_some hfnd) hmem hid)
  have hfil : ((h.room cfg cfg.owner).peers.filter fun q => q.peerId ≠ p.ownerPeerId) =
      (h.others p).map (ownerPeer cfg) := by
    rw [hok.owner]
    exact filter_map_ne (ownerPeer cfg) AudioPeer.peerId fun q hq heq =>
      hok.eq_of_ownerPeerId hq hp heq
  simp only [Room.broadcastFrame, hfind, hfil, map_map]
  rfl

lemma Ok.deliverPrefixed_owner (hok : Ok cfg h) (hp : p ∈ h.participants) (payload : List UInt8) :
    (h.room cfg cfg.owner).deliverPrefixed p.peerIndex payload =
      (h.others p).map fun q => (q.ownerPeer cfg, payload) := by
  have hfil : ((h.room cfg cfg.owner).peers.filter fun q => q.peerIndex ≠ p.peerIndex) =
      (h.others p).map (ownerPeer cfg) := by
    rw [hok.owner]
    exact filter_map_ne (ownerPeer cfg) AudioPeer.peerIndex fun q hq heq =>
      hok.eq_of_peerIndex hq hp heq
  simp only [Room.deliverPrefixed, hfil, map_map]
  rfl

lemma Ok.deliverPrefixed_mirror (hok : Ok cfg h) (hp : p ∈ h.participants) {pod : RuntimeId}
    (hpod : pod ≠ cfg.owner) (payload : List UInt8) :
    (h.room cfg pod).deliverPrefixed p.peerIndex payload =
      ((h.others p).filter fun q => q.pod = pod).map fun q => (q.localPeer, payload) := by
  have hfil : ((h.room cfg pod).peers.filter fun q => q.peerIndex ≠ p.peerIndex) =
      ((h.others p).filter fun q => q.pod = pod).map localPeer := by
    rw [hok.mirrors pod hpod]
    refine (filter_map_ne localPeer AudioPeer.peerIndex (p := p) ?_).trans ?_
    · intro q hq heq
      exact hok.eq_of_peerIndex (mem_of_mem_filter hq) hp heq
    · rw [filter_comm]
      rfl
  simp only [Room.deliverPrefixed, hfil, map_map]
  rfl

lemma toClients_ownerPeers (ps : List Participant) (payload : List UInt8) :
    toClients cfg.owner (ps.map fun q => (q.ownerPeer cfg, payload)) =
      (ps.filter fun q => q.pod = cfg.owner).map fun q => ⟨cfg.owner, q.ownerPeerId, payload⟩ := by
  induction ps with
  | nil => rfl
  | cons q ps ih =>
    by_cases hq : q.pod = cfg.owner
    all_goals
      simp [toClients, ownerPeer, hq] at ih ⊢
      exact ih

lemma toPods_ownerPeers (ps : List Participant) (payload : List UInt8) :
    toPods (ps.map fun q => (q.ownerPeer cfg, payload)) =
      (ps.filter fun q => q.pod ≠ cfg.owner).map fun q => (q.pod, ⟨cfg.fenced, payload⟩) := by
  induction ps with
  | nil => rfl
  | cons q ps ih =>
    by_cases hq : q.pod = cfg.owner
    all_goals
      simp [toPods, ownerPeer, hq] at ih ⊢
      exact ih

/-- What the relays' clients get of datagrams for everyone elsewhere. -/
lemma Ok.delivered_eq (hok : Ok cfg h) (hp : p ∈ h.participants) (payload : List UInt8) :
    delivered cfg h p payload =
      toClients cfg.owner ((h.others p).map fun q => (q.ownerPeer cfg, payload)) ++
      ((toPods ((h.others p).map fun q => (q.ownerPeer cfg, payload))).flatMap fun e =>
        ((h.room cfg e.1).deliverPrefixed p.peerIndex payload).map fun x => (e.1, x)).flatMap
          fun e => toClients e.1 [e.2] := by
  rw [toClients_ownerPeers, toPods_ownerPeers, flatMap_map, flatMap_assoc]
  unfold delivered
  congr 1
  refine flatMap_congr ?_
  intro c hc
  obtain ⟨_, hc⟩ := mem_filter.mp hc
  rw [hok.deliverPrefixed_mirror hp (of_decide_eq_true hc), map_map, flatMap_map]
  induction (h.others p).filter fun q => q.pod = c.pod with
  | nil => rfl
  | cons q ps ih =>
    rw [flatMap_cons, ← ih]
    rfl

lemma mem_toPods_ownerPeers {ps : List Participant}
    (he : e ∈ toPods (ps.map fun q => (q.ownerPeer cfg, payload))) : e.2 = ⟨cfg.fenced, payload⟩ := by
  rw [toPods_ownerPeers] at he
  obtain ⟨q, _, rfl⟩ := mem_map.mp he
  rfl

lemma Ok.fanOut_sublist (hok : Ok cfg h) (hp : p ∈ h.participants) (frame : List UInt8)
    (losses : List Bool) {sent : List (AudioPeer × List UInt8)}
    (hsent : sent.Sublist ((h.others p).map fun q => (q.ownerPeer cfg, wireFrame p frame))) :
    (h.fanOut cfg sent losses).1.Sublist (delivered cfg h p (wireFrame p frame)) ∧
      SamePlaces cfg h (h.fanOut cfg sent losses).2 := by
  obtain ⟨rest, hrest⟩ := wireFrame_eq p frame
  have hqd := (transmit_sublist losses sent).trans hsent
  have harr := (transmit_sublist (transmit losses sent).2
    (toPods (transmit losses sent).1)).trans (hqd.filterMap _)
  obtain ⟨hrec, hsame⟩ := hok.toSound.receive p.peerIndex rest fun e he =>
    hrest ▸ mem_toPods_ownerPeers (harr.subset he)
  refine ⟨?_, hsame⟩
  rw [hok.delivered_eq hp]
  refine List.Sublist.append (hqd.filterMap _) (List.Sublist.flatMap ?_ _)
  refine (transmit_sublist _ _).trans ?_
  rw [hrec, ← hrest]
  exact harr.flatMap _

lemma Ok.fanOut_nil (hok : Ok cfg h) (hp : p ∈ h.participants) (frame : List UInt8) :
    (h.fanOut cfg ((h.others p).map fun q => (q.ownerPeer cfg, wireFrame p frame)) []).1 =
      delivered cfg h p (wireFrame p frame) := by
  obtain ⟨rest, hrest⟩ := wireFrame_eq p frame
  obtain ⟨hrec, _⟩ := hok.toSound.receive p.peerIndex rest fun e he =>
    hrest ▸ mem_toPods_ownerPeers he
  rw [hok.delivered_eq hp]
  simp only [Huddle.fanOut, transmit_nil]
  rw [hrec, hrest]

lemma SamePlaces.others (hsame : SamePlaces cfg h h') (p : Participant) :
    h'.others p = h.others p := by
  rw [Huddle.others, hsame.participants, Huddle.others]

lemma SamePlaces.delivered (hsame : SamePlaces cfg h h') (p : Participant) (payload : List UInt8) :
    delivered cfg h' p payload = delivered cfg h p payload := by
  simp only [Huddle.delivered, hsame.others]

lemma Ok.receive_owner (hok : Ok cfg h) (hp : p ∈ h.participants) (frame : List UInt8)
    (harr : ∀ e ∈ arrived, e = (cfg.owner, ⟨cfg.fenced, wireFrame p frame⟩)) :
    ((h.receive arrived).1.map Prod.snd = arrived.flatMap fun _ =>
      (h.others p).map fun q => (q.ownerPeer cfg, wireFrame p frame)) ∧
      SamePlaces cfg h (h.receive arrived).2 := by
  obtain ⟨rest, hrest⟩ := wireFrame_eq p frame
  obtain ⟨hrec, hsame⟩ := hok.toSound.receive p.peerIndex rest fun e he => by
    rw [← hrest, harr e he]
  refine ⟨?_, hsame⟩
  rw [hrec, ← hrest, map_flatMap]
  refine flatMap_congr ?_
  intro e he
  rw [harr e he, ← hok.deliverPrefixed_owner hp, map_map]
  exact map_id _

theorem Ok.send (hok : Ok cfg h) (hp : p ∈ h.participants) (frame : List UInt8) :
    (∀ losses, (h.send cfg p frame losses).1.Sublist (delivered cfg h p (wireFrame p frame)) ∧
      SamePlaces cfg h (h.send cfg p frame losses).2) ∧
    (h.send cfg p frame []).1 = delivered cfg h p (wireFrame p frame) := by
  by_cases hpod : p.pod = cfg.owner
  · simp only [Huddle.send, hpod, if_true, hok.broadcastFrame hp]
    exact ⟨fun losses => hok.fanOut_sublist hp frame losses (List.Sublist.refl _),
      hok.fanOut_nil hp frame⟩
  simp only [Huddle.send, hpod, if_false]
  refine ⟨?_, ?_⟩
  · intro losses
    have harr := transmit_sublist losses
      [(cfg.owner, mediaDatagram p.peerIndex p.epoch p.protocolVersion cfg.fenced frame)]
    obtain ⟨hsent, hsame⟩ := hok.receive_owner hp frame fun e he =>
      mem_singleton.mp (harr.subset he)
    have hsub := harr.flatMap fun _ =>
      (h.others p).map fun q => (q.ownerPeer cfg, wireFrame p frame)
    rw [← hsent, flatMap_singleton, ← hsame.others] at hsub
    obtain ⟨hdel, hsame'⟩ := (hsame.ok hok).fanOut_sublist (hsame.participants ▸ hp) frame
      (transmit losses _).2 hsub
    rw [hsame.delivered] at hdel
    exact ⟨hdel, hsame.trans hsame'⟩
  obtain ⟨hsent, hsame⟩ := hok.receive_owner hp frame fun e he => mem_singleton.mp he
  rw [flatMap_singleton, ← hsame.others] at hsent
  have hall := (hsame.ok hok).fanOut_nil (hsame.participants ▸ hp) frame
  rw [hsame.delivered, ← hsent] at hall
  exact hall

end Frame

end Huddle

end Buzz.Audio
