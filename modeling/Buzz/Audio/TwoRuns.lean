import Buzz.Audio.PodFrame

/-!
A relay with and without the steps of one community.

The relation between the two runs says that the others have the same in both, and the community has
nothing in the second (`Pod.Sim`).  What leaves the others alone keeps it, and so does a step of the
others in both, if the owner entry of its channel, where the step asks for it, is not the community's
(`Pod.Free`).
-/

namespace Buzz.Audio

open Buzz.Core Lib Table
open Mesh (RuntimeId)

namespace Pod

variable {a : CommunityId} {shared : Uuid → Prop} {s s' s₁ : Pod} {c : Conn}

/-! ### Two runs -/

/-- The relay in a run and in the run without the steps of `a`: the others have the same, and `a` has
nothing in the second. -/
structure Sim (a : CommunityId) (shared : Uuid → Prop) (s s' : Pod) : Prop where
  runtime : s'.localRuntimeId = s.localRuntimeId
  rooms : ∀ key, key.1 ≠ a → s'.router.rooms.lookup key = s.router.rooms.lookup key
  absent : ∀ ch, s'.router.rooms.lookup (a, ch) = none
  floors : ∀ ch, shared ch → s'.router.fence.lookup ch = s.router.fence.lookup ch
  draining : s'.owners.draining = s.owners.draining
  entries : ∀ ch, s'.owners.entries.lookup ch = otherEntry a (s.owners.entries.lookup ch)
  signals : ∀ c, c.communityId ≠ a → s'.owners.signals c = s.owners.signals c
  phases : ∀ c, c.communityId ≠ a → s'.phases c = s.phases c
  watched : ∀ c, c.communityId ≠ a → ∀ t ∈ (s.phases c).watched, t.communityId ≠ a

lemma sim_init (a : CommunityId) (shared : Uuid → Prop) (localRuntimeId : RuntimeId) :
    Sim a shared (init localRuntimeId) (init localRuntimeId) where
  runtime := rfl
  rooms _ _ := rfl
  absent _ := rfl
  floors _ _ := rfl
  draining := rfl
  entries _ := rfl
  signals _ _ := rfl
  phases _ _ := rfl
  watched _ _ t ht := absurd ht (Option.not_mem_none t)

lemma Sim.frame (h : Sim a shared s s') (hf : Frame a s s₁) : Sim a shared s₁ s' where
  runtime := h.runtime.trans hf.runtime.symm
  rooms key hkey := (h.rooms key hkey).trans (hf.rooms key hkey).symm
  absent := h.absent
  floors ch hch := (h.floors ch hch).trans (congrArg _ hf.fence.symm)
  draining := h.draining.trans hf.draining.symm
  entries ch := (h.entries ch).trans (hf.entries ch).symm
  signals c hc := (h.signals c hc).trans (hf.signals c hc).symm
  phases c hc := (h.phases c hc).trans (hf.phases c hc).symm
  watched c hc := by
    rw [hf.phases c hc]
    exact h.watched c hc

/-! ### Steps of the others -/

section Both

variable (h : Sim a shared s s')

include h

lemma Sim.setPhase (c : Conn) (hwat : ∀ t ∈ phase.watched, t.communityId ≠ a) :
    Sim a shared (s.setPhase c phase) (s'.setPhase c phase) := by
  refine { h with phases := ?_, watched := ?_ }
  · intro c' hc'
    simp only [Pod.setPhase, Function.update_apply]
    split_ifs
    · rfl
    · exact h.phases c' hc'
  intro c' hc'
  simp only [Pod.setPhase, Function.update_apply]
  split_ifs
  · exact hwat
  · exact h.watched c' hc'

lemma Sim.setPhase_none (c : Conn)
    (hnone : phase.watched = none) : Sim a shared (s.setPhase c phase) (s'.setPhase c phase) := by
  refine h.setPhase c ?_
  intro t ht
  rw [hnone] at ht
  exact absurd ht (Option.not_mem_none t)

lemma Sim.setRooms {rooms rooms' : AudioRoomManager}
    (hrooms : ∀ key, key.1 ≠ a → rooms'.lookup key = rooms.lookup key)
    (habs : ∀ ch, rooms'.lookup (a, ch) = none) :
    Sim a shared (s.setRooms rooms) (s'.setRooms rooms') :=
  { h with rooms := hrooms, absent := habs }

variable (hc : c.communityId ≠ a)
include hc

lemma Sim.lookup : s'.router.rooms.lookup (c.communityId, c.channelId) =
      s.router.rooms.lookup (c.communityId, c.channelId) := h.rooms _ hc

lemma Sim.room : s'.room c = s.room c := by
  unfold Pod.room AudioRoomManager.getOrCreate
  rw [h.lookup hc]
  cases s.router.rooms.lookup (c.communityId, c.channelId) <;> rfl

lemma Sim.setRoom (room : Room) : Sim a shared (s.setRoom c room) (s'.setRoom c room) := by
  refine h.setRooms ?_ ?_
  · intro key hkey
    rw [lookup_insert_if, lookup_insert_if, h.rooms key hkey]
  intro ch
  have hne : (a, ch) ≠ (c.communityId, c.channelId) := fun heq => hc (Prod.ext_iff.mp heq).1.symm
  rw [AList.lookup_insert_ne hne, h.absent]

lemma Sim.enter : Sim a shared (s.enter c) (s'.enter c) := by
  unfold Pod.enter AudioRoomManager.getOrCreate
  rw [h.lookup hc]
  split
  · exact h.setRooms h.rooms h.absent
  · exact h.setRoom hc _

lemma Sim.cleanup :
    (s'.cleanup c).1 = (s.cleanup c).1 ∧ Sim a shared (s.cleanup c).2 (s'.cleanup c).2 := by
  show (s'.router.rooms.cleanupIfEmpty c.communityId c.channelId).1 =
      (s.router.rooms.cleanupIfEmpty c.communityId c.channelId).1 ∧
    Sim a shared (s.setRooms (s.router.rooms.cleanupIfEmpty c.communityId c.channelId).2)
      (s'.setRooms (s'.router.rooms.cleanupIfEmpty c.communityId c.channelId).2)
  unfold AudioRoomManager.cleanupIfEmpty
  rw [h.lookup hc]
  split
  · split_ifs
    · refine ⟨rfl, h.setRooms ?_ ?_⟩
      · intro key hkey
        rw [lookup_erase_if, lookup_erase_if, h.rooms key hkey]
      intro ch
      have hne : (a, ch) ≠ (c.communityId, c.channelId) :=
        fun heq => hc (Prod.ext_iff.mp heq).1.symm
      rw [AList.lookup_erase_ne hne, h.absent]
    · exact ⟨rfl, h.setRooms h.rooms h.absent⟩
  · exact ⟨rfl, h.setRooms h.rooms h.absent⟩

lemma Sim.modifyRoom (f : Room → Room) : Sim a shared (s.modifyRoom c f) (s'.modifyRoom c f) := by
  unfold Pod.modifyRoom
  rw [h.lookup hc]
  split
  · exact h.setRoom hc _
  · exact h

omit hc in
lemma Sim.forget (c : Conn) : Sim a shared (s.forget c) (s'.forget c) := by
  refine { h with floors := ?_ }
  intro ch hch
  simp only [Pod.forget, GenerationFloor.forget]
  rw [lookup_erase_if, lookup_erase_if, h.floors ch hch]

omit hc in
lemma Sim.owners {owners owners' : HuddleOwnerRegistry}
    (hdr : owners'.draining = owners.draining)
    (hents : ∀ ch, owners'.entries.lookup ch = otherEntry a (owners.entries.lookup ch))
    (hsig : ∀ c, c.communityId ≠ a → owners'.signals c = owners.signals c) :
    Sim a shared { s with owners } { s' with owners := owners' } :=
  { h with draining := hdr, entries := hents, signals := hsig }

omit hc in
lemma Sim.signals_modifySignals (c : Conn)
    (f : HuddleOwnerSignals → HuddleOwnerSignals) (hc' : c'.communityId ≠ a) :
    (s'.owners.modifySignals c f).signals c' = (s.owners.modifySignals c f).signals c' := by
  simp only [HuddleOwnerRegistry.modifySignals, Function.update_apply]
  split_ifs with heq
  · rw [← heq, h.signals c' hc']
  · exact h.signals c' hc'

omit hc in
lemma Sim.modifySignals (c : Conn) (f : HuddleOwnerSignals → HuddleOwnerSignals) :
    Sim a shared (s.modifySignals c f) (s'.modifySignals c f) :=
  h.owners h.draining h.entries fun _ hc' => h.signals_modifySignals c f hc'

/-- The entry of a channel is not of the community. -/
def Free (a : CommunityId) (s : Pod) (ch : Uuid) : Prop :=
  ∀ e ∈ s.owners.entries.lookup ch, e.installer.communityId ≠ a

omit hc in
lemma Sim.lookup_entry (hfree : Free a s ch) :
    s'.owners.entries.lookup ch = s.owners.entries.lookup ch := by
  rw [h.entries]
  cases hent : s.owners.entries.lookup ch with
  | none => rfl
  | some e => exact otherEntry_some (hfree e hent)

omit hc in
lemma Sim.signalsFor (hfree : Free a s ch) : s'.owners.signalsFor ch = s.owners.signalsFor ch ∧
      ∀ t ∈ s.owners.signalsFor ch, t.communityId ≠ a := by
  unfold HuddleOwnerRegistry.signalsFor
  refine ⟨by rw [h.lookup_entry hfree], ?_⟩
  intro t ht
  obtain ⟨e, he, rfl⟩ := Option.map_eq_some_iff.mp ht
  exact hfree e he

lemma Sim.attachSignals (hfree : Free a s c.channelId) (generation : ℕ) :
    (s'.owners.attachSignals c generation).1 = (s.owners.attachSignals c generation).1 ∧
    (s.owners.attachSignals c generation).1.communityId ≠ a ∧
    Sim a shared { s with owners := (s.owners.attachSignals c generation).2 }
      { s' with owners := (s'.owners.attachSignals c generation).2 } := by
  unfold HuddleOwnerRegistry.attachSignals
  rw [h.draining, h.lookup_entry hfree]
  split_ifs
  · exact ⟨rfl, hc, h.modifySignals c fun signals => { signals with draining := true }⟩
  split
  · next entry hent => exact ⟨rfl, hfree entry hent, h⟩
  refine ⟨rfl, hc, h.owners h.draining ?_ ?_⟩
  · intro ch
    simp only [HuddleOwnerRegistry.modifySignals]
    rw [lookup_insert_if, lookup_insert_if, h.entries]
    split_ifs
    · rw [otherEntry_some hc]
    · rfl
  · intro c' hc'
    exact h.signals_modifySignals c (fun s => { s with renewer := .running }) hc'

variable (version : UInt8) (generation : ℕ)

omit hc in
lemma Sim.release : Sim a shared (s.release c generation) (s'.release c generation) := by
  unfold Pod.release HuddleOwnerRegistry.release HuddleOwnerRegistry.retire
  rw [h.entries]
  cases hent : s.owners.entries.lookup c.channelId with
  | none => exact h
  | some entry =>
    by_cases hown : entry.installer.communityId = a
    · rw [otherEntry_own hown]
      dsimp only
      split_ifs
      · refine h.owners h.draining ?_ ?_
        · intro ch
          by_cases heq : ch = c.channelId
          · rw [heq, AList.lookup_erase, h.entries, hent, otherEntry_own hown, otherEntry_none]
          · rw [AList.lookup_erase_ne heq, h.entries]
        intro c' hc'
        refine (h.signals c' hc').trans (signals_modifySignals_of_ne ?_).symm
        exact hown ▸ hc'
      · exact h
    rw [otherEntry_some hown]
    dsimp only
    split_ifs
    · refine h.owners h.draining ?_ fun _ hc' => h.signals_modifySignals _ _ hc'
      intro ch
      rw [lookup_erase_if, lookup_erase_if, h.entries]
      split_ifs
      · rw [otherEntry_none]
      · rfl
    · exact h

lemma Sim.fired (lostFirst : Bool) : s'.fired c lostFirst = s.fired c lostFirst := by
  unfold Pod.fired
  rw [h.phases c hc]
  split
  · rfl
  · next t ht => rw [h.signals t (h.watched c hc t ht)]

lemma Sim.resolve (attempts : ℕ) (answer : Option ResolvedJoin) (hfree : Free a s c.channelId) :
    Sim a shared (s.resolve c version attempts answer) (s'.resolve c version attempts answer) := by
  unfold Pod.resolve
  rw [(h.signalsFor hfree).1]
  split
  · exact h.setPhase_none c rfl
  split
  · split_ifs
    · exact (h.enter hc).setPhase_none c rfl
    all_goals exact h.setPhase_none c rfl
  · exact (h.enter hc).setPhase_none c rfl

lemma Sim.admitLocal (acquired : Bool) (hfree : Free a s c.channelId) :
    Sim a shared (s.admitLocal c version generation acquired)
      (s'.admitLocal c version generation acquired) := by
  unfold Pod.admitLocal
  rw [h.room hc]
  split
  · exact (h.modifyRoom hc _).setPhase_none c rfl
  next peer room _ =>
  have hset := h.setRoom hc room
  dsimp only
  split_ifs
  · obtain ⟨heq, hwat, hattach⟩ := hset.attachSignals hc hfree generation
    rw [heq]
    refine hattach.setPhase c ?_
    intro t ht
    obtain rfl := Option.some.inj ht
    exact hwat
  obtain ⟨heq, hwat⟩ := hset.signalsFor hfree
  rw [heq]
  exact hset.setPhase c hwat

lemma Sim.checked (resolved : ResolvedJoin) (isOpen : Bool) (hfree : Free a s c.channelId) :
    Sim a shared (s.checked c version resolved isOpen) (s'.checked c version resolved isOpen) := by
  unfold Pod.checked
  split_ifs
  · exact (h.cleanup hc).2.setPhase_none c rfl
  · exact h.setPhase_none c rfl
  split
  · exact h.admitLocal hc _ _ _ hfree
  · exact h.setPhase_none c rfl

lemma Sim.dialed (peerIndex : Option UInt8) (greeted : Bool) :
    Sim a shared (s.dialed c version peerIndex greeted) (s'.dialed c version peerIndex greeted) := by
  unfold Pod.dialed
  rw [h.room hc]
  split
  · exact (h.cleanup hc).2.setPhase_none c rfl
  split
  · exact (h.modifyRoom hc _).setPhase_none c rfl
  next room _ =>
  have hset := h.setRoom hc room
  split_ifs
  · exact hset.setPhase_none c rfl
  · exact ((hset.modifyRoom hc _).cleanup hc).2.setPhase_none c rfl

lemma Sim.leave (peerId : ℕ) (role : Role) :
    Sim a shared (s.leave c peerId role) (s'.leave c peerId role) := by
  unfold Pod.leave
  rw [h.room hc]
  split
  · exact (h.modifyRoom hc _).setPhase_none c rfl
  split
  · exact h.setPhase_none c rfl
  · exact (h.setRoom hc _).setPhase_none c rfl

lemma Sim.finish (shouldEnd : Bool) (generation : Option ℕ) (archived : Bool) :
    Sim a shared (s.finish c shouldEnd generation archived)
      (s'.finish c shouldEnd generation archived) := by
  unfold Pod.finish
  split_ifs
  · exact (h.modifyRoom hc _).setPhase_none c rfl
  obtain ⟨heq, hcln⟩ := h.cleanup hc
  dsimp only
  rw [heq]
  split
  · exact (hcln.release _).setPhase_none c rfl
  · exact hcln.setPhase_none c rfl

lemma Sim.removeRemotePeer (peerId : ℕ) : Sim a shared (s.removeRemotePeer c generation peerId)
      (s'.removeRemotePeer c generation peerId) := by
  unfold Pod.removeRemotePeer
  rw [h.lookup hc]
  split
  · exact h
  split
  · exact h
  next room _ =>
  have hset := h.setRoom hc room
  obtain ⟨heq, hcln⟩ := hset.cleanup hc
  dsimp only
  rw [heq]
  split_ifs
  · exact hcln.release _
  · exact hcln
  · exact hset

lemma Sim.teardown (stream : ControlStream) :
    Sim a shared (s.teardown c stream) (s'.teardown c stream) := by
  refine Sim.setPhase_none ?_ c rfl
  induction stream.registered.entries generalizing s s' with
  | nil => exact h
  | cons e es ih => exact ih (h.removeRemotePeer hc _ _)

lemma Sim.validated
    (hstr : ∀ t ∈ stream.signals, t.communityId ≠ a) (pubkey : String) (version : UInt8)
    (validation : Validation) : Sim a shared (s.validated c stream pubkey version validation)
      (s'.validated c stream pubkey version validation) := by
  unfold Pod.validated
  rw [h.room hc, h.runtime]
  split
  · split
    · exact (h.modifyRoom hc _).setPhase c hstr
    · exact (h.setRoom hc _).setPhase c hstr
  · exact h.setPhase c hstr
  · exact h.teardown hc stream

lemma Sim.unregister (hstr : ∀ t ∈ stream.signals, t.communityId ≠ a) (pubkey : String) :
    Sim a shared (s.unregister c stream pubkey) (s'.unregister c stream pubkey) := by
  unfold Pod.unregister
  split
  · exact h
  · exact (h.removeRemotePeer hc _ _).setPhase c hstr

lemma Sim.watch (lostFirst : Bool) : Sim a shared (s.watch c lostFirst).1 (s'.watch c lostFirst).1 ∧
      (s'.watch c lostFirst).2 = (s.watch c lostFirst).2 := by
  unfold Pod.watch
  rw [h.fired hc, h.phases c hc]
  split
  · exact ⟨(h.forget c).setPhase_none c rfl, rfl⟩
  · exact ⟨h.teardown hc _, rfl⟩
  · exact ⟨h, rfl⟩

end Both

end Pod

end Buzz.Audio
