import Buzz.Audio.Pod

/-!
What steps of one community leave alone.

A connection changes its community's rooms and its own phase.  The owner entry of its channel may be
another's: it is not replaced, and it stays unless its very generation is released (`Releasable`).  So
nothing of the others changes (`Pod.Frame`).
-/

namespace Buzz.Audio

open Buzz.Core Lib
open Mesh (RuntimeId)

def otherEntry (a : CommunityId) (entry : Option HuddleOwnerEntry) : Option HuddleOwnerEntry :=
  entry.filter fun e => e.installer.communityId ≠ a

section OtherEntry

variable {a : CommunityId} {e : HuddleOwnerEntry}

@[simp] lemma otherEntry_none : otherEntry a none = none := rfl

lemma otherEntry_some (h : e.installer.communityId ≠ a) : otherEntry a (some e) = some e := by
  unfold otherEntry
  rw [Option.filter_some, if_pos (decide_eq_true h)]

lemma otherEntry_own (h : e.installer.communityId = a) : otherEntry a (some e) = none := by
  unfold otherEntry
  rw [Option.filter_some, if_neg (by simp [h])]

lemma mem_of_mem_otherEntry (h : e ∈ otherEntry a entry) : e ∈ entry := by
  cases entry with
  | none => exact h
  | some e' =>
    by_cases hown : e'.installer.communityId = a
    · rw [otherEntry_own hown] at h
      exact absurd h (Option.not_mem_none e)
    · rwa [otherEntry_some hown] at h

end OtherEntry

namespace Pod

variable {a : CommunityId} {s s₁ s₂ : Pod} {c : Conn}

/-- Nothing of the others has changed. -/
structure Frame (a : CommunityId) (s s₁ : Pod) : Prop where
  runtime : s₁.localRuntimeId = s.localRuntimeId
  rooms : ∀ key, key.1 ≠ a → s₁.router.rooms.lookup key = s.router.rooms.lookup key
  fence : s₁.router.fence = s.router.fence
  draining : s₁.owners.draining = s.owners.draining
  entries : ∀ ch, otherEntry a (s₁.owners.entries.lookup ch) =
    otherEntry a (s.owners.entries.lookup ch)
  signals : ∀ c, c.communityId ≠ a → s₁.owners.signals c = s.owners.signals c
  phases : ∀ c, c.communityId ≠ a → s₁.phases c = s.phases c

section Frame

lemma Frame.refl (s : Pod) : Frame a s s :=
  ⟨rfl, fun _ _ => rfl, rfl, rfl, fun _ => rfl, fun _ _ => rfl, fun _ _ => rfl⟩

lemma Frame.trans (h₁ : Frame a s s₁) (h₂ : Frame a s₁ s₂) : Frame a s s₂ where
  runtime := h₂.runtime.trans h₁.runtime
  rooms key hkey := (h₂.rooms key hkey).trans (h₁.rooms key hkey)
  fence := h₂.fence.trans h₁.fence
  draining := h₂.draining.trans h₁.draining
  entries ch := (h₂.entries ch).trans (h₁.entries ch)
  signals c hc := (h₂.signals c hc).trans (h₁.signals c hc)
  phases c hc := (h₂.phases c hc).trans (h₁.phases c hc)

variable (c) in
lemma frame_setPhase (s : Pod) (phase : Phase) : Frame c.communityId s (s.setPhase c phase) where
  runtime := rfl
  rooms _ _ := rfl
  fence := rfl
  draining := rfl
  entries _ := rfl
  signals _ _ := rfl
  phases _ hc' := Function.update_of_ne (fun heq => hc' (congrArg Conn.communityId heq)) _ _

lemma Frame.setPhase (h : Frame c.communityId s s₁) :
    Frame c.communityId s (s₁.setPhase c phase) := h.trans (frame_setPhase c _ _)

lemma frame_setRooms (hrooms : ∀ key, key.1 ≠ a → rooms.lookup key = s.router.rooms.lookup key) :
    Frame a s (s.setRooms rooms) :=
  ⟨rfl, hrooms, rfl, rfl, fun _ => rfl, fun _ _ => rfl, fun _ _ => rfl⟩

lemma key_ne (hkey : key.1 ≠ c.communityId) : key ≠ (c.communityId, c.channelId) := by
  rintro rfl
  exact hkey rfl

variable (c) in
lemma frame_setRoom (s : Pod) (room : Room) : Frame c.communityId s (s.setRoom c room) :=
  frame_setRooms fun _ hkey => AList.lookup_insert_ne (key_ne hkey)

variable (c) in
lemma frame_enter (s : Pod) : Frame c.communityId s (s.enter c) := by
  refine frame_setRooms ?_
  intro key hkey
  unfold AudioRoomManager.getOrCreate
  split
  · rfl
  · exact AList.lookup_insert_ne (key_ne hkey)

variable (c) in
lemma frame_cleanup (s : Pod) : Frame c.communityId s (s.cleanup c).2 := by
  show Frame _ s (s.setRooms (s.router.rooms.cleanupIfEmpty c.communityId c.channelId).2)
  refine frame_setRooms ?_
  intro key hkey
  unfold AudioRoomManager.cleanupIfEmpty
  split
  · split_ifs
    · exact AList.lookup_erase_ne (key_ne hkey)
    · rfl
  · rfl

variable (c) in
lemma frame_modifyRoom (s : Pod) (f : Room → Room) : Frame c.communityId s (s.modifyRoom c f) := by
  unfold modifyRoom
  split
  · exact frame_setRoom c s _
  · exact Frame.refl s

variable {owners : HuddleOwnerRegistry}

lemma frame_owners (hdr : owners.draining = s.owners.draining)
    (hents : ∀ ch, otherEntry a (owners.entries.lookup ch) =
      otherEntry a (s.owners.entries.lookup ch))
    (hsig : ∀ c, c.communityId ≠ a → owners.signals c = s.owners.signals c) :
    Frame a s { s with owners } :=
  ⟨rfl, fun _ _ => rfl, rfl, hdr, hents, hsig, fun _ _ => rfl⟩

lemma signals_modifySignals_of_ne (hc' : c'.communityId ≠ t.communityId) :
    (owners.modifySignals t f).signals c' = owners.signals c' :=
  Function.update_of_ne (fun heq => hc' (congrArg Conn.communityId heq)) _ _

variable (c) in
lemma frame_modifySignals (s : Pod) (f : HuddleOwnerSignals → HuddleOwnerSignals) :
    Frame c.communityId s (s.modifySignals c f) :=
  frame_owners rfl (fun _ => rfl) fun _ hc' => signals_modifySignals_of_ne hc'

variable (c) in
lemma frame_attachSignals (s : Pod) (generation : ℕ) :
    Frame c.communityId s { s with owners := (s.owners.attachSignals c generation).2 } := by
  unfold HuddleOwnerRegistry.attachSignals
  split_ifs
  · exact frame_modifySignals c s fun signals => { signals with draining := true }
  split
  · exact Frame.refl s
  next hnone =>
  refine frame_owners rfl ?_ ?_
  · intro ch
    by_cases hch : ch = c.channelId
    · subst hch
      have hins := AList.lookup_insert (b := (⟨c, generation⟩ : HuddleOwnerEntry))
        (a := c.channelId) s.owners.entries
      exact (congrArg _ hins).trans ((otherEntry_own rfl).trans (by rw [hnone, otherEntry_none]))
    · exact congrArg _ (AList.lookup_insert_ne hch)
  intro c' hc'
  show (s.owners.modifySignals c fun s => { s with renewer := .running }).signals c' = _
  exact signals_modifySignals_of_ne hc'

/-- The community releases no generation that another's entry has. -/
def Releasable (a : CommunityId) (s : Pod) (ch : Uuid) (generation : ℕ) : Prop :=
  ∀ e ∈ otherEntry a (s.owners.entries.lookup ch), e.generation ≠ generation

variable {generation : ℕ} {stream : ControlStream}

lemma Frame.releasable (h : Frame a s s₁)
    (hr : Releasable a s ch generation) : Releasable a s₁ ch generation := by
  unfold Releasable
  rw [h.entries]
  exact hr

lemma frame_release (hr : Releasable c.communityId s c.channelId generation) :
    Frame c.communityId s (s.release c generation) := by
  unfold release HuddleOwnerRegistry.release HuddleOwnerRegistry.retire
  split
  · next entry hent =>
    split_ifs with hgen
    · have hown : entry.installer.communityId = c.communityId := by
        by_contra hoth
        refine hr entry ?_ hgen
        rw [hent, otherEntry_some hoth]
        rfl
      refine frame_owners rfl ?_ fun c' hc' => signals_modifySignals_of_ne (hown ▸ hc')
      intro ch
      by_cases hch : ch = c.channelId
      · subst hch
        rw [hent, AList.lookup_erase, otherEntry_own hown, otherEntry_none]
      · exact congrArg _ (AList.lookup_erase_ne hch)
    · exact Frame.refl s
  · exact Frame.refl s

/-! The steps are made of these. -/

variable (c)

lemma frame_resolve (s : Pod) (version : UInt8) (attempts : ℕ) (answer : Option ResolvedJoin) :
    Frame c.communityId s (s.resolve c version attempts answer) := by
  unfold resolve
  split
  · exact frame_setPhase c s _
  split
  · split_ifs
    · exact (frame_enter c s).setPhase
    all_goals exact frame_setPhase c s _
  · exact (frame_enter c s).setPhase

lemma frame_admitLocal (s : Pod) (version : UInt8) (generation : ℕ) (acquired : Bool) :
    Frame c.communityId s (s.admitLocal c version generation acquired) := by
  unfold admitLocal
  split
  · exact (frame_modifyRoom c s _).setPhase
  split_ifs
  · exact ((frame_setRoom c s _).trans (frame_attachSignals c _ _)).setPhase
  · exact (frame_setRoom c s _).setPhase

lemma frame_checked (s : Pod) (version : UInt8) (resolved : ResolvedJoin) (isOpen : Bool) :
    Frame c.communityId s (s.checked c version resolved isOpen) := by
  unfold checked
  split_ifs
  · exact (frame_cleanup c s).setPhase
  · exact frame_setPhase c s _
  split
  · exact frame_admitLocal c s _ _ _
  · exact frame_setPhase c s _

lemma frame_dialed (s : Pod) (version : UInt8) (peerIndex : Option UInt8) (greeted : Bool) :
    Frame c.communityId s (s.dialed c version peerIndex greeted) := by
  unfold dialed
  split
  · exact (frame_cleanup c s).setPhase
  split
  · exact (frame_modifyRoom c s _).setPhase
  split_ifs
  · exact (frame_setRoom c s _).setPhase
  · refine Frame.setPhase ?_
    exact ((frame_setRoom c s _).trans (frame_modifyRoom c _ _)).trans (frame_cleanup c _)

lemma frame_leave (s : Pod) (peerId : ℕ) (role : Role) :
    Frame c.communityId s (s.leave c peerId role) := by
  unfold leave
  split
  · exact (frame_modifyRoom c s _).setPhase
  split
  · exact frame_setPhase c s _
  · exact (frame_setRoom c s _).setPhase

variable {c}

lemma frame_finish {generation : Option ℕ}
    (hr : ∀ g ∈ generation, Releasable c.communityId s c.channelId g) (archived : Bool) :
    Frame c.communityId s (s.finish c shouldEnd generation archived) := by
  unfold finish
  split_ifs
  · exact (frame_modifyRoom c s _).setPhase
  dsimp only
  refine (frame_cleanup c s).trans ?_
  split
  · next generation _ =>
    have hr := (frame_cleanup c s).releasable (hr generation rfl)
    exact (frame_release hr).setPhase
  · exact frame_setPhase c _ _

lemma frame_removeRemotePeer (hr : Releasable c.communityId s c.channelId generation) (peerId : ℕ) :
    Frame c.communityId s (s.removeRemotePeer c generation peerId) := by
  unfold removeRemotePeer
  split
  · exact Frame.refl s
  split
  · exact Frame.refl s
  next room _ =>
  dsimp only
  have hcln := (frame_setRoom c s room).trans (frame_cleanup c _)
  split_ifs
  · exact hcln.trans (frame_release (hcln.releasable hr))
  · exact hcln
  · exact frame_setRoom c s room

section

variable (hr : Releasable c.communityId s c.channelId stream.generation)

include hr

lemma frame_teardown : Frame c.communityId s (s.teardown c stream) := by
  refine Frame.setPhase ?_
  induction stream.registered.entries generalizing s with
  | nil => exact Frame.refl s
  | cons e es ih =>
    have hstep := frame_removeRemotePeer hr e.2
    exact hstep.trans (ih (hstep.releasable hr))

lemma frame_validated (pubkey : String) (version : UInt8) (validation : Validation) :
    Frame c.communityId s (s.validated c stream pubkey version validation) := by
  unfold validated
  split
  · split
    · exact (frame_modifyRoom c s _).setPhase
    · exact (frame_setRoom c s _).setPhase
  · exact frame_setPhase c s _
  · exact frame_teardown hr

lemma frame_unregister (pubkey : String) :
    Frame c.communityId s (s.unregister c stream pubkey) := by
  unfold unregister
  split
  · exact Frame.refl s
  · exact (frame_removeRemotePeer hr _).setPhase

end

end Frame

end Pod

end Buzz.Audio
