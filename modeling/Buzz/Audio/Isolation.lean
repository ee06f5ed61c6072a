import Buzz.Audio.TwoRuns
import Buzz.Lib.Unwinding

/-!
What the huddles of one community show of another.

Rooms are kept for each community and channel, but generations and owner entries for each channel
alone, and a datagram has no community on it.  So communities that use one channel can meet there:
`Pod.Apart` says of a step that they do not, and then the others see what they see without the
community's steps (`Pod.others_unaffected`).
-/

namespace Buzz.Audio

open Buzz.Core Lib List HuddleOwnerRegistry GenerationFloor
open Mesh (RuntimeId)

/-- The community of an input; the shutdown of the relay is no one's. -/
def PodAct.communityId : PodAct → Option CommunityId
  | .conn c _ => some c.communityId
  | .datagram communityId _ => some communityId
  | .drainAll => none

def PodAct.channelId : PodAct → Option Uuid
  | .conn c _ => some c.channelId
  | .datagram _ dgram => some dgram.fenced.sessionId
  | .drainAll => none

namespace Pod

variable {a : CommunityId} {shared : Uuid → Prop} {s s' : Pod} {c : Conn}

/-! ### Datagrams -/

section Datagrams

lemma eq_singleton_of_unique {es : List (Sigma fun _ : CommunityId × Uuid => Room)}
    (hnd : es.NodupKeys) {e : Sigma fun _ : CommunityId × Uuid => Room} (he : e ∈ es)
    (huniq : ∀ e' ∈ es, e'.1 = e.1) : es = [e] := by
  have heq : ∀ e' ∈ es, e' = e := fun e' he' => hnd.eq_of_fst_eq he' he (huniq e' he')
  match es with
  | [] => exact absurd he not_mem_nil
  | [x] => rw [heq x (mem_singleton_self x)]
  | x :: y :: es =>
    have hx : x = e := heq x (mem_cons_self ..)
    have hy : y = e := heq y (mem_cons_of_mem _ (mem_cons_self ..))
    rw [hx, hy] at hnd
    exact absurd (mem_cons_self ..) (nodupKeys_cons.mp hnd).1

variable {ch : Uuid} {floor : GenerationFloor}

lemma getUnambiguousByChannel_eq_some {rooms : AudioRoomManager} {room : Room} :
    rooms.getUnambiguousByChannel ch = some room ↔ ∃ comm, rooms.lookup (comm, ch) = some room ∧
        ∀ comm', (comm', ch) ∈ rooms → comm' = comm := by
  have hone : rooms.getUnambiguousByChannel ch = some room ↔
      ∃ e, (rooms.entries.filter fun e => e.1.2 = ch) = [e] ∧ e.2 = room := by
    rw [← map_eq_singleton_iff]
    unfold AudioRoomManager.getUnambiguousByChannel AudioRoomManager.ofChannel
    split
    · next heq => rw [heq, Option.some_inj, singleton_inj]
    next hne =>
    refine iff_of_false (by simp) ?_
    intro heq
    exact hne room heq
  rw [hone]
  constructor
  · rintro ⟨⟨⟨comm, ch'⟩, room'⟩, hes, rfl⟩
    have hmem := mem_filter.mp (hes ▸ mem_singleton_self _)
    obtain rfl : ch' = ch := of_decide_eq_true hmem.2
    refine ⟨comm, AList.mem_lookup_iff.mpr hmem.1, ?_⟩
    intro comm' hcomm'
    obtain ⟨room'', hroom''⟩ := mem_keys.mp hcomm'
    have hmem' : (⟨(comm', ch'), room''⟩ : Sigma fun _ : CommunityId × Uuid => Room) ∈
        rooms.entries.filter fun e => e.1.2 = ch' :=
      mem_filter.mpr ⟨hroom'', decide_eq_true rfl⟩
    rw [hes] at hmem'
    exact congrArg (fun e => e.1.1) (mem_singleton.mp hmem')
  rintro ⟨comm, hget, huniq⟩
  refine ⟨⟨(comm, ch), room⟩, ?_, rfl⟩
  refine eq_singleton_of_unique (rooms.nodupKeys.sublist filter_sublist) ?_ ?_
  · exact mem_filter.mpr ⟨AList.mem_lookup_iff.mp hget, decide_eq_true rfl⟩
  rintro ⟨⟨comm', ch'⟩, room'⟩ he'
  obtain ⟨hmem, hch⟩ := mem_filter.mp he'
  obtain rfl : ch' = ch := of_decide_eq_true hch
  rw [huniq comm' (mem_keys_of_mem hmem)]

lemma Sim.getUnambiguousByChannel (h : Sim a shared s s') (hnone : (a, ch) ∉ s.router.rooms) :
    s'.router.rooms.getUnambiguousByChannel ch = s.router.rooms.getUnambiguousByChannel ch := by
  have hget : ∀ comm, s'.router.rooms.lookup (comm, ch) = s.router.rooms.lookup (comm, ch) := by
    intro comm
    by_cases hcomm : comm = a
    · rw [hcomm, h.absent, AList.lookup_eq_none.mpr hnone]
    · exact h.rooms (comm, ch) hcomm
  have hmem : ∀ comm, (comm, ch) ∈ s'.router.rooms ↔ (comm, ch) ∈ s.router.rooms := by
    intro comm
    rw [← AList.lookup_isSome, ← AList.lookup_isSome, hget]
  refine Option.ext ?_
  intro room
  rw [getUnambiguousByChannel_eq_some, getUnambiguousByChannel_eq_some]
  simp only [hget, hmem]

lemma check_eq {floor' : GenerationFloor} (generation : ℕ)
    (heq : floor'.lookup ch = floor.lookup ch) :
    (floor'.check ch generation).1 = (floor.check ch generation).1 ∧
    ∀ ch', floor'.lookup ch' = floor.lookup ch' →
      (floor'.check ch generation).2.lookup ch' = (floor.check ch generation).2.lookup ch' := by
  have hins : ∀ ch', floor'.lookup ch' = floor.lookup ch' →
      (floor'.insert ch generation).lookup ch' = (floor.insert ch generation).lookup ch' := by
    intro ch' heq'
    rw [Table.lookup_insert_if, Table.lookup_insert_if, heq']
  unfold check
  rw [heq]
  split
  · split_ifs
    · exact ⟨rfl, fun _ heq' => heq'⟩
    · exact ⟨rfl, hins⟩
  · exact ⟨rfl, hins⟩

lemma lookup_check_of_le
    (hkn : floor.lookup ch = some known) (hle : generation ≤ known) (ch' : Uuid) :
    (floor.check ch generation).2.lookup ch' = floor.lookup ch' := by
  unfold check
  rw [hkn]
  dsimp only
  split_ifs with hlt
  · rfl
  obtain rfl : generation = known := le_antisymm hle (not_lt.mp hlt)
  rw [Table.lookup_insert_if]
  split_ifs with hch
  · rw [hch, hkn]
  · rfl

lemma lookup_check_of_ne (generation : ℕ)
    (hch : ch' ≠ ch) : (floor.check ch generation).2.lookup ch' = floor.lookup ch' := by
  unfold check
  split
  · split_ifs
    · rfl
    · exact AList.lookup_insert_ne hch
  · exact AList.lookup_insert_ne hch

/-- What is heard of a datagram, by the verdict on it and the room that was found. -/
def heard (payload : List UInt8) : FenceVerdict → Option Room → List Observation
  | .accept _, some room =>
    match payload with
    | authorIndex :: rest => (room.deliverPrefixed authorIndex (authorIndex :: rest)).map fun e =>
        .media room.communityId e.1 e.2
    | [] => []
  | _, _ => []

lemma datagram_eq (s : Pod) (dgram : MeshDatagram) : s.datagram dgram =
      ({ s with router := { s.router with
          fence := (s.router.fence.check dgram.fenced.sessionId dgram.fenced.generation).2 } },
        heard dgram.payload (s.router.fence.check dgram.fenced.sessionId dgram.fenced.generation).1
          (s.router.rooms.getUnambiguousByChannel dgram.fenced.sessionId)) := by
  unfold datagram MeshAudioRouter.onMediaDatagram
  dsimp only
  cases (s.router.fence.check dgram.fenced.sessionId dgram.fenced.generation).1 with
  | rejectStale known => rfl
  | accept advanced =>
    cases s.router.rooms.getUnambiguousByChannel dgram.fenced.sessionId with
    | none => rfl
    | some room =>
      cases dgram.payload with
      | nil => rfl
      | cons authorIndex rest => rfl

lemma communityId_heard {room : Option Room} (hroom : ∀ r ∈ room, r.communityId = a) :
    ∀ o ∈ heard payload verdict room, o.communityId = a := by
  unfold heard
  split
  · next room =>
    split
    · intro o ho
      obtain ⟨e, _, rfl⟩ := mem_map.mp ho
      exact hroom room rfl
    · simp
  · simp

lemma Sim.datagram (h : Sim a shared s s') {dgram : MeshDatagram}
    (hshared : shared dgram.fenced.sessionId)
    (hnone : (a, dgram.fenced.sessionId) ∉ s.router.rooms) :
    Sim a shared (s.datagram dgram).1 (s'.datagram dgram).1 ∧
      (s'.datagram dgram).2 = (s.datagram dgram).2 := by
  obtain ⟨hver, hfl⟩ := check_eq dgram.fenced.generation (h.floors _ hshared)
  rw [datagram_eq, datagram_eq]
  refine ⟨{ h with floors := ?_ }, ?_⟩
  · intro ch hch
    exact hfl ch (h.floors ch hch)
  · rw [hver, h.getUnambiguousByChannel hnone]

lemma Sim.datagram_left (h : Sim a shared s s') {dgram : MeshDatagram}
    (hfl : shared dgram.fenced.sessionId →
      ∃ known ∈ s.router.fence.lookup dgram.fenced.sessionId, dgram.fenced.generation ≤ known)
    (hroom : ∀ r ∈ s.router.rooms.getUnambiguousByChannel dgram.fenced.sessionId,
      r.communityId = a) :
    Sim a shared (s.datagram dgram).1 s' ∧ ∀ o ∈ (s.datagram dgram).2, o.communityId = a := by
  rw [datagram_eq]
  refine ⟨{ h with floors := ?_ }, communityId_heard hroom⟩
  intro ch hch
  rw [h.floors ch hch]
  by_cases heq : ch = dgram.fenced.sessionId
  · obtain ⟨known, hkn, hle⟩ := hfl (heq ▸ hch)
    exact (lookup_check_of_le hkn hle ch).symm
  · exact (lookup_check_of_ne _ heq).symm

end Datagrams

/-! ### Steps -/

/-- The step makes the relay forget the generation of the channel. -/
def forgets (s : Pod) (c : Conn) (act : ConnAct) : Bool :=
  match act, s.phases c with
  | .ownerGone, .connected _ .remote => true
  | .watch lostFirst, .connected _ _ => (s.fired c lostFirst).isSome
  | _, _ => false

/-- The step asks for the owner entry of the channel. -/
def consults : ConnAct → Bool
  | .resolve _ | .checked _ | .accept _ _ => true
  | _ => false

/-- **The community `a` keeps apart from the others** in this step.

Its datagrams do not raise the floor of a shared channel and find no room of another, its teardowns
find no floor of a shared channel, and it releases no generation that another's entry has.  The others'
steps do not find its owner entry where they ask for one, and their datagrams come while it has no room
for the channel. -/
def Apart (a : CommunityId) (shared : Uuid → Prop) (s : Pod) : PodAct → Prop
  | .conn c act =>
    if c.communityId = a then
      (s.forgets c act → shared c.channelId → s.router.fence.lookup c.channelId = none) ∧
      ∀ generation ∈ (s.phases c).generation, Releasable a s c.channelId generation
    else consults act → Free a s c.channelId
  | .datagram communityId dgram =>
    if communityId = a then
      (shared dgram.fenced.sessionId →
        ∃ known ∈ s.router.fence.lookup dgram.fenced.sessionId, dgram.fenced.generation ≤ known) ∧
      ∀ r ∈ s.router.rooms.getUnambiguousByChannel dgram.fenced.sessionId, r.communityId = a
    else (a, dgram.fenced.sessionId) ∉ s.router.rooms
  | .drainAll => True

lemma Sim.drainAll (h : Sim a shared s s') :
    Sim a shared { s with owners := s.owners.drainAll } { s' with owners := s'.owners.drainAll } := by
  refine h.owners ?_ ?_ ?_
  · rw [(drainAll_spec _).1, (drainAll_spec _).1]
  · intro ch
    rw [drainAll_lookup, drainAll_lookup, otherEntry_none]
  intro t ht
  by_cases hent : ∃ ch, ∃ e ∈ s.owners.entries.lookup ch, e.installer = t
  · obtain ⟨ch, e, he, rfl⟩ := hent
    have he' : s'.owners.entries.lookup ch = some e := by
      rw [h.entries, Option.mem_def.mp he, otherEntry_some ht]
    rw [drainAll_signals_entry he, drainAll_signals_entry he', h.signals _ ht]
  have hoth : ∀ ch, ∀ e ∈ s.owners.entries.lookup ch, e.installer ≠ t :=
    fun ch e he heq => hent ⟨ch, e, he, heq⟩
  have hother' : ∀ ch, ∀ e ∈ s'.owners.entries.lookup ch, e.installer ≠ t := by
    intro ch e he
    rw [h.entries] at he
    exact hoth ch e (mem_of_mem_otherEntry he)
  rw [drainAll_signals_other hoth, drainAll_signals_other hother', h.signals t ht]

lemma Sim.connStep (h : Sim a shared s s') (hc : c.communityId ≠ a) (act : ConnAct)
    (hfree : consults act → Free a s c.channelId) :
    Sim a shared (s.connStep c act).1 (s'.connStep c act).1 ∧
      (s'.connStep c act).2 = (s.connStep c act).2 := by
  have hwat := h.watched c hc
  unfold Pod.connStep
  rw [h.phases c hc]
  split
  · unfold Pod.connect
    rw [h.draining]
    split_ifs
    all_goals exact ⟨h.setPhase_none c rfl, rfl⟩
  · exact ⟨h.resolve hc _ _ _ (hfree rfl), rfl⟩
  · exact ⟨h.checked hc _ _ _ (hfree rfl), rfl⟩
  · exact ⟨h.dialed hc _ _ _, rfl⟩
  · refine ⟨h, ?_⟩
    unfold Pod.frame
    rw [h.room hc]
  · exact ⟨(h.forget c).setPhase_none c rfl, rfl⟩
  · exact ⟨h.leave hc _ _, rfl⟩
  · exact ⟨h.leave hc _ _, rfl⟩
  · exact ⟨h.finish hc _ _ _, rfl⟩
  · exact ⟨h.modifySignals c _, rfl⟩
  · exact ⟨h.modifySignals c _, rfl⟩
  · obtain ⟨heq, hsig⟩ := h.signalsFor (hfree rfl)
    rw [heq]
    exact ⟨h.setPhase c hsig, rfl⟩
  · next stream hph =>
    rw [hph] at hwat
    unfold Pod.register
    rw [h.draining]
    split_ifs
    · exact ⟨h.teardown hc _, rfl⟩
    · exact ⟨(h.enter hc).setPhase c hwat, rfl⟩
  · next hph =>
    rw [hph] at hwat
    exact ⟨h.validated hc hwat _ _ _, rfl⟩
  · next hph =>
    rw [hph] at hwat
    exact ⟨h.unregister hc hwat _, rfl⟩
  · exact ⟨h.teardown hc _, rfl⟩
  · exact h.watch hc _
  · exact ⟨h, rfl⟩

lemma Sim.forget_left (h : Sim a shared s s')
    (hfl : shared c.channelId → s.router.fence.lookup c.channelId = none) :
    Sim a shared (s.forget c) s' := by
  refine { h with floors := ?_ }
  intro ch hch
  simp only [Pod.forget, GenerationFloor.forget]
  rw [h.floors ch hch, Table.lookup_erase_if]
  split_ifs with heq
  · rw [heq, hfl (heq ▸ hch)]
  · rfl

lemma Sim.connStep_left (h : Sim c.communityId shared s s') (act : ConnAct)
    (hforgets : s.forgets c act → shared c.channelId → s.router.fence.lookup c.channelId = none)
    (hrel : ∀ generation ∈ (s.phases c).generation,
      Releasable c.communityId s c.channelId generation) :
    Sim c.communityId shared (s.connStep c act).1 s' ∧
      ∀ o ∈ (s.connStep c act).2, o.communityId = c.communityId := by
  unfold Pod.connStep
  split
  · unfold Pod.connect
    split_ifs
    · exact ⟨h.frame (frame_setPhase c s _), by simp [Observation.communityId]⟩
    · exact ⟨h.frame (frame_setPhase c s _), by simp⟩
  · exact ⟨h.frame (frame_resolve c s _ _ _), by simp⟩
  · exact ⟨h.frame (frame_checked c s _ _ _), by simp⟩
  · exact ⟨h.frame (frame_dialed c s _ _ _), by simp⟩
  · refine ⟨h, ?_⟩
    unfold Pod.frame
    split
    · intro o ho
      obtain ⟨e, _, rfl⟩ := mem_map.mp ho
      rfl
    · simp
  · next hph =>
    have hfl := hforgets (by simp [forgets, hph])
    exact ⟨(h.forget_left hfl).frame (frame_setPhase c _ _), by simp⟩
  · exact ⟨h.frame (frame_leave c s _ _), by simp⟩
  · exact ⟨h.frame (frame_leave c s _ _), by simp⟩
  · next hph =>
    rw [hph] at hrel
    exact ⟨h.frame (frame_finish hrel _), by simp⟩
  · exact ⟨h.frame (frame_modifySignals c s _), by simp⟩
  · exact ⟨h.frame (frame_modifySignals c s _), by simp⟩
  · exact ⟨h.frame (frame_setPhase c s _), by simp⟩
  · next hph =>
    rw [hph] at hrel
    unfold Pod.register
    split_ifs
    · exact ⟨h.frame (frame_teardown (hrel _ rfl)), by simp [Observation.communityId]⟩
    · exact ⟨h.frame ((frame_enter c s).trans (frame_setPhase c _ _)), by simp⟩
  · next hph =>
    rw [hph] at hrel
    exact ⟨h.frame (frame_validated (hrel _ rfl) _ _ _), by simp⟩
  · next hph =>
    rw [hph] at hrel
    exact ⟨h.frame (frame_unregister (hrel _ rfl) _), by simp⟩
  · next hph =>
    rw [hph] at hrel
    exact ⟨h.frame (frame_teardown (hrel _ rfl)), by simp⟩
  · unfold Pod.watch
    split
    · next hph hfired =>
      have hfl := hforgets (by simp [forgets, hph, hfired])
      exact ⟨(h.forget_left hfl).frame (frame_setPhase c _ _), by simp [Observation.communityId]⟩
    · next hph _ =>
      rw [hph] at hrel
      exact ⟨h.frame (frame_teardown (hrel _ rfl)), by simp [Observation.communityId]⟩
    · exact ⟨h, by simp⟩
  · exact ⟨h, by simp⟩

/-! ### Runs -/

def sharedChannels (a : CommunityId) (acts : List PodAct) : List Uuid :=
  (acts.filter fun act => act.communityId ≠ some a).filterMap PodAct.channelId

/-- What is shown over a run, to all but one community. -/
def shownToOthers (a : CommunityId) (localRuntimeId : RuntimeId) (acts : List PodAct) :
    List Observation :=
  (outputs step (init localRuntimeId) acts).filter fun o => o.communityId ≠ a

lemma unwinding (a : CommunityId) (shared : Uuid → Prop) :
    Unwinding step (fun act => act.communityId ≠ some a) (fun o => o.communityId ≠ a)
      (fun s act => Apart a shared s act ∧
        (act.communityId ≠ some a → ∀ ch ∈ act.channelId, shared ch)) (Sim a shared) where
  both := by
    rintro s s' act hsim ⟨hap, hshared⟩ hsty
    have hsty := of_decide_eq_true hsty
    cases act with
    | conn c act =>
      have hc : c.communityId ≠ a := fun heq => hsty (congrArg some heq)
      rw [Apart, if_neg hc] at hap
      obtain ⟨hnext, hout⟩ := hsim.connStep hc act hap
      exact ⟨hnext, congrArg _ hout.symm⟩
    | datagram communityId dgram =>
      have hc : communityId ≠ a := fun heq => hsty (congrArg some heq)
      rw [Apart, if_neg hc] at hap
      obtain ⟨hnext, hout⟩ := hsim.datagram (hshared hsty _ rfl) hap
      exact ⟨hnext, congrArg _ hout.symm⟩
    | drainAll => exact ⟨hsim.drainAll, rfl⟩
  left := by
    rintro s s' act hsim ⟨hap, _⟩ hleft
    have hleft := not_not.mp (of_decide_eq_false hleft)
    have hnothing : ∀ {out : List Observation}, (∀ o ∈ out, o.communityId = a) →
        (out.filter fun o => o.communityId ≠ a) = [] := by
      intro out hout
      rw [filter_eq_nil_iff]
      intro o ho
      simp [hout o ho]
    cases act with
    | conn c act =>
      obtain rfl : c.communityId = a := Option.some.inj hleft
      rw [Apart, if_pos rfl] at hap
      obtain ⟨hnext, hout⟩ := hsim.connStep_left act hap.1 hap.2
      exact ⟨hnext, hnothing hout⟩
    | datagram communityId dgram =>
      rw [Apart, if_pos (Option.some.inj hleft)] at hap
      obtain ⟨hnext, hout⟩ := hsim.datagram_left hap.1 hap.2
      exact ⟨hnext, hnothing hout⟩
    | drainAll => exact absurd hleft (by simp [PodAct.communityId])

/-- **The others are unaffected**: they see the frames and the signals that they see without the steps
of `a`, if it keeps apart in every step. -/
theorem others_unaffected (a : CommunityId) (localRuntimeId : RuntimeId) (acts : List PodAct)
    (h : AllSteps (fun s act => (step s act).1) (Apart a (· ∈ sharedChannels a acts))
      (init localRuntimeId) acts) :
    shownToOthers a localRuntimeId acts =
      shownToOthers a localRuntimeId (acts.filter fun act => act.communityId ≠ some a) := by
  refine (unwinding a (· ∈ sharedChannels a acts)).outputs_eq (sim_init a _ localRuntimeId)
    (h.mono ?_)
  intro s act hact hapart
  refine ⟨hapart, ?_⟩
  intro hother ch hch
  exact mem_filterMap.mpr ⟨act, mem_filter.mpr ⟨hact, decide_eq_true hother⟩, hch⟩

instance (ch : Uuid) (generation : ℕ) : Decidable (Releasable a s ch generation) :=
  inferInstanceAs (Decidable (∀ e ∈ otherEntry a (s.owners.entries.lookup ch), e.generation ≠ _))

instance (ch : Uuid) : Decidable (Free a s ch) :=
  inferInstanceAs (Decidable (∀ e ∈ s.owners.entries.lookup ch, e.installer.communityId ≠ a))

instance [DecidablePred shared] (act : PodAct) : Decidable (Apart a shared s act) := by
  cases act <;> unfold Apart <;> infer_instance

def joinActs (n : BitVec 128) (serial generation : ℕ) (acquired : Bool) : List PodAct :=
  let c : Conn := ⟨⟨⟨n⟩⟩, ⟨9⟩, serial⟩
  [.conn c (.connect 3), .conn c (.resolve (some ⟨.localOwner generation, acquired⟩)),
    .conn c (.checked true)]

def rejectedActs (n : BitVec 128) (serial generation : ℕ) : List PodAct :=
  let c : Conn := ⟨⟨⟨n⟩⟩, ⟨9⟩, serial⟩
  [.conn c (.accept ⟨2⟩ generation), .conn c (.register "ab" 3), .conn c (.validated .fenced)]

theorem rejected_unaffected :
    shownToOthers ⟨⟨1⟩⟩ ⟨1⟩ (joinActs 2 0 5 true ++ joinActs 2 1 5 false ++ rejectedActs 1 0 7 ++
      [.conn ⟨⟨⟨2⟩⟩, ⟨9⟩, 0⟩ (.frame [0xab])]) =
    shownToOthers ⟨⟨1⟩⟩ ⟨1⟩ (joinActs 2 0 5 true ++ joinActs 2 1 5 false ++
      [.conn ⟨⟨⟨2⟩⟩, ⟨9⟩, 0⟩ (.frame [0xab])]) :=
  others_unaffected ⟨⟨1⟩⟩ ⟨1⟩ (joinActs 2 0 5 true ++ joinActs 2 1 5 false ++ rejectedActs 1 0 7 ++
    [.conn ⟨⟨⟨2⟩⟩, ⟨9⟩, 0⟩ (.frame [0xab])]) (by decide +kernel)

/-- Communities 1 and 2 use channel 9.  A client of 2 hears a datagram of 1, sees the lease of 1 lost,
and no longer hears its own datagrams once a client of 1 was rejected. -/
theorem neighbours_interfere :
    (shownToOthers ⟨⟨1⟩⟩ ⟨1⟩ (joinActs 2 0 5 true ++
        [.datagram ⟨⟨1⟩⟩ ⟨⟨⟨9⟩, 1, ⟨2⟩⟩, [7, 0xab]⟩]) =
      [.media ⟨⟨2⟩⟩ ⟨0, 0, 0, 3, .socket⟩ [7, 0xab]] ∧
    shownToOthers ⟨⟨1⟩⟩ ⟨1⟩ (joinActs 2 0 5 true) = []) ∧
    (shownToOthers ⟨⟨1⟩⟩ ⟨1⟩ (joinActs 1 0 5 true ++ joinActs 2 0 8 true ++
        [.conn ⟨⟨⟨1⟩⟩, ⟨9⟩, 0⟩ (.renewed .lost), .conn ⟨⟨⟨2⟩⟩, ⟨9⟩, 0⟩ (.watch true)]) =
      [.signal ⟨⟨⟨2⟩⟩, ⟨9⟩, 0⟩ .lost] ∧
    shownToOthers ⟨⟨1⟩⟩ ⟨1⟩ (joinActs 2 0 8 true ++
        [.conn ⟨⟨⟨2⟩⟩, ⟨9⟩, 0⟩ (.watch true)]) = []) ∧
    (shownToOthers ⟨⟨1⟩⟩ ⟨1⟩ (joinActs 2 0 5 true ++ rejectedActs 1 0 7 ++
        [.datagram ⟨⟨2⟩⟩ ⟨⟨⟨9⟩, 5, ⟨1⟩⟩, [7, 0xab]⟩]) = [] ∧
    shownToOthers ⟨⟨1⟩⟩ ⟨1⟩ (joinActs 2 0 5 true ++
        [.datagram ⟨⟨2⟩⟩ ⟨⟨⟨9⟩, 5, ⟨1⟩⟩, [7, 0xab]⟩]) =
      [.media ⟨⟨2⟩⟩ ⟨0, 0, 0, 3, .socket⟩ [7, 0xab]]) := by
  decide +kernel

end Pod

end Buzz.Audio
