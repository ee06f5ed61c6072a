import Buzz.Audio.CrossPod

/-!
How often a frame is heard.

A participant on another relay than the owner's gets a frame once for each participant there other
than the author (`Huddle.Ok.copies_delivered`): the owner has a sink for each of them, and each
datagram is handed to all of them.  So everyone hears a frame once exactly if no two of them share a
relay other than the owner's (`Huddle.frame_once_iff`).
-/

namespace Buzz.Audio.Huddle

open Buzz.Core Lib List
open Mesh (RuntimeId)

def copies (b : Participant) (out : List Delivered) : ℕ :=
  out.countP fun d => d.pod = b.pod ∧ d.peerId = b.localPeerId

/-- A frame of `a` is heard at most once by everyone else and never by `a`; exactly once if nothing is
lost; and it has the index and the epoch of `a` in front. -/
structure HeardOnce (cfg : HuddleConfig) (h : Huddle) (a : Participant) (frame : List UInt8) :
    Prop where
  atMostOnce : ∀ losses, ∀ b ∈ h.participants,
    copies b (h.send cfg a frame losses).1 ≤ if b = a then 0 else 1
  once : ∀ b ∈ h.participants, b ≠ a → copies b (h.send cfg a frame []).1 = 1
  payload : ∀ losses, ∀ d ∈ (h.send cfg a frame losses).1, d.payload = a.peerIndex :: a.epoch :: frame

/-! ### Counting -/

variable {cfg : HuddleConfig}

lemma Ok.count_others (hok : Ok cfg h) (hb : b ∈ h.participants) :
    (h.others a).count b = if b = a then 0 else 1 := by
  split_ifs with heq
  · rw [count_eq_zero]
    simp [others, heq]
  · refine count_eq_one_of_mem (hok.nodup.filter _) ?_
    exact mem_filter.mpr ⟨hb, by simpa using heq⟩

lemma Ok.countP_client (hok : Ok cfg h) (hb : b ∈ h.participants) (pod : RuntimeId) :
    ((h.others a).filter fun q => q.pod = pod).countP
      (fun q => pod = b.pod ∧ q.localPeerId = b.localPeerId) =
    if pod = b.pod then (h.others a).count b else 0 := by
  rw [countP_filter]
  split_ifs with hpod
  · refine countP_congr ?_
    intro q hq
    have hq : q ∈ h.participants := mem_of_mem_filter hq
    simp only [hpod, true_and, Bool.and_eq_true, decide_eq_true_eq, beq_iff_eq]
    constructor
    · rintro ⟨hid, hqpod⟩
      exact hok.eq_of_localPeerId hq hb hqpod hid
    · rintro rfl
      exact ⟨rfl, rfl⟩
  · rw [countP_eq_zero]
    simp [hpod]

lemma sum_copies (cs : List Participant) (n : ℕ) (pod : RuntimeId) :
    (cs.map fun c => if c.pod = pod then n else 0).sum = n * cs.countP fun c => c.pod = pod := by
  induction cs with
  | nil => rfl
  | cons c cs ih =>
    rw [map_cons, sum_cons, ih, countP_cons]
    by_cases hpod : c.pod = pod
    · simp only [hpod, if_true, decide_true]
      rw [Nat.mul_add, Nat.mul_one, Nat.add_comm]
    · simp [hpod]

lemma Ok.copies_delivered (hok : Ok cfg h) (hb : b ∈ h.participants) (payload : List UInt8) :
    copies b (delivered cfg h a payload) = (h.others a).count b *
      if b.pod = cfg.owner then 1 else (h.others a).countP fun c => c.pod = b.pod := by
  have hown : (((h.others a).filter fun q => q.pod = cfg.owner).map fun q =>
      (⟨cfg.owner, q.ownerPeerId, payload⟩ : Delivered)) =
      ((h.others a).filter fun q => q.pod = cfg.owner).map fun q =>
        ⟨cfg.owner, q.localPeerId, payload⟩ := by
    refine map_congr_left ?_
    intro q hq
    obtain ⟨hq, hpod⟩ := mem_filter.mp hq
    rw [hok.atOwner q (mem_of_mem_filter hq) (of_decide_eq_true hpod)]
  have hclients : ∀ pod, copies b (((h.others a).filter fun q => q.pod = pod).map fun q =>
      ⟨pod, q.localPeerId, payload⟩) = if pod = b.pod then (h.others a).count b else 0 := by
    intro pod
    rw [← hok.countP_client hb pod, copies, countP_map]
    rfl
  have helsewhere : copies b (((h.others a).filter fun c => c.pod ≠ cfg.owner).flatMap fun c =>
      ((h.others a).filter fun q => q.pod = c.pod).map fun q => ⟨c.pod, q.localPeerId, payload⟩) =
      (h.others a).count b *
        ((h.others a).filter fun c => c.pod ≠ cfg.owner).countP fun c => c.pod = b.pod := by
    rw [← sum_copies, copies, countP_flatMap]
    exact congrArg sum (map_congr_left fun c _ => hclients c.pod)
  rw [delivered, hown, copies, countP_append]
  refine (congrArg₂ (· + ·) (hclients cfg.owner) helsewhere).trans ?_
  rw [countP_filter]
  by_cases hpod : b.pod = cfg.owner
  · simp [hpod]
  have hall : (h.others a).countP (fun c => c.pod = b.pod && c.pod ≠ cfg.owner) =
      (h.others a).countP fun c => c.pod = b.pod := by
    refine countP_congr ?_
    intro c _
    simp only [Bool.and_eq_true, decide_eq_true_eq]
    exact ⟨And.left, fun heq => ⟨heq, heq ▸ hpod⟩⟩
  rw [hall, if_neg (Ne.symm hpod), if_neg hpod, Nat.zero_add]

variable {payload : List UInt8}

lemma payload_delivered (hd : d ∈ delivered cfg h a payload) : d.payload = payload := by
  rcases mem_append.mp hd with hd | hd
  · obtain ⟨q, _, rfl⟩ := mem_map.mp hd
    rfl
  obtain ⟨c, _, hd⟩ := mem_flatMap.mp hd
  obtain ⟨q, _, rfl⟩ := mem_map.mp hd
  rfl

lemma delivered_lone (hlone : ∀ b ∈ h.participants, b = a) : delivered cfg h a payload = [] := by
  have hoth : h.others a = [] := by simpa [others] using hlone
  simp [delivered, hoth]

lemma Ok.countP_pod_eq_one_iff (hok : Ok cfg h) (hb : b ∈ h.participants) (hne : b ≠ a) :
    ((h.others a).countP fun c => c.pod = b.pod) = 1 ↔
      ∀ c ∈ h.participants, c ≠ a → c.pod = b.pod → c = b := by
  have hmem : ∀ c, c ∈ h.others a ↔ c ∈ h.participants ∧ c ≠ a := by simp [others]
  constructor
  · intro hone c hc hca hpod
    rw [countP_eq_length_filter] at hone
    obtain ⟨e, he⟩ := length_eq_one_iff.mp hone
    have hcopy : ∀ q ∈ h.participants, q ≠ a → q.pod = b.pod → q = e := by
      intro q hq hqa hqpod
      have hq' : q ∈ (h.others a).filter fun c => c.pod = b.pod :=
        mem_filter.mpr ⟨(hmem q).mpr ⟨hq, hqa⟩, decide_eq_true hqpod⟩
      rw [he] at hq'
      exact mem_singleton.mp hq'
    rw [hcopy c hc hca hpod, hcopy b hb hne rfl]
  intro hal
  have hcnt : ((h.others a).countP fun c => c.pod = b.pod) = (h.others a).count b := by
    refine countP_congr ?_
    intro c hc
    obtain ⟨hc, hca⟩ := (hmem c).mp hc
    simp only [decide_eq_true_eq, beq_iff_eq]
    constructor
    · exact hal c hc hca
    · rintro rfl
      rfl
  rw [hcnt, hok.count_others hb, if_neg hne]

/-! ### Runs -/

lemma Ok.step (hok : Ok cfg h) (act : HuddleAct) : Ok cfg (h.step cfg act) := by
  cases act with
  | joinLocal version => exact hok.joinLocal version
  | joinRemote pod version =>
    simp only [Huddle.step]
    split_ifs with hpod
    · exact hok
    · exact hok.joinRemote hpod version
  | leave p =>
    simp only [Huddle.step]
    split_ifs with hp
    · exact hok.leave hp
    · exact hok
  | send p frame losses =>
    simp only [Huddle.step]
    split_ifs with hp
    · exact (((hok.send hp frame).1 losses).2).ok hok
    · exact hok

theorem ok_run (cfg : HuddleConfig) (acts : List HuddleAct) : Ok cfg (run cfg acts) := by
  induction acts using reverseRecOn with
  | nil => exact ok_init
  | append_singleton acts act ih =>
    rw [run, foldl_concat]
    exact ih.step act

lemma wireFrame_eq_epoch_iff (frame : List UInt8) :
    wireFrame a frame = a.peerIndex :: a.epoch :: frame ↔ 3 ≤ a.protocolVersion := by
  unfold wireFrame Room.framePrefix
  split_ifs with hver
  · simp [hver]
  simp only [ge_iff_le] at hver
  simp only [hver, iff_false]
  intro heq
  have := congrArg length heq
  simp at this

/-- **Each frame is heard once, by everyone but its author**, exactly if no two of the others share a
relay that is not the owner's; and with its epoch exactly if the author's version has epochs. -/
theorem frame_once_iff (cfg : HuddleConfig) (acts : List HuddleAct) (a : Participant)
    (ha : a ∈ (run cfg acts).participants) (frame : List UInt8) :
    HeardOnce cfg (run cfg acts) a frame ↔
      (∀ b ∈ (run cfg acts).participants, ∀ c ∈ (run cfg acts).participants,
        b ≠ a → c ≠ a → c.pod = b.pod → b.pod ≠ cfg.owner → c = b) ∧
      ((∀ b ∈ (run cfg acts).participants, b = a) ∨ 3 ≤ a.protocolVersion) := by
  have hok := ok_run cfg acts
  obtain ⟨hsub, hall⟩ := hok.send ha frame
  constructor
  · intro hheard
    refine ⟨?_, ?_⟩
    · intro b hb c hc hba hca hpod howner
      have hone := hheard.once b hb hba
      rw [hall, hok.copies_delivered hb, hok.count_others hb, if_neg hba, if_neg howner,
        Nat.one_mul] at hone
      exact (hok.countP_pod_eq_one_iff hb hba).mp hone c hc hca hpod
    by_cases halone : ∀ b ∈ (run cfg acts).participants, b = a
    · exact .inl halone
    right
    push Not at halone
    obtain ⟨b, hb, hba⟩ := halone
    -- someone hears the frame, so its bytes are those of the prefix
    have hone := hheard.once b hb hba
    obtain ⟨d, hd, _⟩ := countP_pos_iff.mp (hone ▸ Nat.one_pos)
    rw [← wireFrame_eq_epoch_iff frame, ← hheard.payload [] d hd]
    rw [hall] at hd
    exact (payload_delivered hd).symm
  rintro ⟨halone, hversion⟩
  have hcopies : ∀ b ∈ (run cfg acts).participants,
      copies b (delivered cfg (run cfg acts) a (wireFrame a frame)) = if b = a then 0 else 1 := by
    intro b hb
    rw [hok.copies_delivered hb, hok.count_others hb]
    by_cases hba : b = a
    · rw [if_pos hba, Nat.zero_mul]
    rw [if_neg hba, Nat.one_mul]
    split_ifs with howner
    · rfl
    · exact (hok.countP_pod_eq_one_iff hb hba).mpr fun c hc hca hpod =>
        halone b hb c hc hba hca hpod howner
  refine ⟨?_, ?_, ?_⟩
  · intro losses b hb
    rw [← hcopies b hb]
    exact (hsub losses).1.countP_le
  · intro b hb hba
    rw [hall, hcopies b hb, if_neg hba]
  intro losses d hd
  have hd := (hsub losses).1.subset hd
  rcases hversion with hlone | hversion
  · rw [delivered_lone hlone] at hd
    exact absurd hd not_mem_nil
  · rw [payload_delivered hd]
    exact (wireFrame_eq_epoch_iff frame).mpr hversion

theorem frame_once_two_relays :
    (⟨⟨1⟩, 0, 0, 0, 0, 0, 3⟩ : Participant) ∈ (run ⟨⟨1⟩, ⟨⟨7⟩⟩, ⟨9⟩, 1⟩
      [.joinLocal 3, .joinRemote ⟨2⟩ 3]).participants ∧
    HeardOnce ⟨⟨1⟩, ⟨⟨7⟩⟩, ⟨9⟩, 1⟩
      (run ⟨⟨1⟩, ⟨⟨7⟩⟩, ⟨9⟩, 1⟩ [.joinLocal 3, .joinRemote ⟨2⟩ 3]) ⟨⟨1⟩, 0, 0, 0, 0, 0, 3⟩ [0xab] :=
  ⟨by decide +kernel,
    (frame_once_iff _ _ _ (by decide +kernel) _).mpr ⟨by decide +kernel, .inr (by decide)⟩⟩

/-- Two participants on one other relay: each of them gets the frame twice. -/
theorem frame_twice_on_shared_relay :
    ∃ (cfg : HuddleConfig) (acts : List HuddleAct) (a b c : Participant),
      (run cfg acts).participants = [a, b, c] ∧ a.pod = cfg.owner ∧ b.pod ≠ cfg.owner ∧
      c.pod = b.pod ∧
      copies b ((run cfg acts).send cfg a [0xab] []).1 = 2 ∧
      copies c ((run cfg acts).send cfg a [0xab] []).1 = 2 := by
  refine ⟨⟨⟨1⟩, ⟨⟨7⟩⟩, ⟨9⟩, 1⟩, [.joinLocal 3, .joinRemote ⟨2⟩ 3, .joinRemote ⟨2⟩ 3],
    ⟨⟨1⟩, 0, 0, 0, 0, 0, 3⟩, ⟨⟨2⟩, 1, 0, 1, 0, 0, 3⟩, ⟨⟨2⟩, 2, 1, 2, 0, 0, 3⟩, ?_⟩
  decide +kernel

end Buzz.Audio.Huddle
