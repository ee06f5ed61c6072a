import Buzz.Tunnel.Directory

/-!
Fenced ownership of a session.

The counter is the generation of the lease that was taken last, and a lease that is there is that one:
taking one increments the counter, and nothing else touches it (`Fenced`).  So a frame that is let
through is one of the latest owner, and none of an earlier owner is let through again, whatever the
runtimes do, whenever the lease expires and whichever replies are lost (`fenced_ownership`).
-/

namespace Buzz.Tunnel

open Buzz.Core Lib List Nat Option
open Mesh (RuntimeId)

/-! ### Runs -/

/-- A lease that a runtime has taken. -/
structure Acquisition where
  owner : RuntimeId
  generation : ℕ

/-- The store, and the leases that were ever taken, latest first. -/
structure Directory where
  store : SessionStore
  acquired : List Acquisition

inductive DirectoryAct
  | acquire (owner : RuntimeId) (profile : Profile) (ttlMs : ℕ) (delivery : Delivery)
  | renew (lease : SessionLease) (ttlMs : ℕ) (delivery : Delivery)
  | release (lease : SessionLease) (delivery : Delivery)
  /-- The lease expires. -/
  | expire
  | validate (fenced : FencedHeader)

namespace Directory

section Runs

variable (L : LuaNumbers) (communityId : CommunityId) (sessionId : Uuid)

def init : Directory := ⟨⟨none, none⟩, []⟩

/-- The lease was taken if it is there now and was not before. -/
def step (d : Directory) : DirectoryAct → Directory
  | .acquire owner profile ttlMs delivery =>
    let store := (Tunnel.acquire L communityId sessionId d.store owner profile ttlMs delivery).2
    { store
      acquired :=
        if d.store.lease = none ∧ store.lease ≠ none then
          ⟨owner, store.generation.getD 0⟩ :: d.acquired
        else d.acquired }
  | .renew lease ttlMs delivery => { d with store := (Tunnel.renew d.store lease ttlMs delivery).2 }
  | .release lease delivery => { d with store := (Tunnel.release d.store lease delivery).2 }
  | .expire => { d with store := { d.store with lease := none } }
  | .validate _ => d

def run (acts : List DirectoryAct) : Directory := acts.foldl (step L communityId sessionId) init

end Runs

/-- The runtime holds the lease: it took it last, and it is still there. -/
def Holds (d : Directory) (owner : RuntimeId) (generation : ℕ) : Prop :=
  d.store.lease ≠ none ∧ d.acquired.head? = some ⟨owner, generation⟩

/-! ### What a step does -/

variable {L : LuaNumbers} {communityId : CommunityId} {sessionId : Uuid}

section Steps

variable (st : SessionStore) (lease : SessionLease)

lemma acquire_store (L : LuaNumbers) (communityId : CommunityId) (sessionId : Uuid)
    (st : SessionStore) (owner : RuntimeId) (profile : Profile) (ttlMs : ℕ) (delivery : Delivery) :
    (acquire L communityId sessionId st owner profile ttlMs delivery).2 = st ∨
      st.lease = none ∧ st.generation ≠ some maxCounter ∧
        (acquire L communityId sessionId st owner profile ttlMs delivery).2 =
          ⟨some ⟨leaseText L owner (st.generation.getD 0 + 1) profile, ttlMs⟩,
            some (st.generation.getD 0 + 1)⟩ := by
  have hscr : (acquireScript L st owner.toHex.toList profile.asWireStr.toList ttlMs).2 = st ∨
      st.lease = none ∧ st.generation ≠ some maxCounter ∧
        (acquireScript L st owner.toHex.toList profile.asWireStr.toList ttlMs).2 =
          ⟨some ⟨leaseText L owner (st.generation.getD 0 + 1) profile, ttlMs⟩,
            some (st.generation.getD 0 + 1)⟩ := by
    unfold acquireScript
    split
    · exact .inl rfl
    next hnone =>
    split_ifs with hmax
    · exact .inl rfl
    · exact .inr ⟨hnone, hmax, rfl⟩
  have hsnd : (acquire L communityId sessionId st owner profile ttlMs delivery).2 = st ∨
      (acquire L communityId sessionId st owner profile ttlMs delivery).2 =
        (acquireScript L st owner.toHex.toList profile.asWireStr.toList ttlMs).2 := by
    unfold acquire
    split
    · exact .inl rfl
    · exact .inr rfl
    · split
      all_goals next hran => exact .inr (by rw [hran])
  rcases hsnd with hsnd | hsnd
  · exact .inl hsnd
  · rw [hsnd]
    exact hscr

lemma holderScript_store (owner generation : List Char) (won : ScriptStatus)
    (change : LeaseEntry → Option LeaseEntry) :
    (holderScript st owner generation won change).2 = st ∨ ∃ entry profile, st.lease = some entry ∧
        matchLease entry.value = some (owner, generation, profile) ∧
        (holderScript st owner generation won change).2 = { st with lease := change entry } := by
  unfold holderScript
  split
  · exact .inl rfl
  next entry hent =>
  split
  · next currentOwner currentGeneration profile hmt =>
    split_ifs with hheld
    · obtain ⟨rfl, rfl⟩ := hheld
      exact .inr ⟨entry, profile, hent, hmt, rfl⟩
    · exact .inl rfl
  · exact .inl rfl

/-- What a call for a lease can do to the store: nothing, or what the holder's script does to the
lease it matches. -/
def HolderOnly (st st' : SessionStore) (lease : SessionLease) : Prop :=
  st' = st ∨ ∃ entry profile after, st.lease = some entry ∧
    matchLease entry.value =
      some (lease.ownerRuntimeId.toHex.toList, toDigits 10 lease.generation, profile) ∧
    (∀ next ∈ after, LeaseEntry.value next = entry.value) ∧ st' = { st with lease := after }

lemma holderCall_holderOnly {R : Type} (won : ScriptStatus)
    (hchange : ∀ entry, ∀ next ∈ change entry, LeaseEntry.value next = entry.value)
    (read : Delivery → ScriptReply → Except DirectoryError R) (delivery : Delivery) :
    HolderOnly st (holderCall st (holderScript st lease.ownerRuntimeId.toHex.toList
      (toDigits 10 lease.generation) won change) read delivery).2 lease := by
  have hscr : HolderOnly st (holderScript st lease.ownerRuntimeId.toHex.toList
      (toDigits 10 lease.generation) won change).2 lease := by
    rcases holderScript_store st lease.ownerRuntimeId.toHex.toList
      (toDigits 10 lease.generation) won change with hs | ⟨entry, profile, hent, hmt, hs⟩
    · exact .inl hs
    · exact .inr ⟨entry, profile, change entry, hent, hmt, hchange entry, hs⟩
  unfold holderCall
  split
  · exact .inl rfl
  · exact hscr
  · exact hscr

lemma renew_holderOnly (ttlMs : ℕ)
    (delivery : Delivery) : HolderOnly st (renew st lease ttlMs delivery).2 lease := by
  refine holderCall_holderOnly st lease .renewed ?_ _ delivery
  rintro entry _ ⟨⟩
  rfl

lemma release_holderOnly (delivery : Delivery) :
    HolderOnly st (release st lease delivery).2 lease :=
  holderCall_holderOnly st lease .released (fun _ _ hn => (not_mem_none _ hn).elim) _ delivery

/-- **A step** takes a lease of the next generation, or leaves counter and history alone and keeps
what the lease says or drops it. -/
theorem step_cases (d : Directory) (act : DirectoryAct) :
    (∃ owner profile ttlMs delivery, act = .acquire owner profile ttlMs delivery ∧
      d.store.lease = none ∧ d.store.generation ≠ some maxCounter ∧
      d.step L communityId sessionId act =
        ⟨⟨some ⟨leaseText L owner (d.store.generation.getD 0 + 1) profile, ttlMs⟩,
          some (d.store.generation.getD 0 + 1)⟩,
          ⟨owner, d.store.generation.getD 0 + 1⟩ :: d.acquired⟩) ∨
    ((d.step L communityId sessionId act).store.generation = d.store.generation ∧
      (d.step L communityId sessionId act).acquired = d.acquired ∧
      ∀ entry ∈ (d.step L communityId sessionId act).store.lease,
        ∃ before ∈ d.store.lease, entry.value = LeaseEntry.value before) := by
  have hkeep : ∀ st' lease, HolderOnly d.store st' lease → st'.generation = d.store.generation ∧
      ∀ entry ∈ st'.lease, ∃ before ∈ d.store.lease, entry.value = LeaseEntry.value before := by
    rintro st' lease (rfl | ⟨before, profile, after, hpre, _, haft, rfl⟩)
    · exact ⟨rfl, fun entry hent => ⟨entry, hent, rfl⟩⟩
    · exact ⟨rfl, fun entry hent => ⟨before, hpre, haft entry hent⟩⟩
  cases act with
  | acquire owner profile ttlMs delivery =>
    rcases acquire_store L communityId sessionId d.store owner profile ttlMs delivery with
      h | ⟨hnone, hmax, h⟩
    · right
      simp only [step, h, and_not_self, if_false]
      exact ⟨trivial, trivial, fun entry hent => ⟨entry, hent, rfl⟩⟩
    left
    refine ⟨owner, profile, ttlMs, delivery, rfl, hnone, hmax, ?_⟩
    simp [step, h, hnone]
  | renew lease ttlMs delivery =>
    obtain ⟨hgen, hls⟩ := hkeep _ lease (renew_holderOnly d.store lease ttlMs delivery)
    exact .inr ⟨hgen, rfl, hls⟩
  | release lease delivery =>
    obtain ⟨hgen, hls⟩ := hkeep _ lease (release_holderOnly d.store lease delivery)
    exact .inr ⟨hgen, rfl, hls⟩
  | expire => exact .inr ⟨rfl, rfl, fun entry hent => (not_mem_none _ hent).elim⟩
  | validate fenced => exact .inr ⟨rfl, rfl, fun entry hent => ⟨entry, hent, rfl⟩⟩

end Steps

/-! ### The invariant -/

/-- The counter is the latest generation, and a lease that is there is the latest one. -/
structure Fenced (L : LuaNumbers) (d : Directory) : Prop where
  counter : d.store.generation = d.acquired.head?.map Acquisition.generation
  lease : ∀ entry ∈ d.store.lease, ∃ latest profile, d.acquired.head? = some latest ∧
    entry.value = leaseText L latest.owner latest.generation profile
  increasing : d.acquired.Pairwise fun newer older => older.generation < newer.generation
  bounds : ∀ a ∈ d.acquired, 0 < a.generation ∧ a.generation ≤ maxCounter

section Invariant

variable {d : Directory}

lemma fenced_init : Fenced L init where
  counter := rfl
  lease _ hent := (not_mem_none _ hent).elim
  increasing := List.Pairwise.nil
  bounds _ ha := (not_mem_nil ha).elim

lemma Fenced.le_counter (h : Fenced L d) (ha : a ∈ d.acquired) :
    a.generation ≤ d.store.generation.getD 0 := by
  rw [h.counter]
  have hinc := h.increasing
  cases hlist : d.acquired with
  | nil => rw [hlist] at ha; cases ha
  | cons latest older =>
    rw [hlist] at ha hinc
    rcases mem_cons.mp ha with rfl | ha
    · exact le_rfl
    · exact (rel_of_pairwise_cons hinc ha).le

lemma Fenced.counter_lt (h : Fenced L d) (hmax : d.store.generation ≠ some maxCounter) :
    d.store.generation.getD 0 < maxCounter := by
  cases hgen : d.store.generation with
  | none => exact succ_pos _
  | some n =>
    rw [hgen] at hmax
    have hhead := h.counter
    rw [hgen] at hhead
    obtain ⟨latest, hlat, hn⟩ := map_eq_some_iff.mp hhead.symm
    have hbd := (h.bounds latest (mem_of_mem_head? hlat)).2
    exact lt_of_le_of_ne (hn ▸ hbd) fun heq => hmax (congrArg some heq)

theorem Fenced.step (h : Fenced L d) (act : DirectoryAct) :
    Fenced L (d.step L communityId sessionId act) := by
  rcases step_cases (L := L) d act with
    ⟨owner, profile, ttlMs, delivery, _, _, hmax, hstep⟩ | ⟨hgen, hacq, hls⟩
  · rw [hstep]
    have hle := h.counter_lt hmax
    refine ⟨rfl, ?_, pairwise_cons.mpr ⟨?_, h.increasing⟩, ?_⟩
    · intro entry hent
      obtain rfl := mem_some.mp hent
      exact ⟨_, profile, rfl, rfl⟩
    · intro older holder
      exact lt_succ_of_le (h.le_counter holder)
    intro a ha
    rcases mem_cons.mp ha with rfl | ha
    · exact ⟨succ_pos _, hle⟩
    · exact h.bounds a ha
  refine ⟨by rw [hgen, hacq, h.counter], ?_, hacq ▸ h.increasing, hacq ▸ h.bounds⟩
  intro entry hent
  obtain ⟨before, hpre, heq⟩ := hls entry hent
  rw [hacq, heq]
  exact h.lease before hpre

theorem fenced_run (acts : List DirectoryAct) : Fenced L (run L communityId sessionId acts) := by
  induction acts using reverseRecOn with
  | nil => exact fenced_init
  | append_singleton acts act ih =>
    rw [run, foldl_concat]
    exact ih.step act

end Invariant

/-! ### The fence -/

section Fence

variable {d : Directory}

lemma parseOptionalGeneration_toDigits (hpos : 0 < n) (h : n ≤ maxCounter) :
    parseOptionalGeneration communityId sessionId (toDigits 10 n) = .ok (some n) := by
  have hprs : parseU64 (toDigits 10 n) = some n := parseUnsigned_toDigits (h.trans (by decide))
  simp only [parseOptionalGeneration, toDigits_ne_nil, if_false, hprs, okOr_some, ok_bind,
    refuseIf, hpos.ne']
  rfl

lemma validateFencedHeader_of_none (h : d.store.lease = none) (fenced : FencedHeader) :
    validateFencedHeader communityId d.store fenced ≠ .ok () := by
  have hls : parseOptionalLease communityId fenced.sessionId d.store.leaseOrEmpty = .ok none := by
    simp [SessionStore.leaseOrEmpty, h, parseOptionalLease]
  simp [validateFencedHeader, hls, Except.mapError]

/-- What a frame is let through for: the live lease is its owner's, of its generation, which is
written in full. -/
theorem Fenced.validateFencedHeader_iff (h : Fenced L d) (fenced : FencedHeader) :
    validateFencedHeader communityId d.store fenced = .ok () ↔
      d.Holds fenced.ownerRuntimeId fenced.generation ∧ fenced.generation < 100000000000000 := by
  cases hent : d.store.lease with
  | none =>
    refine iff_of_false (validateFencedHeader_of_none hent fenced) ?_
    rintro ⟨⟨hlive, _⟩, _⟩
    exact hlive hent
  | some entry =>
    obtain ⟨⟨owner, generation⟩, profile, hlat, hval⟩ := h.lease entry hent
    obtain ⟨hpos, hmax⟩ := h.bounds _ (mem_of_mem_head? hlat)
    have hcounter : d.store.generationText = toDigits 10 generation := by
      simp [SessionStore.generationText, h.counter, hlat]
    have hls : d.store.leaseOrEmpty = leaseText L owner generation profile := by
      simp [SessionStore.leaseOrEmpty, hent, hval]
    have hh : d.Holds fenced.ownerRuntimeId fenced.generation ↔
        fenced.generation = generation ∧ fenced.ownerRuntimeId = owner := by
      simp [Holds, hent, hlat, eq_comm, and_comm]
    rw [hh]
    unfold validateFencedHeader
    rw [hcounter, hls, parseOptionalGeneration_toDigits hpos hmax]
    simp only [parseOptionalLease, leaseText_ne_nil, if_false]
    rcases lt_or_ge generation 100000000000000 with hsm | hlg
    · rw [parseLease_leaseText L owner generation profile _ _ hpos hsm]
      simp only [Except.map, Except.mapError, ok_bind, okOr_some, bind_eq_ok, refuseIf_eq_ok,
        map_some, getD_some, max_self, not_and, not_lt, not_not, exists_const]
      constructor
      · rintro ⟨_, hgen, hown⟩
        exact ⟨⟨hgen, hown⟩, hgen ▸ hsm⟩
      · rintro ⟨⟨hgen, hown⟩, _⟩
        exact ⟨fun _ => hgen.ge, hgen, hown⟩
    rw [parseLease_leaseText_large L owner generation profile _ _ hlg]
    refine iff_of_false (fun hok => by cases hok) ?_
    rintro ⟨⟨hgen, _⟩, hsm⟩
    omega

variable {lease : SessionLease} {delivery : Delivery} {owner : RuntimeId} {profile : Profile}
  {ttlMs : ℕ}

lemma Fenced.holderOnly (h : Fenced L d) (hcall : HolderOnly d.store st' lease)
    (hnot : ¬d.Holds lease.ownerRuntimeId lease.generation) : st' = d.store := by
  rcases hcall with hsame | ⟨entry, profile, after, hent, hmt, _, _⟩
  · exact hsame
  obtain ⟨⟨owner, generation⟩, profile', hlat, hval⟩ := h.lease entry hent
  rw [hval, matchLease_leaseText] at hmt
  simp only [some.injEq, Prod.mk.injEq] at hmt
  obtain ⟨hown, hgen, _⟩ := hmt
  refine absurd ⟨by simp [hent], ?_⟩ hnot
  rw [hlat, toHex_injective (String.toList_injective hown), tostring_eq_toDigits L hgen]

lemma readAcquire_eq_acquired
    (h : readAcquire communityId sessionId delivery reply = .ok (.acquired lease)) :
    reply.status = .acquired ∧ parseLease communityId sessionId reply.value = .ok lease := by
  obtain ⟨parsed, hprs, h⟩ := bind_eq_ok.mp h
  obtain ⟨_, _, h⟩ := bind_eq_ok.mp h
  split at h
  · next hst =>
    cases h
    exact ⟨hst, hprs⟩
  · cases h
  · cases h

lemma acquireScript_eq_acquired
    (h : acquireScript L st owner.toHex.toList profile.asWireStr.toList ttlMs = (.ok reply, st'))
    (hst : reply.status = .acquired) :
    st.lease = none ∧ reply.value = leaseText L owner (st.generation.getD 0 + 1) profile ∧
      st' = ⟨some ⟨reply.value, ttlMs⟩, some (st.generation.getD 0 + 1)⟩ := by
  unfold acquireScript at h
  split at h
  · cases h
    cases hst
  next hnone =>
  split_ifs at h
  · cases h
  obtain ⟨hrep, rfl⟩ := Prod.mk.inj h
  obtain rfl := Except.ok.inj hrep
  exact ⟨hnone, rfl, rfl⟩

/-- The lease an acquisition hands out is the one it has just taken. -/
lemma acquire_eq_acquired (h : (acquire L communityId sessionId st owner profile ttlMs delivery).1 =
      .ok (.acquired lease)) : st.lease = none ∧ lease.ownerRuntimeId = owner ∧
      lease.generation = st.generation.getD 0 + 1 ∧
      (acquire L communityId sessionId st owner profile ttlMs delivery).2.lease ≠ none ∧
      (acquire L communityId sessionId st owner profile ttlMs delivery).2.generation =
        some lease.generation := by
  unfold acquire at h ⊢
  split at h
  · cases h
  · cases h
  split at h
  · next reply st' hran =>
    obtain ⟨hst, hprs⟩ := readAcquire_eq_acquired h
    obtain ⟨hnone, hval, rfl⟩ := acquireScript_eq_acquired hran hst
    rw [hval] at hprs
    obtain rfl := eq_of_parseLease_leaseText L owner _ profile _ _ (succ_pos _) hprs
    exact ⟨hnone, rfl, rfl, some_ne_none _, rfl⟩
  · cases h

lemma acquired_suffix (d : Directory) (acts : List DirectoryAct) :
    d.acquired <:+ (acts.foldl (step L communityId sessionId) d).acquired := by
  induction acts generalizing d with
  | nil => exact suffix_refl _
  | cons act acts ih =>
    refine List.IsSuffix.trans ?_ (ih _)
    rcases step_cases (L := L) d act with ⟨_, _, _, _, _, _, _, hstep⟩ | ⟨_, hacq, _⟩
    · rw [hstep]
      exact suffix_cons _ _
    · rw [hacq]

end Fence

/-- **Fenced ownership.** After any run of any runtimes, with leases expiring and replies lost at any
time:
* the generations of the leases taken have strictly increased, and an acquisition that succeeds
  hands out the next;
* a frame is let through only if its owner took the latest lease, that lease is of its generation,
  and it is still there;
* from then on no frame of an earlier generation is let through;
* renewing or releasing a lease that one does not hold changes nothing. -/
theorem fenced_ownership (L : LuaNumbers) (communityId : CommunityId) (sessionId : Uuid)
    (acts : List DirectoryAct) :
    ((run L communityId sessionId acts).acquired.Pairwise fun newer older =>
      older.generation < newer.generation) ∧
    (∀ owner profile ttlMs delivery lease,
      (acquire L communityId sessionId (run L communityId sessionId acts).store owner profile ttlMs
        delivery).1 = .ok (.acquired lease) →
      (run L communityId sessionId (acts ++ [.acquire owner profile ttlMs delivery])).acquired =
        ⟨lease.ownerRuntimeId, lease.generation⟩ :: (run L communityId sessionId acts).acquired) ∧
    (∀ fenced, validateFencedHeader communityId (run L communityId sessionId acts).store fenced =
        .ok () →
      (run L communityId sessionId acts).Holds fenced.ownerRuntimeId fenced.generation) ∧
    (∀ newer ∈ (run L communityId sessionId acts).acquired, ∀ later fenced,
      fenced.generation < newer.generation →
      validateFencedHeader communityId (run L communityId sessionId (acts ++ later)).store fenced ≠
        .ok ()) ∧
    (∀ lease, ¬(run L communityId sessionId acts).Holds lease.ownerRuntimeId lease.generation →
      (∀ ttlMs delivery, (renew (run L communityId sessionId acts).store lease ttlMs delivery).2 =
        (run L communityId sessionId acts).store) ∧
      ∀ delivery, (release (run L communityId sessionId acts).store lease delivery).2 =
        (run L communityId sessionId acts).store) := by
  have hfenced : ∀ acts, Fenced L (run L communityId sessionId acts) := fenced_run
  refine ⟨(hfenced acts).increasing, ?_, ?_, ?_, ?_⟩
  · intro owner profile ttlMs delivery lease h
    unfold run at h ⊢
    obtain ⟨hnone, howner, _, hsome, hgen⟩ := acquire_eq_acquired h
    simp [step, hnone, hsome, hgen, howner]
  · intro fenced h
    exact ((hfenced acts).validateFencedHeader_iff fenced).mp h |>.1
  · intro newer hnewer later fenced hlt haccepted
    -- the newer lease is still on record, and what is let through is of the latest
    obtain ⟨⟨_, hlatest⟩, _⟩ := ((hfenced (acts ++ later)).validateFencedHeader_iff fenced).mp haccepted
    have hmem : newer ∈ (run L communityId sessionId (acts ++ later)).acquired := by
      rw [run, foldl_append]
      exact (acquired_suffix _ later).subset hnewer
    have hle := (hfenced (acts ++ later)).le_counter hmem
    rw [(hfenced (acts ++ later)).counter, hlatest] at hle
    exact absurd hlt (not_lt.mpr hle)
  intro lease hnot
  exact ⟨fun ttlMs delivery => (hfenced acts).holderOnly (renew_holderOnly _ _ _ _) hnot,
    fun delivery => (hfenced acts).holderOnly (release_holderOnly _ _ _) hnot⟩

/-- Numbers with all digits, or with one digit and an exponent that says how many there are. -/
def oneDigitNumbers : LuaNumbers where
  tostring n :=
    if n < 100000000000000 then toDigits 10 n
    else (toDigits 10 n).take 1 ++ 'e' :: '+' :: toDigits 10 ((toDigits 10 n).length - 1)
  tostring_small n h := if_pos h
  tostring_large n h := by simp [not_lt.mpr h]
  noBar n := by
    have hbar : ∀ m, '|' ∉ toDigits 10 m := fun m hmem => by
      cases isDigit_of_mem_toDigits hmem
    split_ifs
    · exact hbar n
    · simp only [mem_append, mem_cons, not_or]
      exact ⟨fun hmem => hbar n (mem_of_mem_take hmem), by decide, by decide, hbar _⟩

/-- A second owner after the first lease has expired: its frames are let through, those of the first
are not. -/
example :
    let d := run oneDigitNumbers ⟨⟨1⟩⟩ ⟨2⟩ [.acquire ⟨3⟩ .reliableStream 30000 .answered, .expire,
      .acquire ⟨4⟩ .reliableStream 30000 .answered]
    validateFencedHeader ⟨⟨1⟩⟩ d.store ⟨⟨2⟩, 2, ⟨4⟩⟩ = .ok () ∧
      validateFencedHeader ⟨⟨1⟩⟩ d.store ⟨⟨2⟩, 1, ⟨3⟩⟩ = .error (.staleGeneration ⟨2⟩ 1 2) := by
  decide +kernel

end Directory

end Buzz.Tunnel
