import Buzz.Db.Deletion

/-!
Runs of the deletion store.

Executors, operators and serving writers call the store in any order and with any tokens and leases,
also old ones.  The history of a run has an entry for each call: the time and the call, the tables
before it, and what it returned.

Here is what one call can do to the rows: `CommunityStep` for the state and the generation of a
community, `RequestStep` for the stage and the claim of a request.
-/

namespace Buzz.Db.Deletion

open Buzz.Core Lib Store AList

/-! ### Calls -/

inductive Call
  | createCommunity (id : CommunityId) (host : String)
  | setArchived (id : CommunityId) (archived : Bool)
  | submit (host requestedBy : String) (id : Uuid)
  | freezeInventory (id : Uuid) (digest : Digest)
  | approve (id : Uuid)
  | claim (requestId : Option Uuid) (owner : String) (leaseDuration : ℕ) (locked : List Uuid)
      (catalog : Except DbError Unit)
  | heartbeat (t : LeaseToken) (leaseDuration : ℕ)
  | stopExecutor (t : Option LeaseToken)
  | beginQuiescing (t : LeaseToken)
  | fence (t : LeaseToken)
  | markDrained (t : LeaseToken)
  | markBindingsRemoved (t : LeaseToken)
  | purgePostgres (t : LeaseToken) (catalog : Except DbError Unit)
  | markCachePurged (t : LeaseToken)
  | markLogicallyVerified (t : LeaseToken)
  | markRetentionPending (t : LeaseToken)
  | recordRetry (t : LeaseToken) (stage : DeletionStage) (retryAfter : ℕ)
  | block (t : LeaseToken) (stage : DeletionStage)
  | blockPreclaimSetup (wallClock : ℤ) (id : Uuid)
  | unblock (wallClock : ℤ) (id : Uuid) (unblockedBy reason : String)
  | abort (id : Uuid) (abortedBy reason : String)
  | acquire (c : CommunityId) (operation owner : String) (leaseDuration : ℕ) (id : Uuid)
  | renew (l : ServingWriteLease) (leaseDuration : ℕ)
  | release (l : ServingWriteLease)
  | verify (l : ServingWriteLease)
  | guard (l : ServingWriteLease)
  | reap (batch : List Uuid)

inductive Reply
  | done
  | submitted (id : Uuid)
  | claimed (t : Option LeaseToken)
  | fenced (generation : ℕ)
  | lease (l : ServingWriteLease)
  | released (wasHeld : Bool)

open Reply

/-- A call at a time: the reply and the tables it leaves, or the error it is rolled back with. -/
def Store.exec (s : Store) (now : ℤ) : Call → Except DbError (Reply × Store)
  | .createCommunity id host => (s.createCommunity id host).map (done, ·)
  | .setArchived id archived => .ok (.done, s.setArchived now id archived)
  | .submit host requestedBy id =>
    (s.submit now host requestedBy id).map fun p => (.submitted p.1, p.2)
  | .freezeInventory id digest => (s.freezeInventory id digest).map (done, ·)
  | .approve id => (s.approve now id).map (done, ·)
  | .claim requestId owner leaseDuration locked catalog =>
    (s.claim now requestId owner leaseDuration locked catalog).map fun p => (.claimed p.1, p.2)
  | .heartbeat t leaseDuration => (s.heartbeat now t leaseDuration).map (done, ·)
  | .stopExecutor t => .ok (.done, s.stopExecutor t)
  | .beginQuiescing t => (s.beginQuiescing now t).map (done, ·)
  | .fence t => (s.fence now t).map fun p => (.fenced p.1, p.2)
  | .markDrained t => (s.markDrained now t).map (done, ·)
  | .markBindingsRemoved t => (s.markBindingsRemoved now t).map (done, ·)
  | .purgePostgres t catalog => (s.purgePostgres now t catalog).map (done, ·)
  | .markCachePurged t => (s.markCachePurged now t).map (done, ·)
  | .markLogicallyVerified t => (s.markLogicallyVerified now t).map (done, ·)
  | .markRetentionPending t => (s.markRetentionPending now t).map (done, ·)
  | .recordRetry t stage retryAfter => (s.recordRetry now t stage retryAfter).map (done, ·)
  | .block t stage => (s.block now t stage).map (done, ·)
  | .blockPreclaimSetup wallClock id => (s.blockPreclaimSetup wallClock id).map (done, ·)
  | .unblock wallClock id unblockedBy reason =>
    (s.unblock now wallClock id unblockedBy reason).map (done, ·)
  | .abort id abortedBy reason => (s.abort now id abortedBy reason).map (done, ·)
  | .acquire c operation owner leaseDuration id =>
    (s.acquireServingWriteLease now c operation owner leaseDuration id).map
      fun p => (.lease p.1, p.2)
  | .renew l leaseDuration =>
    (s.renewServingWriteLease now l leaseDuration).map fun p => (.lease p.1, p.2)
  | .release l =>
    .ok (.released (s.releaseServingWriteLease l).1, (s.releaseServingWriteLease l).2)
  | .verify l => (s.verifyServingWriteLease now l).map fun _ => (.done, s)
  | .guard l => (s.guardTransactionWithServingLease now l).map fun _ => (.done, s)
  | .reap batch => .ok (.done, s.reapExpiredServingWriteLeases now batch)

/-! ### Histories -/

structure Entry where
  now : ℤ
  call : Call
  before : Store
  result : Except DbError (Reply × Store)

def Entry.after (e : Entry) : Store :=
  match e.result with
  | .ok (_, s) => s
  | .error _ => e.before

def Entry.reply (e : Entry) : Option Reply :=
  match e.result with
  | .ok (r, _) => some r
  | .error _ => none

def Entry.ok (e : Entry) : Bool := e.reply.isSome

def history (s : Store) : List (ℤ × Call) → List Entry
  | [] => []
  | (now, c) :: calls =>
    let e : Entry := ⟨now, c, s, s.exec now c⟩
    e :: history e.after calls

/-! ### What a call can do -/

def Call.token? : Call → Option LeaseToken
  | .heartbeat t _ | .beginQuiescing t | .fence t | .markDrained t | .markBindingsRemoved t
  | .purgePostgres t _ | .markCachePurged t | .markLogicallyVerified t | .markRetentionPending t
  | .recordRetry t _ _ | .block t _ => some t
  | .stopExecutor t => t
  | _ => none

def Call.Aborts (s : Store) (c : CommunityId) : Call → Prop
  | .abort id _ _ => ∃ r, s.requests.lookup id = some r ∧ r.communityId = c
  | _ => False

def CommunityRow.closed (c : CommunityRow) : Prop :=
  c.deletionState = .fenced ∨ c.deletionState = .tombstone

/-- The generation of a community does not fall, and only an abort opens it again. -/
structure CommunityStep (aborts : Prop) (old new : CommunityRow) : Prop where
  generation : old.fenceGeneration ≤ new.fenceGeneration
  closed : ¬ aborts → old.closed → new.closed

def Reply.claims (id : Uuid) : Reply → Bool
  | .claimed (some t) => t.requestId = id
  | _ => false

/-- The token holds the claim of the row, and the row is not blocked. -/
structure DeletionRequest.HeldBy (r : DeletionRequest) (now : ℤ) (t : LeaseToken) : Prop where
  community : r.communityId = t.communityId
  owner : r.leaseOwner = some t.owner
  generation : r.leaseGeneration = t.generation
  unexpired : ∃ time, r.leaseUntil = some time ∧ now ≤ time
  unblocked : r.blocked = false

/-- The stage goes one step forward, from `approved` on by a token that holds the claim. -/
def Forward (now : ℤ) (call : Call) (id : Uuid) (old new : DeletionRequest) : Prop :=
  old.stage.next = some new.stage ∧
    (old.stage.runnable → ∃ t, call.token? = some t ∧ t.requestId = id ∧ old.HeldBy now t)

/-- What a call may do to the row of a request. -/
structure RequestStep (now : ℤ) (call : Call) (reply : Reply) (id : Uuid)
    (old new : DeletionRequest) : Prop where
  community : new.communityId = old.communityId
  claim : (∃ t, reply = .claimed (some t) ∧ t.requestId = id ∧ t.communityId = old.communityId ∧
      new.leaseOwner = some t.owner ∧ new.leaseGeneration = t.generation) ∨
    reply.claims id = false ∧ (new.leaseOwner = none ∨
      new.leaseOwner = old.leaseOwner ∧ new.leaseGeneration = old.leaseGeneration)
  stage : new.stage = old.stage ∨ Forward now call id old new ∨
    new.stage = .aborted ∧ (old.stage = .approved ∨ old.stage = .fenced)

/-- What a call may do to the table of requests; a request that is entered is not claimed. -/
structure RequestsStep (s : Store) (now : ℤ) (call : Call) (reply : Reply) (s' : Store) : Prop where
  kept : ∀ id old, s.requests.lookup id = some old →
    ∃ new, s'.requests.lookup id = some new ∧ RequestStep now call reply id old new
  entered : ∀ id new, s.requests.lookup id = none → s'.requests.lookup id = some new →
    new.leaseOwner = none ∧ reply.claims id = false

def CommunitiesStep (s : Store) (call : Call) (s' : Store) : Prop :=
  ∀ c old, s.communities.lookup c = some old →
    ∃ new, s'.communities.lookup c = some new ∧ CommunityStep (call.Aborts s c) old new

structure Effect (s : Store) (now : ℤ) (call : Call) (reply : Reply) (s' : Store) : Prop where
  communities : CommunitiesStep s call s'
  requests : RequestsStep s now call reply s'

section Effects

variable {s : Store} {now : ℤ} {t : LeaseToken} {aborts : Prop}

lemma CommunityStep.refl (c : CommunityRow) : CommunityStep aborts c c :=
  ⟨le_rfl, fun _ h => h⟩

variable {id : Uuid} {c : CommunityId} {r : DeletionRequest} {stage : DeletionStage}
  {leaseDuration : ℕ} {l : ServingWriteLease}

variable {reply : Reply} {call : Call}

lemma requestStep_refl (hrep : reply.claims id = false) (r : DeletionRequest) :
    RequestStep now call reply id r r :=
  ⟨rfl, .inr ⟨hrep, .inr ⟨rfl, rfl⟩⟩, .inl rfl⟩

lemma communities_same (h : s'.communities = s.communities) : CommunitiesStep s call s' := by
  intro c old hold
  rw [h]
  exact ⟨old, hold, .refl old⟩

lemma communities_insert {new : CommunityRow} (h : s'.communities = s.communities.insert c new)
    (hnew : ∀ old, s.communities.lookup c = some old → CommunityStep (call.Aborts s c) old new) :
    CommunitiesStep s call s' := by
  intro c' old hold
  rw [h]
  by_cases hc : c' = c
  · subst hc
    exact ⟨new, lookup_insert _, hnew old hold⟩
  · exact ⟨old, (lookup_insert_ne hc).trans hold, .refl old⟩

lemma communities_update {old new : CommunityRow}
    (h : s'.communities = s.communities.insert c new) (hold : s.communities.lookup c = some old)
    (hstep : CommunityStep (call.Aborts s c) old new) : CommunitiesStep s call s' := by
  refine communities_insert h ?_
  intro old' hold'
  obtain rfl := Option.mem_unique hold hold'
  exact hstep

lemma requests_same (h : s'.requests = s.requests) (hrep : ∀ id, reply.claims id = false) :
    RequestsStep s now call reply s' := by
  constructor
  · intro id old hold
    rw [h]
    exact ⟨old, hold, requestStep_refl (hrep id) old⟩
  intro id new hnone hnew
  rw [h, hnone] at hnew
  cases hnew

variable {new old : DeletionRequest}

lemma requests_update
    (h : s'.requests = s.requests.insert id new) (hold : s.requests.lookup id = some old)
    (hrep : ∀ id', id' ≠ id → reply.claims id' = false)
    (hstep : RequestStep now call reply id old new) : RequestsStep s now call reply s' := by
  constructor
  · intro id' old' hold'
    rw [h]
    by_cases hid : id' = id
    · subst hid
      obtain rfl := Option.mem_unique hold hold'
      exact ⟨new, lookup_insert _, hstep⟩
    · exact ⟨old', (lookup_insert_ne hid).trans hold', requestStep_refl (hrep id' hid) old'⟩
  intro id' new' hnone hnew
  have hid : id' ≠ id := by
    rintro rfl
    rw [hnone] at hold
    cases hold
  rw [h, lookup_insert_ne hid, hnone] at hnew
  cases hnew

lemma requests_enter
    (h : s'.requests = s.requests.insert id new) (hfr : s.requests.lookup id = none)
    (hrep : ∀ id, reply.claims id = false) (hnew : new.leaseOwner = none) :
    RequestsStep s now call reply s' := by
  constructor
  · intro id' old hold
    have hid : id' ≠ id := by
      rintro rfl
      rw [hfr] at hold
      cases hold
    rw [h]
    exact ⟨old, (lookup_insert_ne hid).trans hold, requestStep_refl (hrep id') old⟩
  intro id' new' hnone hnew'
  refine ⟨?_, hrep id'⟩
  rw [h] at hnew'
  rcases Table.lookup_insert_eq_some.mp hnew' with ⟨-, rfl⟩ | ⟨-, hold⟩
  · exact hnew
  · rw [hnone] at hold
    cases hold

lemma effect_same (hc : s'.communities = s.communities) (hr : s'.requests = s.requests)
    (hrep : ∀ id, reply.claims id = false) : Effect s now call reply s' :=
  ⟨communities_same hc, requests_same hr hrep⟩

lemma effect_setRequest (hold : s.requests.lookup id = some old) (hs' : s.setRequest id new = s')
    (hrep : ∀ id, reply.claims id = false) (hcomm : new.communityId = old.communityId)
    (hclm : new.leaseOwner = none ∨
      new.leaseOwner = old.leaseOwner ∧ new.leaseGeneration = old.leaseGeneration)
    (hstg : new.stage = old.stage ∨ Forward now call id old new ∨
      new.stage = .aborted ∧ (old.stage = .approved ∨ old.stage = .fenced)) :
    Effect s now call reply s' := by
  subst hs'
  exact ⟨communities_same rfl, requests_update rfl hold (fun id' _ => hrep id')
    ⟨hcomm, .inr ⟨hrep id, hclm⟩, hstg⟩⟩

/-! ### The checks -/

lemma heldBy_of_claimedBy (hcomm : r.communityId = t.communityId)
    (hclm : r.claimedBy t now) (hblk : r.blocked = false) : r.HeldBy now t := by
  simp only [DeletionRequest.claimedBy, Bool.and_eq_true, decide_eq_true_eq] at hclm
  obtain ⟨⟨hown, hgen⟩, huntil⟩ := hclm
  obtain ⟨time, htime, hle⟩ := (Option.any_eq_true _ _).mp huntil
  exact ⟨hcomm, hown, hgen, ⟨time, htime, by simpa using hle⟩, hblk⟩

lemma verifyLease_eq_ok (h : s.verifyLease now t stage = .ok r) :
    s.requests.lookup t.requestId = some r ∧ r.stage = stage ∧ r.HeldBy now t := by
  simp only [verifyLease, chain_eq_ok] at h
  obtain ⟨r', hr, ⟨-, hcomm, hstg, hclm, hblk⟩, rfl⟩ := h
  exact ⟨hr, hstg, heldBy_of_claimedBy hcomm hclm hblk⟩

variable {generation : ℕ}

lemma verifyLeaseAndFence_eq_ok (h : s.verifyLeaseAndFence now t stage generation = .ok r) :
    s.requests.lookup t.requestId = some r ∧ r.stage = stage ∧ r.HeldBy now t := by
  simp only [verifyLeaseAndFence, chain_eq_ok] at h
  obtain ⟨r', hr, c, -, ⟨-, hcomm, hstg, hclm, hblk, -⟩, rfl⟩ := h
  exact ⟨hr, hstg, heldBy_of_claimedBy hcomm hclm hblk⟩

variable {fenceGeneration : Option ℕ}

lemma advanceRequest_eq_ok {old new : DeletionStage} (hr : s.requests.lookup t.requestId = some r)
    (h : s.advanceRequest now t old new fenceGeneration = .ok s') :
    old.next = some new ∧ r.stage = old ∧ s' = s.setRequest t.requestId { r with
      stage := new, fenceGeneration := fenceGeneration.or r.fenceGeneration
      retryCount := 0, retryStage := none } := by
  simp only [advanceRequest, chain_eq_ok] at h
  obtain ⟨hnext, r', hr', ⟨hstg, -, -⟩, rfl⟩ := h
  obtain rfl := Option.mem_unique hr hr'
  exact ⟨hnext, hstg, rfl⟩

lemma forward_of_heldBy (hnext : old.stage.next = some new.stage)
    (htok : call.token? = some t) (hheld : old.HeldBy now t) :
    Forward now call t.requestId old new :=
  ⟨hnext, fun _ => ⟨t, htok, rfl, hheld⟩⟩

lemma forward_of_eq (hstg : old.stage = stage)
    (hnext : stage.next = some new.stage) (hrun : stage.runnable = false) :
    Forward now call id old new := by
  subst hstg
  exact ⟨hnext, fun h => absurd (h.symm.trans hrun) (by decide)⟩

lemma not_closed {row : CommunityRow}
    (h : row.deletionState = .active ∨ row.deletionState = .quiescing) : ¬ row.closed := by
  rintro (hcl | hcl) <;> rcases h with h | h <;>
    exact absurd (h.symm.trans hcl) (by decide)

/-! ### Submission, claims and failures -/

lemma claims_done (id : Uuid) : done.claims id = false := rfl

variable {host requestedBy : String} {newId : Uuid}

lemma effect_submit (h : s.submit now host requestedBy newId = .ok (id, s')) :
    Effect s now call (.submitted id) s' := by
  simp only [submit, bind_eq_ok, okOr_eq_ok] at h
  obtain ⟨⟨c, row⟩, -, h⟩ := h
  cases hlive : s.liveRequest c with
  | some found =>
    simp only [hlive, bind_eq_ok, pure_eq_ok, Prod.mk.injEq] at h
    obtain ⟨_, _, _, rfl⟩ := h
    exact effect_same rfl rfl fun _ => rfl
  | none =>
    simp only [hlive, chain_eq_ok, Prod.mk.injEq] at h
    obtain ⟨hfr, rfl, rfl⟩ := h
    have hnone : s.requests.lookup newId = none := by simpa using hfr
    exact ⟨communities_same rfl, requests_enter rfl hnone (fun _ => rfl) rfl⟩

variable {digest : Digest}

lemma effect_freezeInventory (h : s.freezeInventory id digest = .ok s') :
    Effect s now call .done s' := by
  simp only [freezeInventory, chain_eq_ok] at h
  obtain ⟨r, hr, ⟨hstg, -⟩, hs'⟩ := h
  exact effect_setRequest hr hs' claims_done rfl (.inr ⟨rfl, rfl⟩)
    (.inr (.inl (forward_of_eq hstg rfl rfl)))

lemma effect_approve (h : s.approve now id = .ok s') : Effect s now call .done s' := by
  simp only [approve, chain_eq_ok] at h
  obtain ⟨r, hr, ⟨hstg, -⟩, digest, -, -, rfl⟩ := h
  exact ⟨communities_same rfl, requests_update rfl hr (fun _ _ => rfl)
    ⟨rfl, .inr ⟨rfl, .inr ⟨rfl, rfl⟩⟩, .inr (.inl (forward_of_eq hstg rfl rfl))⟩⟩

variable {requestId : Option Uuid} {locked : List Uuid}

lemma lookup_of_candidate
    (h : s.candidate now requestId locked = some (id, r)) : s.requests.lookup id = some r := by
  have hmem := List.mem_mergeSort.mp (List.mem_of_mem_head? h)
  obtain ⟨e, he, heq⟩ := List.mem_map.mp (List.mem_of_mem_filter hmem)
  obtain ⟨rfl, rfl⟩ : e.1 = id ∧ e.2 = r := Prod.mk.inj heq
  exact mem_lookup_iff.mpr he

variable {catalog : Except DbError Unit} {owner : String}

lemma effect_claim {claimed : Option LeaseToken}
    (h : s.claim now requestId owner leaseDuration locked catalog = .ok (claimed, s')) :
    Effect s now call (.claimed claimed) s' := by
  unfold claim at h
  split at h
  · obtain ⟨rfl, rfl⟩ : none = claimed ∧ s = s' := by simpa using h
    exact effect_same rfl rfl fun _ => rfl
  · next id r _ hcand =>
    simp only [Except.ok.injEq, Prod.mk.injEq] at h
    obtain ⟨rfl, hs'⟩ := h
    exact effect_setRequest (lookup_of_candidate hcand) hs' (fun _ => rfl) rfl (.inl rfl) (.inl rfl)
  next id r hcand =>
  simp only [chain_eq_ok, Prod.mk.injEq] at h
  obtain ⟨-, -, time, -, rfl, rfl⟩ := h
  refine ⟨communities_same rfl, requests_update rfl (lookup_of_candidate hcand) ?_
    ⟨rfl, .inl ⟨_, rfl, rfl, rfl, rfl, rfl⟩, .inl rfl⟩⟩
  intro id' hne
  simpa [claims] using Ne.symm hne

lemma effect_heartbeat (h : s.heartbeat now t leaseDuration = .ok s') :
    Effect s now call .done s' := by
  simp only [heartbeat, chain_eq_ok] at h
  obtain ⟨r, hr, -, time, -, hs'⟩ := h
  exact effect_setRequest hr hs' claims_done rfl (.inr ⟨rfl, rfl⟩) (.inl rfl)

lemma effect_stopExecutor (token : Option LeaseToken) :
    Effect s now call .done (s.stopExecutor token) := by
  cases token with
  | none => exact effect_same rfl rfl claims_done
  | some t =>
    simp only [stopExecutor, releaseClaim]
    split
    · next r hr =>
      split
      · exact effect_setRequest hr rfl claims_done rfl (.inl rfl) (.inl rfl)
      · exact effect_same rfl rfl claims_done
    · exact effect_same rfl rfl claims_done

variable {retryAfter : ℕ}

lemma effect_recordRetry (h : s.recordRetry now t stage retryAfter = .ok s') :
    Effect s now call .done s' := by
  simp only [recordRetry, bind_eq_ok, pure_eq_ok] at h
  obtain ⟨r, hr, time, -, hs'⟩ := h
  exact effect_setRequest (verifyLease_eq_ok hr).1 hs' claims_done rfl (.inl rfl) (.inl rfl)

lemma effect_block (h : s.block now t stage = .ok s') : Effect s now call .done s' := by
  simp only [block, bind_eq_ok, pure_eq_ok] at h
  obtain ⟨r, hr, hs'⟩ := h
  exact effect_setRequest (verifyLease_eq_ok hr).1 hs' claims_done rfl (.inl rfl) (.inl rfl)

variable {wallClock : ℤ}

lemma effect_blockPreclaimSetup (h : s.blockPreclaimSetup wallClock id = .ok s') :
    Effect s now call .done s' := by
  simp only [blockPreclaimSetup, chain_eq_ok] at h
  obtain ⟨r, hr, -, -, hs'⟩ := h
  exact effect_setRequest hr hs' claims_done rfl (.inr ⟨rfl, rfl⟩) (.inl rfl)

lemma effect_unblock (h : s.unblock now wallClock id unblockedBy reason = .ok s') :
    Effect s now call .done s' := by
  simp only [unblock, chain_eq_ok] at h
  obtain ⟨-, r, hr, -, -, -, hs'⟩ := h
  exact effect_setRequest hr hs' claims_done rfl (.inl rfl) (.inl rfl)

/-! ### The stages -/

lemma effect_beginQuiescing (h : s.beginQuiescing now t = .ok s') : Effect s now call .done s' := by
  simp only [beginQuiescing, chain_eq_ok] at h
  obtain ⟨r, hr, c, hc, ⟨hopen, -⟩, rfl⟩ := h
  refine ⟨communities_update rfl hc ⟨le_rfl, fun _ hcl => absurd hcl (not_closed hopen)⟩,
    requests_update rfl (verifyLease_eq_ok hr).1 (fun id _ => claims_done id) ?_⟩
  split
  · exact ⟨rfl, .inr ⟨rfl, .inr ⟨rfl, rfl⟩⟩, .inl rfl⟩
  · exact requestStep_refl rfl r

lemma fence_eq_ok (h : s.fence now t = .ok (generation, s')) :
    ∃ r c, s.requests.lookup t.requestId = some r ∧ r.stage = .approved ∧ r.HeldBy now t ∧
      s.communities.lookup t.communityId = some c ∧ generation = c.fenceGeneration + 1 ∧
      c.deletionState = .quiescing ∧ s'.communities = s.communities.insert t.communityId { c with
        deletionState := .fenced, fenceGeneration := generation
        archivedAt := c.archivedAt.or (some now) } ∧
      s'.requests = s.requests.insert t.requestId { r with
        stage := .fenced, fenceGeneration := some generation, retryCount := 0
        retryStage := none } := by
  simp only [fence, nextGeneration, chain_eq_ok, Prod.mk.injEq] at h
  obtain ⟨r, hr, -, c, hc, _, ⟨-, rfl⟩, hst, u, hu, rfl, rfl⟩ := h
  obtain ⟨hget, hstg, hheld⟩ := verifyLease_eq_ok hr
  obtain ⟨-, -, rfl⟩ := advanceRequest_eq_ok (s := s.setCommunity _ _) hget hu
  exact ⟨r, c, hget, hstg, hheld, hc, rfl, hst, rfl, rfl⟩

lemma effect_fence (h : s.fence now t = .ok (generation, s')) :
    Effect s now (.fence t) (.fenced generation) s' := by
  obtain ⟨r, c, hr, hstg, hheld, hc, hgen, -, hcomms, hreqs⟩ := fence_eq_ok h
  refine ⟨communities_update hcomms hc ⟨?_, fun _ _ => .inl rfl⟩,
    requests_update hreqs hr (fun _ _ => rfl) ⟨rfl, .inr ⟨rfl, .inr ⟨rfl, rfl⟩⟩,
      .inr (.inl (forward_of_heldBy ?_ rfl hheld))⟩⟩
  · show c.fenceGeneration ≤ generation
    omega
  · rw [hstg]
    rfl

lemma requests_advance {u : Store} {old new : DeletionStage} (hu : u.requests = s.requests)
    (hr : s.verifyLeaseAndFence now t stage generation = .ok r) (htok : call.token? = some t)
    (hrep : ∀ id, reply.claims id = false)
    (h : u.advanceRequest now t old new fenceGeneration = .ok s') :
    s'.communities = u.communities ∧ RequestsStep s now call reply s' := by
  obtain ⟨hr, -, hheld⟩ := verifyLeaseAndFence_eq_ok hr
  rw [← hu] at hr
  obtain ⟨hnext, hstg, rfl⟩ := advanceRequest_eq_ok hr h
  rw [hu] at hr
  refine ⟨rfl, requests_update (congrArg (insert _ _) hu) hr (fun id _ => hrep id) ⟨rfl,
    .inr ⟨hrep _, .inr ⟨rfl, rfl⟩⟩, .inr (.inl (forward_of_heldBy ?_ htok hheld))⟩⟩
  rw [hstg]
  exact hnext

lemma effect_markDrained (h : s.markDrained now t = .ok s') :
    Effect s now (.markDrained t) .done s' := by
  simp only [markDrained, chain_eq_ok] at h
  obtain ⟨generation, -, r, hr, -, hadv⟩ := h
  have htok : Call.token? (.markDrained t) = some t := rfl
  obtain ⟨hcomms, hreqs⟩ := requests_advance rfl hr htok claims_done hadv
  exact ⟨communities_same hcomms, hreqs⟩

lemma effect_advanceWithCheckpoint {old new : DeletionStage} (htok : call.token? = some t)
    (h : s.advanceWithCheckpoint now t old new = .ok s') : Effect s now call .done s' := by
  simp only [advanceWithCheckpoint, bind_eq_ok] at h
  obtain ⟨generation, -, r, hr, hadv⟩ := h
  obtain ⟨hcomms, hreqs⟩ := requests_advance rfl hr htok claims_done hadv
  exact ⟨communities_same hcomms, hreqs⟩

lemma effect_purgePostgres (h : s.purgePostgres now t catalog = .ok s') :
    Effect s now (.purgePostgres t catalog) .done s' := by
  simp only [purgePostgres, chain_eq_ok] at h
  obtain ⟨generation, -, _, -, r, hr, c, hc, -, hadv⟩ := h
  have htok : Call.token? (.purgePostgres t catalog) = some t := rfl
  obtain ⟨hcomms, hreqs⟩ :=
    requests_advance (s := s) (u := s.setCommunity _ _) rfl hr htok claims_done hadv
  exact ⟨communities_update hcomms hc ⟨le_rfl, fun _ _ => .inr rfl⟩, hreqs⟩

lemma effect_markRetentionPending (h : s.markRetentionPending now t = .ok s') :
    Effect s now (.markRetentionPending t) .done s' := by
  simp only [markRetentionPending, chain_eq_ok] at h
  obtain ⟨generation, -, r, hr, -, hs'⟩ := h
  obtain ⟨hget, hstg, hheld⟩ := verifyLeaseAndFence_eq_ok hr
  refine effect_setRequest hget hs' claims_done rfl (.inl rfl)
    (.inr (.inl (forward_of_heldBy ?_ rfl hheld)))
  rw [hstg]
  rfl

lemma abort_eq_ok (h : s.abort now id abortedBy reason = .ok s') :
    ∃ r c, s.requests.lookup id = some r ∧ (r.stage = .approved ∨ r.stage = .fenced) ∧
      s.communities.lookup r.communityId = some c ∧
      ∃ c' r', s'.communities = s.communities.insert r.communityId c' ∧
        c'.fenceGeneration = c.fenceGeneration + 1 ∧ s'.requests = s.requests.insert id r' ∧
        r'.communityId = r.communityId ∧ r'.stage = .aborted ∧ r'.leaseOwner = none := by
  simp only [abort, nextGeneration, chain_eq_ok] at h
  obtain ⟨-, r, hr, hstg, -, c, hc, _, ⟨-, rfl⟩, -, -, rfl⟩ := h
  exact ⟨r, c, hr, hstg, hc, _, _, rfl, rfl, rfl, rfl, rfl, rfl⟩

lemma effect_abort {abortedBy reason : String} (h : s.abort now id abortedBy reason = .ok s') :
    Effect s now (.abort id abortedBy reason) .done s' := by
  obtain ⟨r, c, hr, hstg, hc, c', r', hcomms, hgen, hreqs, hcomm, hab, hown⟩ := abort_eq_ok h
  refine ⟨communities_update hcomms hc ⟨?_, fun hno => absurd ⟨r, hr, rfl⟩ hno⟩,
    requests_update hreqs hr (fun id _ => claims_done id)
      ⟨hcomm, .inr ⟨rfl, .inl hown⟩, .inr (.inr ⟨hab, hstg⟩)⟩⟩
  omega

/-! ### Serving writers and communities -/

lemma acquire_eq_ok
    (h : s.acquireServingWriteLease now c operation owner leaseDuration id = .ok (l, s')) :
    l.communityId = c ∧ s'.communities = s.communities ∧ s'.requests = s.requests ∧
      ∃ row, s.communities.lookup c = some row ∧ row.deletionState = .active ∧
        l.fenceGeneration = row.fenceGeneration := by
  simp only [acquireServingWriteLease, chain_eq_ok, Prod.mk.injEq] at h
  obtain ⟨row, hrow, ⟨hst, -⟩, time, -, -, rfl, rfl⟩ := h
  exact ⟨rfl, rfl, rfl, row, hrow, hst, rfl⟩

lemma verifyServing_eq_ok {row : ServingLeaseRow} (h : s.verifyServingWriteLease now l = .ok row) :
    ∃ c, s.communities.lookup l.communityId = some c ∧ ¬ c.closed ∧
      c.fenceGeneration = l.fenceGeneration := by
  simp only [verifyServingWriteLease, chain_eq_ok] at h
  obtain ⟨row', hrow, c, hc, ⟨-, -, hopen, hgen⟩, rfl⟩ := h
  obtain ⟨hget, hsame⟩ := Option.filter_eq_some_iff.mp hrow
  simp only [Bool.and_eq_true, decide_eq_true_eq] at hsame
  obtain ⟨⟨⟨hcomm, -⟩, -⟩, hfen⟩ := hsame
  rw [hcomm] at hc
  exact ⟨c, hc, not_closed hopen, hgen.trans hfen⟩

lemma renew_eq_ok (h : s.renewServingWriteLease now l leaseDuration = .ok (l', s')) :
    s'.communities = s.communities ∧ s'.requests = s.requests ∧
      ∃ row, s.verifyServingWriteLease now l = .ok row := by
  simp only [renewServingWriteLease, bind_eq_ok, pure_eq_ok, Prod.mk.injEq] at h
  obtain ⟨row, hrow, time, -, -, rfl⟩ := h
  exact ⟨rfl, rfl, row, hrow⟩

lemma effect_createCommunity {id : CommunityId} (h : s.createCommunity id host = .ok s') :
    Effect s now call .done s' := by
  simp only [createCommunity, chain_eq_ok] at h
  obtain ⟨hfr, -, rfl⟩ := h
  refine ⟨communities_insert rfl ?_, requests_same rfl claims_done⟩
  intro old hold
  rw [hold] at hfr
  exact absurd rfl hfr

lemma effect_setArchived (id : CommunityId) (archived : Bool) :
    Effect s now call .done (s.setArchived now id archived) := by
  unfold setArchived
  split
  · next c hc =>
    split
    · exact ⟨communities_update rfl hc ⟨le_rfl, fun _ hcl => hcl⟩,
        requests_same rfl claims_done⟩
    · exact effect_same rfl rfl claims_done
  · exact effect_same rfl rfl claims_done

lemma effect_done {x : Except DbError Store} (h : x.map (done, ·) = .ok (reply, s'))
    (heff : x = .ok s' → Effect s now call .done s') : Effect s now call reply s' := by
  obtain ⟨_, hx, ⟨⟩⟩ := map_eq_ok.mp h
  exact heff hx

theorem effect_exec (h : s.exec now call = .ok (reply, s')) : Effect s now call reply s' := by
  cases call with
  | createCommunity _ _ => exact effect_done h effect_createCommunity
  | submit _ _ _ =>
    obtain ⟨_, hp, ⟨⟩⟩ := map_eq_ok.mp h
    exact effect_submit hp
  | freezeInventory _ _ => exact effect_done h effect_freezeInventory
  | approve _ => exact effect_done h effect_approve
  | claim _ _ _ _ _ =>
    obtain ⟨_, hp, ⟨⟩⟩ := map_eq_ok.mp h
    exact effect_claim hp
  | heartbeat _ _ => exact effect_done h effect_heartbeat
  | beginQuiescing _ => exact effect_done h effect_beginQuiescing
  | fence _ =>
    obtain ⟨_, hp, ⟨⟩⟩ := map_eq_ok.mp h
    exact effect_fence hp
  | markDrained _ => exact effect_done h effect_markDrained
  | markBindingsRemoved _ | markCachePurged _ | markLogicallyVerified _ =>
    exact effect_done h (effect_advanceWithCheckpoint rfl)
  | purgePostgres _ _ => exact effect_done h effect_purgePostgres
  | markRetentionPending _ => exact effect_done h effect_markRetentionPending
  | recordRetry _ _ _ => exact effect_done h effect_recordRetry
  | block _ _ => exact effect_done h effect_block
  | blockPreclaimSetup _ _ => exact effect_done h effect_blockPreclaimSetup
  | unblock _ _ _ _ => exact effect_done h effect_unblock
  | abort _ _ _ => exact effect_done h effect_abort
  | stopExecutor token =>
    cases h
    exact effect_stopExecutor token
  | setArchived id archived =>
    cases h
    exact effect_setArchived id archived
  | acquire _ _ _ _ _ =>
    obtain ⟨_, hp, ⟨⟩⟩ := map_eq_ok.mp h
    obtain ⟨-, hcomms, hreqs, -⟩ := acquire_eq_ok hp
    exact effect_same hcomms hreqs fun _ => rfl
  | renew _ _ =>
    obtain ⟨_, hp, ⟨⟩⟩ := map_eq_ok.mp h
    obtain ⟨hcomms, hreqs, -⟩ := renew_eq_ok hp
    exact effect_same hcomms hreqs fun _ => rfl
  | release l =>
    cases h
    unfold releaseServingWriteLease
    split <;> exact effect_same rfl rfl fun _ => rfl
  | verify _ | guard _ =>
    obtain ⟨_, -, ⟨⟩⟩ := map_eq_ok.mp h
    exact effect_same rfl rfl claims_done
  | reap _ =>
    cases h
    exact effect_same rfl rfl claims_done

end Effects

end Buzz.Db.Deletion
