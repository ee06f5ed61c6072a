import Buzz.Core.Json
import Buzz.Lib.Guard
import Mathlib.Data.List.Sort

/-!
Push leases and the queue of events to match.

An installation of an author holds one lease, which names the endpoint to wake and is replaced or
revoked under a strictly larger generation.  An event of a push kind is queued for matching when it
is stored, if any lease of the community is live then, and again when a lease is activated shortly
after.  The tables are those of one community: every statement is confined to it.

An operation is one transaction.  It returns the tables that it commits, or the reason it is rolled
back for.  The columns of an active lease are all set or all null, by a check of the table, so they
are one optional value here; so are the columns of a claim, set exactly while a row is claimed.
The clock of the database counts microseconds.  `DateTime::from_timestamp` is outside the
repository: `inRange` says which seconds it accepts.
-/

namespace Buzz.Db.Push

open Buzz.Core Lib Option Table

structure EndpointHash where
  bits : BitVec 256
deriving DecidableEq

inductive WakeClass
  | silent | default | timeSensitive | urgent
deriving DecidableEq

abbrev Address := PublicKey × String

/-! ### Rows -/

structure LeaseVersion where
  sourceEventId : EventId
  sourceCreatedAt : ℤ
  generation : ℤ
  expiresAt : ℤ

structure ActiveLease where
  appProfile : String
  endpointHash : EndpointHash
  endpointGrant : String
  maxClass : WakeClass
  subscriptions : Json

structure LeaseRow where
  sourceEventId : EventId
  sourceCreatedAt : ℤ
  generation : ℤ
  active : Option ActiveLease
  endpointEnabled : Bool
  expiresAt : ℤ

structure EventRow where
  stored : StoredEvent
  dTag : Option String
  receivedAt : ℕ
  deleted : Bool

inductive MatchState
  | pending
  | matching (claimId : Uuid) (leaseUntil : ℕ)

structure MatchRow where
  state : MatchState
  attempts : ℕ
  nextAttemptAt : ℕ
  createdAt : ℕ

structure WakeRequest where
  author : PublicKey
  installationId : String
  leaseGeneration : ℤ
  eventId : EventId
  wakeClass : WakeClass
  expiresAt : ℤ
deriving DecidableEq

/-- A request with the endpoint of the lease it was made for. -/
structure Wake where
  request : WakeRequest
  endpointHash : EndpointHash
deriving DecidableEq

inductive WakeState
  | pending
  | sending (claimId : Uuid) (leaseUntil : ℕ)
  | delivered
  | failed

/-- A job of the outbox.  The ids are random; they are numbered in the order they are drawn in. -/
structure WakeRow where
  id : ℕ
  wake : Wake
  state : WakeState
  attempts : ℕ
  nextAttemptAt : ℕ
  createdAt : ℕ

structure Store where
  now : ℕ
  leases : Table Address LeaseRow
  events : Table EventId EventRow
  matchQueue : Table EventId MatchRow
  outbox : List WakeRow
  nextWakeId : ℕ

def Store.empty : Store := ⟨0, ∅, ∅, ∅, [], 0⟩

/-- `EXTRACT(EPOCH FROM now())::bigint`, which rounds to the nearest second. -/
def Store.seconds (s : Store) : ℤ := ((s.now + 500000) / 1000000 : ℕ)

/-! ### Leases -/

def LeaseRow.live (row : LeaseRow) (seconds : ℤ) : Bool :=
  row.active.isSome && row.endpointEnabled && decide (seconds < row.expiresAt)

def LeaseRow.endpointHash (row : LeaseRow) : Option EndpointHash :=
  row.active.map ActiveLease.endpointHash

/-- The newer of two signed events: the later one, or at the same second the smaller id. -/
def LeaseVersion.winsEvent (version : LeaseVersion) (current : LeaseRow) : Bool :=
  decide (current.sourceCreatedAt < version.sourceCreatedAt) ||
    (decide (version.sourceCreatedAt = current.sourceCreatedAt) &&
      decide (version.sourceEventId.bits.toNat < current.sourceEventId.bits.toNat))

def LeaseVersion.row (version : LeaseVersion) (active : Option ActiveLease) : LeaseRow where
  sourceEventId := version.sourceEventId
  sourceCreatedAt := version.sourceCreatedAt
  generation := version.generation
  active := active
  endpointEnabled := true
  expiresAt := version.expiresAt

/-- A lease of the author at another address is active with the same profile and endpoint. -/
def sharesEndpoint (address : Address) (lease : ActiveLease) (other : Address) (row : LeaseRow) :
    Bool :=
  decide (other.1 = address.1) && decide (other.2 ≠ address.2) &&
    row.active.any fun a => decide (a.appProfile = lease.appProfile) &&
      decide (a.endpointHash = lease.endpointHash)

inductive LeaseRefusal
  | staleEvent | staleGeneration | endpointAlreadyLeased | leaseQuotaExceeded
  | sourceEventCollision | constraintViolation | invalidTimestamp

open LeaseRefusal

/-! ### Events and the match queue -/

def isPushKind (kind : Kind) : Bool := [9, 40002, 45001, 45003].contains kind.toNat

def EventRow.pushed (row : EventRow) : Bool := isPushKind row.stored.event.kind && !row.deleted

def backfillSecs : ℕ := 120

def maxMatchAttempts : ℕ := 8

/-- The row can be claimed once its delay has passed, and again once its claim has run out. -/
def MatchRow.due (row : MatchRow) (now : ℕ) : Bool :=
  decide (row.attempts < maxMatchAttempts) && decide (row.nextAttemptAt ≤ now) &&
    match row.state with
    | .pending => true
    | .matching _ leaseUntil => decide (leaseUntil < now)

def MatchRow.heldBy (row : MatchRow) (claimId : Uuid) : Bool :=
  match row.state with
  | .pending => false
  | .matching held _ => decide (held = claimId)

namespace Store

variable (s : Store) (address : Address) (version : LeaseVersion) (author : PublicKey)

/-- The row is written; its table's checks and unique indexes refuse it otherwise. -/
def upsertLease (active : Option ActiveLease) : Except LeaseRefusal Store := do
  refuseIf (¬(0 < version.generation ∧ 1 ≤ address.2.utf8ByteSize ∧ address.2.utf8ByteSize ≤ 64))
    constraintViolation
  refuseIf ((s.leases.find fun other row =>
      other ≠ address && row.sourceEventId = version.sourceEventId).isSome)
    sourceEventCollision
  refuseIf (active.any fun lease => (s.leases.find (sharesEndpoint address lease)).isSome)
    endpointAlreadyLeased
  pure { s with leases := s.leases.insert address (version.row active) }

def expireLeases : Store :=
  { s with
    leases := s.leases.mapRows fun address row =>
      if address.1 = author ∧ row.active.isSome ∧ row.expiresAt ≤ s.seconds then
        { row with active := none, endpointEnabled := false }
      else row }

def otherActiveLeases : ℕ :=
  s.leases.entries.countP fun e =>
    decide (e.1.1 = address.1) && decide (e.1.2 ≠ address.2) && e.2.active.isSome

/-! ### Storing an event -/

def hasLiveLease : Bool :=
  (s.leases.find fun _ row => row.live s.seconds).isSome

def enqueueMatch (id : EventId) : Store :=
  if (s.matchQueue.lookup id).isSome then s
  else { s with matchQueue := s.matchQueue.insert id ⟨.pending, 0, s.now, s.now⟩ }

/-- An event is stored, and the trigger `enqueue_push_match_job` runs. -/
def insertEvent (row : EventRow) : Option Store :=
  let id := row.stored.event.id
  if (s.events.lookup id).isSome then none
  else
    let s := { s with events := s.events.insert id row }
    if isPushKind row.stored.event.kind && s.hasLiveLease then some (s.enqueueMatch id)
    else some s

def backfillPushMatchJobs : Store :=
  (s.events.entries.filter fun e => e.2.pushed &&
      decide (s.now < e.2.receivedAt + backfillSecs * 1000000)).foldl
    (fun s e => s.enqueueMatch e.1) s

def retireLeaseEvents : Store :=
  { s with
    events := s.events.mapRows fun _ row =>
      if row.stored.event.kind = 30350 ∧ row.stored.event.pubkey = address.1 ∧
          row.dTag = some address.2 then { row with deleted := true }
      else row }

/-! ### Accepting, replacing and revoking a lease -/

/-- The order a replacement has to win: that of the signed events, then that of the generations. -/
def checkOrder (current : Option LeaseRow) : Except LeaseRefusal Unit :=
  match current with
  | none => pure ()
  | some current => do
    refuseIf (version.winsEvent current = false) staleEvent
    refuseIf (version.generation ≤ current.generation) staleGeneration

def checkSource : Except LeaseRefusal Unit :=
  match s.leases.find fun _ row => row.sourceEventId = version.sourceEventId with
  | none => pure ()
  | some (other, _) =>
    .error (if other ≠ address then .sourceEventCollision else .staleEvent)

/-- The author has room for one more active lease, and none of the others holds the endpoint. -/
def checkActive (maxActiveLeases : ℤ) (active : Option ActiveLease) : Except LeaseRefusal Unit :=
  match active with
  | none => pure ()
  | some lease => do
    refuseIf (maxActiveLeases ≤ s.otherActiveLeases address) leaseQuotaExceeded
    refuseIf (s.leases.find (sharesEndpoint address lease)).isSome
      endpointAlreadyLeased

/-- The row of a lease event has kind 30350 and no channel, whatever the event says. -/
def leaseEventRow (event : Event) (installationId : String) (version : LeaseVersion) (now : ℕ) :
    EventRow where
  stored := ⟨{ event with kind := 30350, createdAt := version.sourceCreatedAt.toNat }, none⟩
  dTag := some installationId
  receivedAt := now
  deleted := false

def acceptLeaseEvent (inRange : ℤ → Bool) (s : Store) (event : Event) (installationId : String)
    (version : LeaseVersion) (active : Option ActiveLease) (maxActiveLeases : ℤ) :
    Except LeaseRefusal Store := do
  let address := (event.pubkey, installationId)
  s.checkSource address version
  checkOrder version (s.leases.lookup address)
  let s := s.expireLeases event.pubkey
  s.checkActive address maxActiveLeases active
  let s := s.retireLeaseEvents address
  refuseIf (inRange version.sourceCreatedAt = false) invalidTimestamp
  let s ← okOr (s.insertEvent (leaseEventRow event installationId version s.now))
    constraintViolation
  let s ← s.upsertLease address version active
  pure (if active.isSome then s.backfillPushMatchJobs else s)

def replaceLease (installationId : String) (version : LeaseVersion)
    (active : Option ActiveLease) : Except LeaseRefusal Store := do
  let address := (author, installationId)
  checkOrder version (s.leases.lookup address)
  let s ← s.upsertLease address version active
  pure (if active.isSome then s.backfillPushMatchJobs else s)

/-- `disable_endpoint_generation`: exactly the generation that was found invalid. -/
def disableEndpointGeneration (installationId : String) (generation : ℤ) : Store :=
  { s with
    leases := s.leases.mapRows fun address row =>
      if address = (author, installationId) ∧ row.generation = generation ∧ row.active.isSome ∧
          row.endpointEnabled then { row with endpointEnabled := false }
      else row }

/-! ### The match queue -/

def visibleEvent (id : EventId) : Option StoredEvent :=
  ((s.events.lookup id).filter fun row => !row.deleted).map EventRow.stored

/-- `claim_due_match_batch`: the oldest due rows are claimed and their events loaded; a row whose
event is gone is dropped.  Each event comes with the number of the attempt. -/
def claimDueMatchBatch (limit : ℕ) (claimId : Uuid) (leaseUntil : ℕ) :
    Store × List (StoredEvent × ℕ) :=
  let due := (s.matchQueue.entries.filter fun e => e.2.due s.now).insertionSort fun a b =>
    a.2.nextAttemptAt < b.2.nextAttemptAt ∨
      a.2.nextAttemptAt = b.2.nextAttemptAt ∧ a.2.createdAt ≤ b.2.createdAt
  let claimed := due.take limit
  let ids := claimed.map Sigma.fst
  let queue := s.matchQueue.mapRows fun id row =>
    if ids.contains id then
      { row with state := .matching claimId leaseUntil, attempts := row.attempts + 1 }
    else row
  let kept := queue.select fun id _ => !(ids.contains id && (s.visibleEvent id).isNone)
  ({ s with matchQueue := kept },
    claimed.filterMap fun e => (s.visibleEvent e.1).map fun event => (event, e.2.attempts + 1))

def completeMatchBatch (claimId : Uuid) (eventIds : List EventId) : Store :=
  { s with
    matchQueue := s.matchQueue.select fun id row =>
      !(row.heldBy claimId && eventIds.contains id) }

def retryMatchBatch (claimId : Uuid) (eventIds : List EventId) (next : ℕ) : Store :=
  { s with
    matchQueue := s.matchQueue.mapRows fun id row =>
      if row.heldBy claimId ∧ eventIds.contains id then
        { row with state := .pending, nextAttemptAt := next }
      else row }

def reapExhaustedMatches : Store :=
  { s with
    matchQueue := s.matchQueue.select fun _ row =>
      !(decide (maxMatchAttempts ≤ row.attempts) &&
        match row.state with
        | .pending => true
        | .matching _ leaseUntil => decide (leaseUntil < s.now)) }

/-! ### What an operation leaves of the leases and the events -/

def stamp : Option (ℤ × ℤ) :=
  (s.leases.lookup address).map fun row => (row.generation, row.expiresAt)

/-- The events stand under their ids, and only events of push kinds are queued. -/
structure FeedSound (s : Store) : Prop where
  keyed : ∀ id row, s.events.lookup id = some row → row.stored.event.id = id
  queued : ∀ id row, s.matchQueue.lookup id = some row →
    ∃ e, s.events.lookup id = some e ∧ isPushKind e.stored.event.kind

/-- The push events stay as they are, and so does the outbox. -/
structure Feeds (s t : Store) : Prop where
  now : t.now = s.now
  outbox : t.outbox = s.outbox
  events : ∀ id row, s.events.lookup id = some row → row.pushed →
    t.events.lookup id = some row
  sound : s.FeedSound → t.FeedSound

variable {s t u : Store} {address : Address} {version : LeaseVersion} {active : Option ActiveLease}

lemma Feeds.refl (s : Store) : s.Feeds s := ⟨rfl, rfl, fun _ _ h _ => h, id⟩

lemma Feeds.trans (h : s.Feeds t) (h' : t.Feeds u) : s.Feeds u where
  now := h'.now.trans h.now
  outbox := h'.outbox.trans h.outbox
  events id row hrow hpsh := h'.events id row (h.events id row hrow hpsh) hpsh
  sound hs := h'.sound (h.sound hs)

lemma feeds_leases (s : Store) (leases : Table Address LeaseRow) :
    s.Feeds { s with leases := leases } :=
  ⟨rfl, rfl, fun _ _ h _ => h, fun hs => ⟨hs.keyed, hs.queued⟩⟩

lemma feeds_matchQueue
    (h : ∀ id row, queue.lookup id = some row → (s.matchQueue.lookup id).isSome) :
    s.Feeds { s with matchQueue := queue } where
  now := rfl
  outbox := rfl
  events _ _ h _ := h
  sound hs := by
    refine ⟨hs.keyed, ?_⟩
    intro id row hrow
    obtain ⟨old, hold⟩ := isSome_iff_exists.mp (h id row hrow)
    exact hs.queued id old hold

lemma feeds_enqueueMatch {id : EventId} (he : s.events.lookup id = some e)
    (hkind : isPushKind e.stored.event.kind) : s.Feeds (s.enqueueMatch id) := by
  unfold enqueueMatch
  split
  · exact .refl s
  refine ⟨rfl, rfl, fun _ _ h _ => h, fun hs => ⟨hs.keyed, ?_⟩⟩
  intro other row hrow
  rcases lookup_insert_eq_some.mp hrow with ⟨rfl, -⟩ | ⟨-, hold⟩
  · exact ⟨e, he, hkind⟩
  · exact hs.queued other row hold

lemma enqueueMatch_same (s : Store) (id : EventId) :
    (s.enqueueMatch id).events = s.events ∧ (s.enqueueMatch id).leases = s.leases := by
  unfold enqueueMatch
  split <;> exact ⟨rfl, rfl⟩

lemma feeds_foldl_enqueueMatch {entries : List (Sigma fun _ : EventId => EventRow)}
    (h : ∀ e ∈ entries, s.events.lookup e.1 = some e.2 ∧ isPushKind e.2.stored.event.kind) :
    s.Feeds (entries.foldl (fun s e => s.enqueueMatch e.1) s) ∧
      (entries.foldl (fun s e => s.enqueueMatch e.1) s).leases = s.leases := by
  induction entries generalizing s with
  | nil => exact ⟨.refl s, rfl⟩
  | cons e entries ih =>
    obtain ⟨he, hkind⟩ := h e List.mem_cons_self
    have hrest := ih (s := s.enqueueMatch e.1) fun e' he' => by
      rw [(enqueueMatch_same ..).1]
      exact h e' (List.mem_cons_of_mem _ he')
    refine ⟨(feeds_enqueueMatch he hkind).trans hrest.1, ?_⟩
    rw [List.foldl_cons, hrest.2, (enqueueMatch_same ..).2]

lemma backfill_spec (s : Store) :
    s.Feeds s.backfillPushMatchJobs ∧ s.backfillPushMatchJobs.leases = s.leases := by
  refine feeds_foldl_enqueueMatch ?_
  intro e he
  obtain ⟨hmem, hpsh⟩ := List.mem_filter.mp he
  simp only [EventRow.pushed, Bool.and_eq_true] at hpsh
  exact ⟨AList.mem_lookup_iff.mpr hmem, hpsh.1.1⟩

lemma insertEvent_spec {row : EventRow} (h : s.insertEvent row = some t) :
    s.Feeds t ∧ t.leases = s.leases := by
  unfold insertEvent at h
  simp only at h
  split at h
  · cases h
  next hnew =>
  have hfr : s.events.lookup row.stored.event.id = none := by simpa using hnew
  have hsto : s.Feeds { s with events := s.events.insert row.stored.event.id row } := by
    have hkept : ∀ id e, s.events.lookup id = some e →
        (s.events.insert row.stored.event.id row).lookup id = some e := by
      intro id e he
      have hne : id ≠ row.stored.event.id := by
        rintro rfl
        simp [hfr] at he
      rw [AList.lookup_insert_ne hne]
      exact he
    refine ⟨rfl, rfl, fun id e he _ => hkept id e he, fun hs => ⟨?_, ?_⟩⟩
    · intro id e he
      rcases lookup_insert_eq_some.mp he with ⟨rfl, rfl⟩ | ⟨-, hold⟩
      · rfl
      · exact hs.keyed id e hold
    intro id r hr
    obtain ⟨e, he, hkind⟩ := hs.queued id r hr
    exact ⟨e, hkept id e he, hkind⟩
  split at h
  · next hkind =>
    cases h
    simp only [Bool.and_eq_true] at hkind
    refine ⟨hsto.trans (feeds_enqueueMatch (e := row) ?_ hkind.1), ?_⟩
    · exact AList.lookup_insert _
    · rw [(enqueueMatch_same ..).2]
  · cases h
    exact ⟨hsto, rfl⟩

lemma feeds_retireLeaseEvents (s : Store) (address : Address) :
    s.Feeds (s.retireLeaseEvents address) := by
  unfold retireLeaseEvents
  refine ⟨rfl, rfl, ?_, fun hs => ⟨?_, ?_⟩⟩
  · intro id row hrow hpsh
    simp only [lookup_mapRows, hrow, map_some]
    rw [if_neg]
    rintro ⟨hkind, -⟩
    rw [EventRow.pushed, hkind] at hpsh
    exact absurd hpsh (by simp [isPushKind])
  · intro id row hrow
    rw [lookup_mapRows] at hrow
    obtain ⟨old, hold, rfl⟩ := map_eq_some_iff.mp hrow
    have hkey := hs.keyed id old hold
    split <;> exact hkey
  intro id row hrow
  obtain ⟨e, he, hkind⟩ := hs.queued id row hrow
  simp only [lookup_mapRows, he, map_some, some.injEq, exists_eq_left']
  split <;> exact hkind

lemma stamp_expireLeases (s : Store) (author : PublicKey) :
    (s.expireLeases author).stamp = s.stamp := by
  funext address
  unfold stamp expireLeases
  simp only [lookup_mapRows, map_map]
  congr 1
  funext row
  simp only [Function.comp_apply]
  split <;> rfl

lemma stamp_disableEndpointGeneration (s : Store) (author : PublicKey) (installationId : String)
    (generation : ℤ) :
    (s.disableEndpointGeneration author installationId generation).stamp = s.stamp := by
  funext address
  unfold stamp disableEndpointGeneration
  simp only [lookup_mapRows, map_map]
  congr 1
  funext row
  simp only [Function.comp_apply]
  split <;> rfl

lemma stamp_congr (h : t.leases = s.leases) : t.stamp = s.stamp := by
  funext address
  unfold stamp
  rw [h]

lemma upsertLease_eq_ok (h : s.upsertLease address version active = .ok t) :
    t = { s with leases := s.leases.insert address (version.row active) } := by
  unfold upsertLease at h
  simp only [chain_eq_ok] at h
  obtain ⟨-, -, -, rfl⟩ := h
  rfl

/-- What a replacement that is accepted has done: its generation is larger than the one before, and
its stamp stands at its address. -/
structure Replaces (s t : Store) (address : Address) (version : LeaseVersion) : Prop where
  feeds : s.Feeds t
  newer : ∀ old ∈ s.stamp address, old.1 < version.generation
  stamp : t.stamp = Function.update s.stamp address (some (version.generation, version.expiresAt))

lemma newer_of_checkOrder {u : Unit} (h : checkOrder version (s.leases.lookup address) = .ok u) :
    ∀ old ∈ s.stamp address, old.1 < version.generation := by
  intro old hold
  obtain ⟨row, hrow, rfl⟩ := map_eq_some_iff.mp hold
  rw [hrow] at h
  simp only [checkOrder, chain_eq_ok] at h
  exact not_le.mp h.2

lemma replaces_upsert (h : s.upsertLease address version active = .ok u)
    (hord : ∀ old ∈ s.stamp address, old.1 < version.generation)
    (ht : (if active.isSome then u.backfillPushMatchJobs else u) = t) :
    s.Replaces t address version := by
  have hu := upsertLease_eq_ok h
  have hfd : u.Feeds t ∧ t.leases = u.leases := by
    rw [← ht]
    split
    · exact backfill_spec u
    · exact ⟨.refl u, rfl⟩
  refine ⟨?_, hord, ?_⟩
  · refine .trans ?_ hfd.1
    rw [hu]
    exact feeds_leases s _
  rw [stamp_congr hfd.2, hu]
  funext other
  by_cases hoth : other = address
  · subst hoth
    simp [Store.stamp, LeaseVersion.row]
  · simp [Store.stamp, hoth]

lemma replaces_replaceLease {author : PublicKey} {installationId : String}
    (h : s.replaceLease author installationId version active = .ok t) :
    s.Replaces t (author, installationId) version := by
  unfold replaceLease at h
  simp only [bind_eq_ok, pure, Except.pure, Except.ok.injEq] at h
  obtain ⟨_, hord, u, hu, ht⟩ := h
  exact replaces_upsert hu (newer_of_checkOrder hord) ht

lemma replaces_acceptLeaseEvent
    (h : s.acceptLeaseEvent inRange event installationId version active maxActiveLeases = .ok t) :
    s.Replaces t (event.pubkey, installationId) version := by
  unfold acceptLeaseEvent at h
  simp only [chain_eq_ok] at h
  obtain ⟨_, -, _, hord, _, -, -, v, hv, u, hu, ht⟩ := h
  obtain ⟨hfd, hleases⟩ := insertEvent_spec hv
  -- up to here the leases have only expired, and their stamps are those of the start
  have hstm : v.stamp = s.stamp := by
    rw [stamp_congr hleases]
    exact stamp_expireLeases s event.pubkey
  have hrepl := replaces_upsert hu (by
    rw [hstm]
    exact newer_of_checkOrder hord) ht
  refine ⟨?_, hstm ▸ hrepl.newer, hstm ▸ hrepl.stamp⟩
  exact ((feeds_leases s _).trans ((feeds_retireLeaseEvents _ _).trans hfd)).trans hrepl.feeds

/-! ### The batch a matcher claims -/

lemma feeds_claimDueMatchBatch (s : Store) (limit : ℕ) (claimId : Uuid) (leaseUntil : ℕ) :
    s.Feeds (s.claimDueMatchBatch limit claimId leaseUntil).1 := by
  refine feeds_matchQueue ?_
  intro id row hrow
  have hmapped := (lookup_select_eq_some.mp hrow).1
  rw [lookup_mapRows] at hmapped
  obtain ⟨old, hold, -⟩ := map_eq_some_iff.mp hmapped
  simp [hold]

lemma pushed_of_mem_claimDueMatchBatch (hs : s.FeedSound) {limit : ℕ} {claimId : Uuid}
    {leaseUntil : ℕ} {job : StoredEvent × ℕ}
    (h : job ∈ (s.claimDueMatchBatch limit claimId leaseUntil).2) :
    ∃ row, s.events.lookup job.1.event.id = some row ∧ row.pushed ∧ row.stored = job.1 := by
  obtain ⟨e, he, hjob⟩ := List.mem_filterMap.mp h
  obtain ⟨event, hev, rfl⟩ := map_eq_some_iff.mp hjob
  have hqd := (List.mem_filter.mp ((List.mem_insertionSort _).mp (List.mem_of_mem_take he))).1
  obtain ⟨row, hrow, hsto⟩ := map_eq_some_iff.mp hev
  obtain ⟨hrow, hvisible⟩ := filter_eq_some_iff.mp hrow
  obtain ⟨row', hrow', hkind⟩ := hs.queued e.1 e.2 (AList.mem_lookup_iff.mpr hqd)
  obtain rfl := mem_unique hrow hrow'
  refine ⟨row, ?_, ?_, hsto⟩
  · rw [← hsto, hs.keyed e.1 row hrow]
    exact hrow
  · rw [EventRow.pushed, hkind]
    simpa using hvisible

lemma feeds_completeMatchBatch (s : Store) (claimId : Uuid) (eventIds : List EventId) :
    s.Feeds (s.completeMatchBatch claimId eventIds) := by
  refine feeds_matchQueue ?_
  intro id row hrow
  simp [(lookup_select_eq_some.mp hrow).1]

lemma feeds_retryMatchBatch (s : Store) (claimId : Uuid) (eventIds : List EventId) (next : ℕ) :
    s.Feeds (s.retryMatchBatch claimId eventIds next) := by
  refine feeds_matchQueue ?_
  intro id row hrow
  rw [lookup_mapRows] at hrow
  obtain ⟨old, hold, -⟩ := map_eq_some_iff.mp hrow
  simp [hold]

lemma feeds_reapExhaustedMatches (s : Store) : s.Feeds s.reapExhaustedMatches := by
  refine feeds_matchQueue ?_
  intro id row hrow
  simp [(lookup_select_eq_some.mp hrow).1]

end Store

end Buzz.Db.Push
