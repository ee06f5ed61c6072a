import Buzz.Db.Push
import Mathlib.Data.List.Dedup

/-!
The outbox of wakes.

A wake is a job to send to the endpoint of a lease on account of an event.  There is at most one job
for an endpoint and an event, whoever asked for it first; a job can be claimed only while the lease
it was made for, of that author, installation and generation, is live and has that endpoint.
-/

namespace Buzz.Db.Push

open Buzz.Core Lib List Option

/-! ### Jobs -/

/-- What the outbox is unique by, in one community. -/
abbrev WakeKey := EndpointHash × EventId

namespace Wake

def key (w : Wake) : WakeKey := (w.endpointHash, w.request.eventId)

def address (w : Wake) : Address := (w.request.author, w.request.installationId)

/-- The lease a wake was made for: its address and its generation. -/
def owner (w : Wake) : Address × ℤ := (w.address, w.request.leaseGeneration)

end Wake

namespace WakeRow

def settled (o : WakeRow) : Bool :=
  match o.state with
  | .pending | .sending _ _ => false
  | .delivered | .failed => true

def due (o : WakeRow) (now : ℕ) : Bool :=
  decide (o.nextAttemptAt ≤ now) &&
    match o.state with
    | .pending => true
    | .sending _ leaseUntil => decide (leaseUntil < now)
    | .delivered | .failed => false

def heldBy (o : WakeRow) (id : ℕ) (claimId : Uuid) : Bool :=
  match o.state with
  | .sending held _ => decide (o.id = id) && decide (held = claimId)
  | .pending | .delivered | .failed => false

end WakeRow

inductive EnqueueWakeOutcome
  | enqueued (id : ℕ)
  | duplicate (id : ℕ)
  | inactiveLease

structure InvalidData where
  text : String

/-- A job as it is handed to a delivery worker. -/
structure ClaimedWake where
  id : ℕ
  claimId : Uuid
  wake : Wake
  channelId : Option Uuid
  endpointGrant : String
  queuedAt : ℕ
  attempt : ℕ

namespace Store

/-! ### Enqueueing -/

variable (s : Store) (id : ℕ) (claimId : Uuid)

/-- The endpoint of the lease a request was made for, if that lease is the current one and live. -/
def resolve (r : WakeRequest) : Option EndpointHash := do
  let row ← s.leases.lookup (r.author, r.installationId)
  if row.live s.seconds ∧ row.generation = r.leaseGeneration then row.endpointHash else none

/-- One row of the insert, `ON CONFLICT (community_id, endpoint_hash, event_id) DO NOTHING`. -/
def insertWake (w : Wake) : Store × Option WakeRow :=
  if s.outbox.any fun o => o.wake.key = w.key then (s, none)
  else
    let row := ⟨s.nextWakeId, w, .pending, 0, s.now, s.now⟩
    ({ s with outbox := s.outbox ++ [row], nextWakeId := s.nextWakeId + 1 }, some row)

/-- The insert, with the rows it returns. -/
def insertWakes : List Wake → Store → Store × List WakeRow
  | [], s => (s, [])
  | w :: wakes, s =>
    let (s, row) := s.insertWake w
    let (s, returned) := insertWakes wakes s
    (s, row.toList ++ returned)

def resolved (requests : List WakeRequest) : List Wake :=
  requests.filterMap fun r => (s.resolve r).map fun endpointHash => ⟨r, endpointHash⟩

/-- The answers: the first request for a job that was inserted is answered `Enqueued`, the others
for it `Duplicate`. -/
def reportWakes (jobIds : Table WakeKey ℕ) (insertedKeys : List WakeKey) :
    List (WakeRequest × Option EndpointHash) → List WakeKey →
      Except InvalidData (List EnqueueWakeOutcome)
  | [], _ => pure []
  | (_, none) :: rest, reported => do
    let outcomes ← reportWakes jobIds insertedKeys rest reported
    pure (.inactiveLease :: outcomes)
  | (r, some endpointHash) :: rest, reported => do
    let key := (endpointHash, r.eventId)
    let id ← okOr (jobIds.lookup key)
      (InvalidData.mk "wake enqueue resolved neither insert nor duplicate")
    if key ∈ insertedKeys ∧ key ∉ reported then do
      let outcomes ← reportWakes jobIds insertedKeys rest (key :: reported)
      pure (.enqueued id :: outcomes)
    else do
      let outcomes ← reportWakes jobIds insertedKeys rest reported
      pure (.duplicate id :: outcomes)

/-- Jobs that were there before are looked up only if the insert returned fewer rows than it was given;
the rows are committed before the answers are put together. -/
def enqueueWakes (requests : List WakeRequest) :
    Store × Except InvalidData (List EnqueueWakeOutcome) :=
  let wakes := s.resolved requests
  let (t, returned) := insertWakes wakes s
  let insertedKeys := (returned.map (·.wake.key)).dedup
  let jobIds : Table WakeKey ℕ := returned.foldl (fun ids o => ids.insert o.wake.key o.id) ∅
  let jobIds :=
    if insertedKeys.length < wakes.length then
      (t.outbox.filter fun o => o.wake.key ∈ wakes.map Wake.key).foldl (fun ids o =>
        ids.insert o.wake.key ((ids.lookup o.wake.key).getD o.id)) jobIds
    else jobIds
  (t, reportWakes jobIds insertedKeys (requests.map fun r => (r, s.resolve r)) [])

/-! ### Claiming -/

/-- The lease of a job: that of its author, installation, generation and endpoint. -/
def leaseOf (w : Wake) : Option LeaseRow :=
  (s.leases.lookup w.address).filter fun row =>
    decide (row.generation = w.request.leaseGeneration) &&
      decide (row.endpointHash = some w.endpointHash)

/-- What `claim_due_wakes` asks of a job besides its being due. -/
def claimable (o : WakeRow) : Bool :=
  (s.leaseOf o.wake).any (fun row => row.live s.seconds) &&
    (s.visibleEvent o.wake.request.eventId).isSome &&
    decide (s.seconds < o.wake.request.expiresAt)

def claimDueWakes (limit : ℕ) (claimId : Uuid) (leaseUntil : ℕ) : Store × List ClaimedWake :=
  let due := (s.outbox.filter fun o => s.claimable o && o.due s.now).insertionSort fun a b =>
    a.nextAttemptAt < b.nextAttemptAt ∨ a.nextAttemptAt = b.nextAttemptAt ∧
      (a.createdAt < b.createdAt ∨ a.createdAt = b.createdAt ∧ a.id ≤ b.id)
  let claimed := due.take limit
  let ids := claimed.map WakeRow.id
  ({ s with
      outbox := s.outbox.map fun o =>
        if ids.contains o.id then
          { o with state := .sending claimId leaseUntil, attempts := o.attempts + 1 }
        else o },
    claimed.filterMap fun o => do
      let row ← s.leaseOf o.wake
      let lease ← row.active
      let event ← s.visibleEvent o.wake.request.eventId
      pure ⟨o.id, claimId, o.wake, event.channelId, lease.endpointGrant, o.createdAt,
        o.attempts + 1⟩)

/-! ### Finishing -/

def updateHeld (f : WakeRow → WakeRow) : Store × Bool :=
  ({ s with outbox := s.outbox.map fun o => if o.heldBy id claimId then f o else o },
    s.outbox.any fun o => o.heldBy id claimId)

def completeWake : Store × Bool :=
  s.updateHeld id claimId fun o => { o with state := .delivered }

def retryWake (nextAttemptAt : ℕ) : Store × Bool :=
  s.updateHeld id claimId fun o => { o with state := .pending, nextAttemptAt := nextAttemptAt }

def failWake : Store × Bool :=
  s.updateHeld id claimId fun o => { o with state := .failed }

/-- `prune_wake_outbox`: jobs that are settled or expired go, unless their event is to be matched
again. -/
def pruneWakeOutbox (before : ℕ) : Store :=
  { s with
    outbox := s.outbox.filter fun o =>
      !(decide (o.createdAt < before) &&
        (o.settled || decide (o.wake.request.expiresAt ≤ s.seconds)) &&
        (s.matchQueue.lookup o.wake.request.eventId).isNone) }

/-! ### What enqueueing does -/

variable {s : Store} {r : WakeRequest}

lemma mem_resolved : w ∈ s.resolved requests ↔
    w.request ∈ requests ∧ s.resolve w.request = some w.endpointHash := by
  unfold resolved
  simp only [mem_filterMap, map_eq_some_iff]
  constructor
  · rintro ⟨r, hr, endpointHash, hres, rfl⟩
    exact ⟨hr, hres⟩
  · rintro ⟨hr, hres⟩
    exact ⟨w.request, hr, w.endpointHash, hres, rfl⟩

lemma stamp_of_mem_resolved (h : w ∈ s.resolved requests) :
    ∃ expiresAt, s.stamp w.address = some (w.request.leaseGeneration, expiresAt) := by
  obtain ⟨row, hrow, hres⟩ := bind_eq_some_iff.mp (mem_resolved.mp h).2
  split_ifs at hres with hlive
  refine ⟨row.expiresAt, ?_⟩
  unfold Store.stamp Wake.address
  rw [hrow, map_some, hlive.2]

lemma insertWake_spec (s : Store) (w : Wake) : ∃ nextWakeId row,
    s.insertWake w = ({ s with outbox := s.outbox ++ row.toList, nextWakeId := nextWakeId }, row) ∧
      (∃ o ∈ s.outbox ++ row.toList, o.wake.key = w.key) ∧
      ∀ o ∈ row, o.wake = w ∧ o.settled = false := by
  unfold insertWake
  split
  · next hany =>
    obtain ⟨o, ho, hkey⟩ := any_eq_true.mp hany
    exact ⟨s.nextWakeId, none, by simp, ⟨o, by simpa using ho, by simpa using hkey⟩, by simp⟩
  · refine ⟨_, some _, rfl, ⟨_, mem_append_right _ mem_cons_self, rfl⟩, ?_⟩
    rintro o ⟨⟩
    exact ⟨rfl, rfl⟩

lemma insertWakes_spec (wakes : List Wake) (s : Store) : ∃ nextWakeId returned,
    insertWakes wakes s =
        ({ s with outbox := s.outbox ++ returned, nextWakeId := nextWakeId }, returned) ∧
      (∀ w ∈ wakes, ∃ o ∈ s.outbox ++ returned, o.wake.key = w.key) ∧
      returned.map WakeRow.wake <+ wakes ∧ ∀ o ∈ returned, o.settled = false := by
  induction wakes generalizing s with
  | nil => exact ⟨s.nextWakeId, [], by simp [insertWakes], by simp, .slnil, by simp⟩
  | cons w wakes ih =>
    obtain ⟨n, row, hfst, ⟨o, ho, hkey⟩, hrow⟩ := insertWake_spec s w
    obtain ⟨m, returned, hrest, hjobs, hsub, hset⟩ := ih (s.insertWake w).1
    simp only [insertWakes, hrest]
    rw [hfst] at hjobs ⊢
    refine ⟨m, row.toList ++ returned, by simp, ?_, ?_, ?_⟩
    · simp only [append_assoc] at hjobs
      refine forall_mem_cons.mpr ⟨⟨o, ?_, hkey⟩, hjobs⟩
      rw [← append_assoc]
      exact mem_append_left _ ho
    · cases row with
      | none => exact hsub.cons w
      | some row =>
        obtain ⟨rfl, -⟩ := hrow row rfl
        exact hsub.cons_cons _
    · intro o ho
      rcases mem_append.mp ho with hnew | hold
      · exact (hrow o (Option.mem_toList.mp hnew)).2
      · exact hset o hold

lemma enqueueWakes_spec (s : Store) (requests : List WakeRequest) : ∃ outbox nextWakeId,
      (s.enqueueWakes requests).1 = { s with outbox := outbox, nextWakeId := nextWakeId } ∧
      s.outbox <+: outbox ∧ (∀ w ∈ s.resolved requests, ∃ o ∈ outbox, o.wake.key = w.key) ∧
      ∀ o ∈ outbox, o ∈ s.outbox ∨ o.wake ∈ s.resolved requests ∧ o.settled = false := by
  obtain ⟨n, returned, heq, hjobs, hsub, hset⟩ := insertWakes_spec (s.resolved requests) s
  refine ⟨s.outbox ++ returned, n, congrArg Prod.fst heq, prefix_append .., hjobs, ?_⟩
  intro o ho
  rcases mem_append.mp ho with hold | hnew
  · exact .inl hold
  · exact .inr ⟨hsub.subset (mem_map_of_mem hnew), hset o hnew⟩

lemma mem_collect (f : Table WakeKey ℕ → WakeRow → ℕ) (rows : List WakeRow) (ids : Table WakeKey ℕ)
    (key : WakeKey) : key ∈ rows.foldl (fun ids o => ids.insert o.wake.key (f ids o)) ids ↔
      key ∈ ids ∨ ∃ o ∈ rows, o.wake.key = key := by
  induction rows generalizing ids with
  | nil => simp
  | cons o rows ih =>
    rw [foldl_cons, ih, AList.mem_insert, exists_mem_cons_iff, eq_comm]
    tauto

lemma reportWakes_isOk
    (h : ∀ r ∈ rs, ∀ endpointHash ∈ r.2, (endpointHash, r.1.eventId) ∈ jobIds)
    (reported : List WakeKey) :
    ∃ outcomes, reportWakes jobIds insertedKeys rs reported = .ok outcomes := by
  induction rs generalizing reported with
  | nil => exact ⟨[], rfl⟩
  | cons r rs ih =>
    have hrest := ih fun r' hr' => h r' (mem_cons_of_mem _ hr')
    obtain ⟨r, _ | endpointHash⟩ := r
    · obtain ⟨outcomes, houts⟩ := hrest reported
      exact ⟨.inactiveLease :: outcomes, by rw [reportWakes, houts]; rfl⟩
    obtain ⟨id, hid⟩ := isSome_iff_exists.mp
      (AList.lookup_isSome.mpr (h (r, some endpointHash) mem_cons_self endpointHash rfl))
    simp only [reportWakes, hid, okOr_some, ok_bind]
    split
    · obtain ⟨outcomes, houts⟩ := hrest ((endpointHash, r.eventId) :: reported)
      exact ⟨.enqueued id :: outcomes, by rw [houts]; rfl⟩
    · obtain ⟨outcomes, houts⟩ := hrest reported
      exact ⟨.duplicate id :: outcomes, by rw [houts]; rfl⟩

/-- Enqueueing always comes to its answers: every request that is resolved has a job that was returned
by the insert or, if that returned fewer rows than it was given, is found by the lookup. -/
theorem enqueueWakes_answers (s : Store) (requests : List WakeRequest) :
    ∃ outcomes, (s.enqueueWakes requests).2 = .ok outcomes := by
  obtain ⟨n, returned, heq, hjobs, hsub, -⟩ := insertWakes_spec (s.resolved requests) s
  simp only [enqueueWakes, heq]
  refine reportWakes_isOk ?_ []
  intro r hr endpointHash hend
  obtain ⟨request, hreq, rfl⟩ := mem_map.mp hr
  have hw : (⟨request, endpointHash⟩ : Wake) ∈ s.resolved requests := mem_resolved.mpr ⟨hreq, hend⟩
  split
  · obtain ⟨o, ho, hkey⟩ := hjobs _ hw
    refine (mem_collect ..).mpr (.inr ⟨o, mem_filter.mpr ⟨ho, ?_⟩, hkey⟩)
    exact decide_eq_true (hkey ▸ mem_map_of_mem hw)
  · -- as many keys as wakes: each wake was inserted
    next hall =>
    have hlen : (returned.map (·.wake.key)).dedup.length ≤ (returned.map WakeRow.wake).length := by
      simpa using (dedup_sublist (returned.map (·.wake.key))).length_le
    have hsame := hsub.eq_of_length_le (le_trans (Nat.not_lt.mp hall) hlen)
    rw [← hsame] at hw
    obtain ⟨o, ho, heq⟩ := mem_map.mp hw
    exact (mem_collect (fun _ o => o.id) ..).mpr (.inr ⟨o, ho, congrArg Wake.key heq⟩)

lemma exists_due {o : WakeRow} (h : o.settled = false) (now : ℕ) :
    ∃ later, now ≤ later ∧ o.due later := by
  cases hst : o.state with
  | pending =>
    refine ⟨max now o.nextAttemptAt, le_max_left .., ?_⟩
    simp [WakeRow.due, hst]
  | sending claimId leaseUntil =>
    refine ⟨max now (max o.nextAttemptAt (leaseUntil + 1)), le_max_left .., ?_⟩
    simp only [WakeRow.due, hst, Bool.and_eq_true, decide_eq_true_eq]
    omega
  | delivered | failed => simp [WakeRow.settled, hst] at h

end Store

end Buzz.Db.Push
