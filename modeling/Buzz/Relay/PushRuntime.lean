import Buzz.Core.WriteKind
import Buzz.Db.PushOutbox
import Buzz.Lib.Run
import Buzz.Relay.EventQuery

/-!
The matcher and the system around the outbox.

The matcher claims a batch of events, loads the live leases and the memberships of their authors,
works out which leases each event wakes, and enqueues the wakes of the batch in one call.  Between
these steps anything else may happen to the tables, so what a matcher has read is kept apart from
them.  A step of the system is one operation of the database, or one of the reads of a matcher, or
time passing.

The texts of the subscriptions are decoded by a library: `Decoder` stands for it.  No step deletes
an event of a push kind: nobody is to be woken for one.
-/

namespace Buzz.Relay.Push

open Buzz.Core Lib Db.Push Option

/-! ### Matching -/

structure Subscription where
  filter : Json
  wakeClass : WakeClass
  ignored : List Json
  suppress : Option ℕ

structure Decoder where
  subscriptions : Json → Option (List Subscription)
  filter : Json → Option Filter

structure MatchLease where
  author : PublicKey
  installationId : String
  generation : ℤ
  subscriptions : Json
  expiresAt : ℤ

structure MatchContext where
  leases : List MatchLease
  memberships : List (Uuid × PublicKey)

/-- A lease may match gift wraps that are addressed to its own author only. -/
def pushFilterAuthorizedForEvent (filter : Filter) (event : Event) (leaseAuthorHex : String) : Bool :=
  if eventKindU32 event ≠ kindGiftWrap then true
  else (filter.genericTags.lookup pTagKey).any fun values =>
    !values.isEmpty && values.all (fun v => v = leaseAuthorHex) &&
      (event.tagContents "p").any fun c => c = leaseAuthorHex

def classRank (_ : WakeClass) : ℕ := 1

section Match

variable (decoder : Decoder)

def suppressed (sub : Subscription) (event : StoredEvent) : Bool :=
  let ignored := sub.ignored.any fun raw =>
    (decoder.filter raw).any fun f => filtersMatch [f] event
  let pCount := event.event.tags.countP fun t => t.kind = "p"
  ignored || sub.suppress.any fun most => decide (most < pCount)

/-- The loop over the subscriptions of a lease: the class found so far, or `none` as the result when
a filter is no filter. -/
def subscriptionClass (event : StoredEvent) (authorHex : String) :
    List Subscription → Option WakeClass → Option (Option WakeClass)
  | [], found => some found
  | sub :: rest, found => do
    let filter ← decoder.filter sub.filter
    if !pushFilterAuthorizedForEvent filter event.event authorHex || !filtersMatch [filter] event then
      subscriptionClass event authorHex rest found
    else if suppressed decoder sub event then subscriptionClass event authorHex rest found
    else if found.all fun old => classRank old < classRank sub.wakeClass then
      subscriptionClass event authorHex rest (some sub.wakeClass)
    else subscriptionClass event authorHex rest found

def eventUsefulSecs : ℤ := 3600

def matchLease (memberships : List (Uuid × PublicKey)) (clock : ℤ) (event : StoredEvent)
    (lease : MatchLease) : Option (Option WakeRequest) := do
  let authorHex := lease.author.toHex
  if !readerAuthorizedForEvent event.event authorHex then pure none
  else if event.channelId.any fun channel => !memberships.contains (channel, lease.author) then
    pure none
  else
    let subscriptions ← decoder.subscriptions lease.subscriptions
    let found ← subscriptionClass decoder event authorHex subscriptions none
    match found with
    | none => pure none
    | some wakeClass =>
      let eventDeadline := (event.event.createdAt : ℤ) + eventUsefulSecs
      let expiresAt := min lease.expiresAt eventDeadline
      if expiresAt ≤ clock then pure none
      else pure (some ⟨lease.author, lease.installationId, lease.generation, event.event.id,
        wakeClass, expiresAt⟩)

def matchJob (context : MatchContext) (clock : ℤ) (event : StoredEvent) :
    Option (List WakeRequest) :=
  (context.leases.mapM (matchLease decoder context.memberships clock event)).map
    (List.filterMap id)

def batchWakes (context : MatchContext) (clock : ℤ) (batch : List (StoredEvent × ℕ)) :
    List WakeRequest :=
  batch.flatMap fun job => (matchJob decoder context clock job.1).getD []

end Match

def activeMatchLeases (s : Store) : List MatchLease :=
  s.leases.entries.filterMap fun e =>
    if e.2.live s.seconds then
      e.2.active.map fun a => ⟨e.1.1, e.1.2, e.2.generation, a.subscriptions, e.2.expiresAt⟩
    else none

/-! ### The system -/

/-- The tables, what the matchers have read, and a record of what has happened: the leases that were
accepted, the requests that were answered `Enqueued` or `Duplicate`, and the endpoints and events of
the jobs that were delivered or failed. -/
structure World where
  store : Store
  batches : List (List (StoredEvent × ℕ))
  contexts : List MatchContext
  accepted : List (Address × ℤ × ℤ)
  answered : List Wake
  settled : List (EndpointHash × EventId)

def World.empty : World := ⟨.empty, [], [], [], [], []⟩

inductive Op
  | acceptLease (event : Event) (installationId : String) (version : LeaseVersion)
      (active : Option ActiveLease) (maxActiveLeases : ℤ)
  | replaceLease (author : PublicKey) (installationId : String) (version : LeaseVersion)
      (active : Option ActiveLease)
  | disableEndpoint (author : PublicKey) (installationId : String) (generation : ℤ)
  | storeEvent (event : StoredEvent) (dTag : Option String) (receivedAt : ℕ)
  | claimMatches (limit : ℕ) (claimId : Uuid) (leaseUntil : ℕ)
  | loadContext (memberships : List (Uuid × PublicKey))
  | enqueueWakes (batch context : ℕ) (clock : ℤ)
  | completeMatches (claimId : Uuid) (eventIds : List EventId)
  | retryMatches (claimId : Uuid) (eventIds : List EventId) (next : ℕ)
  | reapMatches
  | claimWakes (limit : ℕ) (claimId : Uuid) (leaseUntil : ℕ)
  | completeWake (id : ℕ) (claimId : Uuid)
  | retryWake (id : ℕ) (claimId : Uuid) (nextAttemptAt : ℕ)
  | failWake (id : ℕ) (claimId : Uuid)
  | pruneOutbox (before : ℕ)
  | tick (microseconds : ℕ)

/-- The requests of an answer that are not `InactiveLease`. -/
def answeredWakes (s : Store) (requests : List WakeRequest)
    (outcomes : Except InvalidData (List EnqueueWakeOutcome)) : List Wake :=
  match outcomes with
  | .error _ => []
  | .ok outcomes => (requests.zip outcomes).filterMap fun answer =>
    match answer.2 with
    | .inactiveLease => none
    | .enqueued _ | .duplicate _ => (s.resolve answer.1).map fun endpoint => ⟨answer.1, endpoint⟩

namespace World

/-- A lease is put in place, and noted, or nothing happens. -/
def install (w : World) (address : Address) (version : LeaseVersion)
    (result : Except LeaseRefusal Store) : World :=
  match result with
  | .error _ => w
  | .ok s =>
    { w with
      store := s
      accepted := (address, version.generation, version.expiresAt) :: w.accepted }

def heldKeys (w : World) (id : ℕ) (claimId : Uuid) : List (EndpointHash × EventId) :=
  (w.store.outbox.filter fun o => o.heldBy id claimId).map fun o => o.wake.key

def requests (decoder : Decoder) (w : World) (batch context : ℕ) (clock : ℤ) : List WakeRequest :=
  batchWakes decoder (w.contexts.getD context ⟨[], []⟩) clock (w.batches.getD batch [])

def step (inRange : ℤ → Bool) (decoder : Decoder) (w : World) : Op → World
  | .acceptLease event installationId version active maxActiveLeases =>
    w.install (event.pubkey, installationId) version
      (w.store.acceptLeaseEvent inRange event installationId version active maxActiveLeases)
  | .replaceLease author installationId version active =>
    w.install (author, installationId) version
      (w.store.replaceLease author installationId version active)
  | .disableEndpoint author installationId generation =>
    { w with store := w.store.disableEndpointGeneration author installationId generation }
  | .storeEvent event dTag receivedAt =>
    { w with store := (w.store.insertEvent ⟨event, dTag, receivedAt, false⟩).getD w.store }
  | .claimMatches limit claimId leaseUntil =>
    let (s, batch) := w.store.claimDueMatchBatch limit claimId leaseUntil
    { w with store := s, batches := w.batches ++ [batch] }
  | .loadContext memberships =>
    { w with contexts := w.contexts ++ [⟨activeMatchLeases w.store, memberships⟩] }
  | .enqueueWakes batch context clock =>
    let requests := w.requests decoder batch context clock
    let (s, outcomes) := w.store.enqueueWakes requests
    { w with store := s, answered := answeredWakes w.store requests outcomes ++ w.answered }
  | .completeMatches claimId eventIds =>
    { w with store := w.store.completeMatchBatch claimId eventIds }
  | .retryMatches claimId eventIds next =>
    { w with store := w.store.retryMatchBatch claimId eventIds next }
  | .reapMatches => { w with store := w.store.reapExhaustedMatches }
  | .claimWakes limit claimId leaseUntil =>
    { w with store := (w.store.claimDueWakes limit claimId leaseUntil).1 }
  | .completeWake id claimId =>
    { w with
      store := (w.store.completeWake id claimId).1
      settled := w.heldKeys id claimId ++ w.settled }
  | .retryWake id claimId nextAttemptAt =>
    { w with store := (w.store.retryWake id claimId nextAttemptAt).1 }
  | .failWake id claimId =>
    { w with
      store := (w.store.failWake id claimId).1
      settled := w.heldKeys id claimId ++ w.settled }
  | .pruneOutbox before => { w with store := w.store.pruneWakeOutbox before }
  | .tick microseconds => { w with store := { w.store with now := w.store.now + microseconds } }

def run (inRange : ℤ → Bool) (decoder : Decoder) (ops : List Op) : World :=
  ops.foldl (step inRange decoder) .empty

end World

/-! ### What the matcher asks for -/

section Match

variable {decoder : Decoder} {memberships : List (Uuid × PublicKey)} {clock : ℤ}
  {event : StoredEvent} {lease : MatchLease} {context : MatchContext} {r : WakeRequest}

/-- A request is made for a lease and an event, and for no longer than either is of use. -/
structure MadeFor (lease : MatchLease) (event : StoredEvent) (r : WakeRequest) : Prop where
  author : r.author = lease.author
  installationId : r.installationId = lease.installationId
  generation : r.leaseGeneration = lease.generation
  eventId : r.eventId = event.event.id
  expiresAt : r.expiresAt = min lease.expiresAt ((event.event.createdAt : ℤ) + eventUsefulSecs)

lemma madeFor_of_matchLease (h : matchLease decoder memberships clock event lease = some (some r)) :
    MadeFor lease event r := by
  unfold matchLease at h
  simp only [pure_def, bind_eq_bind] at h
  split at h
  · cases h
  split at h
  · cases h
  obtain ⟨subscriptions, -, h⟩ := bind_eq_some_iff.mp h
  obtain ⟨found, -, h⟩ := bind_eq_some_iff.mp h
  cases found with
  | none => cases h
  | some wakeClass =>
    simp only at h
    split at h
    · cases h
    · cases h
      exact ⟨rfl, rfl, rfl, rfl, rfl⟩

lemma madeFor_of_mem_matchJob
    (h : matchJob decoder context clock event = some wakes) (hr : r ∈ wakes) :
    ∃ lease ∈ context.leases, MadeFor lease event r := by
  obtain ⟨results, hress, rfl⟩ := map_eq_some_iff.mp h
  obtain ⟨result, hres, rfl⟩ := List.mem_filterMap.mp hr
  obtain ⟨lease, hlease, hmatch⟩ := exists_mem_of_mapM_eq_some hress hres
  exact ⟨lease, hlease, madeFor_of_matchLease hmatch⟩

lemma madeFor_of_mem_batchWakes (h : r ∈ batchWakes decoder context clock batch) :
    ∃ job ∈ batch, ∃ lease ∈ context.leases, MadeFor lease job.1 r := by
  obtain ⟨job, hjob, hr⟩ := List.mem_flatMap.mp h
  refine ⟨job, hjob, ?_⟩
  cases hmatch : matchJob decoder context clock job.1 with
  | none =>
    rw [hmatch] at hr
    simp at hr
  | some wakes =>
    rw [hmatch] at hr
    exact madeFor_of_mem_matchJob hmatch hr

end Match

lemma stamp_of_mem_activeMatchLeases (h : lease ∈ activeMatchLeases s) :
    s.stamp (lease.author, lease.installationId) = some (lease.generation, lease.expiresAt) := by
  obtain ⟨e, he, hlease⟩ := List.mem_filterMap.mp h
  split at hlease
  · obtain ⟨a, -, rfl⟩ := map_eq_some_iff.mp hlease
    unfold Store.stamp
    rw [AList.mem_lookup_iff.mpr he]
    rfl
  · cases hlease

lemma mem_resolved_of_mem_answeredWakes
    (h : a ∈ answeredWakes s requests outcomes) : a ∈ s.resolved requests := by
  unfold answeredWakes at h
  cases outcomes with
  | error e => cases h
  | ok outcomes =>
    obtain ⟨answer, hans, ha⟩ := List.mem_filterMap.mp h
    have hreq := (List.of_mem_zip hans).1
    cases hout : answer.2 with
    | inactiveLease => simp [hout] at ha
    | enqueued id | duplicate id =>
      simp only [hout, map_eq_some_iff] at ha
      obtain ⟨endpoint, hend, rfl⟩ := ha
      exact Store.mem_resolved.mpr ⟨hreq, hend⟩

end Buzz.Relay.Push
