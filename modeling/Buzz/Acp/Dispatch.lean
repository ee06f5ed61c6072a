import Buzz.Acp.Caps

/-!
What the queue hands out.

`flush_next` looks at the head of every queue and takes the scope whose head was received first, which
is the oldest event as long as every queue is in the order of receipt.  `drain_channel` hands out the
ids of the queued events of a channel.
-/

namespace Buzz.Acp

open Buzz.Core Lib EventQueue List AcpState

variable {q : EventQueue} {s : SessionScope} {o : HashOrders} {now : ℕ}

namespace EventQueue

def hasUndispatchedWork (q : EventQueue) : Bool :=
  let hasQueued := q.queues.entries.any fun e => !e.2.isEmpty && e.1 ∉ q.inFlightScopes
  let hasCancelled := q.cancelledBatches.entries.any fun e => e.1 ∉ q.inFlightScopes
  let hasWithheld :=
    q.withheldNativeSteer.entries.any fun e => !e.2.isEmpty && e.1 ∉ q.inFlightScopes
  hasQueued || hasCancelled || hasWithheld

def hasInFlight (q : EventQueue) : Bool := q.inFlightScopes ≠ ∅

lemma lookup_deadlines_releaseAll (scopes : List SessionScope) (q : EventQueue) :
    (releaseAll o scopes q).inFlightDeadlines.lookup s =
      if s ∈ scopes then none else q.inFlightDeadlines.lookup s := by
  induction scopes generalizing q with
  | nil => rfl
  | cons s' scopes ih =>
    have hnext : ((q.release s').recoverWithheldForExpiredScope o s').inFlightDeadlines =
        q.inFlightDeadlines.erase s' := queuesOnly_recoverWithheld.inFlightDeadlines
    refine (ih _).trans ?_
    rw [hnext]
    by_cases hs : s = s'
    · subst hs
      simp
    · simp [hs, AList.lookup_erase_ne hs]

lemma expireInFlight_of_not (h : ∀ s, q.isExpired now s = false) : q.expireInFlight now o = q := by
  obtain ⟨scopes, hexp, hscopes⟩ := exists_expired now o q
  have hnone : scopes = [] := eq_nil_iff_forall_not_mem.mpr fun s hs => by
    rw [hscopes, h s] at hs
    cases hs
  rw [hexp, hnone]
  rfl

/-- What has expired at an instant does not expire again. -/
lemma isExpired_expireInFlight (now : ℕ) (o : HashOrders) (q : EventQueue) (s : SessionScope) :
    (q.expireInFlight now o).isExpired now s = false := by
  obtain ⟨scopes, hexp, hscopes⟩ := exists_expired now o q
  have hs := hscopes s
  rw [isExpired, hexp, lookup_deadlines_releaseAll]
  split_ifs with hmem
  · rfl
  · exact Bool.eq_false_iff.mpr fun hpassed => hmem (hs.mpr hpassed)

lemma isSome_readyScope : (q.readyScope now o).isSome = q.queues.entries.any fun e =>
    !e.2.isEmpty && e.1 ∉ q.inFlightScopes && (q.retryAfter.lookup e.1).all fun t => t ≤ now := by
  have hthrottle : ∀ s, (!q.isThrottled now s) = (q.retryAfter.lookup s).all fun t => t ≤ now := by
    intro s
    rw [isThrottled, Bool.eq_iff_iff]
    cases q.retryAfter.lookup s <;> simp
  rw [Bool.eq_iff_iff, any_eq_true, readyScope, Option.isSome_map, Option.isSome_iff_ne_none, ne_eq,
    argmin_eq_none, filter_eq_nil_iff]
  simp [mem_iter, hthrottle, and_assoc]

lemma isSome_cancelledScope : (q.cancelledScope o).isSome =
    q.cancelledBatches.keys.any fun s => s ∉ q.inFlightScopes := by
  rw [Bool.eq_iff_iff, any_eq_true, cancelledScope, Option.isSome_map, find?_isSome]
  simp [mem_iter, AList.keys, keys]

/-- Both functions look for work on their own. -/
lemma isSome_flushNext : (q.flushNext now o).1.isSome = (q.hasFlushableWork now o).1 := by
  simp only [flushNext, hasFlushableWork, ← isSome_readyScope (o := o),
    ← isSome_cancelledScope (o := o)]
  cases (q.expireInFlight now o).readyScope now o with
  | some s => rfl
  | none => cases (q.expireInFlight now o).cancelledScope o <;> rfl

lemma undispatched_of_flushable (h : (q.hasFlushableWork now o).1) :
    (q.hasFlushableWork now o).2.hasUndispatchedWork := by
  simp only [hasFlushableWork, hasUndispatchedWork, Bool.or_eq_true, any_eq_true] at h ⊢
  rcases h with ⟨e, he, hready⟩ | ⟨s, hs, hflight⟩
  · rw [Bool.and_eq_true] at hready
    exact .inl (.inl ⟨e, he, hready.1⟩)
  · obtain ⟨e, he, rfl⟩ := mem_map.mp hs
    exact .inl (.inr ⟨e, he, hflight⟩)

end EventQueue

/-- **`has_flushable_work`** says whether `flush_next` has a batch, and asking does not change which one;
what can be flushed is undispatched work, or was in flight until its deadline had passed. -/
theorem flushable_iff (dedupMode : DedupMode) (maxTurnSecs : ℕ) (acts : List AcpAct) (now : ℕ)
    (o : HashOrders) :
    let q := (run dedupMode maxTurnSecs acts).queue
    ((q.hasFlushableWork now o).1 = true ↔ ∃ b, (q.flushNext now o).1 = some b) ∧
    (q.hasFlushableWork now o).2.flushNext now o = q.flushNext now o ∧
    ((q.hasFlushableWork now o).1 = true → (q.hasFlushableWork now o).2.hasUndispatchedWork = true) ∧
    ((q.hasFlushableWork now o).1 = true → (q.hasUndispatchedWork || q.hasInFlight) = true) := by
  intro q
  refine ⟨?_, ?_, undispatched_of_flushable, fun h => ?_⟩
  · rw [← isSome_flushNext, Option.isSome_iff_exists]
  · have hagain := expireInFlight_of_not (o := o) (isExpired_expireInFlight now o q)
    rw [flushNext, flushNext]
    simp only [hasFlushableWork, hagain]
  by_cases hflight : q.inFlightScopes = ∅
  · -- nothing is in flight, so nothing expires
    have hagree : q.Agree := by
      show (run dedupMode maxTurnSecs acts).queue.Agree
      rw [← Tracked.st_run]
      exact (Tracked.inv_run dedupMode maxTurnSecs acts).agree
    have hsame : q.expireInFlight now o = q := expireInFlight_of_not fun s => by
      have hnone : s ∉ q.inFlightDeadlines := by simp [hagree.deadlines, hflight]
      rw [isExpired, AList.lookup_eq_none.mpr hnone]
      rfl
    have hwork := undispatched_of_flushable h
    rw [hasFlushableWork, hsame] at hwork
    exact Bool.or_eq_true_iff.mpr (.inl hwork)
  · simp [hasInFlight, hflight]

/-- An event that came during a turn which nobody completed: its scope is in flight until the question
itself releases it. -/
theorem stuck_work_not_undispatched :
    let q := (run .queue 7200 [.push anyOrder (mention 1 0), .flushNext (secs 1) anyOrder,
      .push anyOrder (mention 2 2)]).queue
    (q.hasFlushableWork (secs 8000) anyOrder).1 = true ∧ q.hasUndispatchedWork = false := by
  decide +kernel

/-! ### Fairness -/

/-- The events of the queue are in the order in which they were received. -/
def InOrder {s : SessionScope} (es : List (ScopedEvent s)) : Prop :=
  es.Pairwise fun e e' => e.1.receivedAt ≤ e'.1.receivedAt

section Each

variable {P : ∀ s, List (ScopedEvent s) → Prop} {t : Queues} {xs : List (ScopedEvent s)}

lemma each_insert (hxs : P s xs) (h : ∀ s, P s (listAt t s)) (s' : SessionScope) :
    P s' (listAt (t.insert s xs) s') := by
  by_cases hs : s' = s
  · subst hs
    simpa [listAt] using hxs
  · simpa [listAt, AList.lookup_insert_ne hs] using h s'

lemma each_setList (hxs : P s xs) (h : ∀ s, P s (listAt t s)) (s' : SessionScope) :
    P s' (listAt (setList t s xs) s') := by
  cases xs with
  | cons x xs => exact each_insert hxs h s'
  | nil =>
    by_cases hs : s' = s
    · subst hs
      simpa [setList, listAt] using hxs
    · simpa [setList, listAt, AList.lookup_erase_ne hs] using h s'

end Each

lemma stable_inOrder : Stable fun t => ∀ s, InOrder (listAt t s) where
  shrink hxs h := each_setList (P := fun _ => InOrder) ((h _).sublist hxs) h
  drain {t channelId} h s := by
    rw [listAt, ofOthers, lookup_retain]
    cases hs : t.lookup s with
    | none => exact .nil
    | some es =>
      have hes : InOrder es := by simpa [listAt, hs] using h s
      rw [Option.filter_some]
      split_ifs
      · exact hes
      · exact .nil

/-- A queue stays in order if the events that come back to it are in order with those it has. -/
lemma fed_inOrder : Stable.Fed (fun t => ∀ s, InOrder (listAt t s))
    (fun _ es xs => InOrder (es ++ xs)) (fun e t => InOrder (listAt t e.scope ++ [⟨e, rfl⟩])) where
  toStable := stable_inOrder
  putFront o q s es h hes := by
    refine stable_inOrder.enforceChannelCap ?_ s.channelId
    exact each_insert (P := fun _ => InOrder) (hes.sublist (take_sublist _ _)) h
  push o q e h he := by
    unfold push
    split_ifs
    · exact h
    · refine stable_inOrder.enforceChannelCap ?_ e.scope.channelId
      exact each_insert (P := fun _ => InOrder) (he.sublist ((drop_sublist _ _).append_right _)) h

/-- The scope has queued events, is not in flight and not throttled. -/
def EventQueue.isEligible (now : ℕ) (q : EventQueue) (s : SessionScope) : Bool :=
  !(listAt q.queues s).isEmpty && s ∉ q.inFlightScopes && !q.isThrottled now s

lemma listAt_ne_nil (h : q.isEligible now s) : listAt q.queues s ≠ [] := by
  intro hnil
  simp [EventQueue.isEligible, hnil] at h

lemma readyScope_ne_none (hs : q.isEligible now s) : q.readyScope now o ≠ none := by
  intro hnone
  have hnil := argmin_eq_none.mp (Option.map_eq_none_iff.mp hnone)
  exact filter_eq_nil_iff.mp hnil _
    (mem_iter.mpr (mem_entries_iff.mpr ⟨mem_of_listAt_ne_nil (listAt_ne_nil hs), rfl⟩)) hs

lemma headReceivedAt_le (h : InOrder es)
    (he : e ∈ es) : headReceivedAt ⟨s, es⟩ ≤ e.1.receivedAt := by
  cases h with
  | nil => cases he
  | cons hfirst _ =>
    rcases mem_cons.mp he with rfl | he
    · exact le_rfl
    · exact hfirst _ he

/-- **Fairness.** In a run in which events come back in the order of their receipt, a flush takes a
scope with the event that was received first, of all events in the scopes that may be flushed. -/
theorem flushNext_fair (dedupMode : DedupMode) (maxTurnSecs : ℕ) (acts : List AcpAct) (now : ℕ)
    (o : HashOrders)
    (hok : AllSteps step (AcpState.Puts (fun _ es xs => InOrder (es ++ xs))
      fun e t => InOrder (listAt t e.scope ++ [⟨e, rfl⟩])) (.init dedupMode maxTurnSecs)
        (acts ++ [.flushNext now o])) :
    let q := (run dedupMode maxTurnSecs acts).queue
    let ready := q.expireInFlight now o
    (∃ s, ready.isEligible now s = true) → ∃ b, (q.flushNext now o).1 = some b ∧
      ready.isEligible now b.scope = true ∧ ∃ e ∈ listAt ready.queues b.scope,
        ∀ s, ready.isEligible now s = true → ∀ e' ∈ listAt ready.queues s,
          e.1.receivedAt ≤ e'.1.receivedAt := by
  rintro q ready ⟨s₀, hs₀⟩
  obtain ⟨hpast, hflush, -⟩ := allSteps_append.mp hok
  have horder : ∀ s, InOrder (listAt ready.queues s) := by
    refine fed_inOrder.expireInFlight ?_ hflush
    exact hpast.invariant (I := fun st : AcpState => ∀ s, InOrder (listAt st.queue.queues s))
      (fun _ _ h hact => fed_inOrder.step h hact) fun _ => .nil
  obtain ⟨s, hs⟩ := Option.ne_none_iff_exists'.mp (readyScope_ne_none (o := o) hs₀)
  obtain ⟨-, heligible, hmin⟩ := picked hs
  have hbatch : (q.flushNext now o).1 = some (ready.flushQueue now s).1 := by
    rw [flushNext]
    simp only [hs, ready]
  obtain ⟨e, es, hes⟩ := exists_cons_of_ne_nil (listAt_ne_nil heligible)
  refine ⟨_, hbatch, heligible, e, ?_, fun s' hs' e' he' => ?_⟩
  · show e ∈ listAt ready.queues s
    simp [hes]
  have hhead := hmin s' (mem_of_listAt_ne_nil (listAt_ne_nil hs')) hs'
  rw [hes] at hhead
  exact le_trans hhead (headReceivedAt_le (horder s') he')

/-- Two requests of a scope, the later one created first, and one of a thread received in between. -/
def lateRequest : QueuedEvent :=
  { mention 2 5 with event := { (mention 2 5).event with createdAt := 0 } }

def swappedByFlush : List AcpAct :=
  [.push anyOrder (mention 1 1), .push anyOrder { mention 3 3 with scope := sampleThread },
    .push anyOrder lateRequest, .flushNext (secs 6) anyOrder, .requeuePreserveTimestamps 0 anyOrder,
    .markComplete (secs 6) sampleScope]

/-- The older request waits behind the one created first, and the thread is flushed. -/
theorem swappedByFlush_unfair :
    let q := (run .queue 7200 swappedByFlush).queue
    (q.flushNext (secs 6) anyOrder).1.map FlushBatch.scope = some sampleThread ∧
      q.isEligible (secs 6) sampleScope = true ∧
      ∃ e ∈ listAt q.queues sampleScope, ∀ e' ∈ listAt q.queues sampleThread,
        e.1.receivedAt < e'.1.receivedAt := by
  decide

/-- Without the late request, what is put back is in order. -/
def putBack : List AcpAct := swappedByFlush.eraseIdx 2

theorem flushNext_fair_putBack : ∃ b,
    ((run .queue 7200 putBack).queue.flushNext (secs 6) anyOrder).1 = some b := by
  obtain ⟨b, hb, -⟩ := flushNext_fair .queue 7200 putBack (secs 6) anyOrder
    ⟨pairwise_singleton _ _, pairwise_singleton _ _, trivial, by
      rintro _ ⟨⟩
      exact pairwise_singleton _ _, trivial, trivial, trivial⟩ ⟨sampleScope, by decide⟩
  exact ⟨b, hb⟩

/-! ### Draining a channel -/

section Drain

variable {channelId : Uuid}

/-- The withheld and the cancelled events of the channel. -/
def EventQueue.setAside (q : EventQueue) (channelId : Uuid) : Multiset QueuedEvent :=
  tally queuedItems (ofChannel channelId q.withheldNativeSteer) +
    tally batchItems (ofChannel channelId q.cancelledBatches)

/-- What a drain is for: the channel has nothing left, the ids of what it had are returned, and nothing
else has changed. -/
structure Drained (q : EventQueue) (channelId : Uuid) (ids : List String) (q' : EventQueue) : Prop where
  ids : (ids : Multiset String) = (tally queuedItems (ofChannel channelId q.queues) +
    q.setAside channelId).map (·.event.id.toHex)
  left : ∀ s, s.channelId = channelId → s ∉ q'.queues ∧ s ∉ q'.withheldNativeSteer ∧
    s ∉ q'.cancelledBatches ∧ s ∉ q'.cancelReasons ∧ s ∉ q'.retryAfter ∧ s ∉ q'.retryCounts
  others : ∀ s, s.channelId ≠ channelId → q'.queues.lookup s = q.queues.lookup s ∧
    q'.withheldNativeSteer.lookup s = q.withheldNativeSteer.lookup s ∧
    q'.cancelledBatches.lookup s = q.cancelledBatches.lookup s ∧
    q'.cancelReasons.lookup s = q.cancelReasons.lookup s ∧
    q'.retryAfter.lookup s = q.retryAfter.lookup s ∧ q'.retryCounts.lookup s = q.retryCounts.lookup s
  inFlight : SameFlight q q'

lemma lookup_ofOthers {β : SessionScope → Type} (t : AList β) :
    (ofOthers channelId t).lookup s = if s.channelId = channelId then none else t.lookup s := by
  rw [ofOthers, lookup_retain]
  cases t.lookup s <;> by_cases hs : s.channelId = channelId <;> simp [hs]

lemma coe_drained_ids : (((q.drainChannel o channelId).1 : List String) : Multiset String) =
    (tally queuedItems (ofChannel channelId q.queues)).map (·.event.id.toHex) := by
  have hperm := (perm_insertionSort (fun e e' => o.queues e.1 ≤ o.queues e'.1)
    (ofChannel channelId q.queues).entries).flatMap_right
      fun e => e.2.map fun e => e.1.event.id.toHex
  refine (Multiset.coe_eq_coe.mpr hperm).trans ?_
  unfold tally
  induction (ofChannel channelId q.queues).entries with
  | nil => rfl
  | cons e l ih =>
    rw [flatMap_cons, ← Multiset.coe_add, ih, map_cons, sum_cons, Multiset.map_add]
    simp [queuedItems]

/-- **Draining** does what it is for exactly if the channel has neither withheld nor cancelled events:
theirs are discarded with the others, but not returned. -/
theorem drainChannel_iff (q : EventQueue) (o : HashOrders) (channelId : Uuid) :
    Drained q channelId (q.drainChannel o channelId).1 (q.drainChannel o channelId).2 ↔
      q.setAside channelId = 0 := by
  constructor
  · intro h
    have hids := coe_drained_ids.symm.trans h.ids
    rw [Multiset.map_add, left_eq_add, Multiset.map_eq_zero] at hids
    exact hids
  intro hnone
  refine ⟨?_, fun s hs => ?_, fun s hs => ?_, rfl, rfl, rfl⟩
  · rw [coe_drained_ids, hnone, add_zero]
  · simp [drainChannel, ← AList.lookup_eq_none, lookup_ofOthers, hs]
  · simp [drainChannel, lookup_ofOthers, hs]

/-- An event is withheld for a steer when its channel is drained. -/
theorem withheld_not_returned :
    let st := run .queue 7200 [.push anyOrder (mention 1 0),
      .markNativeSteerPending sampleScope (mention 1 0).event.id.toHex]
    st.queue.setAside ⟨0⟩ = {mention 1 0} ∧ (st.queue.drainChannel anyOrder ⟨0⟩).1 = [] ∧
      (st.queue.drainChannel anyOrder ⟨0⟩).2.withheldNativeSteer.entries = [] ∧
      ¬Drained st.queue ⟨0⟩ (st.queue.drainChannel anyOrder ⟨0⟩).1
        (st.queue.drainChannel anyOrder ⟨0⟩).2 := by
  refine ⟨by decide, by decide, by decide, fun h => ?_⟩
  exact absurd h.ids (by decide)

end Drain

end Buzz.Acp
