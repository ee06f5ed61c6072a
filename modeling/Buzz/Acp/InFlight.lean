import Buzz.Acp.Conservation
import Buzz.Acp.Frame

/-!
Scopes in flight and the batches they were flushed with.

Three tables of the queue name the scopes in flight: a set, the deadlines and the sizes of the batches.
`Tracked` follows along a run which batches were handed out for a scope that was not marked complete
since, and which scopes were released because their deadline had passed.
-/

namespace Buzz.Acp

open Buzz.Core Lib List EventQueue AList

namespace EventQueue

/-! ### The three tables -/

/-- The three tables of the scopes in flight name the same scopes. -/
structure Agree (q : EventQueue) : Prop where
  deadlines : ∀ s, s ∈ q.inFlightDeadlines ↔ s ∈ q.inFlightScopes
  sizes : ∀ s, s ∈ q.inFlightBatchSizes ↔ s ∈ q.inFlightScopes

structure SameFlight (q q' : EventQueue) : Prop where
  scopes : q'.inFlightScopes = q.inFlightScopes
  deadlines : q'.inFlightDeadlines = q.inFlightDeadlines
  sizes : q'.inFlightBatchSizes = q.inFlightBatchSizes

variable {q q' : EventQueue} {s : SessionScope} {o : HashOrders} {now : ℕ}

lemma QueuesOnly.sameFlight (h : QueuesOnly q q') : SameFlight q q' :=
  ⟨h.inFlightScopes, h.inFlightDeadlines, h.inFlightBatchSizes⟩

lemma Agree.of_same (h : q.Agree) (hsame : SameFlight q q') : q'.Agree where
  deadlines s := by rw [hsame.deadlines, hsame.scopes]; exact h.deadlines s
  sizes s := by rw [hsame.sizes, hsame.scopes]; exact h.sizes s

lemma Agree.release (h : q.Agree) (s : SessionScope) : (q.release s).Agree where
  deadlines s' := by
    show s' ∈ q.inFlightDeadlines.erase s ↔ s' ∈ q.inFlightScopes.erase s
    rw [mem_erase, Finset.mem_erase, h.deadlines]
  sizes s' := by
    show s' ∈ q.inFlightBatchSizes.erase s ↔ s' ∈ q.inFlightScopes.erase s
    rw [mem_erase, Finset.mem_erase, h.sizes]

lemma Agree.setInFlight (h : q.Agree) (now : ℕ) (s : SessionScope) (size : ℕ) :
    (q.setInFlight now s size).Agree where
  deadlines s' := by
    show s' ∈ q.inFlightDeadlines.insert s _ ↔ s' ∈ insert s q.inFlightScopes
    rw [mem_insert, Finset.mem_insert, h.deadlines]
  sizes s' := by
    show s' ∈ q.inFlightBatchSizes.insert s _ ↔ s' ∈ insert s q.inFlightScopes
    rw [mem_insert, Finset.mem_insert, h.sizes]

lemma Agree.extendInFlightDeadline (h : q.Agree) (now : ℕ) (s : SessionScope) (maxTurnSecs : ℕ) :
    (q.extendInFlightDeadline now s maxTurnSecs).Agree := by
  simp only [EventQueue.extendInFlightDeadline]
  split
  · exact h
  next current hcur =>
  split_ifs
  · refine ⟨fun s' => ?_, h.sizes⟩
    have hs : s ∈ q.inFlightDeadlines := lookup_isSome.mp (by rw [hcur]; rfl)
    rw [mem_insert, ← h.deadlines]
    constructor
    · rintro (rfl | hs')
      · exact hs
      · exact hs'
    · exact Or.inr
  · exact h

lemma sameFlight_markComplete : SameFlight (q.release s) (q.markComplete now s) := by
  unfold markComplete
  split_ifs
  all_goals exact ⟨rfl, rfl, rfl⟩

lemma sameFlight_requeue (nanos : ℕ) (b : FlushBatch) :
    SameFlight q (q.requeue now nanos o b).2 := by
  by_cases hle : maxRetries ≤ q.retryCount b.scope
  · rw [requeue_of_le hle]
    exact ⟨rfl, rfl, rfl⟩
  rw [requeue_of_lt (Nat.not_le.mp hle)]
  have hput := (queuesOnly_putFront (o := o) (q := { q with
    retryCounts := q.retryCounts.insert b.scope (q.retryCount b.scope + 1)
    retryAfter := q.retryAfter.insert b.scope (now + retryDelay (q.retryCount b.scope + 1) nanos) })
    (b.events.map (·.toQueued b.scope))).sameFlight
  exact ⟨hput.scopes, hput.deadlines, hput.sizes⟩

lemma sameFlight_requeuePreserveTimestamps (b : FlushBatch) :
    SameFlight q (q.requeuePreserveTimestamps o b) := by
  simp only [requeuePreserveTimestamps]
  split_ifs
  · exact (queuesOnly_putFront _).sameFlight
  refine ⟨?_, ?_, ?_⟩
  · rw [(queuesOnly_putFront _).inFlightScopes]
  · rw [(queuesOnly_putFront _).inFlightDeadlines]
  · rw [(queuesOnly_putFront _).inFlightBatchSizes]

/-! ### Expiry and flushing -/

lemma Agree.releaseAll (h : q.Agree) (scopes : List SessionScope) :
    (releaseAll o scopes q).Agree := by
  induction scopes generalizing q with
  | nil => exact h
  | cons s scopes ih => exact ih ((h.release s).of_same queuesOnly_recoverWithheld.sameFlight)

lemma mem_inFlightScopes_releaseAll :
    s ∈ (releaseAll o scopes q).inFlightScopes ↔ s ∈ q.inFlightScopes ∧ s ∉ scopes := by
  induction scopes generalizing q with
  | nil => simp [releaseAll]
  | cons s' scopes ih =>
    have hnext : ((q.release s').recoverWithheldForExpiredScope o s').inFlightScopes =
        q.inFlightScopes.erase s' := queuesOnly_recoverWithheld.inFlightScopes
    refine ih.trans ?_
    rw [hnext, Finset.mem_erase, mem_cons]
    tauto

lemma Agree.expireInFlight (h : q.Agree) : (q.expireInFlight now o).Agree := by
  obtain ⟨scopes, hexp, -⟩ := exists_expired now o q
  rw [hexp]
  exact h.releaseAll scopes

lemma mem_inFlightScopes_expireInFlight : s ∈ (q.expireInFlight now o).inFlightScopes ↔
      s ∈ q.inFlightScopes ∧ q.isExpired now s = false := by
  obtain ⟨scopes, hexp, hscopes⟩ := exists_expired now o q
  rw [hexp, mem_inFlightScopes_releaseAll, hscopes, Bool.not_eq_true]

lemma notMem_of_readyScope (h : q.readyScope now o = some s) : s ∉ q.inFlightScopes := by
  have hrdy := (picked h).2.1
  simp only [Bool.and_eq_true, decide_eq_true_eq] at hrdy
  exact hrdy.1.2

lemma notMem_of_cancelledScope (h : q.cancelledScope o = some s) : s ∉ q.inFlightScopes := by
  obtain ⟨e, hfind, rfl⟩ := Option.map_eq_some_iff.mp h
  simpa using find?_some hfind

/-- **What a flush can do.** After expiry it hands out queued events of a scope that is not in flight,
or the cancelled events of one, or nothing. -/
lemma flushNext_cases (now : ℕ) (o : HashOrders) (q : EventQueue) :
    q.flushNext now o = (none, q.expireInFlight now o) ∨
    ∃ s ∉ (q.expireInFlight now o).inFlightScopes,
      q.flushNext now o = (some ((q.expireInFlight now o).flushQueue now s).1,
        ((q.expireInFlight now o).flushQueue now s).2) ∨
      q.flushNext now o = (some ((q.expireInFlight now o).flushCancelled now s).1,
        ((q.expireInFlight now o).flushCancelled now s).2) := by
  unfold flushNext
  cases hrdy : (q.expireInFlight now o).readyScope now o with
  | some s =>
    right
    refine ⟨s, notMem_of_readyScope hrdy, Or.inl ?_⟩
    simp only [hrdy]
  | none =>
    cases hcanc : (q.expireInFlight now o).cancelledScope o with
    | some s =>
      right
      refine ⟨s, notMem_of_cancelledScope hcanc, Or.inr ?_⟩
      simp only [hrdy, hcanc]
    | none =>
      left
      simp only [hrdy, hcanc]

lemma Agree.flushNext (h : q.Agree) (now : ℕ) (o : HashOrders) : (q.flushNext now o).2.Agree := by
  have hexp : (q.expireInFlight now o).Agree := h.expireInFlight
  rcases flushNext_cases now o q with hnone | ⟨s, -, hq | hcanc⟩
  · rw [hnone]
    exact hexp
  · rw [hq]
    exact (hexp.setInFlight now s _).of_same ⟨rfl, rfl, rfl⟩
  · rw [hcanc]
    exact (hexp.setInFlight now s _).of_same ⟨rfl, rfl, rfl⟩

lemma inFlightScopes_flushNext (now : ℕ) (o : HashOrders) (q : EventQueue) :
    (q.flushNext now o).2.inFlightScopes =
      (q.flushNext now o).1.elim (q.expireInFlight now o).inFlightScopes
        (fun b => insert b.scope (q.expireInFlight now o).inFlightScopes) ∧
    ∀ b, (q.flushNext now o).1 = some b → b.scope ∉ (q.expireInFlight now o).inFlightScopes := by
  rcases flushNext_cases now o q with hnone | ⟨s, hs, hq | hcanc⟩
  · rw [hnone]
    refine ⟨rfl, ?_⟩
    intro b hb
    cases hb
  · rw [hq]
    refine ⟨rfl, ?_⟩
    rintro b ⟨⟩
    exact hs
  rw [hcanc]
  refine ⟨rfl, ?_⟩
  rintro b ⟨⟩
  exact hs

/-! ### What a batch contains -/

lemma items_flushQueue :
    (q.flushQueue now s).1.items = queuedItems s ((listAt q.queues s).take maxBatchEvents) +
      batchItems s (listAt q.cancelledBatches s) := by
  have hevents : batchItems s (q.flushQueue now s).1.events =
      batchItems s (((listAt q.queues s).take maxBatchEvents).map toBatchEvent) :=
    batchItems_perm (perm_insertionSort _ _)
  rw [batchItems_toBatchEvent] at hevents
  exact congrArg (· + batchItems s (listAt q.cancelledBatches s)) hevents

lemma card_queuedItems (es : List (ScopedEvent s)) : (queuedItems s es).card = es.length := by
  simp [queuedItems]

/-- A flushed batch has events that were queued for its scope, not too many of them, and the cancelled
events of its scope. -/
lemma exists_fresh (now : ℕ) (o : HashOrders) (q : EventQueue)
    (hb : (q.flushNext now o).1 = some b) : ∃ fresh : Multiset QueuedEvent,
      b.items = fresh + batchItems b.scope (listAt q.cancelledBatches b.scope) ∧
      tally queuedItems (q.flushNext now o).2.queues + fresh =
        tally queuedItems (q.expireInFlight now o).queues ∧ fresh.card ≤ maxBatchEvents := by
  have hcarried : (q.expireInFlight now o).cancelledBatches = q.cancelledBatches :=
    releaseAll_eq cancelledBatches (fun _ _ => rfl) (fun _ _ h => h.map _ fun _ _ _ => rfl) _ q
  rcases flushNext_cases now o q with hnone | ⟨s, -, hq | hcanc⟩
  · rw [hnone] at hb
    cases hb
  · rw [hq] at hb ⊢
    cases hb
    refine ⟨queuedItems s ((listAt (q.expireInFlight now o).queues s).take maxBatchEvents),
      ?_, ?_, ?_⟩
    · rw [items_flushQueue, hcarried]
      rfl
    · exact tally_drop_add_take maxBatchEvents
    · rw [card_queuedItems, length_take]
      omega
  rw [hcanc] at hb ⊢
  cases hb
  refine ⟨0, ?_, ?_, ?_⟩
  · rw [zero_add, ← hcarried]
    exact add_zero _
  · exact add_zero _
  · exact Nat.zero_le _

end EventQueue

open EventQueue

lemma FlushBatch.scope_of_mem_items {b : FlushBatch} (h : e ∈ b.items) : e.scope = b.scope := by
  rw [FlushBatch.items, Multiset.mem_add] at h
  rcases h with h | h
  all_goals exact scope_of_mem_queuedItems h

namespace AcpState

/-- What a batch that the queue flushes contains: events that were pushed for its scope; besides the
cancelled events of the scope at most `MAX_BATCH_EVENTS`, taken from the queue; and none of the events
that are withheld, which are other ones among those pushed. -/
structure BatchSound (st : AcpState) (now : ℕ) (o : HashOrders) (b : FlushBatch) : Prop where
  pushed : ∀ e ∈ b.items, e ∈ st.accepted ∧ e.scope = b.scope
  fresh : ∃ fresh : Multiset QueuedEvent,
    b.items = fresh + batchItems b.scope (listAt st.queue.cancelledBatches b.scope) ∧
    tally queuedItems (st.queue.flushNext now o).2.queues + fresh =
      tally queuedItems (st.queue.expireInFlight now o).queues ∧
    fresh.card ≤ maxBatchEvents
  withheld : b.items + tally queuedItems (st.queue.flushNext now o).2.withheldNativeSteer ≤
    st.accepted
  ids : (st.accepted.map fun e => e.event.id).Nodup → ∀ e ∈ b.items,
    ∀ e' ∈ tally queuedItems (st.queue.flushNext now o).2.withheldNativeSteer,
      e.event.id ≠ e'.event.id

section Sound

variable {st : AcpState} {now : ℕ} {o : HashOrders} {b : FlushBatch}

lemma items_add_withheld_le (hst : st.accepted = st.places + m)
    (hb : (st.queue.flushNext now o).1 = some b) :
    b.items + tally queuedItems (st.queue.flushNext now o).2.withheldNativeSteer ≤ st.accepted := by
  have hheld : (st.queue.flushNext now o).2.held + b.items = st.queue.held := by
    have hflush : (st.queue.flushNext now o).2.held +
        (st.queue.flushNext now o).1.elim 0 FlushBatch.items = st.queue.held :=
      held_flushNext
    rw [hb] at hflush
    exact hflush
  have hwithheld : tally queuedItems (st.queue.flushNext now o).2.withheldNativeSteer ≤
      (st.queue.flushNext now o).2.held := by
    rw [held, add_comm (tally queuedItems _), add_assoc, add_assoc]
    exact Multiset.le_add_right _ _
  calc b.items + tally queuedItems (st.queue.flushNext now o).2.withheldNativeSteer
      ≤ b.items + (st.queue.flushNext now o).2.held := add_le_add_right hwithheld _
    _ = st.queue.held := by rw [add_comm, hheld]
    _ ≤ st.accepted := by
      rw [hst, places, add_assoc, add_assoc]
      exact Multiset.le_add_right _ _

theorem flushed_sound {m : Multiset QueuedEvent} (hst : st.accepted = st.places + m)
    (hb : (st.queue.flushNext now o).1 = some b) : st.BatchSound now o b := by
  have hle := items_add_withheld_le hst hb
  refine ⟨?_, exists_fresh now o st.queue hb, hle, ?_⟩
  · intro e he
    refine ⟨?_, FlushBatch.scope_of_mem_items he⟩
    exact Multiset.mem_of_le hle (Multiset.mem_add.mpr (Or.inl he))
  intro hnd e he e' he' hid
  have hmap := Multiset.map_le_map (f := fun e : QueuedEvent => e.event.id) hle
  rw [Multiset.map_add] at hmap
  have hdisjoint := (Multiset.nodup_add.mp (Multiset.nodup_of_le hmap hnd)).2.2
  refine Multiset.disjoint_left.mp hdisjoint (Multiset.mem_map_of_mem _ he) ?_
  rw [hid]
  exact Multiset.mem_map_of_mem _ he'

lemma sameFlight_handOver (h : ∀ b st', EventQueue.SameFlight st'.queue (f b st').queue) :
    EventQueue.SameFlight st.queue (st.handOver i f).queue := by
  unfold handOver
  cases st.outstanding[i]? with
  | none => exact ⟨rfl, rfl, rfl⟩
  | some b =>
    have hf := h b { st with outstanding := st.outstanding.eraseIdx i }
    exact ⟨hf.scopes, hf.deadlines, hf.sizes⟩

end Sound

end AcpState

open AcpState

/-! ### Following the batches -/

/-- A state; the batches handed out for a scope that was not marked complete since; and the scopes of
such batches that were released because their deadline had passed. -/
structure Tracked where
  st : AcpState
  pending : List FlushBatch
  expired : Finset SessionScope

namespace Tracked

def init (dedupMode : DedupMode) (maxTurnSecs : ℕ) : Tracked :=
  ⟨AcpState.init dedupMode maxTurnSecs, [], ∅⟩

def expiredScopes (now : ℕ) (q : EventQueue) : Finset SessionScope :=
  q.inFlightScopes.filter fun s => q.isExpired now s = true

def step (t : Tracked) (act : AcpAct) : Tracked :=
  match act with
  | .flushNext now o =>
    ⟨t.st.step act, t.pending ++ (t.st.queue.flushNext now o).1.toList,
      t.expired ∪ expiredScopes now t.st.queue⟩
  | .hasFlushableWork now _ =>
    ⟨t.st.step act, t.pending, t.expired ∪ expiredScopes now t.st.queue⟩
  | .markComplete _ s =>
    ⟨t.st.step act, t.pending.filter (·.scope ≠ s), t.expired.erase s⟩
  | _ => { t with st := t.st.step act }

def run (dedupMode : DedupMode) (maxTurnSecs : ℕ) (acts : List AcpAct) : Tracked :=
  acts.foldl step (init dedupMode maxTurnSecs)

def pendingOf (t : Tracked) (s : SessionScope) : List FlushBatch :=
  t.pending.filter (·.scope = s)

variable (dedupMode : DedupMode) (maxTurnSecs : ℕ)

lemma st_run (acts : List AcpAct) :
    (run dedupMode maxTurnSecs acts).st = AcpState.run dedupMode maxTurnSecs acts :=
  (foldl_hom Tracked.st fun t act => by cases act <;> rfl).symm

/-- The tables name the same scopes.  A scope with a batch that is not marked complete is in flight,
unless its deadline has passed, and then has no other such batch. -/
structure Inv (t : Tracked) : Prop where
  agree : t.st.queue.Agree
  inFlight : ∀ b ∈ t.pending, b.scope ∉ t.expired → b.scope ∈ t.st.queue.inFlightScopes
  single : ∀ s ∉ t.expired, (t.pendingOf s).length ≤ 1

section Steps

variable {t : Tracked} {st : AcpState} (h : t.Inv)

include h

lemma Inv.of_scopes (hagree : st.queue.Agree)
    (hscopes : st.queue.inFlightScopes = t.st.queue.inFlightScopes) : Inv { t with st := st } where
  agree := hagree
  inFlight b hb hexp := by
    rw [hscopes]
    exact h.inFlight b hb hexp
  single := h.single

lemma Inv.of_same (hsame : EventQueue.SameFlight t.st.queue st.queue) : Inv { t with st := st } :=
  h.of_scopes (h.agree.of_same hsame) hsame.scopes

lemma pendingOf_eq_nil (hexp : s ∉ t.expired)
    (hs : s ∉ t.st.queue.inFlightScopes) : t.pendingOf s = [] := by
  refine filter_eq_nil_iff.mpr ?_
  intro b hb hsc
  have hsc : b.scope = s := of_decide_eq_true hsc
  subst hsc
  exact hs (h.inFlight b hb hexp)

lemma Inv.expire (now : ℕ) (o : HashOrders) :
    Inv ⟨{ t.st with queue := t.st.queue.expireInFlight now o }, t.pending,
      t.expired ∪ expiredScopes now t.st.queue⟩ where
  agree := h.agree.expireInFlight
  inFlight b hb hexp := by
    rw [Finset.mem_union, not_or] at hexp
    have hflight := h.inFlight b hb hexp.1
    refine mem_inFlightScopes_expireInFlight.mpr ⟨hflight, ?_⟩
    refine Bool.eq_false_iff.mpr fun hpassed => ?_
    exact hexp.2 (Finset.mem_filter.mpr ⟨hflight, hpassed⟩)
  single s hs := h.single s fun hmem => hs (Finset.mem_union_left _ hmem)

lemma Inv.handOut (hagree : st.queue.Agree) (hnew : b.scope ∉ t.st.queue.inFlightScopes)
    (hscopes : st.queue.inFlightScopes = insert b.scope t.st.queue.inFlightScopes) :
    Inv ⟨st, t.pending ++ [b], t.expired⟩ where
  agree := hagree
  inFlight b' hb' hexp := by
    rw [hscopes, Finset.mem_insert]
    rcases mem_append.mp hb' with hold | hlast
    · exact Or.inr (h.inFlight b' hold hexp)
    · rw [mem_singleton.mp hlast]
      exact Or.inl rfl
  single s hs := by
    have hsplit : pendingOf ⟨st, t.pending ++ [b], t.expired⟩ s =
        t.pendingOf s ++ [b].filter (·.scope = s) := filter_append ..
    have hlast := length_filter_le (fun b : FlushBatch => decide (b.scope = s)) [b]
    rw [hsplit, length_append]
    by_cases hsc : b.scope = s
    · subst hsc
      rw [pendingOf_eq_nil h hs hnew, length_nil, Nat.zero_add]
      exact hlast
    have hnone : [b].filter (·.scope = s) = [] := filter_singleton.trans (by simp [hsc])
    rw [hnone]
    exact h.single s hs

lemma Inv.flushNext (now : ℕ) (o : HashOrders) : (t.step (.flushNext now o)).Inv := by
  obtain ⟨hscopes, hnew⟩ := inFlightScopes_flushNext now o t.st.queue
  have hagree := h.agree.flushNext now o
  have hexp := h.expire now o
  show Inv ⟨t.st.step (.flushNext now o), t.pending ++ (t.st.queue.flushNext now o).1.toList, _⟩
  cases hb : (t.st.queue.flushNext now o).1 with
  | none =>
    rw [hb] at hscopes
    rw [Option.toList_none, append_nil]
    refine hexp.of_scopes ?_ ?_
    · exact hagree
    · exact hscopes
  | some b =>
    rw [hb] at hscopes
    refine hexp.handOut ?_ (hnew b hb) ?_
    · exact hagree
    · exact hscopes

lemma Inv.markComplete (now : ℕ) (s : SessionScope) : (t.step (.markComplete now s)).Inv where
  agree := (h.agree.release s).of_same sameFlight_markComplete
  inFlight b hb hexp := by
    obtain ⟨hmem, hne⟩ := mem_filter.mp hb
    have hne : b.scope ≠ s := of_decide_eq_true hne
    have hscopes : (t.st.queue.markComplete now s).inFlightScopes =
        t.st.queue.inFlightScopes.erase s := sameFlight_markComplete.scopes
    show b.scope ∈ (t.st.queue.markComplete now s).inFlightScopes
    rw [hscopes]
    refine Finset.mem_erase.mpr ⟨hne, h.inFlight b hmem fun hold => ?_⟩
    exact hexp (Finset.mem_erase.mpr ⟨hne, hold⟩)
  single s' hs' := by
    have hpend : (t.step (.markComplete now s)).pendingOf s' =
        (t.pendingOf s').filter (·.scope ≠ s) := filter_comm ..
    rw [hpend]
    by_cases hs : s' = s
    · -- all batches of the scope are marked complete
      have hnone : (t.pendingOf s').filter (·.scope ≠ s) = [] := by
        refine filter_eq_nil_iff.mpr ?_
        intro b hb hne
        have hsc : b.scope = s' := of_decide_eq_true (mem_filter.mp hb).2
        exact of_decide_eq_true hne (hsc.trans hs)
      rw [hnone]
      exact Nat.zero_le 1
    · refine (length_filter_le _ _).trans (h.single s' fun hold => ?_)
      exact hs' (Finset.mem_erase.mpr ⟨hs, hold⟩)

/-- **One step** keeps the tables together and the batches apart. -/
theorem Inv.step (act : AcpAct) : (t.step act).Inv := by
  cases act with
  | push o e => exact h.of_same (queuesOnly_push e).sameFlight
  | flushNext now o => exact h.flushNext now o
  | hasFlushableWork now o => exact h.expire now o
  | requeue i now nanos o =>
    refine h.of_same (sameFlight_handOver fun b st => ?_)
    rw [queue_requeue]
    exact sameFlight_requeue nanos b
  | requeuePreserveTimestamps i o =>
    exact h.of_same (sameFlight_handOver fun b st =>
      sameFlight_requeuePreserveTimestamps b)
  | requeueAsCancelled i reason | complete i =>
    exact h.of_same (sameFlight_handOver fun b st => ⟨rfl, rfl, rfl⟩)
  | markComplete now s => exact h.markComplete now s
  | extendInFlightDeadline now s maxTurnSecs =>
    refine h.of_scopes (h.agree.extendInFlightDeadline now s maxTurnSecs) ?_
    simp only [AcpState.step, extendInFlightDeadline]
    split
    · rfl
    · split_ifs <;> rfl
  | compactExpiredState now | drainChannel o channelId | removeEvent s eventId =>
    exact h.of_same ⟨rfl, rfl, rfl⟩
  | markNativeSteerPending s eventId =>
    exact h.of_same (queuesOnly_markNativeSteerPending eventId).sameFlight
  | releaseNativeSteer o s eventId =>
    exact h.of_same (queuesOnly_releaseNativeSteer eventId).sameFlight
  | recoverWithheldForExpiredScope o s =>
    exact h.of_same queuesOnly_recoverWithheld.sameFlight

end Steps

/-! ### Runs -/

lemma inv_init : (init dedupMode maxTurnSecs).Inv where
  agree := ⟨fun _ => by simp [init, AcpState.init, new, withInFlightDeadline],
    fun _ => by simp [init, AcpState.init, new, withInFlightDeadline]⟩
  inFlight b hb := absurd hb not_mem_nil
  single _ _ := Nat.zero_le 1

lemma inv_run (acts : List AcpAct) : (run dedupMode maxTurnSecs acts).Inv := by
  have hrun : ∀ (acts : List AcpAct) (t : Tracked), t.Inv → (acts.foldl Tracked.step t).Inv := by
    intro acts
    induction acts with
    | nil => exact fun _ h => h
    | cons act acts ih => exact fun t h => ih _ (h.step act)
  exact hrun acts _ (inv_init dedupMode maxTurnSecs)

/-- The three tables have the same keys; a scope whose deadline has not passed has one batch at most
that is not marked complete; and whatever batch a flush may hand out now is a sound one. -/
structure Sound (t : Tracked) : Prop where
  deadlines : t.st.queue.inFlightDeadlines.keys.toFinset = t.st.queue.inFlightScopes
  sizes : t.st.queue.inFlightBatchSizes.keys.toFinset = t.st.queue.inFlightScopes
  single : ∀ s ∉ t.expired, (t.pendingOf s).length ≤ 1
  flushed : ∀ now o b, (t.st.queue.flushNext now o).1 = some b → t.st.BatchSound now o b

/-- In every run the tables of the scopes in flight agree, no scope has two batches unless its deadline
has passed, and the batches have only events of their scope, not too many and none that is withheld;
of an event that was pushed twice, one copy may be. -/
theorem inFlight_run (dedupMode : DedupMode) (maxTurnSecs : ℕ) (acts : List AcpAct) :
    (run dedupMode maxTurnSecs acts).st = AcpState.run dedupMode maxTurnSecs acts ∧
      (run dedupMode maxTurnSecs acts).Sound := by
  have hst := st_run dedupMode maxTurnSecs acts
  have hinv := inv_run dedupMode maxTurnSecs acts
  refine ⟨hst, ⟨?_, ?_, hinv.single, ?_⟩⟩
  · ext s
    rw [mem_toFinset, ← AList.mem_keys]
    exact hinv.agree.deadlines s
  · ext s
    rw [mem_toFinset, ← AList.mem_keys]
    exact hinv.agree.sizes s
  intro now o b hb
  have hinit : (AcpState.init dedupMode maxTurnSecs).accepted =
      (AcpState.init dedupMode maxTurnSecs).places + 0 := rfl
  have haccount := account_run acts hinit
  rw [hst] at hb ⊢
  exact flushed_sound haccount hb

/-- One event pushed twice: `mark_native_steer_pending` withholds the first copy only, and a flush hands
out the other one. -/
theorem second_copy_flushed :
    let q := (AcpState.run .queue 7200 [.push anyOrder (mention 1 0), .push anyOrder (mention 1 0),
      .markNativeSteerPending sampleScope (mention 1 0).event.id.toHex]).queue
    ((q.flushNext (secs 1) anyOrder).1.map fun b => b.events.map (·.event)) =
        some [(mention 1 0).event] ∧
      (listAt (q.flushNext (secs 1) anyOrder).2.withheldNativeSteer sampleScope).map (·.1.event) =
        [(mention 1 0).event] := by
  decide +kernel

end Tracked

end Buzz.Acp
