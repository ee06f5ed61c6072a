import Buzz.Acp.Queue

/-!
What the operations of the queue do to its events.

`EventQueue.held` is everything the queue has: queued, withheld and cancelled events, and those that
left for good.  Every operation changes it by what it is given and what it hands out, with one
exception: `requeue` takes a whole batch and puts back its `events` only.
-/

namespace Buzz.Acp

open Buzz.Core Lib Multiset

/-! ### Items of lists -/

section Items

variable {s : SessionScope} {es : List (ScopedEvent s)}

lemma queuedItems_nil : queuedItems s [] = 0 := rfl

lemma queuedItems_cons (e : ScopedEvent s) (es : List (ScopedEvent s)) :
    queuedItems s (e :: es) = e.1 ::ₘ queuedItems s es := rfl

lemma queuedItems_append (es es' : List (ScopedEvent s)) :
    queuedItems s (es ++ es') = queuedItems s es + queuedItems s es' := by
  simp [queuedItems]

lemma queuedItems_take_drop (n : ℕ) (es : List (ScopedEvent s)) :
    queuedItems s (es.take n) + queuedItems s (es.drop n) = queuedItems s es := by
  rw [← queuedItems_append, List.take_append_drop]

lemma queuedItems_perm (h : es.Perm es') : queuedItems s es = queuedItems s es' :=
  coe_eq_coe.mpr (h.map _)

lemma queuedItems_filter (p : ScopedEvent s → Bool) (es : List (ScopedEvent s)) :
    queuedItems s (es.filter fun e => !p e) + queuedItems s (es.filter p) = queuedItems s es := by
  rw [add_comm, ← queuedItems_append]
  exact queuedItems_perm (List.filter_append_perm p es)

lemma scope_of_mem_queuedItems (h : e ∈ queuedItems s es) : e.scope = s := by
  obtain ⟨e', -, rfl⟩ := List.mem_map.mp (mem_coe.mp h)
  exact e'.2

lemma queuedItems_eraseP (h : es.find? p = some e) :
    queuedItems s (es.eraseP p) + queuedItems s [e] = queuedItems s es := by
  induction es with
  | nil => cases h
  | cons e' es ih =>
    by_cases hp : p e'
    · have he : e' = e := by simpa [List.find?_cons, hp] using h
      subst he
      rw [List.eraseP_cons_of_pos hp, ← queuedItems_append]
      exact queuedItems_perm (List.perm_append_singleton e' es)
    · have hes : es.find? p = some e := by simpa [List.find?_cons, hp] using h
      rw [List.eraseP_cons_of_neg hp, queuedItems_cons, queuedItems_cons e' es, ← ih hes, cons_add]

lemma batchItems_nil : batchItems s [] = 0 := rfl

lemma batchItems_append (bes bes' : List BatchEvent) :
    batchItems s (bes ++ bes') = batchItems s bes + batchItems s bes' := by
  rw [batchItems, List.map_append, queuedItems_append]
  rfl

lemma batchItems_toBatchEvent (es : List (ScopedEvent s)) :
    batchItems s (es.map toBatchEvent) = queuedItems s es := by
  simp [batchItems, Function.comp_def]

lemma batchItems_perm (h : bes.Perm bes') : batchItems s bes = batchItems s bes' :=
  queuedItems_perm (h.map _)

end Items

def FlushBatch.items (b : FlushBatch) : Multiset QueuedEvent :=
  batchItems b.scope b.events + batchItems b.scope b.cancelledEvents

open FlushBatch

/-! ### What the queue holds -/

namespace EventQueue

def held (q : EventQueue) : Multiset QueuedEvent :=
  tally queuedItems q.queues + tally queuedItems q.withheldNativeSteer +
    tally batchItems q.cancelledBatches + q.gone.map Prod.snd

variable {q : EventQueue} {s : SessionScope} {o : HashOrders}

section Held

variable {now : ℕ}

lemma gone_discard (fate : Fate) (es : List (ScopedEvent s)) :
    ((q.discard fate (es.map Subtype.val)).gone).map Prod.snd =
      q.gone.map Prod.snd + queuedItems s es := by
  simp [discard, queuedItems, Function.comp_def]

lemma held_queues {queues : AList fun s : SessionScope => List (ScopedEvent s)}
    (h : tally queuedItems queues + queuedItems s out = tally queuedItems q.queues + into) :
    held (({ q with queues := queues }).discard fate (out.map Subtype.val)) = q.held + into := by
  have hgone := gone_discard (q := { q with queues := queues }) (s := s) fate out
  show tally queuedItems queues + tally queuedItems q.withheldNativeSteer +
    tally batchItems q.cancelledBatches + map Prod.snd _ = _
  rw [hgone]
  calc tally queuedItems queues + tally queuedItems q.withheldNativeSteer +
        tally batchItems q.cancelledBatches + (q.gone.map Prod.snd + queuedItems s out)
      = (tally queuedItems queues + queuedItems s out) + tally queuedItems q.withheldNativeSteer +
        tally batchItems q.cancelledBatches + q.gone.map Prod.snd := by abel
    _ = q.held + into := by rw [h, held]; abel

lemma tally_drop_add_take (n : ℕ) :
    tally queuedItems (setList q.queues s ((listAt q.queues s).drop n)) +
      queuedItems s ((listAt q.queues s).take n) = tally queuedItems q.queues := by
  refine tally_setList_list queuedItems_nil ?_
  rw [add_comm, queuedItems_take_drop]

lemma held_popFront : (q.popFront s).held = q.held :=
  (held_queues ((tally_drop_add_take 1).trans (add_zero _).symm)).trans (add_zero _)

lemma held_enforceChannelCap (channelId : Uuid) : (q.enforceChannelCap o channelId).held = q.held :=
  capLoop_rel (R := fun q q' => q'.held = q.held) (fun _ => rfl)
    (fun _ _ _ _ _ h => h.trans held_popFront) _ q

lemma held_putFront (es : List (ScopedEvent s)) :
    (q.putFront o s es).held = q.held + queuedItems s es := by
  rw [putFront, held_enforceChannelCap]
  refine held_queues (tally_insert_list queuedItems_nil ?_)
  rw [queuedItems_take_drop, queuedItems_append, add_comm]

lemma held_push (e : QueuedEvent) :
    (q.push o e).2.held = q.held + if (q.push o e).1 then {e} else 0 := by
  unfold push
  split_ifs with hdrop hacc hacc
  · cases hacc
  · rw [add_zero]
  · rw [held_enforceChannelCap]
    refine held_queues (tally_insert_list queuedItems_nil ?_)
    rw [queuedItems_append, add_right_comm, add_comm (queuedItems _ (List.drop _ _)),
      queuedItems_take_drop]
    rfl
  · exact absurd rfl hacc

lemma held_recoverWithheld : (q.recoverWithheldForExpiredScope o s).held = q.held := by
  unfold recoverWithheldForExpiredScope
  cases hents : q.withheldNativeSteer.lookup s with
  | none => rfl
  | some entries =>
    have herase := tally_erase queuedItems q.withheldNativeSteer s
    rw [tallyAt_of_lookup queuedItems _ _ hents] at herase
    simp only [held_putFront]
    unfold held
    rw [← herase]
    abel

lemma held_expireInFlight (now : ℕ) (q : EventQueue) : (q.expireInFlight now o).held = q.held := by
  unfold expireInFlight
  generalize ((iter o.deadlines q.inFlightDeadlines).filter _).map Sigma.fst = expired
  induction expired generalizing q with
  | nil => rfl
  | cons s expired ih =>
    rw [List.foldl_cons, ih, held_recoverWithheld]
    rfl

lemma held_takeCancelled :
    (q.takeCancelled s).held + batchItems s (listAt q.cancelledBatches s) = q.held := by
  have herase := tally_erase batchItems q.cancelledBatches s
  rw [tallyAt_eq_listAt q.cancelledBatches s batchItems batchItems_nil] at herase
  show tally queuedItems q.queues + tally queuedItems q.withheldNativeSteer +
    tally batchItems (q.cancelledBatches.erase s) + q.gone.map Prod.snd + _ = _
  rw [held, ← herase]
  abel

lemma held_takeFront (n : ℕ) :
    held { q with queues := setList q.queues s ((listAt q.queues s).drop n) } +
      queuedItems s ((listAt q.queues s).take n) = q.held := by
  rw [held, held, ← tally_drop_add_take (q := q) (s := s) n]
  abel

lemma held_flushQueue : (q.flushQueue now s).2.held + (q.flushQueue now s).1.items = q.held := by
  have hevents : batchItems s (q.flushQueue now s).1.events =
      queuedItems s ((listAt q.queues s).take maxBatchEvents) := by
    rw [← batchItems_toBatchEvent]
    exact batchItems_perm (List.perm_insertionSort _ _)
  have hfront := held_takeFront (q := q) (s := s) maxBatchEvents
  have hcanc := held_takeCancelled (s := s)
    (q := setInFlight now s (q.flushQueue now s).1.events.length
      { q with queues := setList q.queues s ((listAt q.queues s).drop maxBatchEvents) })
  rw [items, add_comm (batchItems _ _), ← add_assoc]
  refine (congrArg₂ (· + ·) hcanc hevents).trans ?_
  exact hfront

lemma held_flushCancelled :
    (q.flushCancelled now s).2.held + (q.flushCancelled now s).1.items = q.held := by
  have hcanc : (q.flushCancelled now s).1.items = batchItems s (listAt q.cancelledBatches s) := by
    simp [flushCancelled, items, batchItems_nil]
  rw [hcanc]
  exact held_takeCancelled (q := q.setInFlight now s _)

lemma held_flushNext :
    (q.flushNext now o).2.held + (q.flushNext now o).1.elim 0 items = q.held := by
  rw [← held_expireInFlight (o := o) now q]
  unfold flushNext
  cases hrdy : (q.expireInFlight now o).readyScope now o with
  | some s =>
    simp only [hrdy]
    exact held_flushQueue
  | none =>
    cases hcanc : (q.expireInFlight now o).cancelledScope o with
    | some s =>
      simp only [hrdy, hcanc]
      exact held_flushCancelled
    | none =>
      simp only [hrdy, hcanc]
      exact add_zero _

/-! ### Retries -/

lemma held_markComplete : (q.markComplete now s).held = q.held := by
  unfold markComplete
  split_ifs <;> rfl

lemma held_extendInFlightDeadline (maxTurnSecs : ℕ) :
    (q.extendInFlightDeadline now s maxTurnSecs).held = q.held := by
  unfold extendInFlightDeadline
  cases q.inFlightDeadlines.lookup s with
  | none => rfl
  | some current =>
    dsimp only
    split_ifs <;> rfl

def retryCount (q : EventQueue) (s : SessionScope) : ℕ := (q.retryCounts.lookup s).getD 0

variable {b : FlushBatch} {nanos : ℕ} (eventId : String)

lemma requeue_of_le (h : maxRetries ≤ q.retryCount b.scope) :
    q.requeue now nanos o b = (some b, { q with
      retryCounts := q.retryCounts.erase b.scope, retryAfter := q.retryAfter.erase b.scope }) :=
  if_pos (Nat.lt_succ_of_le h)

lemma requeue_of_lt (h : q.retryCount b.scope < maxRetries) :
    q.requeue now nanos o b = (none, EventQueue.putFront o b.scope
      (b.events.map (·.toQueued b.scope)) { q with
        retryCounts := q.retryCounts.insert b.scope (q.retryCount b.scope + 1)
        retryAfter := q.retryAfter.insert b.scope
          (now + retryDelay (q.retryCount b.scope + 1) nanos) }) :=
  if_neg (Nat.not_lt.mpr h)

lemma held_requeuePreserveTimestamps :
    (q.requeuePreserveTimestamps o b).held = q.held + b.items := by
  rw [requeuePreserveTimestamps, held_putFront]
  split_ifs with hempty
  · have hnil : b.cancelledEvents = [] := List.isEmpty_iff.mp hempty
    rw [items, hnil, batchItems_nil, add_zero]
    rfl
  have hcanc : batchItems b.scope (b.cancelledEvents ++ listAt q.cancelledBatches b.scope) =
      batchItems b.scope (listAt q.cancelledBatches b.scope) +
        batchItems b.scope b.cancelledEvents := by
    rw [batchItems_append, add_comm]
  unfold held
  rw [tally_insert_of_add (f := batchItems) batchItems_nil hcanc, items]
  abel

lemma held_requeueAsCancelled (reason : CancelReason) :
    (q.requeueAsCancelled b reason).held = q.held + b.items := by
  have hcanc : batchItems b.scope
      (listAt q.cancelledBatches b.scope ++ b.cancelledEvents ++ b.events) =
        batchItems b.scope (listAt q.cancelledBatches b.scope) + b.items := by
    rw [batchItems_append, batchItems_append, items, add_assoc,
      add_comm (batchItems b.scope b.events)]
  simp only [requeueAsCancelled, held]
  rw [tally_insert_of_add (f := batchItems) batchItems_nil hcanc]
  abel

/-! ### Steers and removal -/

lemma held_markNativeSteerPending : (q.markNativeSteerPending s eventId).2.held = q.held := by
  unfold markNativeSteerPending
  cases hfind : (listAt q.queues s).find? (hasId eventId) with
  | none => simp only [hfind]
  | some e =>
    have hq := tally_setList_list queuedItems_nil (queuedItems_eraseP hfind)
    simp only [hfind, held]
    rw [tally_insert_of_add queuedItems_nil (queuedItems_append ..), ← hq]
    abel

lemma held_releaseNativeSteer : (q.releaseNativeSteer o s eventId).held = q.held := by
  unfold releaseNativeSteer
  cases hfind : (listAt q.withheldNativeSteer s).find? (hasId eventId) with
  | none => simp only [hfind]
  | some e =>
    have hheld := tally_setList_list queuedItems_nil (queuedItems_eraseP hfind)
    simp only [hfind, held_putFront]
    rw [held, held, ← hheld]
    abel

lemma held_removeEvent : (q.removeEvent s eventId).held = q.held := by
  have hheld := tally_setList_list queuedItems_nil
    (queuedItems_filter (hasId eventId) (listAt q.withheldNativeSteer s))
  have hq := tally_setList_list queuedItems_nil
    (queuedItems_filter (hasId eventId) (listAt q.queues s))
  unfold removeEvent held
  rw [gone_discard, queuedItems_append, ← hheld, ← hq]
  simp only [discard]
  abel

lemma held_drainChannel (channelId : Uuid) : (q.drainChannel o channelId).2.held = q.held := by
  have hqueues := tally_retain queuedItems (fun s _ => decide (s.channelId = channelId)) q.queues
  have hheld := tally_retain queuedItems (fun s _ => decide (s.channelId = channelId))
    q.withheldNativeSteer
  have hcanc := tally_retain batchItems (fun s _ => decide (s.channelId = channelId))
    q.cancelledBatches
  unfold drainChannel held
  rw [← hqueues, ← hheld, ← hcanc]
  simp only [map_add, map_map, Function.comp_def, map_id', ofChannel, ofOthers]
  abel

end Held

/-! ### The cap of a channel -/

section Cap

lemma channelEventTotal_eq (q : EventQueue) (channelId : Uuid) : q.channelEventTotal channelId =
      (tally queuedItems q.queues).countP (·.scope.channelId = channelId) := by
  unfold channelEventTotal tally
  induction q.queues.entries with
  | nil => rfl
  | cons e l ih =>
    rw [List.map_cons, List.sum_cons, countP_add, ← ih]
    by_cases he : e.1.channelId = channelId
    · have hcnt : (queuedItems e.1 e.2).countP (·.scope.channelId = channelId) = e.2.length := by
        rw [countP_eq_card.mpr fun x hx => (scope_of_mem_queuedItems hx).symm ▸ he]
        simp [queuedItems]
      rw [hcnt]
      simp [he]
    have hcnt : (queuedItems e.1 e.2).countP (·.scope.channelId = channelId) = 0 :=
      countP_eq_zero.mpr fun x hx => (scope_of_mem_queuedItems hx).symm ▸ he
    rw [hcnt, zero_add]
    simp [he]

lemma mem_entries_iff {t : Queues} {xs : List (ScopedEvent s)} :
    ⟨s, xs⟩ ∈ t.entries ↔ s ∈ t ∧ listAt t s = xs := by
  rw [← AList.mem_lookup_iff, listAt, ← AList.lookup_isSome]
  cases t.lookup s <;> simp

/-- The scope with the oldest head event, among the queues that pass a test. -/
lemma picked {t : Queues} {rank : SessionScope → ℕ} {p : (Sigma fun s => List (ScopedEvent s)) → Bool}
    (h : (((iter rank t).filter p).argmin headReceivedAt).map Sigma.fst = some s) :
    s ∈ t ∧ p ⟨s, listAt t s⟩ ∧ ∀ s' ∈ t, p ⟨s', listAt t s'⟩ →
      headReceivedAt ⟨s, listAt t s⟩ ≤ headReceivedAt ⟨s', listAt t s'⟩ := by
  obtain ⟨⟨s, xs⟩, hargmin, rfl⟩ := Option.map_eq_some_iff.mp h
  obtain ⟨hent, hp⟩ := List.mem_filter.mp (List.argmin_mem hargmin)
  obtain ⟨hs, rfl⟩ := mem_entries_iff.mp (mem_iter.mp hent)
  refine ⟨hs, hp, fun s' hs' hp' => List.le_of_mem_argmin ?_ hargmin⟩
  exact List.mem_filter.mpr ⟨mem_iter.mpr (mem_entries_iff.mpr ⟨hs', rfl⟩), hp'⟩

lemma capVictim_none (h : q.capVictim o channelId = none) : q.channelEventTotal channelId = 0 := by
  have hnil := List.argmin_eq_none.mp (Option.map_eq_none_iff.mp h)
  refine List.sum_eq_zero fun n hn => ?_
  obtain ⟨e, he, rfl⟩ := List.mem_map.mp hn
  obtain ⟨hent, hchan⟩ := List.mem_filter.mp he
  have hempty := List.filter_eq_nil_iff.mp hnil e (mem_iter.mpr hent)
  simp only [hchan, Bool.true_and, Bool.not_eq_true', Bool.not_eq_false, List.isEmpty_iff] at hempty
  rw [hempty, List.length_nil]

lemma channelEventTotal_popFront (hs : s.channelId = channelId) (hne : listAt q.queues s ≠ []) :
    (q.popFront s).channelEventTotal channelId + 1 = q.channelEventTotal channelId := by
  have htally := tally_drop_add_take (q := q) (s := s) 1
  have hone : (queuedItems s ((listAt q.queues s).take 1)).countP
      (·.scope.channelId = channelId) = 1 := by
    obtain ⟨e, es, hes⟩ := List.exists_cons_of_ne_nil hne
    rw [countP_eq_card.mpr fun x hx => (scope_of_mem_queuedItems hx).symm ▸ hs, hes]
    rfl
  have hcnt := congrArg (countP (·.scope.channelId = channelId)) htally
  rw [countP_add, hone] at hcnt
  rw [channelEventTotal_eq, channelEventTotal_eq, ← hcnt]
  rfl

/-- A loop with as many rounds as the channel has events ends with the channel within its cap. -/
lemma channelEventTotal_capLoop (fuel : ℕ) (hfuel : q.channelEventTotal channelId ≤ fuel) :
    (capLoop o channelId fuel q).channelEventTotal channelId ≤ maxPendingPerChannel := by
  induction fuel generalizing q with
  | zero => exact hfuel.trans (Nat.zero_le _)
  | succ fuel ih =>
    rw [capLoop]
    split_ifs with hover
    · cases hvictim : q.capVictim o channelId with
      | none =>
        have hzero := capVictim_none hvictim
        omega
      | some s =>
        obtain ⟨hs, hne⟩ : s.channelId = channelId ∧ listAt q.queues s ≠ [] := by
          simpa using (picked hvictim).2.1
        have hless := channelEventTotal_popFront hs hne
        exact ih (q := q.popFront s) (by omega)
    · exact Nat.not_lt.mp hover

/-- **The cap holds.** When the loop ends, the channel has no more events than it may have. -/
theorem channelEventTotal_enforceChannelCap (q : EventQueue) :
    (q.enforceChannelCap o channelId).channelEventTotal channelId ≤ maxPendingPerChannel :=
  channelEventTotal_capLoop _ le_rfl

end Cap

end EventQueue

end Buzz.Acp
