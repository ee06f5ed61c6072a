import Buzz.Acp.InFlight

/-!
The caps of the event queue.

Events come back to the queues by `push`, `requeue`, `requeue_preserve_timestamps`,
`release_native_steer` and expiry.  All that the other operations do to the queues is to shorten them,
so that a property that survives this (`Stable`) has to be looked at only where events come back
(`Stable.Fed.step`).  Both caps are such a property.
-/

namespace Buzz.Acp

open Buzz.Core Lib EventQueue List Multiset

/-! ### Properties of the queues -/

/-- A condition on events that are put in front of a queue. -/
abbrev FrontRule := ∀ s, List (ScopedEvent s) → List (ScopedEvent s) → Prop

/-- A property of the queues that survives the loss of events. -/
structure Stable (I : Queues → Prop) : Prop where
  shrink : ∀ {t : Queues} {s : SessionScope} {xs : List (ScopedEvent s)},
    xs.Sublist (listAt t s) → I t → I (setList t s xs)
  drain : ∀ {t : Queues} {channelId : Uuid}, I t → I (ofOthers channelId t)

/-- A property that also survives events that come back: a new one, where `last` holds, and those put
in front of a queue, where `front` does. -/
structure Stable.Fed (I : Queues → Prop) (front : FrontRule) (last : QueuedEvent → Queues → Prop) :
    Prop extends Stable I where
  putFront : ∀ (o : HashOrders) {q : EventQueue} {s : SessionScope} {es : List (ScopedEvent s)},
    I q.queues → front s es (listAt q.queues s) → I (q.putFront o s es).queues
  push : ∀ (o : HashOrders) {q : EventQueue} {e : QueuedEvent},
    I q.queues → last e q.queues → I (q.push o e).2.queues

variable (front : FrontRule)

/-- The withheld events of the scope may come back. -/
def EventQueue.RecoverOk (q : EventQueue) (s : SessionScope) : Prop :=
  ∀ es ∈ q.withheldNativeSteer.lookup s, front s es (listAt q.queues s)

/-- So may those of every scope that expires, when its turn comes. -/
def EventQueue.ExpireOk (now : ℕ) (o : HashOrders) (q : EventQueue) : Prop :=
  AllSteps (fun q s => (q.release s).recoverWithheldForExpiredScope o s) (RecoverOk front) q
    (((iter o.deadlines q.inFlightDeadlines).filter fun e => now ≥ e.2).map Sigma.fst)

/-- The events that a step brings back meet the conditions. -/
def AcpState.Puts (last : QueuedEvent → Queues → Prop) (st : AcpState) : AcpAct → Prop
  | .push _ e => last e st.queue.queues
  | .flushNext now o | .hasFlushableWork now o => st.queue.ExpireOk front now o
  | .requeue i _ _ _ | .requeuePreserveTimestamps i _ => ∀ b ∈ st.outstanding[i]?,
      front b.scope (b.events.map (·.toQueued b.scope)) (listAt st.queue.queues b.scope)
  | .releaseNativeSteer _ s eventId =>
    ∀ e ∈ (listAt st.queue.withheldNativeSteer s).find? (hasId eventId),
      front s [e] (listAt st.queue.queues s)
  | .recoverWithheldForExpiredScope _ s => st.queue.RecoverOk front s
  | _ => True

section Stable

variable {I : Queues → Prop} {front : FrontRule} {last : QueuedEvent → Queues → Prop}
  {q : EventQueue} {s : SessionScope} {o : HashOrders} {now : ℕ}

lemma Stable.enforceChannelCap (hI : Stable I) (h : I q.queues) (channelId : Uuid) :
    I (q.enforceChannelCap o channelId).queues :=
  capLoop_rel (R := fun q q' => I q.queues → I q'.queues) (fun _ h => h)
    (fun _ _ _ _ _ ih h => ih (hI.shrink (drop_sublist 1 _) h)) _ q h

lemma Stable.Fed.recover (hI : Stable.Fed I front last) (h : I q.queues) (hes : q.RecoverOk front s) :
    I (q.recoverWithheldForExpiredScope o s).queues := by
  unfold recoverWithheldForExpiredScope
  cases hents : q.withheldNativeSteer.lookup s with
  | none => exact h
  | some entries => exact hI.putFront o h (hes entries hents)

lemma Stable.Fed.expireInFlight (hI : Stable.Fed I front last) (h : I q.queues)
    (hok : q.ExpireOk front now o) : I (q.expireInFlight now o).queues :=
  AllSteps.invariant (I := fun q : EventQueue => I q.queues)
    (fun q s h hs => hI.recover (q := q.release s) h hs) hok h

lemma queues_handOver {st : AcpState} (h : I st.queue.queues)
    (hf : ∀ b ∈ st.outstanding[i]?, ∀ st', st'.queue = st.queue → I (f b st').queue.queues) :
    I (st.handOver i f).queue.queues := by
  unfold AcpState.handOver
  cases hb : st.outstanding[i]? with
  | none => exact h
  | some b => exact hf b hb _ rfl

/-- **One step** keeps the property if the events it brings back meet the conditions. -/
theorem Stable.Fed.step (hI : Stable.Fed I front last) {st : AcpState}
    (h : I st.queue.queues) (hok : st.Puts front last act) : I (st.step act).queue.queues := by
  cases act with
  | push o e => exact hI.push o h hok
  | flushNext now o =>
    have hexp := hI.expireInFlight h hok
    show I (st.queue.flushNext now o).2.queues
    rcases flushNext_cases now o st.queue with hnone | ⟨s, -, hq | hcanc⟩
    · rwa [hnone]
    · rw [hq]
      exact hI.shrink (drop_sublist _ _) hexp
    · rwa [hcanc]
  | hasFlushableWork now o => exact hI.expireInFlight h hok
  | requeue i now nanos o =>
    refine queues_handOver h fun b hb st' hst => ?_
    rw [AcpState.queue_requeue, hst]
    by_cases hle : maxRetries ≤ st.queue.retryCount b.scope
    · rwa [requeue_of_le hle]
    · rw [requeue_of_lt (Nat.not_le.mp hle)]
      exact hI.putFront o h (hok b hb)
  | requeuePreserveTimestamps i o =>
    refine queues_handOver h fun b hb st' hst => ?_
    rw [hst, requeuePreserveTimestamps]
    refine hI.putFront o ?_ ?_ <;> split_ifs
    · exact h
    · exact h
    · exact hok b hb
    · exact hok b hb
  | requeueAsCancelled i reason | complete i => exact queues_handOver h fun b hb st' hst => hst ▸ h
  | markComplete now s =>
    show I (st.queue.markComplete now s).queues
    unfold markComplete
    split_ifs <;> exact h
  | extendInFlightDeadline now s maxTurnSecs =>
    have hqueues : (st.queue.extendInFlightDeadline now s maxTurnSecs).queues = st.queue.queues := by
      simp only [extendInFlightDeadline]
      repeat' split
      all_goals rfl
    exact hqueues ▸ h
  | compactExpiredState now => exact h
  | markNativeSteerPending s eventId =>
    show I (st.queue.markNativeSteerPending s eventId).2.queues
    simp only [markNativeSteerPending]
    split
    · exact h
    · exact hI.shrink eraseP_sublist h
  | releaseNativeSteer o s eventId =>
    show I (st.queue.releaseNativeSteer o s eventId).queues
    unfold releaseNativeSteer
    cases he : (listAt st.queue.withheldNativeSteer s).find? (hasId eventId) with
    | none => simpa only [he] using h
    | some e =>
      simp only [he]
      exact hI.putFront o h (hok e he)
  | removeEvent s eventId => exact hI.shrink filter_sublist h
  | recoverWithheldForExpiredScope o s => exact hI.recover h hok
  | drainChannel o channelId => exact hI.drain h

end Stable

/-! ### The caps -/

def Capped (t : Queues) : Prop :=
  ∀ channelId, (tally queuedItems t).countP (·.scope.channelId = channelId) ≤ maxPendingPerChannel

section Caps

variable {q p : EventQueue} {s : SessionScope} {o : HashOrders} (channelId : Uuid)

lemma Capped.of_le (h : Capped t) (hle : tally queuedItems t' ≤ tally queuedItems t) : Capped t' :=
  fun channelId => (countP_le_of_le _ hle).trans (h channelId)

lemma tally_insert_le (h : xs.Subperm (es ++ listAt t s)) :
    tally queuedItems (t.insert s xs) ≤ tally queuedItems t + queuedItems s es := by
  have hitems : queuedItems s xs ≤ queuedItems s (listAt t s) + queuedItems s es := by
    rw [add_comm, ← queuedItems_append]
    exact map_le_map (coe_le.mpr h)
  obtain ⟨out, hout⟩ := Multiset.le_iff_exists_add.mp hitems
  exact Multiset.le_iff_exists_add.mpr ⟨out, (tally_insert_list queuedItems_nil hout.symm).symm⟩

lemma tally_setList_le (h : xs.Sublist (listAt t s)) :
    tally queuedItems (setList t s xs) ≤ tally queuedItems t := by
  unfold setList
  split_ifs
  · exact Multiset.le_iff_exists_add.mpr ⟨_, (tally_erase queuedItems t s).symm⟩
  · have hins := tally_insert_le (show xs.Subperm ([] ++ listAt t s) from h.subperm)
    rwa [queuedItems_nil, add_zero] at hins

lemma tally_enforceChannelCap_le :
    tally queuedItems (q.enforceChannelCap o channelId).queues ≤ tally queuedItems q.queues :=
  capLoop_rel (R := fun q q' => tally queuedItems q'.queues ≤ tally queuedItems q.queues)
    (fun _ => le_rfl) (fun _ _ _ _ _ h => h.trans (tally_setList_le (drop_sublist 1 _))) _ q

lemma stable_capped : Stable Capped where
  shrink hxs h := h.of_le (tally_setList_le hxs)
  drain h := h.of_le (Multiset.le_iff_exists_add.mpr ⟨_, (add_comm _ _).trans (tally_retain ..) |>.symm⟩)

/-- What is added for one scope leaves the other channels alone, and the cap of its own is enforced. -/
lemma Capped.enforceChannelCap (h : Capped q.queues) (es : List (ScopedEvent s))
    (hle : tally queuedItems p.queues ≤ tally queuedItems q.queues + queuedItems s es) :
    Capped (p.enforceChannelCap o s.channelId).queues := by
  intro channelId
  by_cases hs : s.channelId = channelId
  · subst hs
    rw [← channelEventTotal_eq]
    exact channelEventTotal_enforceChannelCap p
  have hnone : (queuedItems s es).countP (·.scope.channelId = channelId) = 0 :=
    countP_eq_zero.mpr fun e he => (scope_of_mem_queuedItems he).symm ▸ hs
  have hadded := countP_le_of_le (·.scope.channelId = channelId) hle
  have hevicted := countP_le_of_le (·.scope.channelId = channelId)
    (tally_enforceChannelCap_le (o := o) (q := p) s.channelId)
  rw [countP_add, hnone, add_zero] at hadded
  exact (hevicted.trans hadded).trans (h channelId)

/-- Both caps are enforced wherever events come back. -/
lemma fed_capped : Stable.Fed Capped (fun _ _ _ => True) (fun _ _ => True) where
  toStable := stable_capped
  putFront o q s es h _ := by
    exact h.enforceChannelCap es (tally_insert_le (take_sublist _ _).subperm)
  push o q e h _ := by
    unfold push
    split_ifs
    · exact h
    · refine h.enforceChannelCap [⟨e, rfl⟩] (tally_insert_le ?_)
      exact ((drop_sublist _ _).append_right _).subperm.trans perm_append_comm.subperm

/-- **The caps.** After every operation, whatever batches are put back, no channel and no scope has more
events than it may have; and the eviction loop ends, after one round for each event at most. -/
theorem caps_hold (dedupMode : DedupMode) (maxTurnSecs : ℕ) (batches : List FlushBatch)
    (acts : List AcpAct) :
    let q := (acts.foldl AcpState.step
      { AcpState.init dedupMode maxTurnSecs with outstanding := batches }).queue
    (∀ channelId, q.channelEventTotal channelId ≤ maxPendingPerChannel) ∧
    (∀ s, (listAt q.queues s).length ≤ maxPendingPerScope) ∧
    ∀ o channelId fuel (q : EventQueue), q.channelEventTotal channelId ≤ fuel →
      (capLoop o channelId fuel q).channelEventTotal channelId ≤ maxPendingPerChannel := by
  intro q
  have hcapped : Capped q.queues := by
    refine AllSteps.invariant (I := fun st : AcpState => Capped st.queue.queues)
      (fun _ _ h hok => fed_capped.step h hok) (allSteps_of_forall (fun st act => ?_) _ acts) ?_
    · cases act with
      | flushNext | hasFlushableWork => exact allSteps_of_forall (fun _ _ _ _ => trivial) _ _
      | _ => simp [AcpState.Puts, EventQueue.RecoverOk]
    · exact fun _ => Nat.zero_le _
  refine ⟨fun channelId => ?_, fun s => ?_, fun o channelId fuel q => channelEventTotal_capLoop fuel⟩
  · rw [channelEventTotal_eq]
    exact hcapped channelId
  -- the events of the scope are among those of its channel, and the two limits are the same
  have hitems : queuedItems s (listAt q.queues s) ≤ tally queuedItems q.queues := by
    rw [← tally_erase queuedItems q.queues s, tallyAt_eq_listAt _ _ _ queuedItems_nil]
    exact le_add_left _ _
  have hcount := (countP_le_of_le _ hitems).trans (hcapped s.channelId)
  rwa [countP_eq_card.mpr fun e he => (scope_of_mem_queuedItems he).symm ▸ rfl,
    card_queuedItems] at hcount

/-! ### Batches that come back -/

/-- One eviction: a channel beyond its cap loses the head event of one of its queues, the oldest of
their head events. -/
def Evicts (q q' : EventQueue) : Prop :=
  maxPendingPerChannel < q.channelEventTotal channelId ∧ ∃ s, s.channelId = channelId ∧
    listAt q.queues s ≠ [] ∧ q' = q.popFront s ∧ ∀ s', s'.channelId = channelId →
      listAt q.queues s' ≠ [] →
        headReceivedAt ⟨s, listAt q.queues s⟩ ≤ headReceivedAt ⟨s', listAt q.queues s'⟩

lemma mem_of_listAt_ne_nil (h : listAt t s ≠ []) : s ∈ t := by
  by_contra hnot
  exact h (by rw [listAt, AList.lookup_eq_none.mpr hnot]; rfl)

lemma evicts_enforceChannelCap :
    Relation.ReflTransGen (Evicts channelId) q (q.enforceChannelCap o channelId) := by
  refine capLoop_rel (fun _ => .refl) (fun q q' s hover hvictim h => .head ?_ h) _ q
  obtain ⟨-, hs, hmin⟩ := picked hvictim
  simp only [Bool.and_eq_true, decide_eq_true_eq, Bool.not_eq_true', isEmpty_eq_false_iff] at hs hmin
  exact ⟨hover, s, hs.1, hs.2, rfl, fun s' hs' hne => hmin s' (mem_of_listAt_ne_nil hne) ⟨hs', hne⟩⟩

lemma enforceChannelCap_of_le {channelId : Uuid}
    (h : q.channelEventTotal channelId ≤ maxPendingPerChannel) :
    q.enforceChannelCap o channelId = q := by
  unfold enforceChannelCap
  cases q.channelEventTotal channelId with
  | zero => rfl
  | succ fuel => rw [capLoop, if_neg (Nat.not_lt.mpr h)]

/-- `p` is the queue with the events put back, before the cap of the channel is enforced. -/
structure PutBack (q : EventQueue) (s : SessionScope) (es : List (ScopedEvent s)) (p q' : EventQueue) :
    Prop where
  own : listAt p.queues s = es ++ (listAt q.queues s).take (maxPendingPerScope - es.length)
  others : ∀ s' ≠ s, listAt p.queues s' = listAt q.queues s'
  room : p.channelEventTotal s.channelId ≤ maxPendingPerChannel → q' = p
  evicted : Relation.ReflTransGen (Evicts s.channelId) p q'
  capped : q'.channelEventTotal s.channelId ≤ maxPendingPerChannel

lemma putBack_putFront (hsize : es.length ≤ maxBatchEvents)
    (hqueues : p.queues = q.queues) : ∃ p', PutBack q s es p' (p.putFront o s es) := by
  refine ⟨_, ?_, fun s' hs' => ?_, fun hroom => ?_, evicts_enforceChannelCap s.channelId,
    channelEventTotal_enforceChannelCap _⟩
  · have hall : es.take maxPendingPerScope = es := take_of_length_le (hsize.trans (by decide))
    simp [listAt, EventQueue.discard, take_append, hall, hqueues]
  · simp [listAt, EventQueue.discard, AList.lookup_insert_ne hs', hqueues]
  · exact enforceChannelCap_of_le hroom

/-- **What becomes of a batch that is put back.** Its own queue makes room for it at the back.  If the
channel is then beyond its cap, the oldest head events of the channel go, whosoever they are. -/
theorem putBack_kept (q q' : EventQueue) (b : FlushBatch) (o : HashOrders) (now nanos : ℕ)
    (hsize : b.events.length ≤ maxBatchEvents)
    (hback : q.requeuePreserveTimestamps o b = q' ∨ q.requeue now nanos o b = (none, q')) :
    ∃ p, PutBack q b.scope (b.events.map (·.toQueued b.scope)) p q' := by
  have hlength : (b.events.map (·.toQueued b.scope)).length ≤ maxBatchEvents := by simpa using hsize
  rcases hback with rfl | hback
  · refine putBack_putFront hlength ?_
    split_ifs <;> rfl
  by_cases hle : maxRetries ≤ q.retryCount b.scope
  · rw [requeue_of_le hle] at hback
    cases hback
  rw [requeue_of_lt (Nat.not_le.mp hle)] at hback
  cases hback
  exact putBack_putFront hlength rfl

end Caps

def sampleThread : SessionScope := .thread ⟨0⟩ "root"

def threadMention : ScopedEvent sampleThread := ⟨{ mention 2 2 with scope := sampleThread }, rfl⟩

/-- A channel with one request, and room for one event besides those of a thread. -/
def crowded : EventQueue :=
  { new .queue with
    queues := (AList.insert sampleThread (List.replicate 499 threadMention) ∅).insert sampleScope
      [⟨mention 1 0, rfl⟩] }

def crowdedBatch : FlushBatch := ⟨sampleScope, [⟨(mention 1 0).event, "mention", 0⟩], [], none⟩

/-- The request is put back after one more event came for the thread, and is the one that goes. -/
theorem crowded_request_evicted :
    (crowded.flushNext (secs 3) anyOrder).1 = some crowdedBatch ∧
      ∃ q, q = ((crowded.flushNext (secs 3) anyOrder).2.push anyOrder threadMention).2 ∧
        listAt (q.requeuePreserveTimestamps anyOrder crowdedBatch).queues sampleScope = [] ∧
        (q.requeuePreserveTimestamps anyOrder crowdedBatch).gone = {(.evicted, mention 1 0)} := by
  refine ⟨?_, _, rfl, ?_, ?_⟩ <;> decide +kernel

theorem putBack_kept_crowded :
    ∃ p, PutBack crowded sampleScope (crowdedBatch.events.map (·.toQueued sampleScope)) p
      (crowded.requeuePreserveTimestamps anyOrder crowdedBatch) :=
  putBack_kept crowded _ crowdedBatch anyOrder 0 0 (by decide) (.inl rfl)

end Buzz.Acp
