import Buzz.Acp.Accounting
import Buzz.Lib.Run
import Mathlib.Data.Multiset.OrderedMonoid

/-!
Conservation of queued events.

`AcpState` is the queue with the batches its callers hold, and a record of the accepted, completed
and dead-lettered events.
-/

namespace Buzz.Acp

open Buzz.Core Lib EventQueue FlushBatch Prod

/-! ### The queue and its callers -/

/-- How a caller is done with the events of a batch. -/
inductive Ending
  | completed | deadLettered
deriving DecidableEq

/-- The queue with the batches its callers hold.  `accepted` and `finished` are records of the run. -/
structure AcpState where
  queue : EventQueue
  outstanding : List FlushBatch
  accepted : Multiset QueuedEvent
  finished : Multiset (Ending × QueuedEvent)

/-- The calls.  A caller names one of the batches it holds by its position, and hands it over;
`complete` is a caller that is done with a batch. -/
inductive AcpAct
  | push (o : HashOrders) (e : QueuedEvent)
  | flushNext (now : ℕ) (o : HashOrders)
  | hasFlushableWork (now : ℕ) (o : HashOrders)
  | requeue (i now nanos : ℕ) (o : HashOrders)
  | requeuePreserveTimestamps (i : ℕ) (o : HashOrders)
  | requeueAsCancelled (i : ℕ) (reason : CancelReason)
  | complete (i : ℕ)
  | markComplete (now : ℕ) (s : SessionScope)
  | extendInFlightDeadline (now : ℕ) (s : SessionScope) (maxTurnSecs : ℕ)
  | compactExpiredState (now : ℕ)
  | markNativeSteerPending (s : SessionScope) (eventId : String)
  | releaseNativeSteer (o : HashOrders) (s : SessionScope) (eventId : String)
  | removeEvent (s : SessionScope) (eventId : String)
  | recoverWithheldForExpiredScope (o : HashOrders) (s : SessionScope)
  | drainChannel (o : HashOrders) (channelId : Uuid)

namespace AcpState

variable (dedupMode : DedupMode) (maxTurnSecs : ℕ)

def init : AcpState :=
  ⟨(EventQueue.new dedupMode).withInFlightDeadline maxTurnSecs, [], 0, 0⟩

def finish (ending : Ending) (b : FlushBatch) (st : AcpState) : AcpState :=
  { st with finished := st.finished + b.items.map fun e => (ending, e) }

variable (st : AcpState) (acts : List AcpAct)

def handOver (i : ℕ) (f : FlushBatch → AcpState → AcpState) : AcpState :=
  match st.outstanding[i]? with
  | none => st
  | some b => f b { st with outstanding := st.outstanding.eraseIdx i }

def requeue (now nanos : ℕ) (o : HashOrders) (b : FlushBatch) (st : AcpState) : AcpState :=
  let r := st.queue.requeue now nanos o b
  match r.1 with
  | none => { st with queue := r.2 }
  | some dead => finish .deadLettered dead { st with queue := r.2 }

def step : AcpAct → AcpState
  | .push o e =>
    let r := st.queue.push o e
    { st with queue := r.2, accepted := st.accepted + if r.1 then {e} else 0 }
  | .flushNext now o =>
    let r := st.queue.flushNext now o
    { st with queue := r.2, outstanding := st.outstanding ++ r.1.toList }
  | .hasFlushableWork now o => { st with queue := (st.queue.hasFlushableWork now o).2 }
  | .requeue i now nanos o => st.handOver i (requeue now nanos o)
  | .requeuePreserveTimestamps i o =>
    st.handOver i fun b st => { st with queue := st.queue.requeuePreserveTimestamps o b }
  | .requeueAsCancelled i reason =>
    st.handOver i fun b st => { st with queue := st.queue.requeueAsCancelled b reason }
  | .complete i => st.handOver i (finish .completed)
  | .markComplete now s => { st with queue := st.queue.markComplete now s }
  | .extendInFlightDeadline now s maxTurnSecs =>
    { st with queue := st.queue.extendInFlightDeadline now s maxTurnSecs }
  | .compactExpiredState now => { st with queue := st.queue.compactExpiredState now }
  | .markNativeSteerPending s eventId =>
    { st with queue := (st.queue.markNativeSteerPending s eventId).2 }
  | .releaseNativeSteer o s eventId =>
    { st with queue := st.queue.releaseNativeSteer o s eventId }
  | .removeEvent s eventId => { st with queue := st.queue.removeEvent s eventId }
  | .recoverWithheldForExpiredScope o s =>
    { st with queue := st.queue.recoverWithheldForExpiredScope o s }
  | .drainChannel o channelId => { st with queue := (st.queue.drainChannel o channelId).2 }

def run : AcpState :=
  acts.foldl step (init dedupMode maxTurnSecs)

/-! ### Places -/

def queued : Multiset QueuedEvent := tally queuedItems st.queue.queues

def withheld : Multiset QueuedEvent :=
  tally queuedItems st.queue.withheldNativeSteer

def cancelled : Multiset QueuedEvent := tally batchItems st.queue.cancelledBatches

def inBatches : Multiset QueuedEvent := (st.outstanding.map FlushBatch.items).sum

/-- Removed, drained or evicted by the queue, completed or dead-lettered by a caller. -/
def terminal : Multiset QueuedEvent :=
  st.queue.gone.map snd + st.finished.map snd

/-- Every accepted event is in exactly one place. -/
def Conserved : Prop :=
  st.accepted = st.queued + st.withheld + st.cancelled + st.inBatches + st.terminal

instance (st : AcpState) : Decidable st.Conserved := inferInstanceAs (Decidable (_ = _))

def places : Multiset QueuedEvent :=
  st.queue.held + st.inBatches + st.finished.map snd

lemma conserved_iff : st.Conserved ↔ st.accepted = st.places := by
  have hplaces : st.places = st.queued + st.withheld + st.cancelled + st.inBatches + st.terminal := by
    unfold places held queued withheld cancelled terminal
    abel
  rw [hplaces]
  rfl

/-! ### Steps -/

/-- What a step loses: the cancelled events of a batch that `requeue` puts back. -/
def lost : AcpAct → Multiset QueuedEvent
  | .requeue i _ _ _ =>
    match st.outstanding[i]? with
    | none => 0
    | some b =>
      if st.queue.retryCount b.scope < maxRetries then batchItems b.scope b.cancelledEvents else 0
  | _ => 0

section Accounts

variable {st : AcpState} {b : FlushBatch} {i : ℕ} {queue : EventQueue}

lemma inBatches_eraseIdx (h : st.outstanding[i]? = some b) :
    ((st.outstanding.eraseIdx i).map FlushBatch.items).sum + b.items = st.inBatches := by
  obtain ⟨hi, hb⟩ := List.getElem?_eq_some_iff.mp h
  have hperm := (List.getElem_cons_eraseIdx_perm hi).map items
  rw [inBatches, ← hperm.sum_eq, List.map_cons, List.sum_cons, hb, add_comm]

lemma account_putBack
    (hb : st.outstanding[i]? = some b) (h : queue.held = st.queue.held + b.items) :
    places { st with queue := queue, outstanding := st.outstanding.eraseIdx i } = st.places := by
  have hbatch := inBatches_eraseIdx hb
  show queue.held + ((st.outstanding.eraseIdx i).map items).sum + st.finished.map snd = _
  rw [h, places, ← hbatch]
  abel

lemma account_finish (ending : Ending)
    (hb : st.outstanding[i]? = some b) (h : queue.held = st.queue.held) : places (finish ending b
      { st with queue := queue, outstanding := st.outstanding.eraseIdx i }) = st.places := by
  have hbatch := inBatches_eraseIdx hb
  show queue.held + ((st.outstanding.eraseIdx i).map items).sum +
    (st.finished + b.items.map fun e => (ending, e)).map snd = _
  rw [h, places, ← hbatch]
  simp only [Multiset.map_add, Multiset.map_map, Function.comp_def, Multiset.map_id']
  abel

lemma account_requeue (i now nanos : ℕ) (o : HashOrders) :
    (st.step (.requeue i now nanos o)).places + st.lost (.requeue i now nanos o) = st.places := by
  simp only [step, handOver, lost]
  cases hb : st.outstanding[i]? with
  | none => exact add_zero _
  | some b =>
    simp only [requeue]
    by_cases hcnt : st.queue.retryCount b.scope < maxRetries
    · -- put back: the cancelled events are nowhere
      have hheld : (st.queue.requeue now nanos o b).2.held =
          st.queue.held + batchItems b.scope b.events := by
        rw [requeue_of_lt hcnt, held_putFront]
        rfl
      have hbatch := inBatches_eraseIdx hb
      have hnone : (st.queue.requeue now nanos o b).1 = none := by
        rw [requeue_of_lt hcnt]
      simp only [hnone, hcnt, if_true]
      show (st.queue.requeue now nanos o b).2.held +
        ((st.outstanding.eraseIdx i).map items).sum + st.finished.map snd + _ = _
      rw [hheld, places, ← hbatch, items]
      abel
    -- dead-lettered: the caller gets the batch back
    have hle := Nat.not_lt.mp hcnt
    have hsome : (st.queue.requeue now nanos o b).1 = some b := by
      rw [requeue_of_le hle]
    simp only [hsome, hcnt, if_false, add_zero]
    exact account_finish .deadLettered hb (by rw [requeue_of_le hle]; rfl)

lemma accepted_handOver
    (h : ∀ b st, (f b st).accepted = st.accepted) : (st.handOver i f).accepted = st.accepted := by
  unfold handOver
  cases st.outstanding[i]? with
  | none => rfl
  | some b => exact h b _

lemma queue_requeue (now nanos : ℕ) (o : HashOrders) (b : FlushBatch) (st : AcpState) :
    (requeue now nanos o b st).queue = (st.queue.requeue now nanos o b).2 := by
  simp only [requeue]
  split <;> rfl

lemma account_flushNext (now : ℕ) (o : HashOrders) :
    (st.step (.flushNext now o)).places = st.places := by
  have hheld : (st.queue.flushNext now o).2.held +
      (st.queue.flushNext now o).1.elim 0 items = st.queue.held :=
    held_flushNext
  have hbatch : ((st.outstanding ++ (st.queue.flushNext now o).1.toList).map items).sum =
      st.inBatches + (st.queue.flushNext now o).1.elim 0 items := by
    rw [List.map_append, List.sum_append]
    cases (st.queue.flushNext now o).1 with
    | none => rfl
    | some b =>
      show _ + (b.items + 0) = _ + b.items
      rw [add_zero]
      rfl
  show (st.queue.flushNext now o).2.held +
    ((st.outstanding ++ (st.queue.flushNext now o).1.toList).map items).sum +
    st.finished.map snd = _
  rw [hbatch, places, ← hheld]
  abel

/-- **One step.** Events are accepted, move between places, or are lost. -/
theorem account_step (st : AcpState) (act : AcpAct) :
    (st.step act).places + st.lost act + st.accepted = st.places + (st.step act).accepted := by
  -- all but `push` accept nothing, and all but `requeue` lose nothing
  have hmove : ∀ {st' : AcpState}, st'.places + st.lost act = st.places →
      st'.accepted = st.accepted →
      st'.places + st.lost act + st.accepted = st.places + st'.accepted := by
    intro st' hplaces hacc
    rw [hplaces, hacc]
  have hq : ∀ {queue : EventQueue}, queue.held = st.queue.held →
      places { st with queue := queue } + 0 + st.accepted = st.places + st.accepted := by
    intro queue h
    show queue.held + st.inBatches + st.finished.map snd + 0 + _ = _
    rw [h, add_zero]
    rfl
  have hhand : ∀ {i : ℕ} {f : FlushBatch → AcpState → AcpState}, (∀ b, st.outstanding[i]? = some b →
        places (f b { st with outstanding := st.outstanding.eraseIdx i }) = st.places) →
      (∀ b st, (f b st).accepted = st.accepted) →
      (st.handOver i f).places + 0 + st.accepted = st.places + (st.handOver i f).accepted := by
    intro i f hplaces hacc
    rw [accepted_handOver hacc, add_zero, handOver]
    cases hb : st.outstanding[i]? with
    | none => rfl
    | some b => rw [← hplaces b hb]
  cases act with
  | push o e =>
    have hheld := held_push (q := st.queue) (o := o) e
    show (st.queue.push o e).2.held + st.inBatches + st.finished.map snd + 0 + st.accepted =
      st.places + (st.accepted + if (st.queue.push o e).1 then {e} else 0)
    rw [hheld, places]
    abel
  | flushNext now o => exact hmove ((add_zero _).trans (account_flushNext now o)) rfl
  | requeue i now nanos o =>
    refine hmove (account_requeue i now nanos o) (accepted_handOver fun _ _ => ?_)
    simp only [requeue]
    split <;> rfl
  | requeuePreserveTimestamps i o =>
    refine hhand (fun b hb => ?_) fun _ _ => rfl
    exact account_putBack hb held_requeuePreserveTimestamps
  | requeueAsCancelled i reason =>
    exact hhand (fun b hb => account_putBack hb (held_requeueAsCancelled reason)) fun _ _ => rfl
  | complete i => exact hhand (fun b hb => account_finish .completed hb rfl) fun _ _ => rfl
  | hasFlushableWork now o => exact hq (held_expireInFlight now st.queue)
  | markComplete now s => exact hq held_markComplete
  | extendInFlightDeadline now s maxTurnSecs =>
    exact hq (held_extendInFlightDeadline maxTurnSecs)
  | compactExpiredState now => exact hq rfl
  | markNativeSteerPending s eventId => exact hq (held_markNativeSteerPending eventId)
  | releaseNativeSteer o s eventId => exact hq (held_releaseNativeSteer eventId)
  | removeEvent s eventId => exact hq (held_removeEvent eventId)
  | recoverWithheldForExpiredScope o s => exact hq held_recoverWithheld
  | drainChannel o channelId => exact hq (held_drainChannel channelId)

end Accounts

/-! ### Runs -/

def lostInRun : AcpState → List AcpAct → Multiset QueuedEvent
  | _, [] => 0
  | st, act :: acts => st.lost act + lostInRun (st.step act) acts

/-- **Whole runs.** What was accepted is in some place or was lost on the way. -/
theorem account_run {st : AcpState} (h : st.accepted = st.places + m) :
    (acts.foldl step st).accepted = (acts.foldl step st).places + (m + lostInRun st acts) := by
  induction acts generalizing st m with
  | nil =>
    rw [lostInRun, add_zero]
    exact h
  | cons act acts ih =>
    have hstep := account_step st act
    have hnext : (st.step act).accepted = (st.step act).places + (m + st.lost act) := by
      refine add_left_cancel (a := st.places) ?_
      rw [← hstep, h]
      abel
    rw [List.foldl_cons, lostInRun, ← add_assoc m]
    exact ih hnext

/-- The step gives `requeue` no cancelled events, or the batch is dead-lettered. -/
def KeepsCancelled : AcpAct → Prop
  | .requeue i _ _ _ => ∀ b ∈ st.outstanding[i]?,
      b.cancelledEvents = [] ∨ maxRetries ≤ st.queue.retryCount b.scope
  | _ => True

lemma lost_eq_zero_iff (act : AcpAct) : st.lost act = 0 ↔ st.KeepsCancelled act := by
  cases act with
  | requeue i now nanos o =>
    simp only [lost, KeepsCancelled]
    cases st.outstanding[i]? with
    | none => simp
    | some b =>
      by_cases hcnt : st.queue.retryCount b.scope < maxRetries
      · have hnot : ¬maxRetries ≤ st.queue.retryCount b.scope := Nat.not_le.mpr hcnt
        simp [hcnt, hnot, batchItems, queuedItems]
      · have hle : maxRetries ≤ st.queue.retryCount b.scope := Nat.not_lt.mp hcnt
        simp [hcnt, hle]
  | _ => exact iff_of_true rfl trivial

lemma lostInRun_eq_zero_iff (st : AcpState) :
    lostInRun st acts = 0 ↔ AllSteps step KeepsCancelled st acts := by
  induction acts generalizing st with
  | nil => exact iff_of_true rfl trivial
  | cons act acts ih => rw [lostInRun, add_eq_zero, lost_eq_zero_iff, ih, AllSteps]

lemma conserved_iff_lostInRun : (run dedupMode maxTurnSecs acts).Conserved ↔
      lostInRun (init dedupMode maxTurnSecs) acts = 0 := by
  have hinit : (init dedupMode maxTurnSecs).accepted = (init dedupMode maxTurnSecs).places + 0 := rfl
  have hrun := account_run acts hinit
  rw [zero_add] at hrun
  rw [conserved_iff, run, hrun]
  exact add_eq_left

/-- **Conservation.** Every accepted event is in exactly one place in every state of a run, exactly if
no `requeue` of the run puts back a batch with cancelled events. -/
theorem conserved_run_iff (dedupMode : DedupMode) (maxTurnSecs : ℕ) (acts : List AcpAct) :
    (∀ past, past <+: acts → (run dedupMode maxTurnSecs past).Conserved) ↔
      AllSteps step KeepsCancelled (init dedupMode maxTurnSecs) acts := by
  constructor
  · intro hall
    have hlast := hall acts (List.prefix_refl acts)
    rwa [conserved_iff_lostInRun, lostInRun_eq_zero_iff] at hlast
  rintro hkeeps past ⟨rest, rfl⟩
  rw [conserved_iff_lostInRun, lostInRun_eq_zero_iff]
  exact (allSteps_append.mp hkeeps).1

/-! ### A lost request -/

def interruptedThenFailed : List AcpAct :=
  [.push anyOrder (mention 1 0), .flushNext (secs 1) anyOrder,
    .push anyOrder (mention 2 2), .requeueAsCancelled 0 .interrupt,
    .markComplete (secs 3) sampleScope, .flushNext (secs 3) anyOrder,
    .requeue 0 (secs 4) 0 anyOrder, .markComplete (secs 4) sampleScope]

set_option maxRecDepth 8000 in
theorem interrupted_request_lost :
    let st := run .queue 7200 interruptedThenFailed
    ¬st.Conserved ∧ st.accepted = {mention 1 0, mention 2 2} ∧ st.queued = {mention 2 2} ∧
      st.withheld = 0 ∧ st.cancelled = 0 ∧ st.inBatches = 0 ∧ st.terminal = 0 := by
  decide

end AcpState

end Buzz.Acp
