import Buzz.Acp.Conservation
import Buzz.Acp.Frame

/-!
The retry limit.

`requeue` counts the failed attempts of a scope and dead-letters a batch once they are used up.  The
count is also written by `mark_complete`, which resets it unless the scope is throttled, by
`compact_expired_state` and by `drain_channel`.  `Watched` counts along a run how often the batches of
one scope were put back by `requeue` since one was dead-lettered.
-/

namespace Buzz.Acp

open Buzz.Core Lib EventQueue

namespace EventQueue

/-! ### Operations that leave the counts alone -/

variable {q : EventQueue} {s : SessionScope} {o : HashOrders} {now nanos : ℕ} {b : FlushBatch}

lemma retryCounts_flushNext : (q.flushNext now o).2.retryCounts = q.retryCounts := by
  rw [← retryCounts_expireInFlight (o := o) now q]
  simp only [flushNext]
  repeat' split
  all_goals rfl

/-! ### Operations that write them -/

lemma retryCount_of_eq {q' : EventQueue} (h : q'.retryCounts = q.retryCounts) :
    q'.retryCount s = q.retryCount s := by
  rw [retryCount, retryCount, h]

lemma retryCount_requeue_self (hb : b.scope = s) : (q.requeue now nanos o b).2.retryCount s =
      if maxRetries ≤ q.retryCount s then 0 else q.retryCount s + 1 := by
  subst hb
  split_ifs with hle
  · rw [requeue_of_le hle]
    simp [retryCount]
  · rw [requeue_of_lt (Nat.not_le.mp hle), retryCount, (queuesOnly_putFront _).retryCounts]
    simp

lemma retryCount_requeue_ne (hb : b.scope ≠ s) :
    (q.requeue now nanos o b).2.retryCount s = q.retryCount s := by
  by_cases hle : maxRetries ≤ q.retryCount b.scope
  · rw [requeue_of_le hle]
    simp [retryCount, AList.lookup_erase_ne hb.symm]
  · rw [requeue_of_lt (Nat.not_le.mp hle), retryCount, (queuesOnly_putFront _).retryCounts]
    simp [retryCount, AList.lookup_insert_ne hb.symm]

/-- Compaction takes the scope for one that is done. -/
def isIdle (now : ℕ) (q : EventQueue) (s : SessionScope) : Bool :=
  !q.isThrottled now s && (listAt q.queues s).isEmpty && s ∉ q.inFlightScopes

lemma getD_filter_const (x : Option ℕ) (keep : Bool) :
    (x.filter fun _ => keep).getD 0 = if keep then x.getD 0 else 0 := by
  cases x <;> cases keep <;> rfl

lemma retryCount_compactExpiredState :
    (q.compactExpiredState now).retryCount s = if q.isIdle now s then 0 else q.retryCount s := by
  have hthr : ((retain (fun _ deadline => decide (deadline > now)) q.retryAfter).lookup s).isSome =
      q.isThrottled now s := by
    rw [lookup_retain, isThrottled]
    cases q.retryAfter.lookup s with
    | none => rfl
    | some deadline => by_cases h : deadline > now <;> simp [Option.filter, h]
  have hget := lookup_retain (fun s _ =>
    ((retain (fun _ deadline => decide (deadline > now)) q.retryAfter).lookup s).isSome ||
      !(listAt q.queues s).isEmpty || decide (s ∈ q.inFlightScopes)) q.retryCounts s
  have hidle : (q.isThrottled now s || !(listAt q.queues s).isEmpty ||
      decide (s ∈ q.inFlightScopes)) = !q.isIdle now s := by
    simp [isIdle, Bool.or_assoc]
  rw [hthr, hidle] at hget
  refine (congrArg (Option.getD · 0) hget).trans ?_
  rw [getD_filter_const]
  cases q.isIdle now s <;> rfl

lemma retryCount_drainChannel (channelId : Uuid) : (q.drainChannel o channelId).2.retryCount s =
      if s.channelId = channelId then 0 else q.retryCount s := by
  show (AList.lookup s (ofOthers channelId q.retryCounts)).getD 0 = _
  rw [ofOthers, lookup_retain, getD_filter_const]
  by_cases hs : s.channelId = channelId <;> simp [hs, retryCount]

end EventQueue

/-! ### Watching a scope -/

/-- A state, and how many batches of a scope `requeue` has put back since it dead-lettered one. -/
structure Watched where
  st : AcpState
  retries : ℕ

namespace Watched

variable (s : SessionScope) (dedupMode : DedupMode) (maxTurnSecs : ℕ)

def retriesAfter (w : Watched) : AcpAct → ℕ
  | .requeue i now nanos o =>
    match w.st.outstanding[i]? with
    | none => w.retries
    | some b =>
      if b.scope = s then
        match (w.st.queue.requeue now nanos o b).1 with
        | none => w.retries + 1
        | some _ => 0
      else w.retries
  | _ => w.retries

def step (w : Watched) (act : AcpAct) : Watched :=
  ⟨w.st.step act, w.retriesAfter s act⟩

def init : Watched := ⟨.init dedupMode maxTurnSecs, 0⟩

def run (acts : List AcpAct) : Watched :=
  acts.foldl (step s) (init dedupMode maxTurnSecs)

/-- The step forgets no failed attempt of the scope: if there is one, `mark_complete` finds the scope
throttled, compaction does not find it idle, and its channel is not drained. -/
def keepsCount (w : Watched) : AcpAct → Bool
  | .markComplete now s' =>
    decide (s' ≠ s) || w.st.queue.retryCount s = 0 || w.st.queue.isThrottled now s
  | .compactExpiredState now => w.st.queue.retryCount s = 0 || !w.st.queue.isIdle now s
  | .drainChannel _ channelId =>
    decide (s.channelId ≠ channelId) || w.st.queue.retryCount s = 0
  | _ => true

/-- The watched number is the queue's own count, and within the limit. -/
structure Inv (s : SessionScope) (w : Watched) : Prop where
  count : w.st.queue.retryCount s = w.retries
  bound : w.retries ≤ maxRetries

section Steps

variable {s : SessionScope} {w : Watched}

lemma Inv.of_eq (h : Inv s w) (hretr : w.retriesAfter s act = w.retries)
    (hcnt : (w.st.step act).queue.retryCount s = w.st.queue.retryCount s) :
    Inv s (w.step s act) where
  count := by
    show (w.st.step act).queue.retryCount s = w.retriesAfter s act
    rw [hcnt, h.count, hretr]
  bound := by
    show w.retriesAfter s act ≤ maxRetries
    rw [hretr]
    exact h.bound

lemma queue_handOver {st : AcpState}
    (h : ∀ b st, (f b st).queue.retryCounts = st.queue.retryCounts) :
    (st.handOver i f).queue.retryCounts = st.queue.retryCounts := by
  unfold AcpState.handOver
  cases st.outstanding[i]? with
  | none => rfl
  | some b => exact h b _

lemma Inv.requeue (h : Inv s w) (i now nanos : ℕ) (o : HashOrders) :
    Inv s (w.step s (.requeue i now nanos o)) := by
  cases hb : w.st.outstanding[i]? with
  | none =>
    refine h.of_eq ?_ ?_
    · simp [retriesAfter, hb]
    · simp [AcpState.step, AcpState.handOver, hb]
  | some b =>
    have hq : (w.st.step (.requeue i now nanos o)).queue =
        (w.st.queue.requeue now nanos o b).2 := by
      simp only [AcpState.step, AcpState.handOver, hb, AcpState.queue_requeue]
    by_cases hs : b.scope = s
    · have hcnt : (w.st.queue.requeue now nanos o b).2.retryCount s = _ :=
        retryCount_requeue_self hs
      have hretr : w.retriesAfter s (.requeue i now nanos o) =
          if maxRetries ≤ w.st.queue.retryCount s then 0 else w.retries + 1 := by
        simp only [retriesAfter, hb, hs, if_true]
        split_ifs with hle
        · rw [requeue_of_le (hs.symm ▸ hle)]
        · rw [requeue_of_lt (hs.symm ▸ Nat.not_le.mp hle)]
      constructor
      · show (w.st.step (.requeue i now nanos o)).queue.retryCount s =
          w.retriesAfter s (.requeue i now nanos o)
        rw [hq, hcnt, hretr, h.count]
      show w.retriesAfter s (.requeue i now nanos o) ≤ maxRetries
      rw [hretr, h.count]
      split_ifs <;> omega
    refine h.of_eq ?_ ?_
    · simp [retriesAfter, hb, hs]
    · rw [hq, retryCount_requeue_ne hs]

/-- **One step.** A step that forgets no failed attempt keeps the two numbers equal. -/
theorem Inv.step (h : Inv s w) (act : AcpAct) (hkeeps : w.keepsCount s act = true) :
    Inv s (w.step s act) := by
  cases act with
  | push o e => exact h.of_eq rfl (retryCount_of_eq (queuesOnly_push e).retryCounts)
  | flushNext now o =>
    exact h.of_eq rfl (retryCount_of_eq retryCounts_flushNext)
  | hasFlushableWork now o =>
    exact h.of_eq rfl (retryCount_of_eq (retryCounts_expireInFlight now w.st.queue))
  | requeue i now nanos o => exact h.requeue i now nanos o
  | requeuePreserveTimestamps i o =>
    refine h.of_eq rfl (retryCount_of_eq (queue_handOver fun b st => ?_))
    rw [requeuePreserveTimestamps, (queuesOnly_putFront _).retryCounts]
    split_ifs <;> rfl
  | requeueAsCancelled i reason | complete i =>
    exact h.of_eq rfl (retryCount_of_eq (queue_handOver fun _ _ => rfl))
  | markComplete now s' =>
    refine h.of_eq rfl ?_
    show (w.st.queue.markComplete now s').retryCount s = _
    by_cases hs : s' = s
    · subst hs
      cases hthr : w.st.queue.isThrottled now s' with
      | true =>
        rw [markComplete, if_pos hthr]
        rfl
      | false =>
        have hzero : w.st.queue.retryCount s' = 0 := by
          simpa [keepsCount, hthr] using hkeeps
        rw [hzero]
        simp [markComplete, hthr, retryCount]
    unfold markComplete
    split_ifs
    · rfl
    · simp [retryCount, AList.lookup_erase_ne (Ne.symm hs)]
  | extendInFlightDeadline now s' maxTurnSecs =>
    refine h.of_eq rfl (retryCount_of_eq ?_)
    simp only [AcpState.step, extendInFlightDeadline]
    repeat' split
    all_goals rfl
  | compactExpiredState now =>
    refine h.of_eq rfl ?_
    show (w.st.queue.compactExpiredState now).retryCount s = _
    rw [retryCount_compactExpiredState]
    split_ifs with hidle
    · have hzero : w.st.queue.retryCount s = 0 := by simpa [keepsCount, hidle] using hkeeps
      exact hzero.symm
    · rfl
  | markNativeSteerPending s' eventId =>
    exact h.of_eq rfl (retryCount_of_eq (queuesOnly_markNativeSteerPending eventId).retryCounts)
  | releaseNativeSteer o s' eventId =>
    exact h.of_eq rfl (retryCount_of_eq (queuesOnly_releaseNativeSteer eventId).retryCounts)
  | removeEvent s' eventId => exact h.of_eq rfl rfl
  | recoverWithheldForExpiredScope o s' =>
    exact h.of_eq rfl (retryCount_of_eq queuesOnly_recoverWithheld.retryCounts)
  | drainChannel o channelId =>
    refine h.of_eq rfl ?_
    show (w.st.queue.drainChannel o channelId).2.retryCount s = _
    rw [retryCount_drainChannel]
    split_ifs with hs
    · have hzero : w.st.queue.retryCount s = 0 := by simpa [keepsCount, hs] using hkeeps
      exact hzero.symm
    · rfl

end Steps

/-! ### Runs -/

lemma run_st (acts : List AcpAct) :
    (run s dedupMode maxTurnSecs acts).st = AcpState.run dedupMode maxTurnSecs acts := by
  have hfold : ∀ w : Watched, (acts.foldl (step s) w).st = acts.foldl AcpState.step w.st := by
    induction acts with
    | nil => exact fun _ => rfl
    | cons act acts ih => exact fun w => ih (w.step s act)
  exact hfold _

/-- **The retry limit.** In every state of a run that forgets no failed attempt of the scope, its
batches were put back at most `MAX_RETRIES` times since the last dead letter, and at the limit the next
failure is dead-lettered. -/
theorem deadLetter_bound (s : SessionScope) (dedupMode : DedupMode) (maxTurnSecs : ℕ)
    (acts : List AcpAct)
    (hkeeps : AllSteps (step s) (fun w act => w.keepsCount s act = true)
      (init dedupMode maxTurnSecs) acts) :
    ∀ past, past <+: acts →
      (run s dedupMode maxTurnSecs past).retries ≤ maxRetries ∧
      ((run s dedupMode maxTurnSecs past).retries = maxRetries →
        ∀ now nanos o b, b.scope = s →
          ((AcpState.run dedupMode maxTurnSecs past).queue.requeue now nanos o b).1 = some b) := by
  rintro past ⟨rest, rfl⟩
  have hinit : Inv s (init dedupMode maxTurnSecs) := ⟨rfl, Nat.zero_le _⟩
  have hinv : Inv s (run s dedupMode maxTurnSecs past) :=
    (allSteps_append.mp hkeeps).1.invariant (fun _ _ hw hact => hw.step _ hact) hinit
  refine ⟨hinv.bound, fun hlimit now nanos o b hb => ?_⟩
  have hcount : maxRetries ≤ (AcpState.run dedupMode maxTurnSecs past).queue.retryCount b.scope := by
    rw [← run_st s, hb, hinv.count, hlimit]
  rw [requeue_of_le hcount]

def failedAttempt (second : ℕ) : List AcpAct :=
  [.flushNext (secs second) anyOrder, .requeue 0 (secs (second + 1)) 0 anyOrder,
    .markComplete (secs (second + 1)) sampleScope]

def tenFailures : List AcpAct :=
  .push anyOrder (mention 1 0) :: (List.range 10).flatMap fun k => failedAttempt (400 * (k + 1))

set_option maxRecDepth 20000 in
theorem tenFailures_then_deadLetter :
    (run sampleScope .queue 7200 tenFailures).retries = maxRetries ∧
      ∀ b, b.scope = sampleScope →
        ((AcpState.run .queue 7200 tenFailures).queue.requeue (secs 4401) 0 anyOrder b).1 = some b := by
  have hbound := deadLetter_bound sampleScope .queue 7200 tenFailures (by decide) tenFailures
    (List.prefix_refl _)
  have hten : (run sampleScope .queue 7200 tenFailures).retries = maxRetries := by decide
  exact ⟨hten, fun b hb => hbound.2 hten _ _ _ b hb⟩

/-! ### A batch that is retried beyond the limit -/

def putBack (second : ℕ) : List AcpAct :=
  [.flushNext (secs second) anyOrder, .requeuePreserveTimestamps 0 anyOrder,
    .markComplete (secs second) sampleScope]

def starvedRun : List AcpAct :=
  .push anyOrder (mention 1 0) :: (List.range 11).flatMap fun k =>
    failedAttempt (20 * (k + 1)) ++ putBack (20 * (k + 1) + 10)

set_option maxRecDepth 20000 in
theorem starvedRun_exceeds_limit :
    (run sampleScope .queue 7200 starvedRun).retries = 11 ∧
      ¬(run sampleScope .queue 7200 starvedRun).retries ≤ maxRetries ∧
      (run sampleScope .queue 7200 starvedRun).st.finished = 0 ∧
      (run sampleScope .queue 7200 starvedRun).st.queue.retryCount sampleScope = 0 := by
  decide

end Watched

end Buzz.Acp
