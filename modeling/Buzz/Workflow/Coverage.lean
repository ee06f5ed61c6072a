import Buzz.Workflow.Scheduler

/-!
Which cron instants are fired.

A tick returns the instant in the sixty seconds before it.  If the next tick comes later than sixty
seconds after the last, the windows leave a gap between them, and an instant that falls into the gap
is returned by no tick.  Apart from that nothing is lost (`cron_fires_iff`).
-/

namespace Buzz.Workflow

open Lib List

def MinuteApart (sched : CronSchedule) : Prop :=
  ∀ i ∈ sched.instants, ∀ j ∈ sched.instants, i < j → i + seconds 60 ≤ j

/-- The gap between two ticks of the loop, which sleeps for sixty seconds. -/
def TickGap (t t' : ℤ) : Prop := t + seconds 60 ≤ t' ∧ t' ≤ t + seconds 61

/-- No instant lies behind a tick and before the window of the next one. -/
def NoneBetweenWindows (sched : CronSchedule) (ticks : List ℤ) : Prop :=
  ticks.IsChain fun t t' => ∀ i ∈ sched.instants, t < i → t' - seconds 60 < i

section Window

lemma cronFireInstant_iff_window (hprs : parse (normalizeCron expr) = some sched)
    (happart : MinuteApart sched) : cronFireInstant parse expr now 60 = some i ↔
      i ∈ sched.instants ∧ now - seconds 60 < i ∧ i ≤ now := by
  simp only [cronFireInstant, hprs, Option.filter_eq_some_iff, decide_eq_true_eq]
  constructor
  · rintro ⟨hnext, hle⟩
    obtain ⟨⟨hi, hlt⟩, _⟩ := sched.next_some _ _ hnext
    exact ⟨hi, hlt, hle⟩
  rintro ⟨hi, hlt, hle⟩
  refine ⟨?_, hle⟩
  cases hnext : sched.next (now - seconds 60) with
  | none =>
    have hpre := sched.next_none _ hnext i hi
    omega
  | some j =>
    -- the first instant of the window and `i` are in the same minute
    obtain ⟨⟨hj, hjlt⟩, hleast⟩ := sched.next_some _ _ hnext
    have hji : j ≤ i := hleast ⟨hi, hlt⟩
    rcases hji.lt_or_eq with hji | rfl
    · have hap := happart j hj i hi hji
      omega
    · rfl

end Window

section Ticks

variable {i : ℤ}

lemma exists_window
    (h : NoneBetweenWindows sched (first :: rest)) (hi : i ∈ sched.instants) (hfst : first < i)
    (hlast : i < (first :: rest).getLast (by simp)) :
    ∃ t ∈ first :: rest, t - seconds 60 < i ∧ i ≤ t := by
  induction rest generalizing first with
  | nil =>
    rw [getLast_singleton] at hlast
    omega
  | cons second rest ih =>
    obtain ⟨hgap, hrest⟩ := isChain_cons_cons.mp h
    by_cases hsec : i ≤ second
    · exact ⟨second, by simp, hgap i hi hfst, hsec⟩
    rw [getLast_cons (by simp)] at hlast
    obtain ⟨t, ht, hwin⟩ := ih hrest (not_le.mp hsec) hlast
    exact ⟨t, mem_cons_of_mem _ ht, hwin⟩

lemma le_of_tickGap (h : (first :: rest).IsChain TickGap) (ht : t ∈ first :: rest) : first ≤ t := by
  induction rest generalizing first with
  | nil => exact (mem_singleton.mp ht).ge
  | cons second rest ih =>
    obtain ⟨hgap, hrest⟩ := isChain_cons_cons.mp h
    rcases mem_cons.mp ht with rfl | ht
    · exact le_rfl
    have hle := ih hrest ht
    have hstep := hgap.1
    unfold seconds at hstep
    omega

/-- An instant that is behind a tick and not in the window of the next is in no window. -/
lemma noneBetweenWindows_of_windows (hgaps : (first :: rest).IsChain TickGap)
    (h : ∀ i ∈ sched.instants, first < i → i < (first :: rest).getLast (by simp) →
      ∃ t ∈ first :: rest, t - seconds 60 < i ∧ i ≤ t) :
    NoneBetweenWindows sched (first :: rest) := by
  induction rest generalizing first with
  | nil => exact isChain_singleton _
  | cons second rest ih =>
    obtain ⟨hgap, hrest⟩ := isChain_cons_cons.mp hgaps
    have hsec : 0 < seconds 60 := by decide
    refine isChain_cons_cons.mpr ⟨?_, ih hrest ?_⟩
    · intro i hi hfst
      by_contra hearly
      have hlast : second ≤ (first :: second :: rest).getLast (by simp) := by
        rw [getLast_cons (by simp)]
        exact le_of_tickGap hrest (getLast_mem (by simp))
      obtain ⟨t, ht, hlt, hle⟩ := h i hi hfst (by omega)
      rcases mem_cons.mp ht with rfl | ht
      · omega
      · have hsecond := le_of_tickGap hrest ht
        omega
    intro i hi hsecond hlast
    have hstep := hgap.1
    have hlast' : i < (first :: second :: rest).getLast (by simp) := by
      rw [getLast_cons (by simp)]
      exact hlast
    obtain ⟨t, ht, hlt, hle⟩ := h i hi (by omega) hlast'
    rcases mem_cons.mp ht with rfl | ht
    · omega
    · exact ⟨t, ht, hlt, hle⟩

end Ticks

/-- **No missed cron fire, if no instant falls between two windows.** With ticks sixty to sixty-one
seconds apart, every instant behind the first tick and before the last is returned by a tick exactly
if none lies in the gap between two windows; and no two runs are of the same instant, whatever the
processes do. -/
theorem cron_fires_iff (parse : String → Option CronSchedule) (expr : String) (sched : CronSchedule)
    (hparse : parse (normalizeCron expr) = some sched) (happart : MinuteApart sched) (first : ℤ)
    (rest : List ℤ) (hgaps : (first :: rest).IsChain TickGap) :
    ((∀ i ∈ sched.instants, first < i → i < (first :: rest).getLast (by simp) →
        ∃ t ∈ first :: rest, cronFireInstant parse expr t 60 = some i) ∧
      ∀ acts, (Scheduler.run parse acts).runs.Pairwise fun r r' => r.fire ≠ r'.fire) ↔
    NoneBetweenWindows sched (first :: rest) := by
  constructor
  · rintro ⟨hfires, _⟩
    refine noneBetweenWindows_of_windows hgaps ?_
    intro i hi hfirst hlast
    obtain ⟨t, ht, hfire⟩ := hfires i hi hfirst hlast
    obtain ⟨_, hwindow⟩ := (cronFireInstant_iff_window hparse happart).mp hfire
    exact ⟨t, ht, hwindow⟩
  intro hnone
  refine ⟨?_, fun acts => (Scheduler.atMostOnce_run acts).runsDistinct⟩
  intro i hi hfirst hlast
  obtain ⟨t, ht, hwindow⟩ := exists_window hnone hi hfirst hlast
  exact ⟨t, ht, (cronFireInstant_iff_window hparse happart).mpr ⟨hi, hwindow⟩⟩

/-! ### Every minute -/

lemma minute_next_some (t i : ℤ) (h : some ((t / seconds 60 + 1) * seconds 60) = some i) :
    IsLeast {j | (∃ n, j = n * seconds 60) ∧ t < j} i := by
  obtain rfl := Option.some.inj h
  unfold seconds
  refine ⟨⟨⟨_, rfl⟩, by omega⟩, ?_⟩
  rintro j ⟨⟨n, rfl⟩, hlt⟩
  omega

def everyMinute : CronSchedule where
  instants := {j | ∃ n, j = n * seconds 60}
  next t := some ((t / seconds 60 + 1) * seconds 60)
  next_some := minute_next_some
  next_none t h := by cases h

def parseEveryMinute (text : String) : Option CronSchedule :=
  if text = "0 * * * * * *" then some everyMinute else none

/-- A tick half a second before a full minute and one that comes sixty and nine tenths of a second
later: the full minute is returned by neither. -/
theorem minute_missed :
    TickGap 59500000000 120400000000 ∧ seconds 60 ∈ everyMinute.instants ∧
      59500000000 < seconds 60 ∧ seconds 60 < 120400000000 ∧
      cronFireInstant parseEveryMinute "* * * * *" 59500000000 60 = some 0 ∧
      cronFireInstant parseEveryMinute "* * * * *" 120400000000 60 = some (seconds 120) := by
  refine ⟨?_, ⟨1, by decide⟩, by decide, by decide, by decide, by decide⟩
  unfold TickGap
  decide

lemma everyMinute_apart : MinuteApart everyMinute := by
  rintro i ⟨n, rfl⟩ j ⟨m, rfl⟩ hlt
  unfold seconds at hlt ⊢
  omega

theorem minute_fires : ∃ t ∈ [seconds 5, seconds 65, seconds 125],
    cronFireInstant parseEveryMinute "* * * * *" t 60 = some (seconds 60) := by
  have hgaps : [seconds 5, seconds 65, seconds 125].IsChain TickGap := by
    simp [TickGap, seconds]
  have hnone : NoneBetweenWindows everyMinute [seconds 5, seconds 65, seconds 125] := by
    simp only [NoneBetweenWindows, isChain_cons_cons, isChain_singleton, and_true]
    refine ⟨?_, ?_⟩
    all_goals
      intro i _ hlt
      unfold seconds at hlt ⊢
      omega
  obtain ⟨hfires, _⟩ := (cron_fires_iff parseEveryMinute "* * * * *" everyMinute
    (if_pos (by decide)) everyMinute_apart (seconds 5) [seconds 65, seconds 125] hgaps).mpr hnone
  exact hfires (seconds 60) ⟨1, by decide⟩ (by decide) (by decide)

end Buzz.Workflow
