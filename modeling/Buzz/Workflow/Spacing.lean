import Buzz.Workflow.Scheduler

/-!
The spacing of interval runs.

A tick fires an interval workflow if an interval has passed since its anchor.  The anchor in memory is
the time of the tick that fired last; the one read after a restart is the start of the bucket that was
claimed last, which may be almost an interval before the run.  A run that is decided on such an
anchor, or on the anchor of a process that did not see the last run, can follow it at once
(`restart_fires_twice`).  Runs are an interval apart as long as each is decided on an anchor that is
not older than the runs before it (`interval_runs_spaced`).
-/

namespace Buzz.Workflow

open Lib

def Pending.decision : Pending → Due
  | .due d => d
  | .claimed d => d

namespace Scheduler

def runsOf (st : Scheduler) (key : WorkflowKey) : List WorkflowRun :=
  st.runs.filter fun r => r.fire.key = key

/-- The rows of the workflow have this interval, whoever evaluates them. -/
def HasInterval (key : WorkflowKey) (dur : String) : SchedulerAct → Prop
  | .evaluate _ row _ _ _ =>
    row.key = key → ∃ enabled, row.definition = some ⟨enabled, .schedule none (some dur)⟩
  | _ => True

/-- The decision was made on an anchor no older than the runs of the workflow. -/
def FreshAnchor (st : Scheduler) (d : Due) : Prop :=
  ∀ r ∈ st.runsOf d.key, ∃ anchor ∈ d.last, r.now ≤ anchor ∧ anchor ≤ d.now

/-- A run of the workflow is created on a fresh anchor. -/
def CreatesOnFreshAnchor (key : WorkflowKey) (st : Scheduler) : SchedulerAct → Prop
  | .createRun p true =>
    match st.busy p with
    | some (.claimed d) => d.key = key → FreshAnchor st d
    | _ => True
  | _ => True

instance (st : Scheduler) (d : Due) : Decidable (FreshAnchor st d) := by
  unfold FreshAnchor; infer_instance

instance (key : WorkflowKey) (st : Scheduler) (act : SchedulerAct) :
    Decidable (CreatesOnFreshAnchor key st act) := by
  unfold CreatesOnFreshAnchor
  split
  · split <;> infer_instance
  · infer_instance

section Spaced

/-- What a process is busy with has passed the check of the interval, if it is for the workflow. -/
def Passed (key : WorkflowKey) (dur : String) (busy : Option Pending) : Prop :=
  ∀ b ∈ busy, b.decision.key = key →
    intervalShouldFire dur b.decision.last b.decision.now

lemma passed_none : Passed key dur none := fun _ hb => (Option.not_mem_none _ hb).elim

/-- What is under way for the workflow has passed the check of the interval, and its runs are an
interval apart. -/
structure Spaced (key : WorkflowKey) (dur : String) (intervalSecs : ℕ) (st : Scheduler) : Prop where
  passed : ∀ p, Passed key dur (st.busy p)
  spaced : (st.runsOf key).Pairwise fun newer older =>
    older.now + seconds intervalSecs ≤ newer.now

theorem Spaced.step (hdur : parseDurationSecs dur = .ok intervalSecs)
    (h : Spaced key dur intervalSecs st) (hrow : HasInterval key dur act)
    (hfr : CreatesOnFreshAnchor key st act) :
    Spaced key dur intervalSecs (st.step parse act) := by
  have hpas : ∀ {p b}, (st.step parse act).busy = Function.update st.busy p b →
      Passed key dur b → ∀ q, Passed key dur ((st.step parse act).busy q) := by
    intro p b hbusy hb
    rw [hbusy, Function.forall_update_iff st.busy fun _ => Passed key dur]
    exact ⟨hb, fun q _ => h.passed q⟩
  rcases step_cases parse st act with ⟨p, d, hdue, _, _, hruns, hbusy⟩ |
    ⟨p, d, rfl, hown, _, hruns, hbusy⟩ | ⟨_, hruns, p, b, hbusy, hb⟩
  · refine ⟨hpas hbusy ?_, by rw [runsOf, hruns]; exact h.spaced⟩
    rintro _ ⟨⟩
    exact h.passed p (.due d) hdue
  · refine ⟨hpas hbusy passed_none, ?_⟩
    rw [runsOf, hruns, List.filter_cons]
    split_ifs with hkey
    · refine List.pairwise_cons.mpr ⟨?_, h.spaced⟩
      have hkey : d.key = key := of_decide_eq_true hkey
      have hfr : FreshAnchor st d := by
        simp only [CreatesOnFreshAnchor, hown] at hfr
        exact hfr hkey
      intro r hr
      obtain ⟨anchor, hlast, hle, hnow⟩ := hfr r (hkey ▸ hr)
      have hpas : intervalShouldFire dur d.last d.now := h.passed p _ hown hkey
      rw [Option.mem_def.mp hlast] at hpas
      have helapsed := intervalShouldFire_elapsed hdur hnow hpas
      show r.now + seconds intervalSecs ≤ d.now
      omega
    · exact h.spaced
  refine ⟨hpas hbusy ?_, by rw [runsOf, hruns]; exact h.spaced⟩
  rcases hb with rfl | rfl | ⟨row, now, anchorRead, authorized, d, rfl, rfl, hrowkey, hdecided⟩
  · exact h.passed p
  · exact passed_none
  rintro _ ⟨⟩ hkey
  obtain ⟨enabled, hdef⟩ := hrow (hrowkey ▸ hkey)
  exact hdecided enabled dur hdef

/-- **Interval runs are an interval apart**, with any number of processes, any order of their steps
and any restarts, if each is created on an anchor that is not older than the runs before it. -/
theorem interval_runs_spaced (parse : String → Option CronSchedule) (key : WorkflowKey)
    (dur : String) (intervalSecs : ℕ) (hdur : parseDurationSecs dur = .ok intervalSecs)
    (acts : List SchedulerAct) (hrows : ∀ act ∈ acts, HasInterval key dur act)
    (hfresh : AllSteps (step parse) (CreatesOnFreshAnchor key) init acts) :
    ((run parse acts).runsOf key).Pairwise fun newer older =>
      older.now + seconds intervalSecs ≤ newer.now := by
  suffices Spaced key dur intervalSecs (run parse acts) from this.spaced
  induction acts using List.reverseRecOn with
  | nil => exact ⟨fun _ => passed_none, .nil⟩
  | append_singleton acts act ih =>
    obtain ⟨hbefore, hlast, _⟩ := allSteps_append.mp hfresh
    rw [run, List.foldl_concat]
    have hinv := ih (fun a ha => hrows a (List.mem_append_left _ ha)) hbefore
    exact hinv.step hdur (hrows act (by simp)) hlast

end Spaced

/-! ### An hourly workflow -/

def hourlyRow : WorkflowRow where
  key := (⟨⟨1⟩⟩, ⟨2⟩)
  channelId := some ⟨3⟩
  definition := some ⟨true, .schedule none (some "1h")⟩

def tickAt (n : ℤ) : List SchedulerAct :=
  [.evaluate 0 hourlyRow (seconds n) true true, .claim 0 .executed, .createRun 0 true]

/-- The first run is created half a minute before the hour, for the bucket of the last hour.  After a
restart the start of that bucket is the anchor, and the next run is created a minute later. -/
theorem restart_fires_twice :
    parseDurationSecs "1h" = .ok 3600 ∧
    ((run (fun _ => none) (tickAt 35970 ++ tickAt 39570 ++ [.restart 0] ++ tickAt 39630)).runsOf
      hourlyRow.key).map WorkflowRun.now = [seconds 39630, seconds 39570] := by
  decide +kernel

theorem hourly_spaced :
    ((run (fun _ => none) (tickAt 35970 ++ tickAt 39570 ++ tickAt 39630 ++ tickAt 43170)).runsOf
      hourlyRow.key).length = 2 ∧
    ((run (fun _ => none) (tickAt 35970 ++ tickAt 39570 ++ tickAt 39630 ++ tickAt 43170)).runsOf
      hourlyRow.key).Pairwise fun newer older => older.now + seconds 3600 ≤ newer.now := by
  refine ⟨by decide +kernel, interval_runs_spaced (fun _ => none) hourlyRow.key "1h" 3600
    (by decide) _ ?_ (by decide +kernel)⟩
  simp [tickAt, HasInterval, hourlyRow]

end Scheduler

end Buzz.Workflow
