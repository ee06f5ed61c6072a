import Buzz.Core.Event
import Buzz.Lib.Run
import Buzz.Lib.Tally
import Buzz.Workflow.Schedule

/-!
The scheduler loop.

Every relay process runs the same loop: on a tick it looks at each enabled workflow, decides whether a
scheduled one is due and for which instant, claims that instant in the database, and creates a run if
the claim is its own.  The claim is one insertion that does nothing when the row is there already; it
is the only thing the processes share, apart from the runs.

A process evaluates one workflow at a time.  Between the evaluation, the claim and the creation of the
run the other processes go on, so each of the three is a step of its own; a restart loses the anchors
in memory and whatever was under way.
-/

namespace Buzz.Workflow

open Lib Buzz.Core Function

/-! ### Workflows -/

/-- The triggers; filters of the others are not read by the loop. -/
inductive TriggerDef
  | messagePosted
  | reactionAdded
  | diffPosted
  | schedule (cron interval : Option String)
  | webhook

structure WorkflowDef where
  enabled : Bool
  trigger : TriggerDef

abbrev WorkflowKey := CommunityId × Uuid

/-- A row of `list_all_enabled_workflows`; `definition` is `none` if it does not parse. -/
structure WorkflowRow where
  key : WorkflowKey
  channelId : Option Uuid
  definition : Option WorkflowDef

inductive TriggerType
  | cron | interval
deriving DecidableEq

/-- What a tick has decided to fire.  `last` is the anchor the decision was made on. -/
structure Due where
  key : WorkflowKey
  scheduledFor : ℤ
  triggerType : TriggerType
  last : Option ℤ
  now : ℤ

structure Fire where
  key : WorkflowKey
  scheduledFor : ℤ
deriving DecidableEq

def Due.fire (d : Due) : Fire := ⟨d.key, d.scheduledFor⟩

/-- A created run: what it was created for, and the time its tick read. -/
structure WorkflowRun where
  fire : Fire
  now : ℤ

/-! ### Processes -/

/-- The workflow a process is busy with. -/
inductive Pending
  | due (d : Due)
  | claimed (d : Due)

structure Process where
  lastFired : Table WorkflowKey ℤ
  busy : Option Pending

def Process.fresh : Process := ⟨∅, none⟩

structure Scheduler where
  processes : ℕ → Process
  claims : List Fire
  runs : List WorkflowRun

/-- How the claim's statement ends. -/
inductive ClaimOutcome
  /-- It is executed. -/
  | executed
  /-- It is executed, but the workflow has been deleted. -/
  | deleted
  | failed

inductive SchedulerAct
  /-- The loop body for one row up to the claim; `anchorRead` if the read of the restart anchor
  succeeds, `authorized` if the owner may still act on the channel. -/
  | evaluate (process : ℕ) (row : WorkflowRow) (now : ℤ) (anchorRead authorized : Bool)
  | claim (process : ℕ) (outcome : ClaimOutcome)
  | createRun (process : ℕ) (created : Bool)
  /-- The end of a tick: anchors of workflows that are not active any more are dropped. -/
  | prune (process : ℕ) (active : List WorkflowKey)
  | restart (process : ℕ)

namespace Scheduler

def init : Scheduler := ⟨fun _ => .fresh, [], []⟩

def setProcess (st : Scheduler) (p : ℕ) (process : Process) : Scheduler :=
  { st with processes := Function.update st.processes p process }

def latestScheduledWorkflowFire (st : Scheduler) (key : WorkflowKey) : Option ℤ :=
  ((st.claims.filter fun f => f.key = key).map Fire.scheduledFor).max?

def anchor (st : Scheduler) (process : Process) (key : WorkflowKey) (anchorRead : Bool) :
    Option ℤ :=
  match process.lastFired.lookup key with
  | some t => some t
  | none => if anchorRead then st.latestScheduledWorkflowFire key else none

variable (parse : String → Option CronSchedule)

def evaluate (st : Scheduler) (process : Process)
    (row : WorkflowRow) (now : ℤ) (anchorRead authorized : Bool) : Process :=
  match row.definition, row.channelId with
  | some ⟨true, trigger⟩, some _ =>
    match trigger with
    | .schedule (some expr) none =>
      match cronFireInstant parse expr now 60 with
      | some instant =>
        if authorized then { process with busy := some (.due ⟨row.key, instant, .cron, none, now⟩) }
        else process
      | none => process
    | .schedule none (some dur) =>
      let last := st.anchor process row.key anchorRead
      if intervalShouldFire dur last now then
        match intervalFireInstant dur now with
        | some instant =>
          if authorized then
            { process with busy := some (.due ⟨row.key, instant, .interval, last, now⟩) }
          else process
        | none => process
      -- the first tick of a workflow without anchor starts its clock
      else if last = none then { process with lastFired := process.lastFired.insert row.key now }
      else process
    | _ => process
  | _, _ => process

/-- The process after a claim that found the row there, or after a run: an interval starts anew. -/
def settle (process : Process) (d : Due) : Process :=
  { lastFired :=
      if d.triggerType = .interval then process.lastFired.insert d.key d.now else process.lastFired
    busy := none }

def step (st : Scheduler) : SchedulerAct → Scheduler
  | .evaluate p row now anchorRead authorized =>
    match (st.processes p).busy with
    | none => st.setProcess p (st.evaluate parse (st.processes p) row now anchorRead authorized)
    | some _ => st
  | .claim p outcome =>
    match (st.processes p).busy, outcome with
    | some (.due d), .executed =>
      if d.fire ∈ st.claims then st.setProcess p (settle (st.processes p) d)
      else { st.setProcess p { st.processes p with busy := some (.claimed d) } with
        claims := d.fire :: st.claims }
    | some (.due d), .deleted => st.setProcess p (settle (st.processes p) d)
    | some (.due _), .failed => st.setProcess p { st.processes p with busy := none }
    | _, _ => st
  | .createRun p created =>
    match (st.processes p).busy with
    | some (.claimed d) =>
      if created then
        { st.setProcess p (settle (st.processes p) d) with runs := ⟨d.fire, d.now⟩ :: st.runs }
      else st.setProcess p { st.processes p with busy := none }
    | _ => st
  | .prune p active =>
    st.setProcess p { st.processes p with
      lastFired := retain (fun key _ => decide (key ∈ active)) (st.processes p).lastFired }
  | .restart p => st.setProcess p .fresh

def run (acts : List SchedulerAct) : Scheduler :=
  acts.foldl (step parse) init

/-! ### What a step does -/

section Steps

def busy (st : Scheduler) (p : ℕ) : Option Pending := (st.processes p).busy

@[simp] lemma busy_setProcess (st : Scheduler) (p : ℕ) (process : Process) :
    (st.setProcess p process).busy = Function.update st.busy p process.busy := by
  funext q
  by_cases hq : q = p
  · subst hq
    simp [busy, setProcess]
  · simp [busy, setProcess, update_of_ne hq]

/-- The decision is one that the row's trigger asks for. -/
def Decided (row : WorkflowRow) (d : Due) : Prop :=
  d.key = row.key ∧ ∀ enabled dur,
    row.definition = some ⟨enabled, .schedule none (some dur)⟩ →
      intervalShouldFire dur d.last d.now

variable (parse : String → Option CronSchedule)

lemma evaluate_busy (st : Scheduler) (process : Process)
    (row : WorkflowRow) (now : ℤ) (anchorRead authorized : Bool) :
    (st.evaluate parse process row now anchorRead authorized).busy = process.busy ∨
      ∃ d, (st.evaluate parse process row now anchorRead authorized).busy = some (.due d) ∧
        Decided row d := by
  unfold evaluate
  split
  · next trigger _ hdef hchan =>
    split
    · split
      · split_ifs
        · refine .inr ⟨_, rfl, rfl, ?_⟩
          intro enabled dur hrow
          rw [hdef] at hrow
          cases hrow
        · exact .inl rfl
      · exact .inl rfl
    · next dur =>
      by_cases hfire : intervalShouldFire dur (st.anchor process row.key anchorRead) now
      · simp only [hfire, if_true]
        split
        · split_ifs
          · refine .inr ⟨_, rfl, rfl, ?_⟩
            intro enabled dur' hrow
            rw [hdef] at hrow
            cases hrow
            exact hfire
          · exact .inl rfl
        · exact .inl rfl
      simp only [hfire, Bool.false_eq_true, if_false]
      split_ifs
      · exact .inl rfl
      · exact .inl rfl
    · exact .inl rfl
  · exact .inl rfl

/-- A step claims an instant that nobody has claimed, or creates the run of a claim, or leaves
claims and runs alone; then it lets a process go or gives it a decision. -/
theorem step_cases (st : Scheduler) (act : SchedulerAct) :
    (∃ p d, st.busy p = some (.due d) ∧ d.fire ∉ st.claims ∧
      (st.step parse act).claims = d.fire :: st.claims ∧ (st.step parse act).runs = st.runs ∧
      (st.step parse act).busy = Function.update st.busy p (some (.claimed d))) ∨
    (∃ p d, act = .createRun p true ∧ st.busy p = some (.claimed d) ∧
      (st.step parse act).claims = st.claims ∧
      (st.step parse act).runs = ⟨d.fire, d.now⟩ :: st.runs ∧
      (st.step parse act).busy = Function.update st.busy p none) ∨
    ((st.step parse act).claims = st.claims ∧ (st.step parse act).runs = st.runs ∧
      ∃ p b, (st.step parse act).busy = Function.update st.busy p b ∧
        (b = st.busy p ∨ b = none ∨ ∃ row now anchorRead authorized d,
          act = .evaluate p row now anchorRead authorized ∧ b = some (.due d) ∧
          Decided row d)) := by
  have hsame : ∀ p, st.busy = update st.busy p (st.busy p) := fun p => by simp
  cases act with
  | evaluate p row now anchorRead authorized =>
    right; right
    simp only [step]
    split
    · refine ⟨rfl, rfl, p, _, busy_setProcess _ _ _, ?_⟩
      rcases evaluate_busy parse st (st.processes p) row now anchorRead authorized with
        hb | ⟨d, hb, hd⟩
      · exact .inl hb
      · exact .inr (.inr ⟨row, now, anchorRead, authorized, d, rfl, hb, hd⟩)
    · exact ⟨rfl, rfl, p, _, hsame p, .inl rfl⟩
  | claim p outcome =>
    simp only [step]
    split
    · next d hb =>
      split_ifs with hclaimed
      · exact .inr (.inr ⟨rfl, rfl, p, none, busy_setProcess _ _ _, .inr (.inl rfl)⟩)
      · exact .inl ⟨p, d, hb, hclaimed, rfl, rfl, busy_setProcess _ _ _⟩
    · exact .inr (.inr ⟨rfl, rfl, p, none, busy_setProcess _ _ _, .inr (.inl rfl)⟩)
    · exact .inr (.inr ⟨rfl, rfl, p, none, busy_setProcess _ _ _, .inr (.inl rfl)⟩)
    · exact .inr (.inr ⟨rfl, rfl, p, _, hsame p, .inl rfl⟩)
  | createRun p created =>
    simp only [step]
    split
    · next d hb =>
      cases created with
      | true => exact .inr (.inl ⟨p, d, rfl, hb, rfl, rfl, busy_setProcess _ _ _⟩)
      | false => exact .inr (.inr ⟨rfl, rfl, p, none, busy_setProcess _ _ _, .inr (.inl rfl)⟩)
    · exact .inr (.inr ⟨rfl, rfl, p, _, hsame p, .inl rfl⟩)
  | prune p active =>
    exact .inr (.inr ⟨rfl, rfl, p, _, busy_setProcess _ _ _, .inl rfl⟩)
  | restart p =>
    exact .inr (.inr ⟨rfl, rfl, p, none, busy_setProcess _ _ _, .inr (.inl rfl)⟩)

end Steps

/-! ### At most one run for an instant -/

/-- Runs and claims of processes that are about to create a run are claimed, and by nobody else. -/
structure AtMostOnce (st : Scheduler) : Prop where
  runsClaimed : ∀ r ∈ st.runs, r.fire ∈ st.claims
  ownClaimed : ∀ p d, st.busy p = some (.claimed d) →
    d.fire ∈ st.claims ∧ ∀ r ∈ st.runs, r.fire ≠ d.fire
  ownDistinct : ∀ p q d e, p ≠ q → st.busy p = some (.claimed d) → st.busy q = some (.claimed e) →
    d.fire ≠ e.fire
  runsDistinct : st.runs.Pairwise fun r r' => r.fire ≠ r'.fire

section AtMostOnce

variable {parse : String → Option CronSchedule} {st : Scheduler}

lemma atMostOnce_init : AtMostOnce init where
  runsClaimed r hr := by cases hr
  ownClaimed p d hp := by cases hp
  ownDistinct p q d e _ hp := by cases hp
  runsDistinct := List.Pairwise.nil

lemma claimed_of_update {busy : ℕ → Option Pending} (h : update busy p b q = some (.claimed e)) :
    q = p ∧ b = some (.claimed e) ∨ q ≠ p ∧ busy q = some (.claimed e) := by
  rw [update_apply] at h
  split_ifs at h with hq
  · exact .inl ⟨hq, h⟩
  · exact .inr ⟨hq, h⟩

theorem AtMostOnce.step (h : AtMostOnce st) (act : SchedulerAct) :
    AtMostOnce (st.step parse act) := by
  rcases step_cases parse st act with ⟨p, d, _, hnew, hcls, hruns, hbusy⟩ |
    ⟨p, d, _, hown, hcls, hruns, hbusy⟩ | ⟨hcls, hruns, p, b, hbusy, hb⟩
  · -- a new claim: nothing else is of that instant
    have hfr : ∀ q e, st.busy q = some (.claimed e) → e.fire ≠ d.fire := by
      intro q e he heq
      exact hnew (heq ▸ (h.ownClaimed q e he).1)
    refine ⟨?_, ?_, ?_, ?_⟩
    · rw [hruns, hcls]
      exact fun r hr => List.mem_cons_of_mem _ (h.runsClaimed r hr)
    · intro q e he
      rw [hcls, hruns]
      rcases claimed_of_update (hbusy ▸ he) with ⟨rfl, ⟨⟩⟩ | ⟨-, he⟩
      · exact ⟨List.mem_cons_self, fun r hr heq => hnew (heq ▸ h.runsClaimed r hr)⟩
      · exact (h.ownClaimed q e he).imp_left (List.mem_cons_of_mem _)
    · intro q q' e e' hne he he'
      rcases claimed_of_update (hbusy ▸ he) with ⟨rfl, ⟨⟩⟩ | ⟨-, he⟩ <;>
        rcases claimed_of_update (hbusy ▸ he') with ⟨rfl, ⟨⟩⟩ | ⟨-, he'⟩
      · exact absurd rfl hne
      · exact (hfr q' e' he').symm
      · exact hfr q e he
      · exact h.ownDistinct q q' e e' hne he he'
    · rw [hruns]
      exact h.runsDistinct
  · -- a run: its instant is no longer anybody's to create
    have hothers : ∀ q e, (st.step parse act).busy q = some (.claimed e) →
        q ≠ p ∧ st.busy q = some (.claimed e) := by
      intro q e he
      rcases claimed_of_update (hbusy ▸ he) with ⟨-, ⟨⟩⟩ | hoth
      exact hoth
    obtain ⟨hmem, hdistinct⟩ := h.ownClaimed p d hown
    refine ⟨?_, ?_, ?_, ?_⟩
    · rw [hruns, hcls]
      intro r hr
      rcases List.mem_cons.mp hr with rfl | hr
      · exact hmem
      · exact h.runsClaimed r hr
    · intro q e he
      obtain ⟨hq, he⟩ := hothers q e he
      obtain ⟨hmem', hruns'⟩ := h.ownClaimed q e he
      rw [hcls, hruns]
      refine ⟨hmem', ?_⟩
      intro r hr
      rcases List.mem_cons.mp hr with rfl | hr
      · exact h.ownDistinct p q d e (Ne.symm hq) hown he
      · exact hruns' r hr
    · intro q q' e e' hne he he'
      exact h.ownDistinct q q' e e' hne (hothers q e he).2 (hothers q' e' he').2
    · rw [hruns, List.pairwise_cons]
      exact ⟨fun r hr => (hdistinct r hr).symm, h.runsDistinct⟩
  have hkeep : ∀ q e, (st.step parse act).busy q = some (.claimed e) →
      st.busy q = some (.claimed e) := by
    intro q e he
    rcases claimed_of_update (hbusy ▸ he) with ⟨rfl, he⟩ | ⟨-, he⟩
    · rcases hb with rfl | rfl | ⟨_, _, _, _, d, _, rfl, _⟩
      · exact he
      · cases he
      · cases he
    · exact he
  refine ⟨?_, ?_, ?_, ?_⟩
  · rw [hruns, hcls]
    exact h.runsClaimed
  · intro q e he
    rw [hcls, hruns]
    exact h.ownClaimed q e (hkeep q e he)
  · intro q q' e e' hne he he'
    exact h.ownDistinct q q' e e' hne (hkeep q e he) (hkeep q' e' he')
  · rw [hruns]
    exact h.runsDistinct

/-- **Run lemma.** No two runs are of the same instant of a workflow, with any number of processes
and any order of their steps. -/
theorem atMostOnce_run (acts : List SchedulerAct) : AtMostOnce (run parse acts) := by
  induction acts using List.reverseRecOn with
  | nil => exact atMostOnce_init
  | append_singleton acts act ih =>
    rw [run, List.foldl_concat]
    exact ih.step act

end AtMostOnce

end Scheduler

end Buzz.Workflow
