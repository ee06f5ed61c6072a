import Buzz.Acp.RelayTask
import Buzz.Git.RepoName

/-!
Fairness of the overflow recovery.

A run of the recovery is a run of its schedule: each call finds the schedule that the call before it
left, in a task that may have changed at will otherwise.  The subscriptions are fixed, so that nothing
but the recovery changes the schedule.
-/

namespace Buzz.Acp.RelayTask

open Buzz.Core List RelayTask.Task

/-! ### Ids -/

lemma toString_injective : Function.Injective Uuid.toString := by
  rintro ⟨u⟩ ⟨v⟩ h
  have hdigits : hexDigits 32 u.toNat = hexDigits 32 v.toNat := by
    simpa [hexDigits, Uuid.toString, and_assoc] using h
  rw [BitVec.eq_of_toNat_eq (Git.hexDigits_inj u.isLt v.isLt hdigits)]

lemma Sub.id_injective : Function.Injective Sub.id := by
  rintro (_ | u) (_ | v) h <;> have h := congrArg String.toList h <;>
    simp [Sub.id, membershipNotifSubId, channelSubId] at h
  · rfl
  · rw [toString_injective (String.toList_injective h)]

/-! ### What is pending -/

/-- The subscription has a loss to recover, and no other path is to ask for it again. -/
def Eligible (st : BgState) : Sub → Prop
  | .channel channelId => channelId ∈ st.channelDroppedSince ∧
      (st.activeSubscriptions.lookup channelId).isSome ∧ (st.activeFilters.lookup channelId).isSome ∧
      (st.rateLimitedPending.lookup channelId).isNone ∧ (st.resubscribeRetry.lookup channelId).isNone
  | .membership => st.membershipSubActive = true ∧ st.membershipDroppedSince.isSome ∧
      st.membershipResubNeeded = false

lemma exists_candidates (st : BgState) : ∃ subs : List Sub,
    nextChannel st = subs.argmin (attemptKey st) ∧ ∀ sub, sub ∈ subs ↔ Eligible st sub := by
  refine ⟨_, rfl, fun sub => ?_⟩
  cases sub <;> simp [Eligible, AList.mem_keys]

/-- When a recovery may be attempted, if there is something to recover. -/
def readyAt (st : BgState) (now gateNow later : ℕ) : Option ℕ × BgState :=
  match nextChannel st with
  | none => (none, st)
  | some _ =>
    match st.checkRateGate gateNow with
    | (gate, st) => (some (max (st.recovery.nextAttempt.getD now) (gate.getD later)), st)

lemma readyAt_eq_none {st : BgState} :
    (readyAt st now gateNow later).1 = none ↔ ∀ sub, ¬ Eligible st sub := by
  have hnone : (readyAt st now gateNow later).1 = none ↔ nextChannel st = none := by
    unfold readyAt
    split <;> simp [*]
  obtain ⟨subs, hnext, hmem⟩ := exists_candidates st
  rw [hnone, hnext, argmin_eq_none, eq_nil_iff_forall_not_mem]
  exact forall_congr' fun sub => not_congr (hmem sub)

/-! ### Calls -/

/-- A call of the recovery, and the task it finds but for the schedule. -/
structure Call where
  task : Task
  reading : Reading
  clock : reading.now ≤ reading.ended

namespace RecoverySchedule

variable (s : RecoverySchedule) (c : Call)

def task : Task := c.task.setSt { c.task.st with recovery := s }

def recover : RecoverySchedule := ((s.task c).recoverOne c.reading).st.recovery

variable (calls : List Call)

def run : RecoverySchedule := calls.foldl recover ⟨none, ∅⟩

/-- The subscription that a call attempts. -/
def attempted : Option Sub :=
  if (s.task c).recoveryDue c.reading = true ∧
      ((s.task c).st.checkRateGate c.reading.now).1 = none then
    nextChannel (s.task c).st
  else none

lemma recovery_recoverSub (t : Task) (r : Reading) (sub : Sub) :
    (t.recoverSub r sub).st.recovery = t.st.recovery := by
  unfold recoverSub replayChannel replayMembership
  repeat' split
  all_goals rfl

lemma recover_eq : s.recover c =
    match s.attempted c with
    | none => s
    | some sub =>
      ⟨some (c.reading.ended + recoveryInterval), s.lastAttempt.insert sub.id c.reading.now⟩ := by
  obtain ⟨gate, hgate⟩ : ∃ gate, ((s.task c).st.checkRateGate c.reading.now).2 =
      { (s.task c).st with rateLimitGate := gate } := by
    unfold BgState.checkRateGate
    repeat' split
    all_goals exact ⟨_, rfl⟩
  unfold recover attempted recoverOne
  cases hdue : (s.task c).recoveryDue c.reading with
  | false => rfl
  | true =>
    rcases hchk : (s.task c).st.checkRateGate c.reading.now with ⟨_ | deadline, st⟩
    all_goals
      rw [hchk] at hgate
      obtain rfl : st = _ := hgate
    · have hsame : nextChannel { (s.task c).st with rateLimitGate := gate } =
        nextChannel (s.task c).st := rfl
      simp only [if_true, true_and, hsame]
      cases nextChannel (s.task c).st with
      | none => rfl
      | some sub =>
        simp only [setSt, BgState.paceRecovery, recovery_recoverSub, BgState.noteAttempt]
        rfl
    · rfl

variable {s c} {moment : ℕ} {x y : Sub}

lemma due_of_attempted (h : s.attempted c = some x) :
    ∀ next ∈ s.nextAttempt, next ≤ c.reading.now := by
  unfold attempted at h
  split_ifs at h with hopen
  have hdue : s.nextAttempt.all (fun next => next ≤ c.reading.now) :=
    (of_decide_eq_true hopen.1).2.2
  exact fun next hnext => of_decide_eq_true ((Option.all_eq_true ..).mp hdue next hnext)

/-- Who waits was last attempted when the one attempted now was, or later. -/
lemma le_of_attempted (h : s.attempted c = some x)
    (hx : s.lastAttempt.lookup x.id = some time) (hy : Eligible c.task.st y) :
    ∃ time' ∈ s.lastAttempt.lookup y.id, time ≤ time' := by
  unfold attempted at h
  split_ifs at h
  obtain ⟨subs, hnext, hmem⟩ := exists_candidates (s.task c).st
  have hcand : Eligible (s.task c).st y := by cases y <;> exact hy
  rw [hnext] at h
  have hkey := le_of_mem_argmin ((hmem y).mpr hcand) h
  have hsame : (s.task c).st.recovery = s := rfl
  simp only [attemptKey, hsame, hx, Prod.Lex.toLex_le_toLex] at hkey
  rcases hkey with hlt | ⟨heq, -⟩
  · exact WithBot.coe_le_iff.mp hlt.le
  · exact ⟨time, heq.symm, le_rfl⟩

/-! ### Runs -/

/-- No attempt is due before the moment. -/
def Past (s : RecoverySchedule) (moment : ℕ) : Prop := ∃ next ∈ s.nextAttempt, moment ≤ next

lemma Past.recover (h : s.Past moment) (c : Call) : (s.recover c).Past moment := by
  rw [recover_eq]
  cases hsub : s.attempted c with
  | none => exact h
  | some sub =>
    obtain ⟨next, hnext, hle⟩ := h
    have hdue := due_of_attempted hsub next hnext
    have hclock := c.clock
    exact ⟨_, rfl, by omega⟩

/-- Every attempt lies before the next one that is due. -/
def Fresh (s : RecoverySchedule) : Prop :=
  ∀ id, ∀ time ∈ s.lastAttempt.lookup id, s.Past (time + 1)

lemma Fresh.recover (h : s.Fresh) (c : Call) : (s.recover c).Fresh := by
  intro id time htime
  cases hsub : s.attempted c with
  | none =>
    rw [recover_eq, hsub] at htime ⊢
    exact h id time htime
  | some sub =>
    by_cases hid : id = sub.id
    · subst hid
      rw [recover_eq, hsub] at htime ⊢
      obtain rfl := Option.some.inj ((AList.lookup_insert _).symm.trans htime)
      have hpositive : 0 < recoveryInterval := by decide
      have hclock := c.clock
      exact ⟨_, rfl, by omega⟩
    · refine (h id time ?_).recover c
      simpa [recover_eq, hsub, AList.lookup_insert_ne hid] using htime

lemma fresh_run : (run calls).Fresh := by
  refine foldlRecOn calls recover ?_ fun s h c _ => h.recover c
  rintro id time ⟨⟩

/-- `x` has been attempted after `y`. -/
def Behind (s : RecoverySchedule) (x y : Sub) : Prop :=
  ∃ time, s.lastAttempt.lookup x.id = some time ∧ ∀ time' ∈ s.lastAttempt.lookup y.id, time' < time

lemma behind_of_attempted (h : s.Fresh) (hx : s.attempted c = some x) (hne : y ≠ x) :
    (s.recover c).Behind x y := by
  rw [recover_eq, hx]
  refine ⟨c.reading.now, AList.lookup_insert _, fun time htime => ?_⟩
  rw [AList.lookup_insert_ne (Sub.id_injective.ne hne)] at htime
  obtain ⟨next, hnext, hle⟩ := h y.id time htime
  exact hle.trans (due_of_attempted hx next hnext)

lemma Behind.recover (h : s.Behind x y) (hfresh : s.Fresh) (hne : y ≠ x)
    (hy : s.attempted c ≠ some y) : (s.recover c).Behind x y := by
  cases hsub : s.attempted c with
  | none =>
    rw [recover_eq, hsub]
    exact h
  | some sub =>
    by_cases hx : x = sub
    · exact behind_of_attempted hfresh (hx ▸ hsub) hne
    have hoth : y ≠ sub := fun heq => hy (heq ▸ hsub)
    rw [recover_eq, hsub]
    simpa [Behind, AList.lookup_insert_ne (Sub.id_injective.ne hx),
      AList.lookup_insert_ne (Sub.id_injective.ne hoth)] using h

lemma run_append (c : Call) : run (calls ++ [c]) = (run calls).recover c :=
  foldl_append

/-- Between two attempts at one subscription there is one at every other that waits at the second. -/
def Fair : Prop :=
  ∀ before a between b after x y, calls = before ++ a :: between ++ b :: after →
    (run before).attempted a = some x → (run (before ++ a :: between)).attempted b = some x →
    y ≠ x → Eligible b.task.st y →
    ∃ earlier c later, between = earlier ++ c :: later ∧
      (run (before ++ a :: earlier)).attempted c = some y

/-- The recovery interval lies between the end of an attempt and the next one. -/
def Spaced : Prop :=
  ∀ before a between b after x y, calls = before ++ a :: between ++ b :: after →
    (run before).attempted a = some x → (run (before ++ a :: between)).attempted b = some y →
    a.reading.ended + recoveryInterval ≤ b.reading.now

lemma fair : Fair calls := by
  rintro before a between b after x y - ha hb hne heligible
  by_contra hno
  have hbehind : ∀ earlier, earlier <+: between → (run (before ++ a :: earlier)).Behind x y := by
    intro earlier
    induction earlier using reverseRecOn with
    | nil =>
      intro _
      rw [run_append]
      exact behind_of_attempted (fresh_run before) ha hne
    | append_singleton earlier c ih =>
      rintro ⟨later, hlater⟩
      rw [← cons_append, ← append_assoc, run_append]
      refine (ih ⟨c :: later, by simpa using hlater⟩).recover (fresh_run _) hne fun hy => ?_
      exact hno ⟨earlier, c, later, by simpa using hlater.symm, hy⟩
  obtain ⟨time, htime, hlast⟩ := hbehind between (prefix_refl _)
  obtain ⟨time', htime', hle⟩ := le_of_attempted hb htime heligible
  exact absurd (hlast time' htime') (not_lt.mpr hle)

lemma spaced : Spaced calls := by
  rintro before a between b after x y - ha hb
  have hpast : ((run before).recover a).Past (a.reading.ended + recoveryInterval) := by
    rw [recover_eq, ha]
    exact ⟨_, rfl, le_rfl⟩
  have hend : (run (before ++ a :: between)).Past (a.reading.ended + recoveryInterval) := by
    rw [run, foldl_append, foldl_cons]
    exact foldlRecOn (motive := (Past · _)) between recover hpast fun _ h c _ => h.recover c
  obtain ⟨next, hnext, hle⟩ := hend
  exact hle.trans (due_of_attempted hb next hnext)

/-- **The recovery is fair**, its attempts keep their distance, and there is a time for the next one
exactly when some subscription waits. -/
theorem recovery_fair (calls : List Call) : Fair calls ∧ Spaced calls ∧
    ∀ st now gateNow later, (readyAt st now gateNow later).1 = none ↔ ∀ sub, ¬ Eligible st sub :=
  ⟨fair calls, spaced calls, fun _ _ _ _ => readyAt_eq_none⟩

end RecoverySchedule

end Buzz.Acp.RelayTask
