import Buzz.Lib.Guard
import Buzz.Lib.Text
import Mathlib.Order.Bounds.Defs
import Mathlib.Order.Lattice

/-!
Schedules.

When a scheduled workflow is due: the instant of a cron expression that lies in the window before a
tick, or the start of the interval bucket that the tick falls into.  Instants are integers, the
nanoseconds since the epoch.

Cron expressions are parsed, and their instants enumerated, by a library; `CronSchedule` says what is
assumed of it.
-/

namespace Buzz.Workflow

open Lib

def seconds (n : ℤ) : ℤ := n * 1000000000

def numSeconds (d : ℤ) : ℤ := d.tdiv 1000000000

def timestamp (t : ℤ) : ℤ := t / 1000000000

/-! ### Durations -/

inductive WorkflowError
  | invalidDefinition (message : String)
  | conditionError (message : String)
deriving DecidableEq

def parseUnit (duration : String) (n : List Char) (unit : ℕ) : Except WorkflowError ℕ := do
  let count ← okOr (parseU64 (trim n)) (.invalidDefinition ("invalid duration: " ++ duration))
  refuseIf (count * unit > maxU64) (.invalidDefinition ("duration overflow: " ++ duration))
  return count * unit

def parseDurationSecs (duration : String) : Except WorkflowError ℕ :=
  let text := trim duration.toList
  let trimmed := String.ofList text
  match text.getLast? with
  | some 'd' => parseUnit trimmed text.dropLast 86400
  | some 'h' => parseUnit trimmed text.dropLast 3600
  | some 'm' => parseUnit trimmed text.dropLast 60
  | some 's' => parseUnit trimmed text.dropLast 1
  | _ => okOr (parseU64 text) (.invalidDefinition ("invalid duration: " ++ trimmed))

/-! ### Cron expressions -/

/-- Five fields get seconds and a year, six fields a year. -/
def normalizeCron (expr : String) : String :=
  match countWords false expr.toList with
  | 5 => "0 " ++ expr ++ " *"
  | 6 => expr ++ " *"
  | _ => expr

/-- A parsed cron expression: its instants, and the first of them behind a given instant. -/
structure CronSchedule where
  instants : Set ℤ
  next : ℤ → Option ℤ
  next_some : ∀ t i, next t = some i → IsLeast {j | j ∈ instants ∧ t < j} i
  next_none : ∀ t, next t = none → ∀ i ∈ instants, i ≤ t

/-- The scheduled instant in the window of `windowSecs` that ends at `now`. -/
def cronFireInstant (parse : String → Option CronSchedule) (expr : String) (now : ℤ)
    (windowSecs : ℤ) : Option ℤ :=
  match parse (normalizeCron expr) with
  | some sched => (sched.next (now - seconds windowSecs)).filter fun t => t ≤ now
  | none => none

/-! ### Intervals -/

def toI64 (n : ℕ) : ℤ := if n ≤ 9223372036854775807 then n else (n : ℤ) - 18446744073709551616

/-- The last second that can be an instant, and the first. -/
def maxTimestamp : ℤ := 8210266876799
def minTimestamp : ℤ := -8334601228800

def fromTimestamp (secs : ℤ) : Option ℤ :=
  if minTimestamp ≤ secs ∧ secs ≤ maxTimestamp then some (seconds secs) else none

/-- The start of the bucket that `now` falls into. -/
def intervalFireInstant (dur : String) (now : ℤ) : Option ℤ :=
  match parseDurationSecs dur with
  | .ok intervalSecs =>
    if intervalSecs > 0 then
      fromTimestamp (timestamp now / toI64 intervalSecs * toI64 intervalSecs)
    else none
  | .error _ => none

/-- Whether an interval has passed since the anchor; without an anchor none has. -/
def intervalShouldFire (dur : String) (lastFired : Option ℤ) (now : ℤ) : Bool :=
  match parseDurationSecs dur with
  | .ok intervalSecs => decide (intervalSecs ≤ (numSeconds (now - lastFired.getD now)).natAbs)
  | .error _ => false

/-! ### What the functions answer -/

section Answers

lemma intervalShouldFire_elapsed
    (hdur : parseDurationSecs dur = .ok intervalSecs) (hle : anchor ≤ now)
    (h : intervalShouldFire dur (some anchor) now) : anchor + seconds intervalSecs ≤ now := by
  simp only [intervalShouldFire, hdur, Option.getD_some, decide_eq_true_eq] at h
  have hnonneg : 0 ≤ now - anchor := by omega
  have hdiv : numSeconds (now - anchor) = (now - anchor) / 1000000000 :=
    Int.tdiv_eq_ediv_of_nonneg hnonneg
  rw [hdiv] at h
  unfold seconds
  omega

end Answers

end Buzz.Workflow
