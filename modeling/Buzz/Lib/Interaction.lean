import Buzz.Lib.Run
import Mathlib.Data.List.Infix

/-!
Programs that share a world.

A program makes calls on a world that it does not own, and goes on with the replies.  Several
programs run side by side: a step is one call of one of them, or something that the world does by
itself.

The argument has two halves.  What a program does is read off its *log*, the calls it has made and
their replies: `Along` says that a program, whatever the replies are, makes only calls that its log
justifies and returns only values that its log justifies.  What a log is worth is a fact about the
world: `Holds` says that what each entry of a log reported is still true in the sense given by `R`.
Both are kept by every step of every program, so they hold along every run.
-/

namespace Buzz.Lib

open Function

variable {Op : Type} {Reply : Op → Type} {α β : Type}

/-- A program that has returned, or that makes a call and goes on with the reply. -/
inductive Prog (Op : Type) (Reply : Op → Type) (α : Type)
  | ret (a : α)
  | call (op : Op) (k : Reply op → Prog Op Reply α)

namespace Prog

def bind : Prog Op Reply α → (α → Prog Op Reply β) → Prog Op Reply β
  | .ret a, f => f a
  | .call op k, f => .call op fun r => (k r).bind f

instance : Monad (Prog Op Reply) where
  pure := ret
  bind := bind

def ask (op : Op) : Prog Op Reply (Reply op) := .call op .ret

def next? : Prog Op Reply α → Option Op
  | .ret _ => none
  | .call op _ => some op

def result? : Prog Op Reply α → Option α
  | .ret a => some a
  | .call _ _ => none

end Prog

/-! ### Logs -/

abbrev Log (Op : Type) (Reply : Op → Type) := List (Σ op, Reply op)

namespace Prog

/-- Whatever the replies are, each call is good for the log before it, and so is what is returned.
-/
def Along (good : Log Op Reply → Op → Prop) (post : α → Log Op Reply → Prop) :
    Prog Op Reply α → Log Op Reply → Prop
  | .ret a, log => post a log
  | .call op k, log => good log op ∧ ∀ r, (k r).Along good post (⟨op, r⟩ :: log)

variable {good : Log Op Reply → Op → Prop} {post : α → Log Op Reply → Prop}
  {post' : β → Log Op Reply → Prop} {log : Log Op Reply}

variable {p : Prog Op Reply α}

lemma Along.next (h : p.Along good post log) {op : Op} (hop : p.next? = some op) : good log op := by
  cases p with
  | ret a => cases hop
  | call op' k =>
    obtain rfl := Option.some.inj hop
    exact h.1

lemma Along.result (h : p.Along good post log) {a : α} (ha : p.result? = some a) : post a log := by
  cases p with
  | ret a' =>
    obtain rfl := Option.some.inj ha
    exact h
  | call op k => cases ha

/-- **The rule for sequences.** What follows a program has to be shown for each way it can end. -/
lemma Along.bind {f : α → Prog Op Reply β}
    (h : p.Along good (fun a log => (f a).Along good post' log) log) :
    (p >>= f).Along good post' log := by
  induction p generalizing log with
  | ret a => exact h
  | call op k ih => exact ⟨h.1, fun r => ih r (h.2 r)⟩

lemma Along.mono {post₂ : α → Log Op Reply → Prop}
    (h : p.Along good post log) (himp : ∀ a log', log <:+ log' → post a log' → post₂ a log') :
    p.Along good post₂ log := by
  induction p generalizing log with
  | ret a => exact himp a log List.suffix_rfl h
  | call op k ih =>
    refine ⟨h.1, fun r => ih r (h.2 r) ?_⟩
    intro a log' hlog
    exact himp a log' ((List.suffix_cons _ _).trans hlog)

/-! ### Programs that may fail -/

variable {ε : Type} {postE' : Except ε β → Log Op Reply → Prop}

/-- What is asked of a value, and of an error. -/
def either (onOk : α → Log Op Reply → Prop) (onError : ε → Log Op Reply → Prop) :
    Except ε α → Log Op Reply → Prop
  | .ok a => onOk a
  | .error e => onError e

/-- The rule for sequences that stop at the first failure. -/
lemma Along.exceptBind {p : ExceptT ε (Prog Op Reply) α} {f : α → ExceptT ε (Prog Op Reply) β}
    (h : p.run.Along good (either (fun a => (f a).run.Along good postE')
      fun e => postE' (.error e)) log) : (p >>= f).run.Along good postE' log := by
  refine Along.bind (h.mono ?_)
  intro r log' _ hr
  cases r with
  | ok a => exact hr
  | error e => exact hr

end Prog

/-! ### Programs side by side -/

/-- How a world answers a call and changes with it, and what it does by itself. -/
structure Semantics (σ Op : Type) (Reply : Op → Type) (Choice Env : Type) where
  perform : σ → (op : Op) → Choice → Reply op × σ
  happen : σ → Env → σ

/-- A shared world, the programs, and what each of them has done. -/
structure Interleaving (σ Op : Type) (Reply : Op → Type) (α : Type) where
  world : σ
  progs : ℕ → Prog Op Reply α
  logs : ℕ → Log Op Reply

/-- One call of one program, or something the world does by itself. -/
inductive Label (Choice Env : Type)
  | prog (i : ℕ) (choice : Choice)
  | env (e : Env)

namespace Interleaving

variable {σ Choice Env : Type} (W : Semantics σ Op Reply Choice Env)

def advance (S : Interleaving σ Op Reply α) (i : ℕ) (choice : Choice) : Interleaving σ Op Reply α :=
  match S.progs i with
  | .ret _ => S
  | .call op k =>
    let answered := W.perform S.world op choice
    { world := answered.2
      progs := update S.progs i (k answered.1)
      logs := update S.logs i (⟨op, answered.1⟩ :: S.logs i) }

def step (S : Interleaving σ Op Reply α) : Label Choice Env → Interleaving σ Op Reply α
  | .prog i choice => S.advance W i choice
  | .env e => { S with world := W.happen S.world e }

def start (s : σ) (progs : ℕ → Prog Op Reply α) : Interleaving σ Op Reply α :=
  ⟨s, progs, fun _ => []⟩

def run (s : σ) (progs : ℕ → Prog Op Reply α) (labels : List (Label Choice Env)) :
    Interleaving σ Op Reply α :=
  labels.foldl (step W) (start s progs)

variable {W}

section Along

variable {good : ℕ → Log Op Reply → Op → Prop} {post : ℕ → α → Log Op Reply → Prop}

variable {S : Interleaving σ Op Reply α} (h : ∀ i, (S.progs i).Along (good i) (post i) (S.logs i))

include h

lemma along_step (l : Label Choice Env) (i : ℕ) :
    ((S.step W l).progs i).Along (good i) (post i) ((S.step W l).logs i) := by
  cases l with
  | env e => exact h i
  | prog j choice =>
    show ((S.advance W j choice).progs i).Along _ _ ((S.advance W j choice).logs i)
    unfold advance
    split
    · exact h i
    next op k hop =>
    by_cases hij : i = j
    · subst hij
      have hi := h i
      rw [hop] at hi
      simp only [update_self]
      exact hi.2 _
    · simp only [update_of_ne hij]
      exact h i

lemma along_foldl (labels : List (Label Choice Env)) (i : ℕ) :
    ((labels.foldl (step W) S).progs i).Along (good i) (post i) ((labels.foldl (step W) S).logs i):= by
  induction labels generalizing S with
  | nil => exact h i
  | cons l labels ih => exact ih (along_step h l)

end Along

/-! ### What a log is worth -/

/-- What each entry of a log reported, given the entries before it, still holds of the world. -/
def Holds (R : Log Op Reply → (Σ op, Reply op) → σ → Prop) : Log Op Reply → σ → Prop
  | [], _ => True
  | e :: older, s => R older e s ∧ Holds R older s

section Holds

variable {R : Log Op Reply → (Σ op, Reply op) → σ → Prop}

lemma Holds.of_suffix {log older : Log Op Reply} {e : Σ op, Reply op} {s : σ}
    (h : Holds R log s) (hsuf : e :: older <:+ log) : R older e s := by
  induction log with
  | nil => exact absurd (List.suffix_nil.mp hsuf) (List.cons_ne_nil _ _)
  | cons e' log ih =>
    obtain heq | hlog := List.suffix_cons_iff.mp hsuf
    · obtain ⟨rfl, rfl⟩ := List.cons.inj heq
      exact h.1
    · exact ih h.2 hlog

lemma Holds.mono {log : Log Op Reply} {s s' : σ} (h : Holds R log s)
    (hstable : ∀ older e, R older e s → R older e s') : Holds R log s' := by
  induction log with
  | nil => trivial
  | cons e log ih => exact ⟨hstable log e h.1, ih h.2⟩

end Holds

/-- The steps that are considered: a call of a program, or an event, in the world it meets. -/
def Allowed (allowed : σ → ℕ → Op → Prop) (happens : σ → Env → Prop)
    (S : Interleaving σ Op Reply α) : Label Choice Env → Prop
  | .prog i _ => ∀ op ∈ (S.progs i).next?, allowed S.world i op
  | .env e => happens S.world e

instance Allowed.decidable {allowed : σ → ℕ → Op → Prop} {happens : σ → Env → Prop}
    [∀ s i op, Decidable (allowed s i op)] [∀ s e, Decidable (happens s e)]
    (S : Interleaving σ Op Reply α) :
    ∀ l : Label Choice Env, Decidable (Allowed allowed happens S l)
  | .prog i _ => inferInstanceAs (Decidable (∀ op ∈ (S.progs i).next?, allowed S.world i op))
  | .env e => inferInstanceAs (Decidable (happens S.world e))

/-- **Logs stay true.** `I` is an invariant of the world.  A step keeps the invariant and the facts
of every log, and its own reply is a fact. -/
theorem holds_run {allowed : σ → ℕ → Op → Prop} {happens : σ → Env → Prop} {I : σ → Prop}
    {R : ℕ → Log Op Reply → (Σ op, Reply op) → σ → Prop}
    (hperform : ∀ s i op c, I s → allowed s i op → I (W.perform s op c).2 ∧
      (∀ j older e, R j older e s → R j older e (W.perform s op c).2) ∧
      ∀ older, Holds (R i) older s → R i older ⟨op, (W.perform s op c).1⟩ (W.perform s op c).2)
    (hhappen : ∀ s e, I s → happens s e → I (W.happen s e) ∧
      ∀ j older e', R j older e' s → R j older e' (W.happen s e))
    {s : σ} (hs : I s) {progs : ℕ → Prog Op Reply α} {labels : List (Label Choice Env)}
    (hrun : AllSteps (step W) (Allowed allowed happens) (start s progs) labels) :
    I (run W s progs labels).world ∧
      ∀ i, Holds (R i) ((run W s progs labels).logs i) (run W s progs labels).world := by
  refine hrun.invariant (I := fun S : Interleaving σ Op Reply α =>
    I S.world ∧ ∀ i, Holds (R i) (S.logs i) S.world) ?_ ⟨hs, fun _ => trivial⟩
  rintro S l ⟨hI, hlogs⟩ hl
  cases l with
  | env e =>
    obtain ⟨hI', hkept⟩ := hhappen S.world e hI hl
    exact ⟨hI', fun i => (hlogs i).mono (hkept i)⟩
  | prog i c =>
    show I (S.advance W i c).world ∧
      ∀ j, Holds (R j) ((S.advance W i c).logs j) (S.advance W i c).world
    unfold advance
    split
    · exact ⟨hI, hlogs⟩
    next op k hop =>
    obtain ⟨hI', hkept, hown⟩ := hperform S.world i op c hI (hl op (by rw [hop]; rfl))
    refine ⟨hI', fun j => ?_⟩
    by_cases hij : j = i
    · subst hij
      simp only [update_self]
      exact ⟨hown _ (hlogs j), (hlogs j).mono (hkept j)⟩
    · simp only [update_of_ne hij]
      exact (hlogs j).mono (hkept j)

end Interleaving

end Buzz.Lib
