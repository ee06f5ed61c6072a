import Buzz.Kube.Objects
import Buzz.Lib.Interaction

/-!
The cluster.

Pods and Secrets stand under their names.  Every change of a pod gives it a new resource version,
and a delete goes through only if the uid and the version are those of its fence.  A delete marks
the pod, which disappears later.  A call may fail before it does anything, or its answer may be lost
after.

The kubelet moves a container from never started to running to terminated and never back; it starts
one only if nothing stands against it (`CanStart`).  Other actors may put, edit and remove objects
of any name.  `used` remembers the names of Secrets that have existed or were referenced.
-/

namespace Buzz.Kube

open Lib

/-! ### Calls -/

inductive CreateOutcome
  | created | alreadyExists

inductive DeleteOutcome
  | accepted | notFound | preconditionFailed

structure NewPod where
  labels : Labels
  annotations : Labels
  referencedSecret : Option String
deriving DecidableEq

structure NewSecret where
  labels : Labels
  annotations : Labels
deriving DecidableEq

inductive Op
  | ensureNamespace (ns : String)
  | listPods (identity : AgentIdentity)
  | listSecrets (identity : AgentIdentity)
  | secretExists (name : String)
  | createSecret (name : String) (secret : NewSecret)
  | createPod (name : String) (pod : NewPod)
  | deletePod (name : String) (fence : Fence)
  | deleteSecret (name : String)
  | getPod (name : String)
  /-- `get_pod` as the garbage collector calls it before a delete. -/
  | rereadPod (name : String)
  | sleep
  | elapsed
  | newGeneration
deriving DecidableEq

def Answer : Op → Type
  | .ensureNamespace _ => Unit
  | .listPods _ => List (String × Pod) × Option ℤ
  | .listSecrets _ => List (String × Secret)
  | .secretExists _ => Bool
  | .createSecret _ _ => Unit
  | .createPod _ _ => CreateOutcome
  | .deletePod _ _ => DeleteOutcome
  | .deleteSecret _ => Unit
  | .getPod _ => Option Pod
  | .rereadPod _ => Option Pod
  | .sleep => Unit
  | .elapsed => ℕ
  | .newGeneration => String

abbrev Reply (op : Op) : Type := Except String (Answer op)

abbrev Entry := Σ op, Reply op

/-! ### The state -/

structure Cluster where
  pods : Table String Pod
  secrets : Table String Secret
  /-- Above every resource version and uid given out. -/
  next : ℕ
  used : List String

namespace Cluster

variable (c : Cluster) (name : String) (pod : Pod) (status : PodStatus)

def putPod : Cluster :=
  { c with
    pods := c.pods.insert name { pod with fence := ⟨pod.fence.uid, c.next⟩ }
    next := c.next + 1
    used := pod.referencedSecret.toList ++ c.used }

/-- An object of a name that was free, or in place of the one there. -/
def newPod : Cluster :=
  c.putPod name { pod with fence := ⟨c.next, c.next⟩ }

def removePod : Cluster := { c with pods := c.pods.erase name }

def putSecret (secret : Secret) : Cluster :=
  { c with secrets := c.secrets.insert name secret, used := name :: c.used }

def removeSecret : Cluster :=
  { c with secrets := c.secrets.erase name }

/-! ### Answers -/

/-- What the world chooses in a call: whether it fails, and whether it has taken effect then; the
time; a random token. -/
structure Choice where
  error : Option String
  lost : Bool
  elapsed : ℕ
  generation : String
  now : Option ℤ

def createdPod (pod : NewPod) : Pod :=
  ⟨⟨0, 0⟩, pod.labels, pod.annotations, false, ⟨none, none, []⟩, pod.referencedSecret⟩

def effect (choice : Choice) : Op → Cluster
  | .createSecret name secret =>
    if (c.secrets.lookup name).isSome then c
    else c.putSecret name ⟨secret.labels, secret.annotations, choice.now⟩
  | .createPod name pod =>
    if (c.pods.lookup name).isSome then c else c.newPod name (createdPod pod)
  | .deletePod name fence =>
    match c.pods.lookup name with
    | some pod =>
      if pod.fence = fence then c.putPod name { pod with deletionMarked := true } else c
    | none => c
  | .deleteSecret name => c.removeSecret name
  | _ => c

def answer (choice : Choice) : (op : Op) → Reply op
  | .ensureNamespace _ => .ok ()
  | .listPods identity =>
    .ok ((c.pods.entries.filter fun e => identity.selects e.2.labels).map fun e => (e.1, e.2),
      choice.now)
  | .listSecrets identity =>
    .ok ((c.secrets.entries.filter fun e => identity.selects e.2.labels).map fun e => (e.1, e.2))
  | .secretExists name => .ok (c.secrets.lookup name).isSome
  | .createSecret name _ =>
    if (c.secrets.lookup name).isSome then
      .error ("could not create secret " ++ name ++ ": AlreadyExists")
    else .ok ()
  | .createPod name _ => .ok (if (c.pods.lookup name).isSome then .alreadyExists else .created)
  | .deletePod name fence =>
    .ok (match c.pods.lookup name with
      | some pod => if pod.fence = fence then .accepted else .preconditionFailed
      | none => .notFound)
  | .deleteSecret _ => .ok ()
  | .getPod name => .ok (c.pods.lookup name)
  | .rereadPod name => .ok (c.pods.lookup name)
  | .sleep => .ok ()
  | .elapsed => .ok choice.elapsed
  | .newGeneration => .ok choice.generation

/-- Waiting, the clock and the random source do not fail. -/
def fallible : Op → Bool
  | .sleep | .elapsed | .newGeneration => false
  | _ => true

def perform (op : Op) (choice : Choice) : Reply op × Cluster :=
  match choice.error with
  | some message =>
    if fallible op then (.error message, if choice.lost then c.effect choice op else c)
    else (c.answer choice op, c.effect choice op)
  | none => (c.answer choice op, c.effect choice op)

/-! ### What happens by itself -/

/-- How far the container has come. -/
def rank : ℕ :=
  match status.container with
  | some .running => 1
  | some (.terminated _ _) => 2
  | some (.waiting _ _) | none => 0

def invalidImage : Bool :=
  match status.container with
  | some (.waiting (some reason) _) => reason = "InvalidImageName"
  | _ => false

/-- The container never started, and nothing stands against its start: the pod is not over, its
image can be named, and the Secret it refers to exists. -/
def CanStart : Prop :=
  rank pod.status = 0 ∧ isTerminal pod.status.phase = false ∧ invalidImage pod.status = false ∧
    ∀ name, pod.referencedSecret = some name → (c.secrets.lookup name).isSome

instance (c : Cluster) (pod : Pod) : Decidable (c.CanStart pod) :=
  inferInstanceAs (Decidable (_ ∧ _ ∧ _ ∧ ∀ name, _ = some name → _))

/-- A status that the kubelet may report next. -/
def Progress : Prop :=
  rank pod.status ≤ rank status ∧
    (rank pod.status = 0 → rank status ≠ 0 → c.CanStart pod) ∧
    (isTerminal pod.status.phase → isTerminal status.phase) ∧
    (invalidImage pod.status → invalidImage status)

instance (c : Cluster) (pod : Pod) (status : PodStatus) : Decidable (c.Progress pod status) :=
  inferInstanceAs (Decidable (_ ∧ _ ∧ _ ∧ _))

inductive Env
  | kubelet (name : String) (status : PodStatus)
  /-- A pod that is marked for deletion is gone. -/
  | disappear (name : String)
  | foreignPut (name : String) (pod : Pod)
  | foreignEdit (name : String) (labels annotations : Labels)
  | foreignRemove (name : String)
  | foreignPutSecret (name : String) (secret : Secret)
  | foreignRemoveSecret (name : String)

def happen : Env → Cluster
  | .kubelet name status =>
    match c.pods.lookup name with
    | some pod => if c.Progress pod status then c.putPod name { pod with status } else c
    | none => c
  | .disappear name =>
    if (c.pods.lookup name).any Pod.deletionMarked then c.removePod name else c
  | .foreignPut name pod => c.newPod name pod
  | .foreignEdit name labels annotations =>
    match c.pods.lookup name with
    | some pod => c.putPod name { pod with labels, annotations }
    | none => c
  | .foreignRemove name => c.removePod name
  | .foreignPutSecret name secret => c.putSecret name secret
  | .foreignRemoveSecret name => c.removeSecret name

def semantics : Semantics Cluster Op Reply Choice Env := ⟨perform, happen⟩

end Cluster

end Buzz.Kube
