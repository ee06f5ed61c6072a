import Buzz.Kube.Cluster

/-!
The deploy loop.

`deploy` as a program on the cluster: one call of the program is one call of the substrate.  The
loops of the source end at the deadline, which is read off the clock; here they also take a number
of rounds, and a program that has used them up halts as `unfinished`.  What is shown for every
number of rounds is shown for every run.

The data of a Secret, the rest of a pod's spec and the lines written to the error stream are left
out.
-/

namespace Buzz.Kube

open Lib

inductive Halt
  | failed (message : String)
  | unfinished

abbrev Deploy := ExceptT Halt (Prog Op Reply)

namespace Deploy

def fail {α : Type} (message : String) : Deploy α := throw (.failed message)

def handle {α : Type} (op : Op) (f : Reply op → Except Halt α) : Deploy α :=
  ExceptT.mk ((Prog.ask op : Prog Op Reply (Reply op)) >>= fun r => pure (f r))

def io (op : Op) : Deploy (Answer op) := handle op fun r => r.mapError Halt.failed

def ioLogged (op : Op) : Deploy Unit := handle op fun _ => .ok ()

variable (identity : AgentIdentity) (name : String)

def getPod : Deploy (Option Pod) := io (.getPod name)
def rereadPod : Deploy (Option Pod) := io (.rereadPod name)
def secretExists : Deploy Bool := io (.secretExists name)
def elapsed : Deploy ℕ := io .elapsed
def sleep : Deploy Unit := io .sleep
def newGeneration : Deploy String := io .newGeneration
def listPods : Deploy (List (String × Pod) × Option ℤ) :=
  io (.listPods identity)
def listSecrets : Deploy (List (String × Secret)) :=
  io (.listSecrets identity)
def createPod (pod : NewPod) : Deploy CreateOutcome := io (.createPod name pod)
def deletePod (fence : Fence) : Deploy DeleteOutcome := io (.deletePod name fence)

def deadline : ℕ := 600

/-! ### Observing -/

def settle (pod : Pod) : Deploy Startup :=
  match decodeStartup pod with
  | .resolved startup => pure startup
  | .configErrorPendingSecretCheck secretName => do
    if ← secretExists secretName then pure .neverStartedRecoverable
    else pure .neverStartedProvablyBroken

def observePod : Deploy (Option VerifiedPod) := do
  match ← getPod identity.podName with
  | none => pure none
  | some pod => do
    let startup ← settle pod
    pure (verify identity.podName pod identity startup)

def conditionText : Except String (Option Pod) → String
  | .ok (some pod) => (condition pod).getD "no condition reported by the cluster"
  | .ok none => "the pod no longer exists"
  | .error e => "the pod's condition could not be read: " ++ e

def latestCondition : Deploy String :=
  handle (.getPod identity.podName) fun r => .ok (conditionText r)

def failWith {α : Type} (identity : AgentIdentity) (text after : String) : Deploy α := do
  let latest ← latestCondition identity
  fail (text ++ latest ++ after)

/-! ### Preflight garbage collection -/

def terminatedNames : List (String × Pod) → Deploy (List String)
  | [] => pure []
  | (name, pod) :: rest => do
    let startup ← settle pod
    let names ← terminatedNames rest
    pure (if startup = .terminated then name :: names else names)

def collectPods : List String → Deploy Unit
  | [] => pure ()
  | name :: rest => do
    match ← rereadPod name with
    | none => collectPods rest
    | some pod => do
      let startup ← settle pod
      if startup = .terminated then
        ioLogged (.deletePod name pod.fence)
        collectPods rest
      else collectPods rest

def collectSecrets : List String → Deploy Unit
  | [] => pure ()
  | name :: rest => do
    ioLogged (.deleteSecret name)
    collectSecrets rest

def tryPreflightGc : Deploy Unit := do
  let listed ← listPods identity
  let secrets ← listSecrets identity
  let terminated ← terminatedNames listed.1
  let plan := gcPlan identity listed.1 secrets terminated.contains listed.2
  collectPods plan.pods
  collectSecrets plan.secrets

/-- A failure of the collection does not fail the deploy. -/
def preflightGc : Deploy Unit :=
  ExceptT.mk ((tryPreflightGc identity).run >>= fun _ => pure (.ok ()))

/-! ### Waiting -/

def awaitDisappearance : ℕ → String → Deploy Unit
  | 0, _ => throw .unfinished
  | rounds + 1, name => do
    if deadline ≤ (← elapsed) then
      fail ("timed out after 600s waiting for " ++ name ++ " to finish terminating")
    else
      match ← getPod name with
      | none => pure ()
      | some _ => do
        sleep
        awaitDisappearance rounds name

/-! ### The loser of a create race -/

def secretIsReferenced (secret : String) : Deploy Bool := do
  let listed ← listPods identity
  pure (listed.1.any fun p => p.2.referencedSecret = some secret)

/-- The attempt's own Secret goes, if nothing refers to it. -/
def dropOwnSecret (secret : String) : Deploy Unit :=
  ExceptT.mk do
    match ← (secretIsReferenced identity secret).run with
    | .ok false => (ioLogged (.deleteSecret secret)).run
    | _ => pure (.ok ())

def notOursMessage : String :=
  "a pod named " ++ name ++ " already exists in this namespace but is not managed by this provider " ++
    "for this agent (it lacks the management marker or carries a different agent identity). " ++
    "Remove it, or deploy this agent to a different namespace."

def adoptLoop (identity : AgentIdentity) : ℕ → Deploy String
  | 0 => throw .unfinished
  | rounds + 1 => do
    let name := identity.podName
    if deadline ≤ (← elapsed) then
      failWith identity ("startup not confirmed within 600s for " ++ name ++
        " (another deploy of this agent created it): ") ""
    else
      match ← observePod identity with
      | none => do
        sleep
        adoptLoop identity rounds
      | some pod =>
        if pod.startup = .started then pure pod.name
        else if pod.deletionMarked then
          fail (name ++ " was created by another deploy of this agent and is already being " ++
            "deleted; try again")
        else if pod.startup = .terminated ∨ pod.startup = .neverStartedProvablyBroken then
          failWith identity (name ++
            " was created by another deploy of this agent and did not start: ") ""
        else do
          sleep
          adoptLoop identity rounds

def adoptWinner (ownSecret : String) (rounds : ℕ) : Deploy String := do
  let name := identity.podName
  match ← getPod name with
  | none => do
    dropOwnSecret identity ownSecret
    adoptLoop identity rounds
  | some pod => do
    let startup ← settle pod
    dropOwnSecret identity ownSecret
    if (verify name pod identity startup).isNone then fail (notOursMessage name)
    else adoptLoop identity rounds

/-! ### Deploying -/

structure Args where
  identity : AgentIdentity
  ns : String
  image : String
  /-- The fingerprint of the create intent. -/
  desired : String

def buildSecret : NewSecret :=
  ⟨identity.labels, [(annotationPubkeyFull, identity.pubkeyHex)]⟩

def buildPod (args : Args) (generation : String) : NewPod where
  labels := args.identity.labels
  annotations := [(annotationPubkeyFull, args.identity.pubkeyHex),
    (annotationCreateIntent, args.desired), (annotationImage, args.image)]
  referencedSecret := some (args.identity.secretName generation)

def didNotStayMessage : String :=
  name ++ " was created by this deploy and did not stay running: "

def notRetryingMessage : String :=
  ". Not retrying in this call — an immediate exit recurs until its cause is fixed. Check the " ++
    "agent's configuration and press Start to try again."

def deployLoop (args : Args) : ℕ → Bool → Deploy String
  | 0, _ => throw .unfinished
  | rounds + 1, createdThisCall => do
    let identity := args.identity
    if deadline ≤ (← elapsed) then
      failWith identity ("startup not confirmed within 600s for " ++ identity.podName ++ ": ") ""
    else
      match classify (← observePod identity) args.desired with
      | .noOp agentId => pure agentId
      | .observe _ => do
        sleep
        deployLoop args rounds createdThisCall
      | .report name failure =>
        fail (name ++ " did not start: " ++ pullFailureMessage failure args.image)
      | .awaitDisappearance name => do
        awaitDisappearance rounds name
        deployLoop args rounds createdThisCall
      | .delete name fence =>
        if createdThisCall then failWith identity (didNotStayMessage name) notRetryingMessage
        else do
          match ← deletePod name fence with
          | .accepted | .notFound => do
            awaitDisappearance rounds name
            deployLoop args rounds createdThisCall
          | .preconditionFailed => do
            sleep
            deployLoop args rounds createdThisCall
      | .create => do
        let generation ← newGeneration
        let secretName := identity.secretName generation
        let _ ← io (.createSecret secretName (buildSecret identity))
        match ← createPod identity.podName (buildPod args generation) with
        | .created => do
          sleep
          deployLoop args rounds true
        | .alreadyExists => adoptWinner identity secretName rounds

def deploy (args : Args) (rounds : ℕ) : Deploy String := do
  let _ ← io (.ensureNamespace args.ns)
  preflightGc args.identity
  deployLoop args rounds false

end Deploy

end Buzz.Kube
