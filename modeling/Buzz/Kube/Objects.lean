import Buzz.Acp.RelayState

/-!
Pods and Secrets as the Kubernetes provider reads them.

An object is read with its name, which is the key it is stored under.  A uid and a resource version
are tokens that are only compared, and are numbers here.  Of a pod's status the phase, the state of
the container `agent` and the conditions are kept; of its spec only the Secret that `envFrom` names.

`decodeStartup`, `verify`, `classify` and the plan of the garbage collector are the pure half of the
provider: what it decides on what it has read.
-/

namespace Buzz.Kube

/-! ### Objects -/

abbrev Labels := List (String × String)

def Labels.get (labels : Labels) (key : String) : Option String :=
  (labels.find? fun e => e.1 = key).map Prod.snd

inductive ContainerState
  | running
  | terminated (exitCode : ℤ) (reason : Option String)
  | waiting (reason message : Option String)
deriving DecidableEq

structure PodCondition where
  type : String
  status : String
  reason : Option String
  message : Option String
deriving DecidableEq

structure Fence where
  uid : ℕ
  resourceVersion : ℕ
deriving DecidableEq

structure PodStatus where
  phase : Option String
  /-- The state of the container `agent`, if it is reported. -/
  container : Option ContainerState
  conditions : List PodCondition
deriving DecidableEq

structure Pod where
  fence : Fence
  labels : Labels
  annotations : Labels
  deletionMarked : Bool
  status : PodStatus
  /-- The Secret that `envFrom` names. -/
  referencedSecret : Option String
deriving DecidableEq

structure Secret where
  labels : Labels
  annotations : Labels
  creationTimestamp : Option ℤ

/-! ### Names -/

def managedBy : String := "buzz-backend-kubernetes"
def labelManagedBy : String := "app.kubernetes.io/managed-by"
def labelBindingVersion : String := "buzz.block.xyz/binding-version"
def bindingVersion : String := "1"
def labelAgentPubkey : String := "buzz.block.xyz/agent-pubkey"
def annotationPubkeyFull : String := "buzz.block.xyz/agent-pubkey-full"
def annotationCreateIntent : String := "buzz.block.xyz/create-intent"
def annotationImage : String := "buzz.block.xyz/image"

structure AgentIdentity where
  pubkeyHex : String
deriving DecidableEq

namespace AgentIdentity

variable (identity : AgentIdentity)

def head (n : ℕ) : String :=
  String.ofList (identity.pubkeyHex.toList.take n)

def labelPubkey : String := identity.head 32

def podName : String := "buzz-agent-" ++ identity.head 12

def secretName (generation : String) : String :=
  "buzz-agent-" ++ identity.head 12 ++ "-" ++ generation

def selects (labels : Labels) : Bool :=
  labels.get labelAgentPubkey = some identity.labelPubkey &&
    labels.get labelManagedBy = some managedBy

def labels : Labels :=
  [(labelAgentPubkey, identity.labelPubkey), (labelManagedBy, managedBy),
    (labelBindingVersion, bindingVersion)]

end AgentIdentity

/-! ### Observation -/

def hasMarker (labels : Labels) : Bool :=
  labels.get labelManagedBy = some managedBy && labels.get labelBindingVersion = some bindingVersion

def annotationMatches (annotations : Labels) (identity : AgentIdentity) : Bool :=
  annotations.get annotationPubkeyFull = some identity.pubkeyHex

variable (pod : Pod)

/-- The management marker, and the full key of the identity. -/
def Pod.isOurs (identity : AgentIdentity) : Bool :=
  hasMarker pod.labels && annotationMatches pod.annotations identity

def secretIsOurs (secret : Secret) (identity : AgentIdentity) : Bool :=
  hasMarker secret.labels && annotationMatches secret.annotations identity

inductive PullFailure
  | unauthorized | manifestUnknown | archMismatch
deriving DecidableEq

inductive Startup
  | started
  | terminated
  | neverStartedRecoverable
  | neverStartedProvablyBroken
  | neverStartedPullFailing (failure : PullFailure)
deriving DecidableEq

inductive StartupObservation
  | resolved (startup : Startup)
  | configErrorPendingSecretCheck (secretName : String)
deriving DecidableEq

def classifyPullFailure (message : String) : Option PullFailure :=
  let m := String.ofList (message.toList.map Char.toLower)
  let has := Acp.RelayTask.containsText m
  if has "401" || has "unauthorized" || has "403" || has "denied" || has "authentication required"
  then some .unauthorized
  else if has "manifest unknown" || has "not found" || has "manifest_unknown" ||
    has "repository does not exist" then some .manifestUnknown
  else if has "no match for platform" || has "no matching manifest" then some .archMismatch
  else none

def isTerminal (phase : Option String) : Bool := phase = some "Succeeded" || phase = some "Failed"

def decodeWaiting (reason message : String) : StartupObservation :=
  if reason = "InvalidImageName" then .resolved .neverStartedProvablyBroken
  else if reason = "ErrImagePull" ∨ reason = "ImagePullBackOff" then
    match classifyPullFailure message with
    | some failure => .resolved (.neverStartedPullFailing failure)
    | none => .resolved .neverStartedRecoverable
  else if reason = "CreateContainerConfigError" then
    match pod.referencedSecret with
    | some secretName => .configErrorPendingSecretCheck secretName
    | none => .resolved .neverStartedRecoverable
  else .resolved .neverStartedRecoverable

def decodeStartup : StartupObservation :=
  match pod.status.container with
  | some .running => .resolved .started
  | some (.terminated _ _) => .resolved .terminated
  | some (.waiting reason message) => decodeWaiting pod (reason.getD "") (message.getD "")
  | none =>
    if isTerminal pod.status.phase then .resolved .terminated
    else .resolved .neverStartedRecoverable

structure VerifiedPod where
  name : String
  fence : Fence
  deletionMarked : Bool
  startup : Startup
  recordedIntent : Option String

def Pod.recordedIntent : Option String := pod.annotations.get annotationCreateIntent

def verify (name : String) (pod : Pod) (identity : AgentIdentity) (startup : Startup) :
    Option VerifiedPod :=
  if hasMarker pod.labels = false then none
  else if annotationMatches pod.annotations identity = false then none
  else some ⟨name, pod.fence, pod.deletionMarked, startup, pod.recordedIntent⟩

def pullFailureMessage (failure : PullFailure) (image : String) : String :=
  let registry := String.ofList (image.toList.takeWhile (· ≠ '/'))
  match failure with
  | .unauthorized =>
    "the cluster is not authorized to pull " ++ image ++ " from " ++ registry ++
      ". This pull retries indefinitely and will not succeed on its own: " ++
      "grant the cluster's nodes access to that registry."
  | .manifestUnknown =>
    registry ++ " has no image at " ++ image ++ ". Check the digest and repository."
  | .archMismatch =>
    image ++ " has no variant for the architecture of the nodes it was scheduled on."

def falseCondition (conditions : List PodCondition) : Option String :=
  (conditions.find? fun c => c.status = "False").map fun c =>
    let detail := ": ".intercalate
      ([c.reason.getD "", c.message.getD ""].filter fun part => part ≠ "")
    if detail = "" then "pod condition " ++ c.type ++ " is false"
    else "pod condition " ++ c.type ++ " is false: " ++ detail

def condition : Option String :=
  let later := (falseCondition pod.status.conditions).or
    (pod.status.phase.map fun phase => "the pod is " ++ phase)
  match pod.status.container with
  | some (.waiting (some reason) _) => some ("the container is waiting, reason " ++ reason)
  | some (.terminated exitCode reason) =>
    some (match reason with
      | some reason =>
        "the container exited with code " ++ toString exitCode ++ " (" ++ reason ++ ")"
      | none => "the container exited with code " ++ toString exitCode)
  | _ => later

/-! ### Classification -/

inductive Action
  | create
  | delete (name : String) (fence : Fence)
  | awaitDisappearance (name : String)
  | noOp (agentId : String)
  | observe (name : String)
  | report (name : String) (failure : PullFailure)

def classify (observed : Option VerifiedPod) (desired : String) : Action :=
  match observed with
  | none => .create
  | some pod =>
    if pod.deletionMarked then .awaitDisappearance pod.name
    else
      match pod.startup with
      | .started => .noOp pod.name
      | .terminated => .delete pod.name pod.fence
      | .neverStartedProvablyBroken => .delete pod.name pod.fence
      | .neverStartedPullFailing failure => .report pod.name failure
      | .neverStartedRecoverable =>
        if pod.recordedIntent = some desired then .observe pod.name
        else .delete pod.name pod.fence

/-! ### Garbage collection -/

def operationDeadlineSecs : ℤ := 600
def orphanSecretMinAgeSecs : ℤ := 2 * operationDeadlineSecs

structure GcPlan where
  pods : List String
  secrets : List String

/-- The Secrets that are ours, of age, and neither protected nor planned already. -/
def sweepOrphans (identity : AgentIdentity) (protectedNames : List String) (now : ℤ)
    (planned : List String) : List (String × Secret) → List String
  | [] => planned
  | (name, secret) :: rest =>
    let sweep := secretIsOurs secret identity && !protectedNames.contains name &&
      !planned.contains name &&
      secret.creationTimestamp.any fun created => orphanSecretMinAgeSecs ≤ now - created
    sweepOrphans identity protectedNames now (if sweep then planned ++ [name] else planned) rest

def gcPlan (identity : AgentIdentity) (pods : List (String × Pod)) (secrets : List (String × Secret))
    (terminated : String → Bool) (now : Option ℤ) : GcPlan :=
  let ours := pods.filter fun p => p.2.isOurs identity
  let doomed := ours.filter fun p => terminated p.1
  let doomedNames := doomed.map Prod.fst
  let protectedNames := (ours.filter fun p => !doomedNames.contains p.1).filterMap
    fun p => p.2.referencedSecret
  let doomedSecrets := doomed.filterMap fun p => p.2.referencedSecret
  { pods := doomedNames
    secrets :=
      match now with
      | some now => sweepOrphans identity protectedNames now doomedSecrets secrets
      | none => doomedSecrets }

/-! ### What a decision rests on -/

variable {name : String} {pod : Pod} {identity : AgentIdentity} {startup : Startup}

lemma verify_eq_some (h : verify name pod identity startup = some v) : pod.isOurs identity ∧
      v = ⟨name, pod.fence, pod.deletionMarked, startup, pod.recordedIntent⟩ := by
  unfold verify at h
  split_ifs at h with hmarker hann
  refine ⟨?_, (Option.some.inj h).symm⟩
  simp only [Pod.isOurs, Bool.and_eq_true]
  exact ⟨by simpa using hmarker, by simpa using hann⟩

variable {observed : Option VerifiedPod} {desired : String} {fence : Fence}

/-- Only what has ended, what is broken for good, and what was made for another intent is deleted.
-/
lemma classify_eq_delete (h : classify observed desired = .delete name fence) :
    ∃ v, observed = some v ∧ v.name = name ∧ v.fence = fence ∧
      (v.startup = .terminated ∨ v.startup = .neverStartedProvablyBroken ∨
        v.startup = .neverStartedRecoverable ∧ v.recordedIntent ≠ some desired) := by
  cases observed with
  | none => cases h
  | some v =>
    refine ⟨v, rfl, ?_⟩
    unfold classify at h
    dsimp only at h
    split at h
    · cases h
    split at h
    case h_1 => cases h
    case h_2 hst =>
      cases h
      exact ⟨rfl, rfl, .inl hst⟩
    case h_3 hst =>
      cases h
      exact ⟨rfl, rfl, .inr (.inl hst)⟩
    case h_4 => cases h
    case h_5 hst =>
      split at h
      · cases h
      next hitt =>
      cases h
      exact ⟨rfl, rfl, .inr (.inr ⟨hst, hitt⟩)⟩

variable {agentId : String}

lemma classify_eq_noOp (h : classify observed desired = .noOp agentId) :
    ∃ v, observed = some v ∧ v.name = agentId ∧ v.startup = .started ∧ ¬ v.deletionMarked := by
  cases observed with
  | none => cases h
  | some v =>
    refine ⟨v, rfl, ?_⟩
    unfold classify at h
    dsimp only at h
    split at h
    · cases h
    next hmark =>
    split at h
    case h_1 hst =>
      cases h
      exact ⟨rfl, hst, hmark⟩
    case h_2 => cases h
    case h_3 => cases h
    case h_4 => cases h
    case h_5 => split at h <;> cases h

end Buzz.Kube
