import Buzz.Kube.LiveAgents

/-!
Whose objects a deploy touches.

The loop verifies a pod on the read whose fence it deletes with, so what it deletes and what it
returns carries the marker and the key.  The collection plans on a list of verified pods, and then
reads each name again for its fence without verifying what it finds.  A pod of someone else that has
taken the name in between, and has terminated, is deleted.  If what the collection finds terminated
under its names is ours, every delete is of a pod of ours.
-/

namespace Buzz.Kube

open Lib Lib.Interleaving

namespace Cluster

variable {c : Cluster} {pod : Pod}

/-- A pod that the collection finds terminated under a name on its plan is ours. -/
def CollectsOurs (args : ℕ → Deploy.Args) (c : Cluster) (i : ℕ) : Op → Prop
  | .rereadPod name => ∀ pod ∈ c.pods.lookup name,
      decodeStartup pod = .resolved .terminated → pod.isOurs (args i).identity
  | _ => True

instance (args : ℕ → Deploy.Args) (c : Cluster) (i : ℕ) : ∀ op, Decidable (CollectsOurs args c i op)
  | .rereadPod name => inferInstanceAs (Decidable (∀ pod ∈ c.pods.lookup name,
      decodeStartup pod = .resolved .terminated → pod.isOurs (args i).identity))
  | .ensureNamespace _ | .listPods _ | .listSecrets _ | .secretExists _ | .createSecret _ _
  | .createPod _ _ | .deletePod _ _ | .deleteSecret _ | .getPod _ | .sleep | .elapsed
  | .newGeneration => inferInstanceAs (Decidable True)

/-- What the collection has found terminated is ours. -/
def Traced (args : ℕ → Deploy.Args) (i : ℕ) (_ : CallLog) (e : Entry) (_ : Cluster) : Prop :=
  ∀ name pod, e = rereadEntry name pod →
    decodeStartup pod = .resolved .terminated → pod.isOurs (args i).identity

lemma traced_run (hc : c.Wf) {progs : ℕ → Prog Op Reply (Except Halt String)}
    (hours : AllSteps (step semantics) (Allowed (CollectsOurs args) fun _ _ => True)
      (start c progs) labels) (i : ℕ) :
    Holds (Traced args i) ((run semantics c progs labels).logs i)
      (run semantics c progs labels).world := by
  refine (holds_run (R := Traced args) ?_ ?_ hc hours).2 i
  · intro c i op choice hwf hcall
    refine ⟨(steps_perform c op choice hwf).1, fun _ _ _ h => h, ?_⟩
    intro older _ name pod hreread hterm
    obtain ⟨rfl, hpod, -⟩ := lookup_of_rereadEntry hreread
    exact hcall pod hpod hterm
  · intro c e hwf _
    exact ⟨(steps_happen c e hwf).1, fun _ _ _ h => h⟩

lemma Doomed.isOurs (h : Doomed (args i) log name pod) (hlog : Holds (Traced args i) log c) :
    pod.isOurs (args i).identity := by
  cases h with
  | collected older hlog' hst =>
    exact hlog.of_suffix (e := rereadEntry name pod) (by rw [hlog']) name pod rfl hst
  | observed since older hlog' hours hst => exact hours

/-- **Only its own objects.** In every interleaving in which what the collection finds terminated
under a name on its plan is ours, a deploy deletes only pods that carry the marker and its key when
they are deleted, and the name it returns was at its last read a pod that carries both. -/
theorem touches_only_ours (hc : c.Wf) (args : ℕ → Deploy.Args) (rounds : ℕ → ℕ)
    (labels : List (Label Choice Env))
    (hours : AllSteps (step semantics) (Allowed (CollectsOurs args) fun _ _ => True)
      (start c (deploys args rounds)) labels) :
    (∀ i name fence pod,
      ((run semantics c (deploys args rounds) labels).progs i).next? =
        some (.deletePod name fence) →
      (run semantics c (deploys args rounds) labels).world.pods.lookup name = some pod →
      pod.fence = fence → pod.isOurs (args i).identity = true) ∧
    ∀ i agentId,
      ((run semantics c (deploys args rounds) labels).progs i).result? = some (.ok agentId) →
      ∃ pod older, (run semantics c (deploys args rounds) labels).logs i =
        readEntry agentId pod :: older ∧ pod.isOurs (args i).identity = true := by
  have halong := along_foldl (W := semantics) (S := start c (deploys args rounds))
    (fun i => Deploy.along_deploy (args i) (rounds i)) labels
  refine ⟨?_, fun i agentId hresult => (halong i).result hresult agentId rfl⟩
  intro i name fence pod hdelete hpod hfence
  exact (doomed_run hc args rounds labels hdelete hpod hfence).isOurs (traced_run hc hours i)

/-! A pod of ours that has terminated, and one that is not ours. -/

def endedPod : Pod :=
  { waitingPod with status := ⟨some "Succeeded", some (.terminated 0 none), []⟩ }

def endedCluster : Cluster :=
  { waitingCluster with pods := (∅ : Table String Pod).insert agent.podName endedPod }

lemma wf_endedCluster : endedCluster.Wf :=
  wf_single (by decide) fun _ hsec => List.mem_singleton.mpr (Option.some.inj hsec).symm

def planned : List (Label Choice Env) :=
  [.prog 0 succeeds, .prog 0 succeeds, .prog 0 succeeds]

def endedRun (labels : List (Label Choice Env)) : Interleaving Cluster Op Reply (Except Halt String) :=
  run semantics endedCluster (deploys (fun _ => deployArgs) fun _ => 1) labels

theorem touches_only_ours_planned :
    ((endedRun (planned ++ [.prog 0 succeeds])).progs 0).next? =
        some (.deletePod agent.podName endedPod.fence) ∧
      endedPod.isOurs deployArgs.identity = true := by
  have hours : AllSteps (step semantics) (Allowed (CollectsOurs fun _ => deployArgs) fun _ _ => True)
      (start endedCluster (deploys (fun _ => deployArgs) fun _ => 1))
      (planned ++ [.prog 0 succeeds]) := by decide +kernel
  have hnext : ((endedRun (planned ++ [.prog 0 succeeds])).progs 0).next? =
      some (.deletePod agent.podName endedPod.fence) := by decide +kernel
  have hpod : (endedRun (planned ++ [.prog 0 succeeds])).world.pods.lookup agent.podName =
      some endedPod := by decide +kernel
  exact ⟨hnext, (touches_only_ours wf_endedCluster (fun _ => deployArgs) (fun _ => 1) _ hours).1
    0 _ _ _ hnext hpod rfl⟩

def foreignPod : Pod := { endedPod with labels := [], annotations := [] }

def replaced : List (Label Choice Env) :=
  planned ++ [.env (.foreignPut agent.podName foreignPod), .prog 0 succeeds]

def foreignFence : Fence := ⟨2, 2⟩

theorem collection_deletes_foreign_pod :
    ((endedRun replaced).progs 0).next? = some (.deletePod agent.podName foreignFence) ∧
      (endedRun replaced).world.pods.lookup agent.podName =
        some { foreignPod with fence := foreignFence } ∧
      foreignPod.isOurs agent = false ∧
      ((endedRun (replaced ++ [.prog 0 succeeds])).world.pods.lookup agent.podName).map
        Pod.deletionMarked = some true := by
  decide +kernel

end Cluster

end Buzz.Kube
