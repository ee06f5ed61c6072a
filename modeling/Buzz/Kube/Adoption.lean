import Buzz.Kube.LiveAgents

/-!
The pods whose names a deploy returns.

`classify` looks at the deletion mark of a pod before its container.  A deploy whose create finds the
name taken adopts the pod of another deploy, in a loop of its own that looks at the container first,
and so returns a pod that is running and being deleted.
-/

namespace Buzz.Kube.Cluster

open Lib Interleaving

/-- The last read of the pod showed it running, and not marked for deletion. -/
def Stays (log : CallLog) (agentId : String) : Prop :=
  ∃ pod older, log = readEntry agentId pod :: older ∧
    decodeStartup pod = .resolved .started ∧ ¬ pod.deletionMarked

/-- A round of the adoption loop, after a create that found the name taken, has read the pod. -/
def AdoptionReads (log : CallLog) (pod : Pod) : Prop :=
  ∃ newer name older, log = newer ++ readEntry name pod :: older ∧ InRound Contested older

/-- **Pods that stay.** In every run in which no read of a deploy's adoption loop is answered with a pod
of its agent that is running and marked, the deploy returns only names of pods that stay. -/
theorem deploy_returns_staying (c : Cluster) (args : ℕ → Deploy.Args) (rounds : ℕ → ℕ)
    (labels : List (Label Choice Env)) (i : ℕ)
    (hreads : ∀ pod, AdoptionReads ((run semantics c (deploys args rounds) labels).logs i) pod →
      pod.isOurs (args i).identity → decodeStartup pod = .resolved .started → ¬ pod.deletionMarked) :
    ∀ agentId, ((run semantics c (deploys args rounds) labels).progs i).result? = some (.ok agentId) →
      Stays ((run semantics c (deploys args rounds) labels).logs i) agentId := by
  intro agentId hresult
  have halong := along_foldl (W := semantics) (S := start c (deploys args rounds))
    (fun i => Deploy.reported_deploy (args i) (rounds i)) labels i
  obtain ⟨pod, older, hlog, hours, hstarted, hround⟩ := halong.result hresult agentId rfl
  refine ⟨pod, older, hlog, hstarted, fun hmark => ?_⟩
  exact hreads pod ⟨[], agentId, older, hlog, hround hmark⟩ hours hstarted hmark

/-- The pod of another deploy, which has started. -/
def winner (deletionMarked : Bool) : Pod :=
  { waitingPod with deletionMarked, status := ⟨some "Running", some .running, []⟩ }

/-- Before the create another deploy has made the pod. -/
def contestedRun (deletionMarked : Bool) : Interleaving Cluster Op Reply (Except Halt String) :=
  run semantics ⟨∅, ∅, 1, []⟩ (deploys (fun _ => deployArgs) fun _ => 2) <|
    [.prog 0 succeeds, .prog 0 { succeeds with error := some "denied" }] ++
      List.replicate 4 (.prog 0 succeeds) ++
      .env (.foreignPut agent.podName (winner deletionMarked)) :: List.replicate 6 (.prog 0 succeeds)

def showsMark : Entry → Bool
  | ⟨.getPod _, .ok (some pod)⟩ => pod.deletionMarked
  | _ => false

theorem deploy_returns_staying_contested :
    ((contestedRun false).progs 0).result? = some (.ok agent.podName) ∧
      AdoptionReads ((contestedRun false).logs 0) (winner false) ∧
      Stays ((contestedRun false).logs 0) agent.podName := by
  have hnone : ((contestedRun false).logs 0).any showsMark = false := by rfl
  have hresult : ((contestedRun false).progs 0).result? = some (.ok agent.podName) := by rfl
  refine ⟨hresult, ?_, deploy_returns_staying _ _ _ _ 0 ?_ _ hresult⟩
  · refine ⟨[], agent.podName, ((contestedRun false).logs 0).tail, by rfl, 0, _, rfl, by decide, ?_⟩
    exact ⟨_, _, List.mem_of_getElem? (i := 3) rfl⟩
  · rintro pod ⟨newer, name, older, hlog, -⟩ - - hmark
    refine List.any_eq_false.mp hnone (readEntry name pod) ?_ hmark
    unfold contestedRun
    rw [hlog]
    simp

theorem contested_deploy_returns_leaving :
    ((contestedRun true).progs 0).result? = some (.ok agent.podName) ∧
      ¬ Stays ((contestedRun true).logs 0) agent.podName := by
  refine ⟨by rfl, ?_⟩
  rintro ⟨pod, older, hlog, -, hmark⟩
  have hread : (contestedRun true).logs 0 =
      readEntry agent.podName (winner true) :: ((contestedRun true).logs 0).tail := by rfl
  cases hread.symm.trans hlog
  exact hmark rfl

end Buzz.Kube.Cluster
