import Buzz.Kube.Observations

/-!
A start never kills a live agent.

Any number of deploys run side by side, with the kubelet and other actors in between.  A delete goes
through only on a pod that is still the one that was read, so its container is not running; and one
that never started and still can is deleted only for the sake of another intent.  That a pod cannot
start because its Secret is missing was read after the pod: it stays so, since the name of a Secret,
which has a fresh token in it, is not used twice.
-/

namespace Buzz.Kube

open Lib Lib.Interleaving

namespace Cluster

variable {c : Cluster}

/-! ### Names of Secrets are fresh -/

/-- A deploy creates no Secret of a name that was used before. -/
def FreshCall (c : Cluster) (_ : ℕ) : Op → Prop
  | .createSecret name _ => name ∉ c.used
  | _ => True

/-- Nor does anyone else. -/
def FreshEvent (c : Cluster) : Env → Prop
  | .foreignPutSecret name _ => name ∉ c.used
  | _ => True

instance (c : Cluster) (i : ℕ) : ∀ op, Decidable (c.FreshCall i op)
  | .createSecret _ _ => inferInstanceAs (Decidable (_ ∉ c.used))
  | .ensureNamespace _ | .listPods _ | .listSecrets _ | .secretExists _ | .createPod _ _
  | .deletePod _ _ | .deleteSecret _ | .getPod _ | .rereadPod _ | .sleep | .elapsed
  | .newGeneration => inferInstanceAs (Decidable True)

instance (c : Cluster) : ∀ e, Decidable (c.FreshEvent e)
  | .foreignPutSecret _ _ => inferInstanceAs (Decidable (_ ∉ c.used))
  | .kubelet _ _ | .disappear _ | .foreignPut _ _ | .foreignEdit _ _ _ | .foreignRemove _
  | .foreignRemoveSecret _ => inferInstanceAs (Decidable True)

/-! ### A Secret that is gone stays gone -/

def Gone (c : Cluster) (secret : String) : Prop :=
  secret ∈ c.used ∧ c.secrets.lookup secret = none

variable {secret name : String} {op : Op}

section

variable (h : c.Gone secret)

include h

lemma Gone.putPod (name : String) (pod : Pod) : (c.putPod name pod).Gone secret :=
  ⟨List.mem_append_right _ h.1, h.2⟩

lemma Gone.removeSecret (name : String) : (c.removeSecret name).Gone secret := by
  refine ⟨h.1, ?_⟩
  show (c.secrets.erase name).lookup secret = none
  rw [Table.lookup_erase_if, h.2, ite_self]

lemma Gone.putSecret (hfr : name ∉ c.used)
    (value : Secret) : (c.putSecret name value).Gone secret := by
  have hname : secret ≠ name := by
    rintro rfl
    exact hfr h.1
  refine ⟨List.mem_cons_of_mem _ h.1, ?_⟩
  show (c.secrets.insert name value).lookup secret = none
  rw [AList.lookup_insert_ne hname, h.2]

lemma Gone.effect
    (hfr : c.FreshCall i op) (choice : Choice) : (c.effect choice op).Gone secret := by
  cases op with
  | createSecret name value =>
    simp only [Cluster.effect]
    split
    · exact h
    · exact h.putSecret hfr _
  | createPod name pod =>
    simp only [Cluster.effect]
    split
    · exact h
    · exact h.putPod _ _
  | deletePod name fence =>
    simp only [Cluster.effect]
    split
    · split
      · exact h.putPod _ _
      · exact h
    · exact h
  | deleteSecret name => exact h.removeSecret name
  | _ => exact h

lemma Gone.perform
    (hfr : c.FreshCall i op) (choice : Choice) : (c.perform op choice).2.Gone secret := by
  obtain heq | heq := perform_snd c op choice
  · rwa [heq]
  · rw [heq]
    exact h.effect hfr choice

lemma Gone.happen (hfr : c.FreshEvent e) : (c.happen e).Gone secret := by
  cases e with
  | kubelet name status =>
    simp only [Cluster.happen]
    split
    · split
      · exact h.putPod _ _
      · exact h
    · exact h
  | disappear name =>
    simp only [Cluster.happen]
    split
    · exact ⟨h.1, h.2⟩
    · exact h
  | foreignPut name pod => exact h.putPod _ _
  | foreignEdit name labels annotations =>
    simp only [Cluster.happen]
    split
    · exact h.putPod _ _
    · exact h
  | foreignRemove name => exact ⟨h.1, h.2⟩
  | foreignPutSecret name value => exact h.putSecret hfr value
  | foreignRemoveSecret name => exact h.removeSecret name

end

/-! ### What stands against a start -/

variable {pod : Pod}

lemma not_canStart_of_terminated (h : decodeStartup pod = .resolved .terminated) :
    ¬c.CanStart pod := by
  rintro ⟨hrank, hph, -, -⟩
  unfold decodeStartup at h
  split at h
  · cases h
  · next hcont => simp [rank, hcont] at hrank
  · unfold decodeWaiting at h
    repeat' split at h
    all_goals cases h
  · rw [if_neg (by simp [hph])] at h
    cases h

lemma invalidImage_of_broken (h : decodeStartup pod = .resolved .neverStartedProvablyBroken) :
    invalidImage pod.status := by
  unfold decodeStartup at h
  split at h
  · cases h
  · cases h
  · next reason message hcont =>
    unfold decodeWaiting at h
    split_ifs at h with hreason hpull hconfig
    · cases reason with
      | none => simp at hreason
      | some reason =>
        have hname : reason = "InvalidImageName" := hreason
        simp [invalidImage, hcont, hname]
    · split at h <;> cases h
    · split at h <;> cases h
    · cases h
  · split at h <;> cases h

lemma referencedSecret_of_pending (h : decodeStartup pod = .configErrorPendingSecretCheck secret) :
    pod.referencedSecret = some secret := by
  unfold decodeStartup at h
  split at h
  · cases h
  · cases h
  · unfold decodeWaiting at h
    split_ifs at h with hreason hpull hconfig
    · split at h <;> cases h
    split at h
    · next hsec =>
      cases h
      exact hsec
    · cases h
  · split at h <;> cases h

/-! ### Runs -/

/-- What an entry reported: the pods it read, and the Secret that a pod read just before lacks. -/
def Recorded (older : CallLog) (e : Entry) (c : Cluster) : Prop :=
  Reads e c ∧ ∀ secret, e = absentEntry secret → ∀ name pod rest,
    older = readEntry name pod :: rest → pod.referencedSecret = some secret → c.Gone secret

lemma recorded_perform (h : c.Wf) (choice : Choice) {older : CallLog}
    (holder : Holds Recorded older c) :
    Recorded older ⟨op, (c.perform op choice).1⟩ (c.perform op choice).2 := by
  refine ⟨reads_perform h op choice, ?_⟩
  rintro secret habs name pod rest rfl hsec
  obtain ⟨hget, heq⟩ := lookup_of_absentEntry habs
  rw [heq]
  exact ⟨(holder.1.1 name pod (.inl rfl)).used secret hsec, hget⟩

lemma recorded_run (hc : c.Wf) {progs : ℕ → Prog Op Reply (Except Halt String)}
    (hfr : AllSteps (step semantics) (Allowed FreshCall FreshEvent) (start c progs) labels)
    (i : ℕ) :
    Holds Recorded ((run semantics c progs labels).logs i) (run semantics c progs labels).world := by
  refine (holds_run (R := fun _ => Recorded) ?_ ?_ hc hfr).2 i
  · intro c i op choice hwf hcall
    obtain ⟨hwf', hevo⟩ := steps_perform c op choice hwf
    refine ⟨hwf', ?_, fun older holder => recorded_perform hwf choice holder⟩
    rintro - older e ⟨hrds, hgone⟩
    refine ⟨hrds.evolves hevo, ?_⟩
    intro secret he name pod rest holder hsec
    exact (hgone secret he name pod rest holder hsec).perform hcall choice
  intro c e hwf hev
  obtain ⟨hwf', hevo⟩ := steps_happen c e hwf
  refine ⟨hwf', ?_⟩
  rintro - older e' ⟨hrds, hgone⟩
  refine ⟨hrds.evolves hevo, ?_⟩
  intro secret he name pod rest holder hsec
  exact (hgone secret he name pod rest holder hsec).happen hev

lemma Doomed.not_running (h : Doomed args log name pod) : pod.status.container ≠ some .running := by
  intro hrunning
  have hdec : decodeStartup pod = .resolved .started := by
    unfold decodeStartup
    rw [hrunning]
  revert hdec
  cases h with
  | collected older hlog hst => simp [hst]
  | observed since older hlog hours hst =>
    cases hst with
    | terminated hdec | broken hdec | secretAbsent secret hdec => simp [hdec]
    | divergent hitt since hnev => exact hnev

/-- A pod that can still start is deleted for its intent. -/
lemma Doomed.divergent
    (h : Doomed args log name pod) (hlog : Holds Recorded log c) (hcan : c.CanStart pod) :
    pod.recordedIntent ≠ some args.desired := by
  cases h with
  | collected older hlog' hst => exact absurd hcan (not_canStart_of_terminated hst)
  | observed since older hlog' hours hst =>
    cases hst with
    | terminated hdec => exact absurd hcan (not_canStart_of_terminated hdec)
    | broken hdec =>
      have hval := hcan.2.2.1
      rw [invalidImage_of_broken hdec] at hval
      cases hval
    | secretAbsent secret hdec =>
      -- the Secret was found missing right after the pod was read
      have habs := hlog.of_suffix (e := absentEntry secret) (by rw [hlog']; rfl)
      have hsec := referencedSecret_of_pending hdec
      have hgone := habs.2 secret rfl name pod older rfl hsec
      have hex := hcan.2.2.2 secret hsec
      rw [hgone.2] at hex
      cases hex
    | divergent hitt since hnev => exact hitt

/-- **A start never kills a live agent.** In every interleaving of any number of deploys, when a delete
goes through the container of the pod is not running; and as long as the names of Secrets are fresh, a
pod that has not started and still can is deleted only if its recorded intent is not the one that is
wanted. -/
theorem start_spares_live_agents (hc : c.Wf) (args : ℕ → Deploy.Args) (rounds : ℕ → ℕ)
    (labels : List (Label Choice Env)) :
    ∀ i name fence pod,
      ((run semantics c (deploys args rounds) labels).progs i).next? =
        some (.deletePod name fence) →
      (run semantics c (deploys args rounds) labels).world.pods.lookup name = some pod →
      pod.fence = fence →
      pod.status.container ≠ some .running ∧
        (AllSteps (step semantics) (Allowed FreshCall FreshEvent) (start c (deploys args rounds))
            labels →
          (run semantics c (deploys args rounds) labels).world.CanStart pod →
          pod.recordedIntent ≠ some (args i).desired) := by
  intro i name fence pod hdelete hpod hfence
  have hdoomed := doomed_run hc args rounds labels hdelete hpod hfence
  exact ⟨hdoomed.not_running, fun hfresh => hdoomed.divergent (recorded_run hc hfresh i)⟩

/-! A pod that waits for its start, made for another intent. -/

def agent : AgentIdentity :=
  ⟨"0123456789abcdef0123456789abcdef0123456789abcdef0123456789abcdef"⟩

def waitingPod : Pod where
  fence := ⟨1, 1⟩
  labels := agent.labels
  annotations := [(annotationPubkeyFull, agent.pubkeyHex), (annotationCreateIntent, "before")]
  deletionMarked := false
  status := ⟨some "Pending", none, []⟩
  referencedSecret := some "secret"

def waitingCluster : Cluster where
  pods := (∅ : Table String Pod).insert agent.podName waitingPod
  secrets := (∅ : Table String Secret).insert "secret" ⟨[], [], none⟩
  next := 2
  used := ["secret"]

lemma wf_waitingCluster : waitingCluster.Wf :=
  wf_single (by decide) fun _ hsec => List.mem_singleton.mpr (Option.some.inj hsec).symm

def deployArgs : Deploy.Args := ⟨agent, "agents", "image", "after"⟩

def succeeds : Choice := ⟨none, false, 0, "token", none⟩

def firstDeploy : List (Label Choice Env) :=
  [.prog 0 succeeds, .prog 0 { succeeds with error := some "denied" }, .prog 0 succeeds,
    .prog 0 succeeds]

def waitingRun : Interleaving Cluster Op Reply (Except Halt String) :=
  run semantics waitingCluster (deploys (fun _ => deployArgs) fun _ => 1) firstDeploy

theorem start_spares_live_agents_waiting :
    (waitingRun.progs 0).next? = some (.deletePod agent.podName waitingPod.fence) ∧
      waitingRun.world.CanStart waitingPod ∧ waitingPod.status.container ≠ some .running ∧
      waitingPod.recordedIntent ≠ some deployArgs.desired := by
  have hfresh : AllSteps (step semantics) (Allowed FreshCall FreshEvent)
      (start waitingCluster (deploys (fun _ => deployArgs) fun _ => 1)) firstDeploy := by
    decide +kernel
  have hnext : (waitingRun.progs 0).next? = some (.deletePod agent.podName waitingPod.fence) := by
    decide +kernel
  have hpod : waitingRun.world.pods.lookup agent.podName = some waitingPod := by decide +kernel
  have hcan : waitingRun.world.CanStart waitingPod := by decide +kernel
  obtain ⟨hnot, hintent⟩ := start_spares_live_agents wf_waitingCluster (fun _ => deployArgs)
    (fun _ => 1) firstDeploy 0 _ _ _ hnext hpod rfl
  exact ⟨hnext, hcan, hnot, hintent hfresh hcan⟩

end Cluster

end Buzz.Kube
