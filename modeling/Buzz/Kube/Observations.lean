import Buzz.Kube.Evidence

/-!
What an observation is worth.

A pod that was read stays known: whatever happens to the cluster, a pod that stands under the name
with the version that was read is the pod that was read.  A Secret that was found missing, and that
a pod refers to, stays missing as long as no name of a Secret is used twice.
-/

namespace Buzz.Kube

open Lib Lib.Interleaving

namespace Cluster

/-- No version is given out twice, and the Secrets that are referred to are known. -/
structure Wf (c : Cluster) : Prop where
  version : ∀ name pod, c.pods.lookup name = some pod → pod.fence.resourceVersion < c.next
  used : ∀ name pod, c.pods.lookup name = some pod →
    ∀ secret, pod.referencedSecret = some secret → secret ∈ c.used

variable {pod : Pod} {choice : Choice} {op : Op}

lemma wf_single {secrets : Table String Secret} {next : ℕ}
    {used : List String} (hver : pod.fence.resourceVersion < next)
    (hused : ∀ secret, pod.referencedSecret = some secret → secret ∈ used) :
    Wf ⟨(∅ : Table String Pod).insert name pod, secrets, next, used⟩ := by
  have hpods : ∀ name' pod', ((∅ : Table String Pod).insert name pod).lookup name' = some pod' →
      pod' = pod := by
    intro name' pod' hpod'
    obtain ⟨-, rfl⟩ | ⟨-, hnone⟩ := Table.lookup_insert_eq_some.mp hpod'
    · rfl
    · cases hnone
  refine ⟨fun name' pod' hpod' => ?_, fun name' pod' hpod' => ?_⟩
  · rw [hpods name' pod' hpod']
    exact hver
  · rw [hpods name' pod' hpod']
    exact hused

/-- A pod after a change was there before, or has a new version. -/
structure Evolves (c c' : Cluster) : Prop where
  next : c.next ≤ c'.next
  pods : ∀ name pod, c'.pods.lookup name = some pod →
    c.pods.lookup name = some pod ∨ c.next ≤ pod.fence.resourceVersion
  used : ∀ secret ∈ c.used, secret ∈ c'.used

/-- The change keeps the cluster well formed. -/
def Steps (c c' : Cluster) : Prop := c.Wf → c'.Wf ∧ c.Evolves c'

variable {c : Cluster} {name : String}

section

variable (c : Cluster)

lemma steps_refl : c.Steps c :=
  fun h => ⟨h, le_rfl, fun _ _ hpod => .inl hpod, fun _ h => h⟩

variable (name : String)

lemma steps_putPod (pod : Pod) : c.Steps (c.putPod name pod) := by
  intro h
  refine ⟨⟨?_, ?_⟩, ?_, ?_, ?_⟩
  · intro name' pod' hpod'
    show _ < c.next + 1
    obtain ⟨-, rfl⟩ | ⟨-, hpod'⟩ := Table.lookup_insert_eq_some.mp hpod'
    · show c.next < c.next + 1
      omega
    · have := h.version name' pod' hpod'
      omega
  · intro name' pod' hpod' secret hsec
    refine List.mem_append.mpr ?_
    obtain ⟨-, rfl⟩ | ⟨-, hpod'⟩ := Table.lookup_insert_eq_some.mp hpod'
    · exact .inl (Option.mem_toList.mpr hsec)
    · exact .inr (h.used name' pod' hpod' secret hsec)
  · exact Nat.le_succ _
  · intro name' pod' hpod'
    obtain ⟨-, rfl⟩ | ⟨-, hpod'⟩ := Table.lookup_insert_eq_some.mp hpod'
    · exact .inr le_rfl
    · exact .inl hpod'
  · intro secret hsec
    exact List.mem_append_right _ hsec

lemma steps_removePod : c.Steps (c.removePod name) := by
  have hsub : ∀ name' pod, (c.removePod name).pods.lookup name' = some pod →
      c.pods.lookup name' = some pod := fun _ _ hpod => (Table.lookup_erase_eq_some.mp hpod).2
  intro h
  exact ⟨⟨fun n p hp => h.version n p (hsub n p hp), fun n p hp => h.used n p (hsub n p hp)⟩,
    le_rfl, fun n p hp => .inl (hsub n p hp), fun _ hs => hs⟩

lemma steps_putSecret (secret : Secret) : c.Steps (c.putSecret name secret) := by
  intro h
  exact ⟨⟨h.version, fun n p hp s hs => List.mem_cons_of_mem _ (h.used n p hp s hs)⟩, le_rfl,
    fun _ _ hp => .inl hp, fun _ hs => List.mem_cons_of_mem _ hs⟩

lemma steps_removeSecret : c.Steps (c.removeSecret name) :=
  fun h => ⟨⟨h.version, h.used⟩, le_rfl, fun _ _ hp => .inl hp, fun _ hs => hs⟩

lemma steps_effect (choice : Choice) (op : Op) : c.Steps (c.effect choice op) := by
  cases op with
  | createSecret name secret =>
    simp only [effect]
    split
    · exact steps_refl c
    · exact steps_putSecret c _ _
  | createPod name pod =>
    simp only [effect]
    split
    · exact steps_refl c
    · exact steps_putPod c _ _
  | deletePod name fence =>
    simp only [effect]
    split
    · split
      · exact steps_putPod c _ _
      · exact steps_refl c
    · exact steps_refl c
  | deleteSecret name => exact steps_removeSecret c name
  | _ => exact steps_refl c

lemma perform_snd (op : Op) (choice : Choice) :
    (c.perform op choice).2 = c ∨ (c.perform op choice).2 = c.effect choice op := by
  unfold perform
  split
  · split
    · cases choice.lost with
      | true => exact .inr rfl
      | false => exact .inl rfl
    · exact .inr rfl
  · exact .inr rfl

lemma steps_perform (op : Op) (choice : Choice) : c.Steps (c.perform op choice).2 := by
  obtain h | h := perform_snd c op choice
  · rw [h]
    exact steps_refl c
  · rw [h]
    exact steps_effect c choice op

lemma steps_happen (e : Env) : c.Steps (c.happen e) := by
  cases e with
  | kubelet name status =>
    simp only [happen]
    split
    · split
      · exact steps_putPod c _ _
      · exact steps_refl c
    · exact steps_refl c
  | disappear name =>
    simp only [happen]
    split
    · exact steps_removePod c name
    · exact steps_refl c
  | foreignPut name pod => exact steps_putPod c _ _
  | foreignEdit name labels annotations =>
    simp only [happen]
    split
    · exact steps_putPod c _ _
    · exact steps_refl c
  | foreignRemove name => exact steps_removePod c name
  | foreignPutSecret name secret => exact steps_putSecret c name secret
  | foreignRemoveSecret name => exact steps_removeSecret c name

end

/-! ### A pod that was read -/

/-- A pod of this version under the name is the one that was read. -/
structure Seen (c : Cluster) (name : String) (pod : Pod) : Prop where
  version : pod.fence.resourceVersion < c.next
  same : ∀ pod', c.pods.lookup name = some pod' →
    pod'.fence.resourceVersion = pod.fence.resourceVersion → pod' = pod
  used : ∀ secret, pod.referencedSecret = some secret → secret ∈ c.used

lemma Wf.seen (h : c.Wf) (hpod : c.pods.lookup name = some pod) : c.Seen name pod where
  version := h.version name pod hpod
  same := fun _ hpod' _ => Option.some.inj (hpod'.symm.trans hpod)
  used := h.used name pod hpod

lemma Seen.evolves (h : c.Seen name pod) (he : c.Evolves c') : c'.Seen name pod where
  version := h.version.trans_le he.next
  same := by
    intro pod' hpod' hver
    obtain hpre | hnew := he.pods name pod' hpod'
    · exact h.same pod' hpre hver
    · have := h.version
      omega
  used := fun secret hsec => he.used secret (h.used secret hsec)

/-! ### Replies -/

lemma perform_of_ok (h : (c.perform op choice).1 = .ok a) (hfallible : fallible op) :
    c.answer choice op = .ok a ∧ (c.perform op choice).2 = c.effect choice op := by
  unfold perform at h ⊢
  split at h
  · rw [if_pos hfallible] at h
    cases h
  · exact ⟨h, rfl⟩

lemma lookup_of_readEntry (h : (⟨op, (c.perform op choice).1⟩ : Entry) = readEntry name pod) :
    c.pods.lookup name = some pod ∧ (c.perform op choice).2 = c := by
  obtain ⟨rfl, hrep⟩ := Sigma.mk.inj h
  obtain ⟨hans, heff⟩ := perform_of_ok (eq_of_heq hrep) rfl
  exact ⟨Except.ok.inj hans, heff⟩

lemma lookup_of_rereadEntry (h : (⟨op, (c.perform op choice).1⟩ : Entry) = rereadEntry name pod) :
    op = .rereadPod name ∧ c.pods.lookup name = some pod ∧ (c.perform op choice).2 = c := by
  obtain ⟨rfl, hrep⟩ := Sigma.mk.inj h
  obtain ⟨hans, heff⟩ := perform_of_ok (eq_of_heq hrep) rfl
  exact ⟨rfl, Except.ok.inj hans, heff⟩

lemma lookup_of_absentEntry (h : (⟨op, (c.perform op choice).1⟩ : Entry) = absentEntry secret) :
    c.secrets.lookup secret = none ∧ (c.perform op choice).2 = c := by
  obtain ⟨rfl, hrep⟩ := Sigma.mk.inj h
  obtain ⟨hans, heff⟩ := perform_of_ok (eq_of_heq hrep) rfl
  exact ⟨Option.isSome_eq_false_iff.mp (Except.ok.inj hans) |> Option.isNone_iff_eq_none.mp, heff⟩

/-- The pods that an entry reports were read. -/
def Reads (e : Entry) (c : Cluster) : Prop :=
  ∀ name pod, e = readEntry name pod ∨ e = rereadEntry name pod → c.Seen name pod

lemma Reads.evolves (h : Reads e c) (he : c.Evolves c') : Reads e c' :=
  fun name pod hpod => (h name pod hpod).evolves he

lemma reads_perform (h : c.Wf) (op : Op) (choice : Choice) :
    Reads ⟨op, (c.perform op choice).1⟩ (c.perform op choice).2 := by
  rintro name pod (hread | hreread)
  · obtain ⟨hpod, heq⟩ := lookup_of_readEntry hread
    rw [heq]
    exact h.seen hpod
  obtain ⟨-, hpod, heq⟩ := lookup_of_rereadEntry hreread
  rw [heq]
  exact h.seen hpod

lemma Reads.eq_of_fence (h : Reads e c) (he : e = readEntry name pod ∨ e = rereadEntry name pod)
    (hpod' : c.pods.lookup name = some pod') (hfen : pod'.fence = pod.fence) : pod' = pod :=
  (h name pod he).same pod' hpod' (congrArg Fence.resourceVersion hfen)

/-! ### Runs -/

def deploys (args : ℕ → Deploy.Args) (rounds : ℕ → ℕ) : ℕ → Prog Op Reply (Except Halt String) :=
  fun i => (Deploy.deploy (args i) (rounds i)).run

lemma reads_run (hc : c.Wf) (progs : ℕ → Prog Op Reply (Except Halt String))
    (labels : List (Label Choice Env)) (i : ℕ) :
    Holds (fun _ => Reads) ((run semantics c progs labels).logs i)
      (run semantics c progs labels).world := by
  have hall : AllSteps (step semantics) (Allowed (fun _ _ _ => True) fun _ _ => True)
      (start c progs) labels := by
    refine allSteps_of_forall ?_ _ _
    rintro S (⟨i, choice⟩ | e)
    · exact fun _ _ => trivial
    · trivial
  refine (holds_run (R := fun _ _ => Reads) ?_ ?_ hc hall).2 i
  · intro c i op choice hwf _
    obtain ⟨hwf', hevo⟩ := steps_perform c op choice hwf
    exact ⟨hwf', fun _ _ _ h => h.evolves hevo, fun _ _ => reads_perform hwf op choice⟩
  intro c e hwf _
  obtain ⟨hwf', hevo⟩ := steps_happen c e hwf
  exact ⟨hwf', fun _ _ _ h => h.evolves hevo⟩

/-- A pod that a delete goes through on: the evidence is about the pod itself. -/
inductive Doomed (args : Deploy.Args) (log : CallLog) (name : String) (pod : Pod) : Prop
  | observed (since older : CallLog) (hlog : log = since ++ readEntry name pod :: older)
      (hours : pod.isOurs args.identity) (hstate : Replaceable args.desired pod since)
  | collected (older : CallLog) (hlog : log = rereadEntry name pod :: older)
      (hstate : decodeStartup pod = .resolved .terminated)

lemma doomed_of_justified
    (h : Justified args log name fence) (hrds : Holds (fun _ => Reads) log c)
    (hpod : c.pods.lookup name = some pod) (hfen : pod.fence = fence) :
    Doomed args log name pod := by
  cases h with
  | collected seen older hlog hseen hst =>
    have hread := hrds.of_suffix (e := rereadEntry name seen) (by rw [hlog])
    obtain rfl := hread.eq_of_fence (.inr rfl) hpod (hfen.trans hseen.symm)
    exact .collected older hlog hst
  | observed seen since older hlog hours hseen hst =>
    have hread := hrds.of_suffix (e := readEntry name seen) (hlog ▸ List.suffix_append since _)
    obtain rfl := hread.eq_of_fence (.inl rfl) hpod (hfen.trans hseen.symm)
    exact .observed since older hlog hours hst

/-- In every run a delete that goes through has evidence about the pod itself. -/
lemma doomed_run (hc : c.Wf) (args : ℕ → Deploy.Args) (rounds : ℕ → ℕ)
    (labels : List (Label Choice Env))
    (hdel : ((run semantics c (deploys args rounds) labels).progs i).next? =
      some (.deletePod name fence))
    (hpod : (run semantics c (deploys args rounds) labels).world.pods.lookup name = some pod)
    (hfen : pod.fence = fence) :
    Doomed (args i) ((run semantics c (deploys args rounds) labels).logs i) name pod := by
  have hal := along_foldl (W := semantics) (S := start c (deploys args rounds))
    (fun i => Deploy.along_deploy (args i) (rounds i)) labels i
  exact doomed_of_justified (hal.next hdel name fence rfl) (reads_run hc _ labels i) hpod hfen

end Cluster

end Buzz.Kube
