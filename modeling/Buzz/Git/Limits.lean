import Buzz.Git.ManifestSize
import Mathlib.Algebra.Order.BigOperators.Group.List

/-!
What is published can be served.

The limits are enforced in different places: the count of packs before a delta pack is added and
after a compaction, the size of a pack when it is captured, their sum against the bytes that the
hydration of the parent has measured.  Together they keep every published manifest `WithinLimits`
(`withinLimits_run`), whatever compaction does.

Hydration measures two things more: the index of each pack, and the manifest itself.  A compaction
looks at its indices, a delta pack is published whatever the length of its index, and nothing looks at
the length of a manifest.  Pushes that leave room for both (`RoomyPush`) keep everything that is
published readable.
-/

namespace Buzz.Git

open Lib Buzz.Core RepoState List GitServer FailsOnly Pack

variable {D E : Type} {g : GitServer D}

/-! ### Sums -/

lemma sum_le_of_subperm (f : String → ℕ) (h : List.Subperm l l') :
    (l.map f).sum ≤ (l'.map f).sum := by
  obtain ⟨m, hperm, hsub⟩ := h
  rw [← (hperm.map f).sum_eq]
  exact (hsub.map f).sum_le_sum fun a _ => Nat.zero_le a

/-! ### Manifests within the limits -/

/-- Valid, and its packs are within the limits, one by one and together. -/
structure WithinLimits (g : GitServer D) (m : Manifest D) : Prop where
  valid : m.Valid
  version : m.version = manifestVersion
  packBytes : ∀ k ∈ m.packs, g.files.bytes k ≤ g.maxPackBytes
  repoBytes : g.repoBytes m.packs ≤ g.maxRepoBytes

lemma valid_seed : (Manifest.seed : Manifest D).Valid where
  packCount := Nat.zero_le _
  refCount := Nat.zero_le _
  headNonempty := show defaultHead ≠ "" by decide
  headSafe := show isSafeRefname defaultHead by decide
  refsSafe r hr := by cases hr
  packKeys k hk := by cases hk

lemma withinLimits_seed : WithinLimits g Manifest.seed where
  valid := valid_seed
  version := rfl
  packBytes k hk := by cases hk
  repoBytes := Nat.zero_le _

variable {m : Manifest D}

lemma WithinLimits.canonical (h : WithinLimits g m) : WithinLimits g m.canonical where
  valid := h.valid.canonical
  version := h.version
  packBytes k hk := h.packBytes k (mem_sortDedup.mp hk)
  repoBytes := (sum_le_of_subperm g.files.bytes (sortDedup_subperm m.packs)).trans h.repoBytes

/-! ### What a publication names -/

/-- The packs a publication names: its parent's, or checked ones. -/
structure Planned (g : GitServer D) (cap : Capture) (ps : ParentState D E) (m : Manifest D) :
    Prop where
  version : m.version = manifestVersion
  count : m.packs.length ≤ maxManifestPacks
  packs : ∀ k ∈ m.packs, k ∈ ps.parent.packs ∨ g.files.bytes k ≤ g.maxPackBytes ∧
    (g.files.idxBytes k ≤ g.maxPackBytes ∨
      ∃ revs p, cap.delta revs = .ok p ∧ p.bytes ≠ 0 ∧ p.key = k ∧ p.idxBytes = g.files.idxBytes k)
  repoBytes : g.repoBytes m.packs ≤ g.maxRepoBytes

variable {ps : ParentState D E} {cap : MeasuredCapture g.files}

section Plan

variable {head : String} {refs : Refs}

lemma MeasuredCapture.sum_bytes (h : refs.entries = [] ∧ packs = [] ∨ cap.compaction revs = .ok packs) :
    g.repoBytes (packs.map key) = (packs.map bytes).sum := by
  have hmeasured : ∀ p ∈ packs, p = g.files.pack p.key := by
    rcases h with ⟨-, rfl⟩ | h
    · simp
    · exact cap.compaction_measured _ packs h
  rw [repoBytes, map_map]
  congr 1
  refine map_congr_left ?_
  intro p hp
  exact congrArg bytes (hmeasured p hp).symm

lemma planned_compacted {keys : List String}
    (hlim : limits.maxPackBytes = g.maxPackBytes ∧ limits.maxRepoBytes = g.maxRepoBytes)
    (h : prepareCompaction limits refs packsBefore cap.toCapture = .ok keys) :
    Planned g cap.toCapture ps (composeCompactedAfter ps.parentDigest head refs keys) := by
  obtain ⟨packs, hrun, rfl, hcount, heach, hsum⟩ := prepareCompaction_ok h
  rw [hlim.1] at heach
  rw [hlim.2] at hsum
  have hsub := (sortDedup_subperm (sortDedup (packs.map key))).trans
    (sortDedup_subperm (packs.map key))
  refine ⟨rfl, ?_, ?_, ?_⟩
  · have hlen := hsub.length_le
    rw [length_map] at hlen
    exact hlen.trans hcount
  · intro k hk
    obtain ⟨p, hp, rfl⟩ : ∃ p ∈ packs, p.key = k := by
      simpa [composeCompactedAfter] using hk
    have hp' : p = g.files.pack p.key := by
      rcases hrun with ⟨-, rfl⟩ | hrun
      · cases hp
      · exact cap.compaction_measured _ packs hrun p hp
    obtain ⟨hby, hidx⟩ := heach p hp
    rw [hp'] at hby hidx
    exact .inr ⟨hby, .inl hidx⟩
  calc g.repoBytes (sortDedup (sortDedup (packs.map key)))
      ≤ g.repoBytes (packs.map key) := sum_le_of_subperm g.files.bytes hsub
    _ = (packs.map bytes).sum := MeasuredCapture.sum_bytes hrun
    _ ≤ g.maxRepoBytes := hsum

lemma composeAfter_subperm (parent : Manifest D) (parentDigest : Option D) (head : String)
    (refs : Refs) (key : Option String) :
    List.Subperm (composeAfter parent parentDigest head refs key).packs
      (parent.packs ++ key.toList) := by
  cases key with
  | none => exact (sortDedup_subperm _).trans (sublist_append_left _ _).subperm
  | some k =>
    by_cases hk : k ∈ parent.packs
    · simp only [composeAfter, hk, if_true]
      exact (sortDedup_subperm _).trans (sublist_append_left _ _).subperm
    · simp only [composeAfter, hk, if_false]
      exact sortDedup_subperm _

variable (hcount : ps.parent.packs.length ≤ maxManifestPacks)

include hcount

variable (hrepo : g.repoBytes ps.parent.packs ≤ g.maxRepoBytes)

include hrepo

/-- With a delta pack: the count and the sum are those of the parent, and what was checked to fit. -/
lemma planned_delta {key : Option String}
    (hpack : capturePack (g.publishLimits ps) refs cap.toCapture ps.parent.refs = .ok pack)
    (hroom : pack.isSome → ps.parent.packs.length < maxManifestPacks)
    (hput : putDelta (g.publishLimits ps) cap.toCapture pack = .ok key) :
    Planned g cap.toCapture ps (composeAfter ps.parent ps.parentDigest head refs key) := by
  have hsub := composeAfter_subperm ps.parent ps.parentDigest head refs key
  have hlen := hsub.length_le
  have hby := sum_le_of_subperm g.files.bytes hsub
  rw [length_append] at hlen
  rw [map_append, sum_append] at hby
  obtain ⟨rfl, rfl⟩ | ⟨p, rfl, rfl, htot⟩ := putDelta_ok hput
  · refine ⟨rfl, hlen.trans hcount, ?_, hby.trans hrepo⟩
    intro k hk
    rcases mem_composeAfter_packs.mp hk with hk | hk
    · exact .inl hk
    · cases hk
  obtain ⟨hnone, -⟩ | ⟨p', heq, hrun, hzero, hsize⟩ := capturePack_ok hpack
  · cases hnone
  obtain rfl : p = p' := Option.some.inj heq
  have hp : p = g.files.pack p.key := cap.delta_measured _ p hrun
  have hpbytes : p.bytes = g.files.bytes p.key := congrArg bytes hp
  have hpidx : p.idxBytes = g.files.idxBytes p.key := congrArg idxBytes hp
  refine ⟨rfl, ?_, ?_, ?_⟩
  · have hlt := hroom rfl
    simp only [Option.toList, length_singleton] at hlen
    omega
  · intro k hk
    rcases mem_composeAfter_packs.mp hk with hk | hk
    · exact .inl hk
    obtain rfl : p.key = k := Option.some.inj hk
    rw [hpbytes] at hsize
    exact .inr ⟨hsize, .inr ⟨_, p, hrun, hzero, rfl, hpidx⟩⟩
  have hlast : ((some p.key).toList.map g.files.bytes).sum = p.bytes := by simp [hpbytes]
  rw [hlast] at hby
  exact hby.trans htot

/-- **A publication stays within the limits**, by either path and after a failed compaction. -/
theorem planned_planManifest {m : Manifest D}
    (h : planManifest ps (g.publishLimits ps) packCompactionThreshold cap.toCapture head refs =
      .ok m) : Planned g cap.toCapture ps m := by
  obtain ⟨keys, hkeys, rfl⟩ | ⟨pack, key, hpack, hroom, hput, rfl⟩ := planManifest_ok h
  · exact planned_compacted ⟨rfl, rfl⟩ hkeys
  · exact planned_delta hcount hrepo hpack hroom hput

end Plan

/-! ### Room for hydration -/

/-- The longest name that is expected of a ref, in bytes. -/
def maxNameBytes : ℕ := 4096

def manifestRoom : ℕ := maxNameBytes + 73 * maxManifestPacks + 120

/-- The indices of the packs and the stored form of the manifest are within the limits. -/
structure Roomy (g : GitServer D) (m : Manifest D) : Prop where
  idxBytes : ∀ k ∈ m.packs, g.files.idxBytes k ≤ g.maxPackBytes
  head : m.head.utf8ByteSize ≤ maxNameBytes
  names : ∀ name ∈ m.refs.keys, name.utf8ByteSize ≤ maxNameBytes
  refs : refsJsonBytes m.refs.entries + manifestRoom ≤ maxManifestBytes

/-- The push leaves room: for the index of its delta pack, and for the manifest with its refs. -/
structure RoomyPush (g : GitServer D) (ws : Workspace) (cap : Capture) : Prop where
  idxBytes : ∀ revs p, cap.delta revs = .ok p → p.bytes ≠ 0 → p.idxBytes ≤ g.maxPackBytes
  head : ws.head.utf8ByteSize ≤ maxNameBytes
  names : ∀ l ∈ ws.refLines, l.1.utf8ByteSize ≤ maxNameBytes
  refs : refsJsonBytes ws.refLines + manifestRoom ≤ maxManifestBytes

lemma roomy_seed : Roomy g Manifest.seed where
  idxBytes k hk := by cases hk
  head := show defaultHead.utf8ByteSize ≤ maxNameBytes by decide
  names name hname := by cases hname
  refs := show 0 + manifestRoom ≤ maxManifestBytes by decide

lemma Roomy.canonical (h : Roomy g m) : Roomy g m.canonical where
  idxBytes k hk := h.idxBytes k (mem_sortDedup.mp hk)
  head := h.head
  names := h.names
  refs := h.refs

lemma roomy_casPlan (hpush : RoomyPush g ws cap.toCapture)
    (hparent : ps.parent.head.utf8ByteSize ≤ maxNameBytes)
    (hidx : ∀ k ∈ ps.parent.packs, g.files.idxBytes k ≤ g.maxPackBytes)
    (hplan : Planned g cap.toCapture ps m)
    (h : casPlan ps limits threshold ws cap.toCapture = .ok m) : Roomy g m := by
  have hsnap := casPlan_refs h
  have hns : ∀ name ∈ m.refs.keys, name.utf8ByteSize ≤ maxNameBytes := by
    intro name hname
    obtain ⟨r, hr, rfl⟩ := mem_map.mp hname
    exact hpush.names r (snapshotWorkspaceState_mem hsnap hr)
  refine ⟨?_, ?_, ?_, ?_⟩
  · intro k hk
    rcases hplan.packs k hk with hk | ⟨_, hk | ⟨revs, p, hrun, hzero, _, hpidx⟩⟩
    · exact hidx k hk
    · exact hk
    · rw [← hpidx]
      exact hpush.idxBytes revs p hrun hzero
  · rw [casPlan_head h]
    rcases resolvePublishedHead_cases m.refs ws.head ps.parent.head with hkey | hhead | hhead
    · exact hns _ hkey
    · rw [hhead]
      exact hpush.head
    · rw [hhead]
      exact hparent
  · exact hns
  have hsum : refsJsonBytes m.refs.entries ≤ refsJsonBytes ws.refLines :=
    snapshotWorkspaceState_sum_le _ hsnap
  have hroom := hpush.refs
  omega

/-! ### Hydration -/

section Hydration

variable {source : String → PackSource}

lemma canonicalBytes_le (h : WithinLimits g m) (hr : Roomy g m) :
    (m.canonicalBytes g.digestText).length ≤ maxManifestBytes := by
  have hsize := canonicalBytes_length_le g.digestText_isDigest h.valid h.version
  have hcount : m.packs.length ≤ maxManifestPacks := h.valid.packCount
  have hhead := hr.head
  have hroom := hr.refs
  unfold manifestRoom at hroom
  omega

lemma readManifest_ok (h : WithinLimits g m) (hr : Roomy g m) (digest : D) :
    g.readManifest digest m = .ok () := by
  simp only [readManifest, bind_eq_ok, refuseIf_eq_ok, mapError_eq_ok, not_lt, gt_iff_lt]
  refine ⟨(), canonicalBytes_le h hr, (), ?_, validate_eq_ok.mpr h.valid⟩
  simp [Manifest.checkVersion, h.version]

lemma materializePack_failsOnly {source : PackSource} {key : String}
    (hby : g.files.bytes key ≤ g.maxPackBytes) (hidx : g.files.idxBytes key ≤ g.maxPackBytes) :
    FailsOnly (fun e => e.isRefusal = false) (g.materializePack source key) := by
  have henforce : g.enforceIdxSize key = .ok () := refuseIf_eq_ok.mpr (not_lt.mpr hidx)
  have hinst : ∀ sidecar, g.installOrGenerateIdx key sidecar = .ok () := by
    intro sidecar
    cases sidecar with
    | none => exact henforce
    | some idxBytes =>
      simp only [installOrGenerateIdx, henforce]
      split_ifs <;> rfl
  refine failsOnly_guard (fun _ => rfl) fun _ => ?_
  cases source with
  | cached => exact failsOnly_ok _
  | unreadable message | broken message => exact failsOnly_error rfl
  | stored sidecar =>
    refine failsOnly_guard (fun hlg => absurd hlg (not_lt.mpr hby)) fun _ => ?_
    simp only [hinst]
    exact failsOnly_ok _

/-- The sum so far and the packs to come fit together, so no check of the loop can fail. -/
lemma materializePacks_failsOnly {keys : List String} {hydrated : ℕ}
    (hby : ∀ k ∈ keys, g.files.bytes k ≤ g.maxPackBytes)
    (hidx : ∀ k ∈ keys, g.files.idxBytes k ≤ g.maxPackBytes)
    (hsum : hydrated + g.repoBytes keys ≤ g.maxRepoBytes) :
    FailsOnly (fun e => e.isRefusal = false) (g.materializePacks source keys hydrated) := by
  induction keys generalizing hydrated with
  | nil => exact failsOnly_ok _
  | cons key keys ih =>
    have hkey := hby key mem_cons_self
    have hu64 := g.maxRepoBytes_le
    have hcons : g.repoBytes (key :: keys) = g.files.bytes key + g.repoBytes keys := by
      simp [repoBytes]
    rw [hcons] at hsum
    refine failsOnly_guard (fun _ => rfl) fun _ => ?_
    refine (materializePack_failsOnly hkey (hidx key mem_cons_self)).bind ?_
    intro packBytes hpack
    obtain rfl := materializePack_ok hpack
    refine failsOnly_guard (fun hlg => absurd hlg (by omega)) fun _ => ?_
    refine failsOnly_guard (fun hlg => absurd hlg (by omega)) fun _ => ?_
    refine failsOnly_guard (fun hlg => absurd hlg (by omega)) fun _ => ?_
    exact ih (fun k hk => hby k (mem_cons_of_mem _ hk))
      (fun k hk => hidx k (mem_cons_of_mem _ hk)) (by omega)

/-- **Hydration is not refused.** Reads and subprocesses may fail, the limits and the checks do
not. -/
theorem hydrateManifest_failsOnly (h : WithinLimits g m) (hr : Roomy g m) (digest : D) :
    FailsOnly (fun e => e.isRefusal = false) (g.hydrateManifest source digest m) := by
  unfold hydrateManifest materializeManifest
  rw [readManifest_ok h hr digest]
  refine (failsOnly_ok _).bind fun _ _ => ?_
  refine (materializePacks_failsOnly h.packBytes hr.idxBytes ?_).bind fun _ _ => ?_
  · rw [Nat.zero_add]
    exact h.repoBytes
  refine (failsOnly_forM fun r _ => ?_).bind fun _ _ => ?_
  · refine failsOnly_guard (fun _ => rfl) fun _ => ?_
    exact failsOnly_refuseIf fun _ => rfl
  · exact failsOnly_guard (fun _ => rfl) fun _ => failsOnly_ok _

end Hydration

/-! ### The count of packs is never refused -/

section TooManyPacks

variable {limits : PublishLimits}

lemma snapshotWorkspaceState_failsOnly (ws : Workspace) :
    FailsOnly (fun e => e.isValidation = false) (snapshotWorkspaceState ws) := by
  have hread : ∀ (lines : List (String × String)) (refs : Refs),
      FailsOnly (fun e => e.isValidation = false) (readRefs lines refs) := by
    intro lines
    induction lines with
    | nil => exact fun refs => failsOnly_ok refs
    | cons l lines ih =>
      intro refs
      obtain ⟨name, oid⟩ := l
      simp only [readRefs]
      split_ifs
      · exact ih refs
      · exact failsOnly_error rfl
      · exact ih _
  exact failsOnly_guard (fun _ => rfl) fun _ => hread _ _

lemma checkCompactedPacks_failsOnly (packs : List Pack) (total : ℕ) :
    FailsOnly (fun e => e.isValidation = false) (checkCompactedPacks limits packs total) := by
  induction packs generalizing total with
  | nil => exact failsOnly_ok ()
  | cons p ps ih =>
    refine failsOnly_guard (fun _ => rfl) fun _ => ?_
    refine failsOnly_guard (fun _ => rfl) fun _ => ?_
    refine failsOnly_guard (fun _ => rfl) fun _ => ?_
    refine failsOnly_guard (fun _ => rfl) fun _ => ?_
    exact ih _

lemma prepareCompaction_failsOnly (refs : Refs) (packsBefore : ℕ) :
    FailsOnly (fun e => e.isValidation = false)
      (prepareCompaction limits refs packsBefore cap.toCapture) := by
  refine bind ?_ fun packs _ => ?_
  · unfold captureCompactedPacks
    split_ifs
    · exact failsOnly_ok _
    refine bind (cap.compaction_error _) fun packs _ => ?_
    refine failsOnly_guard (fun _ => rfl) fun _ => ?_
    exact (checkCompactedPacks_failsOnly packs 0).bind fun _ _ => failsOnly_ok _
  · exact failsOnly_guard (fun _ => rfl) fun _ => failsOnly_ok _

lemma planDelta_failsOnly {head : String} {failure : Option CasError}
    (hfailure : ∀ e, failure = some e → e.isValidation = false) :
    FailsOnly (fun e => e.isValidation = false)
      (planDelta ps limits cap.toCapture head refs failure) := by
  refine bind ?_ fun pack _ => ?_
  · unfold capturePack
    split_ifs
    · exact failsOnly_ok _
    · refine bind (cap.delta_error _) fun pack _ => ?_
      exact failsOnly_guard (fun _ => rfl) fun _ => failsOnly_ok _
  refine failsOnly_guard (fun _ => ?_) fun _ => ?_
  · cases failure with
    | none => rfl
    | some e => exact hfailure e rfl
  refine bind ?_ fun key _ => failsOnly_ok _
  cases pack with
  | none => exact failsOnly_ok _
  | some p =>
    refine failsOnly_guard (fun _ => rfl) fun _ => ?_
    refine failsOnly_guard (fun _ => rfl) fun _ => ?_
    exact bind cap.putPack_error fun _ _ => failsOnly_ok _

lemma planManifest_failsOnly {threshold : ℕ} {head : String} {refs : Refs} :
    FailsOnly (fun e => e.isValidation = false)
      (planManifest ps limits threshold cap.toCapture head refs) := by
  simp only [planManifest]
  split_ifs
  · rcases hkeys : prepareCompaction limits refs ps.parent.packs.length cap.toCapture with e | keys
    · refine planDelta_failsOnly ?_
      rintro _ ⟨⟩
      exact prepareCompaction_failsOnly refs _ e hkeys
    · exact failsOnly_ok _
  · refine planDelta_failsOnly ?_
    rintro e ⟨⟩

lemma validate_failsOnly (h : m.packs.length ≤ maxManifestPacks) :
    FailsOnly (fun e => ∀ got max, e ≠ .tooManyPacks got max) m.validate := by
  refine failsOnly_guard (fun hmany => absurd hmany (not_lt.mpr h)) fun _ => ?_
  refine failsOnly_guard (fun _ => by simp) fun _ => ?_
  refine failsOnly_guard (fun _ => by simp) fun _ => ?_
  refine failsOnly_guard (fun _ => by simp) fun _ => ?_
  refine (failsOnly_forM fun r _ => ?_).bind fun _ _ => failsOnly_forM fun k _ => ?_
  · refine failsOnly_guard (fun _ => by simp) fun _ => ?_
    exact failsOnly_refuseIf fun _ => by simp
  · exact failsOnly_refuseIf fun _ => by simp

lemma casPlan_tooManyPacks {ws : Workspace} {got max : ℕ}
    (h : casPlan ps limits threshold ws cap.toCapture =
      .error (.manifestInvalid (.tooManyPacks got max))) :
    ∃ head refs m, planManifest ps limits threshold cap.toCapture head refs = .ok m ∧
      m.packs.length > maxManifestPacks := by
  simp only [casPlan, bind_eq_error, mapError_eq_error] at h
  rcases h with h | ⟨refs, _, h | ⟨m, hplan, ⟨e, hval, heq⟩ | ⟨_, _, h⟩⟩⟩
  · cases snapshotWorkspaceState_failsOnly ws _ h
  · cases planManifest_failsOnly _ h
  · refine ⟨_, refs, m, hplan, ?_⟩
    by_contra hcount
    obtain rfl := CasError.manifestInvalid.inj heq
    exact validate_failsOnly (not_lt.mp hcount) _ hval got max rfl
  · cases h

end TooManyPacks

/-! ### Runs -/

section Runs

variable [DecidableEq D] [DecidableEq E] {S : Hashing D E} {st : RepoState D E}
  {P : Manifest D → Prop}

lemma manifestsInv_foldl (hP : Hereditary S P) {acts : List (RepoAct D)}
    (hacts : ∀ a ∈ acts, a.isPublish = false) (h : ManifestsInv P st) :
    ManifestsInv P (acts.foldl (RepoState.step S) st) := by
  induction acts generalizing st with
  | nil => exact h
  | cons a acts ih =>
    have ha : PublishKeeps P st a := by
      cases a with
      | publish id ws limits cap => cases hacts _ mem_cons_self
      | _ => trivial
    exact ih (fun a' ha' => hacts a' (mem_cons_of_mem _ ha')) (h.step hP ha)

/-- A publication of the server keeps the property, from a parent that has it. -/
def ServerKeeps (g : GitServer D) (P : Manifest D → Prop) (st : RepoState D E) :
    ServerAct D g.files → Prop
  | .publish id ws cap => ∀ base ps m, st.attempts.lookup id = some (.hydrated base ps) →
      ps = .fresh ∨ P ps.parent →
      casPlan ps (g.publishLimits ps) packCompactionThreshold ws cap.toCapture = .ok m → P m
  | _ => True

/-- **Step lemma.** What the machine without limits keeps of all manifests, the server keeps. -/
theorem manifestsInv_serverStep (hP : Hereditary S P) (h : ManifestsInv P st)
    {act : ServerAct D g.files} (hact : ServerKeeps g P st act) :
    ManifestsInv P (g.step S st act) := by
  obtain ⟨id, ws, cap, rfl, hstep⟩ | ⟨acts, hacts, hstep⟩ := step_cases (S := S) st act
  · rw [hstep]
    refine h.step hP ?_
    intro base ps m hl hparent hplan
    have hlim : g.limitsOf st id = g.publishLimits ps := by simp [limitsOf, hl]
    rw [hlim] at hplan
    exact hact base ps m hl hparent hplan
  · rw [hstep]
    exact manifestsInv_foldl hP hacts h

/-! ### Limits -/

omit [DecidableEq E] in
lemma withinLimits_hereditary : Hereditary S (WithinLimits g) where
  seed := withinLimits_seed
  canonical _ := WithinLimits.canonical
  edit s s' request hs hedit := by
    have hval := (edit_changed hedit).1
    obtain ⟨_, _, _, head, hed⟩ | ⟨hf, _⟩ := edit_ok hedit
    · refine ⟨hval, ?_, ?_, ?_⟩
      · rw [hed]
        exact hs.version
      · rw [hed]
        exact hs.packBytes
      · rw [hed]
        exact hs.repoBytes
    · cases hf

omit [DecidableEq D] [DecidableEq E] in
lemma parent_withinLimits (h : ps = .fresh ∨ WithinLimits g ps.parent) :
    ps.parent.packs.length ≤ maxManifestPacks ∧
      (∀ k ∈ ps.parent.packs, g.files.bytes k ≤ g.maxPackBytes) ∧
      g.repoBytes ps.parent.packs ≤ g.maxRepoBytes := by
  rcases h with rfl | h
  · refine ⟨Nat.zero_le _, ?_, Nat.zero_le _⟩
    intro k hk
    cases hk
  · exact ⟨h.valid.packCount, h.packBytes, h.repoBytes⟩

section Publish

variable {ws : Workspace}

section

variable (hparent : ps = .fresh ∨ WithinLimits g ps.parent)
include hparent

section

variable (h : casPlan ps (g.publishLimits ps) packCompactionThreshold ws cap.toCapture = .ok m)

include h

omit [DecidableEq D] [DecidableEq E] in
lemma planned_casPlan : Planned g cap.toCapture ps m := by
  obtain ⟨refs, _, hplan, _⟩ := casPlan_eq_ok.mp h
  obtain ⟨hcount, _, hrepo⟩ := parent_withinLimits hparent
  exact planned_planManifest hcount hrepo hplan

omit [DecidableEq D] [DecidableEq E] in
lemma withinLimits_casPlan : WithinLimits g m := by
  obtain ⟨_, _, _, hval⟩ := casPlan_eq_ok.mp h
  have hplan := planned_casPlan hparent h
  refine ⟨validate_eq_ok.mp hval, hplan.version, ?_, hplan.repoBytes⟩
  intro k hk
  rcases hplan.packs k hk with hk | ⟨hby, _⟩
  · exact (parent_withinLimits hparent).2.1 k hk
  · exact hby

end

omit [DecidableEq D] [DecidableEq E] in
lemma casPlan_ne_tooManyPacks (got max : ℕ) :
    casPlan ps (g.publishLimits ps) packCompactionThreshold ws cap.toCapture ≠
      .error (.manifestInvalid (.tooManyPacks got max)) := by
  intro h
  obtain ⟨head, refs, m, hplan, hmany⟩ := casPlan_tooManyPacks h
  obtain ⟨hcount, _, hrepo⟩ := parent_withinLimits hparent
  have hplanned := planned_planManifest hcount hrepo hplan
  exact absurd hplanned.count (not_le.mpr hmany)

end

end Publish

/-- **Published manifests are within the limits**, in every run and whatever compaction does. -/
theorem withinLimits_run (S : Hashing D E) (acts : List (ServerAct D g.files)) :
    ManifestsInv (WithinLimits g) (g.run S acts : RepoState D E) := by
  induction acts using reverseRecOn with
  | nil => exact manifestsInv_init
  | append_singleton acts act ih =>
    rw [GitServer.run, foldl_concat]
    refine manifestsInv_serverStep withinLimits_hereditary ih ?_
    cases act with
    | publish id ws cap => exact fun base ps m _ hparent hplan => withinLimits_casPlan hparent hplan
    | _ => trivial

/-! ### Room -/

/-- The action is no push, or one that leaves room. -/
def RoomyAct (g : GitServer D) : ServerAct D g.files → Prop
  | .publish _ ws cap => RoomyPush g ws cap.toCapture
  | _ => True

omit [DecidableEq E] in
lemma servable_hereditary : Hereditary S fun m => WithinLimits g m ∧ Roomy g m where
  seed := ⟨withinLimits_seed, roomy_seed⟩
  canonical _ h := ⟨h.1.canonical, h.2.canonical⟩
  edit s s' request hs hedit := by
    refine ⟨withinLimits_hereditary.edit s s' request hs.1 hedit, ?_⟩
    have hhead := (edit_changed hedit).2.1
    obtain ⟨_, _, _, head, hed⟩ | ⟨hf, _⟩ := edit_ok hedit
    · have hrefs : s'.manifest.refs = s.manifest.refs := by rw [hed]
      have hpks : s'.manifest.packs = s.manifest.packs := by rw [hed]
      rw [hrefs] at hhead
      refine ⟨?_, hs.2.names _ hhead, ?_, ?_⟩
      · rw [hpks]
        exact hs.2.idxBytes
      · rw [hrefs]
        exact hs.2.names
      · rw [hrefs]
        exact hs.2.refs
    · cases hf

omit [DecidableEq D] [DecidableEq E] in
lemma servable_casPlan (hpush : RoomyPush g ws cap.toCapture)
    (hparent : ps = .fresh ∨ (WithinLimits g ps.parent ∧ Roomy g ps.parent))
    (h : casPlan ps (g.publishLimits ps) packCompactionThreshold ws cap.toCapture = .ok m) :
    WithinLimits g m ∧ Roomy g m := by
  have hwi : ps = .fresh ∨ WithinLimits g ps.parent := hparent.imp_right And.left
  refine ⟨withinLimits_casPlan hwi h, roomy_casPlan hpush ?_ ?_ (planned_casPlan hwi h) h⟩
  · rcases hparent with rfl | hparent
    · exact Nat.zero_le _
    · exact hparent.2.head
  rcases hparent with rfl | hparent
  · intro k hk
    cases hk
  · exact hparent.2.idxBytes

lemma servable_run (h : AllSteps (g.step S) (fun _ => RoomyAct g) (init : RepoState D E) acts) :
    ManifestsInv (fun m => WithinLimits g m ∧ Roomy g m) (g.run S acts) := by
  refine h.invariant ?_ manifestsInv_init
  intro st act hst hact
  refine manifestsInv_serverStep servable_hereditary hst ?_
  cases act with
  | publish id ws cap =>
    exact fun base ps m _ hparent hplan => servable_casPlan hact hparent hplan
  | _ => trivial

/-- **What is published can be served.** If every push leaves room for the index of its delta pack
and for its manifest, then every published manifest is within the limits, no hydration of it is ever
refused, and no publication from it fails on the count of packs. -/
theorem published_servable (S : Hashing D E) (g : GitServer D) (acts : List (ServerAct D g.files))
    (h : AllSteps (g.step S) (fun _ => RoomyAct g) (init : RepoState D E) acts) :
    (∀ i ∈ (g.run S acts : RepoState D E).installed,
      i.manifest.packs.length ≤ 128 ∧ i.manifest.refs.size ≤ 10000 ∧
      (∀ k ∈ i.manifest.packs, g.files.bytes k ≤ g.maxPackBytes) ∧
      (i.manifest.packs.map g.files.bytes).sum ≤ g.maxRepoBytes ∧
      ∀ source digest e, g.hydrateManifest source digest i.manifest = .error e →
        e.isRefusal = false) ∧
    ∀ id base ps, (g.run S acts : RepoState D E).attempts.lookup id = some (.hydrated base ps) →
      ∀ ws (cap : MeasuredCapture g.files) got max,
        casPlan ps (g.publishLimits ps) packCompactionThreshold ws cap.toCapture ≠
          .error (.manifestInvalid (.tooManyPacks got max)) := by
  constructor
  · intro i hi
    obtain ⟨hwithin, hroomy⟩ := (servable_run h).installed i hi
    refine ⟨hwithin.valid.packCount, hwithin.valid.refCount, hwithin.packBytes,
      hwithin.repoBytes, ?_⟩
    intro source digest e he
    exact hydrateManifest_failsOnly hwithin hroomy digest e he
  · intro id base ps hl ws cap got max
    exact casPlan_ne_tooManyPacks ((withinLimits_run S acts).attempts id _ hl) got max

end Runs

/-! ### A long index -/

def demoFiles : PackFiles := ⟨fun _ => 200, fun _ => 1100⟩

def demoServer (maxPackBytes : ℕ) : GitServer Transcript where
  maxPackBytes := maxPackBytes
  maxRepoBytes := 4000
  maxRepoBytes_le := by decide
  files := demoFiles
  digestText _ := "0123456789012345678901234567890123456789012345678901234567890123"
  digestText_isDigest _ := by decide

def demoPack : Pack :=
  demoFiles.pack "packs/0123456789012345678901234567890123456789012345678901234567890123"

def demoCapture : MeasuredCapture demoFiles where
  compaction _ := .error (.packCapture "pack compaction capacity closed")
  delta _ := .ok demoPack
  putPack := .ok ()
  delta_measured := by
    rintro _ p ⟨⟩
    rfl
  compaction_measured := by rintro _ packs ⟨⟩
  delta_error := by rintro _ e ⟨⟩
  compaction_error := by
    rintro _ e ⟨⟩
    rfl
  putPack_error := by rintro e ⟨⟩

def demoPush : List (ServerAct Transcript demoFiles) :=
  [.hydrate 0 fun _ => .stored none, .publish 0 loneWorkspace demoCapture,
    .other (.casPush 0 false) rfl]

set_option maxRecDepth 4000 in
/-- The pack is within the limit of one thousand bytes and is published; its index is not, and the
repository cannot be read. -/
theorem long_index_refused :
    ((demoServer 1000).run Hashing.transcript demoPush).installed.length = 1 ∧
      (demoServer 1000).hydrateForRead Hashing.transcript
        ((demoServer 1000).run Hashing.transcript demoPush) (fun _ => .stored none) =
      .error (.resourceLimit ("generated idx " ++
        "0123456789012345678901234567890123456789012345678901234567890123" ++
        " is 1100 bytes (max 1000)")) := by
  decide +kernel

lemma demoPush_roomy : RoomyPush (demoServer 2000) loneWorkspace demoCapture.toCapture where
  idxBytes := by
    rintro _ p ⟨⟩ _
    decide
  head := by decide
  names := by decide
  refs := by decide

theorem demoPush_servable :
    ((demoServer 2000).run Hashing.transcript demoPush).installed.length = 1 ∧
      ∀ i ∈ ((demoServer 2000).run Hashing.transcript demoPush).installed, ∀ source digest e,
        (demoServer 2000).hydrateManifest source digest i.manifest = .error e →
          e.isRefusal = false := by
  refine ⟨by decide +kernel, ?_⟩
  intro i hi
  have hservable := published_servable Hashing.transcript (demoServer 2000) demoPush
    ⟨trivial, demoPush_roomy, trivial, trivial⟩
  exact (hservable.1 i hi).2.2.2.2

end Buzz.Git
