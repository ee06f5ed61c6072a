import Buzz.Core.Json
import Buzz.Git.PktLine
import Buzz.Git.Invariant

/-!
Hydration under limits.

To serve a repository, a relay reads the pointer's manifest, bounded in bytes, checks it, and puts
each of its packs with an index into a fresh bare repository, where a pack, an index and the sum of
the packs are bounded.  What the pack cache, the store and the `git` subprocesses answer for a pack
is the argument `PackSource`.

`GitServer.step` is the pointer machine of one relay with fixed limits: hydration may be refused, and
a publication gets its limits from the hydration before it.  Each of its steps is a short run of
`RepoState.step` (`step_cases`), so that whatever holds of all runs there holds here.
-/

namespace Buzz.Git

open Lib Buzz.Core RepoState List

variable {D E : Type}

/-! ### The stored form of a manifest -/

variable (digestText : D → String)

def parentJson : Option D → Json
  | some d => .string (digestText d)
  | none => .null

/-- The fields in the order of their declaration; a digest is written as its text. -/
def Manifest.json (m : Manifest D) : Json :=
  .object
    [("version", .number (JsonNumber.ofNat m.version)),
      ("head", .string m.head),
      ("refs", .object (m.refs.entries.map fun r => (r.1, .string r.2))),
      ("packs", .array (m.packs.map Json.string)),
      ("parent", parentJson digestText m.parent)]

def Manifest.canonicalBytes (m : Manifest D) : Bytes :=
  utf8 (String.ofList (m.canonical.json digestText).compact)

/-- `from_bytes` after the bytes have been parsed. -/
def Manifest.checkVersion (m : Manifest D) : Except ManifestError Unit :=
  refuseIf (m.version ≠ manifestVersion) (.unsupportedVersion m.version manifestVersion)

def maxManifestBytes : ℕ := 4 * 1024 * 1024

/-! ### Packs -/

/-- The files behind store keys.  A key is the digest of the pack, so that it determines the pack's
length and that of the index which `index-pack` makes of it. -/
structure PackFiles where
  bytes : String → ℕ
  idxBytes : String → ℕ

def PackFiles.pack (files : PackFiles) (key : String) : Pack :=
  ⟨key, files.bytes key, files.idxBytes key⟩

/-- Where a request finds a pack. -/
inductive PackSource
  /-- The pair of pack and index is in the process's cache. -/
  | cached
  /-- The pack is read from the object store; `sidecar` is the length of a stored index, if there is
  one that `verify-pack` accepts. -/
  | stored (sidecar : Option ℕ)
  /-- A read of the object store fails. -/
  | unreadable (message : String)
  /-- A subprocess or a file operation fails. -/
  | broken (message : String)

/-- There is no variant for a pointer that is not a digest: the pointer cell holds digests. -/
inductive HydrateError
  | manifest (error : ManifestError)
  | store (message : String)
  | hydrate (message : String)
  | resourceLimit (message : String)
deriving DecidableEq

/-- The manifest itself is refused, so that every later hydration will be as well. -/
def HydrateError.isRefusal : HydrateError → Bool
  | .manifest _ | .resourceLimit _ => true
  | .store _ | .hydrate _ => false

/-- What a relay brings to its Git requests. -/
structure GitServer (D : Type) where
  maxPackBytes : ℕ
  maxRepoBytes : ℕ
  /-- The limit is a `u64`. -/
  maxRepoBytes_le : maxRepoBytes ≤ u64Max
  files : PackFiles
  digestText : D → String
  digestText_isDigest : ∀ d, isManifestDigest (digestText d).toList

namespace GitServer

variable (g : GitServer D)

def packDigest (key : String) : List Char := key.toList.drop 6

def enforceIdxSize (key : String) : Except HydrateError Unit :=
  refuseIf (g.files.idxBytes key > g.maxPackBytes)
    (.resourceLimit ("generated idx " ++ String.ofList (packDigest key) ++ " is " ++
      toString (g.files.idxBytes key) ++ " bytes (max " ++ toString g.maxPackBytes ++ ")"))

/-- A stored index is read within the limit; otherwise it is generated, and then measured. -/
def installOrGenerateIdx (key : String) (sidecar : Option ℕ) : Except HydrateError Unit :=
  match sidecar with
  | some idxBytes => if idxBytes ≤ g.maxPackBytes then .ok () else g.enforceIdxSize key
  | none => g.enforceIdxSize key

def materializePack (source : PackSource) (key : String) : Except HydrateError ℕ := do
  refuseIf (((packDigest key).length = 64 && (packDigest key).all isAsciiHexdigit) = false)
    (.hydrate "pack cache digest is malformed")
  match source with
  | .cached => return g.files.bytes key
  | .unreadable message => .error (.store message)
  | .broken message => .error (.hydrate message)
  | .stored sidecar =>
    refuseIf (g.files.bytes key > g.maxPackBytes)
      (.resourceLimit ("object " ++ key ++ " is " ++ toString (g.files.bytes key) ++
        " bytes (max " ++ toString g.maxPackBytes ++ ")"))
    g.installOrGenerateIdx key sidecar
    return g.files.bytes key

/-- The loop over the packs of a manifest; `hydrated` is the sum so far. -/
def materializePacks (source : String → PackSource) : List String → ℕ → Except HydrateError ℕ
  | [], hydrated => .ok hydrated
  | key :: keys, hydrated => do
    refuseIf (startsWith key "packs/" = false) (.hydrate ("malformed pack key \"" ++ key ++ "\""))
    let packBytes ← g.materializePack (source key) key
    refuseIf (packBytes > g.maxPackBytes)
      (.resourceLimit ("pack " ++ String.ofList (packDigest key) ++ " is " ++ toString packBytes ++
        " bytes (max " ++ toString g.maxPackBytes ++ ")"))
    refuseIf (hydrated + packBytes > u64Max) (.resourceLimit "repo byte count overflowed u64")
    refuseIf (hydrated + packBytes > g.maxRepoBytes)
      (.resourceLimit ("repo needs " ++ toString (hydrated + packBytes) ++
        " hydrated bytes (max " ++ toString g.maxRepoBytes ++ ")"))
    materializePacks source keys (hydrated + packBytes)

structure HydratedRepo where
  hydratedBytes : ℕ
  hydratedPacks : ℕ
deriving DecidableEq

/-- The refs and `HEAD` are installed only after the last pack. -/
def materializeManifest (source : String → PackSource) (m : Manifest D) :
    Except HydrateError HydratedRepo := do
  let hydratedBytes ← g.materializePacks source m.packs 0
  m.refs.entries.forM fun (refname, oid) => do
    refuseIf (isSafeRefname refname = false)
      (.hydrate ("manifest contains unsafe refname \"" ++ refname ++ "\""))
    refuseIf (isHexOid oid = false)
      (.hydrate ("manifest ref " ++ refname ++ " has malformed oid"))
  refuseIf (isSafeRefname m.head = false)
    (.hydrate ("manifest head \"" ++ m.head ++ "\" is not a safe ref name"))
  return ⟨hydratedBytes, m.packs.length⟩

def readManifest (digest : D) (m : Manifest D) : Except HydrateError Unit := do
  let size := (m.canonicalBytes g.digestText).length
  refuseIf (size > maxManifestBytes)
    (.resourceLimit ("object manifests/" ++ g.digestText digest ++ " is " ++ toString size ++
      " bytes (max " ++ toString maxManifestBytes ++ ")"))
  m.checkVersion.mapError .manifest
  m.validate.mapError .manifest

def hydrateManifest (source : String → PackSource) (digest : D) (m : Manifest D) :
    Except HydrateError HydratedRepo := do
  g.readManifest digest m
  g.materializeManifest source m

/-! ### Requests -/

section Requests

variable [DecidableEq D] (S : Hashing D E) (st : RepoState D E)

def loadPointer : Except HydrateError (Option (E × D × Manifest D)) :=
  match st.pointer with
  | none => .ok none
  | some d =>
    match st.manifests.find? fun m => decide (S.digest m = d) with
    | none => .error (.store ("object not found: manifests/" ++ g.digestText d))
    | some m => do
      g.readManifest d m
      return some (S.etag d, d, m)

def hydrateForRead (source : String → PackSource) : Except HydrateError (Option HydratedRepo) := do
  match ← g.loadPointer S st with
  | none => return none
  | some (_, _, m) =>
    let repo ← g.materializeManifest source m
    return some repo

def hydrateForWrite (source : String → PackSource) :
    Except HydrateError (HydratedRepo × ParentState D E) := do
  match ← g.loadPointer S st with
  | some (etag, digest, m) =>
    let repo ← g.materializeManifest source m
    return (repo, .fromLoaded etag digest m)
  | none => return (⟨0, 0⟩, .fresh)

end Requests

/-! ### The pointer machine under limits -/

def repoBytes (packs : List String) : ℕ := (packs.map g.files.bytes).sum

section Measured

variable {g}

lemma materializePack_ok (h : g.materializePack source key = .ok n) : n = g.files.bytes key := by
  obtain ⟨_, _, h⟩ := bind_eq_ok.mp h
  cases source with
  | cached => exact (Except.ok.inj h).symm
  | unreadable message => cases h
  | broken message => cases h
  | stored sidecar =>
    simp only [bind_eq_ok] at h
    obtain ⟨_, _, _, _, h⟩ := h
    exact (Except.ok.inj h).symm

end Measured

/-- The limits a publication inherits from the hydration of its parent. -/
def publishLimits (ps : ParentState D E) : PublishLimits :=
  ⟨g.repoBytes ps.parent.packs, g.maxPackBytes, g.maxRepoBytes⟩

def limitsOf (st : RepoState D E) (id : ℕ) : PublishLimits :=
  match st.attempts.lookup id with
  | some (.hydrated _ ps) => g.publishLimits ps
  | _ => ⟨0, g.maxPackBytes, g.maxRepoBytes⟩

end GitServer

def CasError.isValidation : CasError → Bool
  | .manifestInvalid _ => true
  | _ => false

/-- What the subprocesses of a publication answer, for packs whose sizes are those of the files
behind their keys.  Subprocesses and uploads have errors of their own and validate no manifest. -/
structure MeasuredCapture (files : PackFiles) extends Capture where
  delta_measured : ∀ revs p, delta revs = .ok p → p = files.pack p.key
  compaction_measured : ∀ revs packs, compaction revs = .ok packs → ∀ p ∈ packs,
    p = files.pack p.key
  delta_error : ∀ revs e, delta revs = .error e → e.isValidation = false
  compaction_error : ∀ revs e, compaction revs = .error e → e.isValidation = false
  putPack_error : ∀ e, putPack = .error e → e.isValidation = false

/-- The actions whose outcome depends on the limits. -/
def RepoAct.readsLimits : RepoAct D → Bool
  | .hydrate _ | .publish .. | .loadSnapshot _ => true
  | _ => false

def RepoAct.isPublish : RepoAct D → Bool
  | .publish .. => true
  | _ => false

inductive ServerAct (D : Type) (files : PackFiles)
  | hydrate (id : ℕ) (source : String → PackSource)
  | publish (id : ℕ) (ws : Workspace) (cap : MeasuredCapture files)
  | loadSnapshot (id : ℕ)
  | other (act : RepoAct D) (h : act.readsLimits = false)

namespace GitServer

variable [DecidableEq D] [DecidableEq E] (g : GitServer D) (S : Hashing D E)

def step (st : RepoState D E) : ServerAct D g.files → RepoState D E
  | .hydrate id source =>
    if st.attempts.lookup id = none then
      match g.hydrateForWrite S st source with
      | .error _ => st.setAttempt id .failed
      | .ok (_, ps) => st.setAttempt id (.hydrated st.installed.length ps)
    else st
  | .loadSnapshot id =>
    if st.attempts.lookup id = none then
      match g.loadPointer S st with
      | .ok (some (etag, digest, m)) =>
        st.setAttempt id (.snapshot st.installed.length ⟨etag, digest, m⟩)
      | _ => st.setAttempt id .failed
    else st
  | .publish id ws cap => st.step S (.publish id ws (g.limitsOf st id) cap.toCapture)
  | .other act _ => st.step S act

def run (acts : List (ServerAct D g.files)) : RepoState D E := acts.foldl (g.step S) init

/-! ### The machine without limits -/

variable {g S} {st : RepoState D E}

omit [DecidableEq E] in
lemma loadPointer_ok (h : g.loadPointer S st = .ok r) : st.loadPointer S = .ok r := by
  unfold GitServer.loadPointer at h
  unfold RepoState.loadPointer
  cases hp : st.pointer with
  | none =>
    rw [hp] at h
    exact congrArg Except.ok (Except.ok.inj h)
  | some d =>
    simp only [hp] at h ⊢
    cases hfind : st.manifests.find? fun m => decide (S.digest m = d) with
    | none =>
      rw [hfind] at h
      cases h
    | some m =>
      rw [hfind] at h
      obtain ⟨_, hread, hr⟩ := bind_eq_ok.mp h
      simp only [readManifest, bind_eq_ok, mapError_eq_ok] at hread
      obtain ⟨_, _, _, _, hval⟩ := hread
      simp only [hval]
      exact congrArg Except.ok (Except.ok.inj hr)

variable {source : String → PackSource}

omit [DecidableEq E] in
lemma hydrateForWrite_ok (h : g.hydrateForWrite S st source = .ok (repo, ps)) :
    (st.loadPointer S = .ok none ∧ ps = .fresh ∧ repo.hydratedBytes = 0) ∨
      ∃ etag digest m, st.loadPointer S = .ok (some (etag, digest, m)) ∧
        ps = .fromLoaded etag digest m ∧ g.materializeManifest source m = .ok repo := by
  obtain ⟨r, hload, h⟩ := bind_eq_ok.mp h
  rcases r with _ | ⟨etag, digest, m⟩
  · cases h
    exact .inl ⟨loadPointer_ok hload, rfl, rfl⟩
  obtain ⟨repo', hrepo, heq⟩ := bind_eq_ok.mp h
  cases heq
  exact .inr ⟨etag, digest, m, loadPointer_ok hload, rfl, hrepo⟩

lemma abort_setAttempt {id : ℕ} (ha : a.inFlight) :
    (st.setAttempt id a).step S (.abort id) = st.setAttempt id .failed := by
  simp only [RepoState.step, lookup_setAttempt_self, ha, if_true]
  simp [RepoState.setAttempt, AList.insert_insert]

lemma refuse_hydrate {id : ℕ} (hid : st.attempts.lookup id = none) :
    ∃ acts : List (RepoAct D), (∀ a ∈ acts, a.isPublish = false) ∧
      st.setAttempt id .failed = acts.foldl (RepoState.step S) st := by
  have hstep : st.step S (.hydrate id) = st.hydrate S id := by simp [RepoState.step, hid]
  rcases hload : st.loadPointer S with e | _ | ⟨etag, digest, m⟩
  · refine ⟨[.hydrate id], by simp [RepoAct.isPublish], ?_⟩
    simp [hstep, hydrate, hload]
  all_goals
    refine ⟨[.hydrate id, .abort id], by simp [RepoAct.isPublish], ?_⟩
    simp only [foldl_cons, foldl_nil, hstep, hydrate, hload]
    exact (abort_setAttempt rfl).symm

/-- **Refinement.** A step under limits is a publication with the inherited limits, or a few steps
of the machine without limits, none of which publishes. -/
theorem step_cases (st : RepoState D E) (act : ServerAct D g.files) :
    (∃ id ws cap, act = .publish id ws cap ∧
        g.step S st act = st.step S (.publish id ws (g.limitsOf st id) cap.toCapture)) ∨
      ∃ acts : List (RepoAct D), (∀ a ∈ acts, a.isPublish = false) ∧
        g.step S st act = acts.foldl (RepoState.step S) st := by
  cases act with
  | publish id ws cap => exact .inl ⟨id, ws, cap, rfl, rfl⟩
  | other act h =>
    refine .inr ⟨[act], ?_, rfl⟩
    intro a ha
    rw [mem_singleton.mp ha]
    cases act <;> first | rfl | cases h
  | hydrate id source =>
    right
    by_cases hid : st.attempts.lookup id = none
    · simp only [GitServer.step, hid, if_true]
      rcases hhyd : g.hydrateForWrite S st source with e | ⟨repo, ps⟩
      · exact refuse_hydrate hid
      refine ⟨[.hydrate id], by simp [RepoAct.isPublish], ?_⟩
      simp only [foldl_cons, foldl_nil, RepoState.step, hid, if_true, hydrate]
      obtain ⟨hload, rfl, -⟩ | ⟨etag, digest, m, hload, rfl, -⟩ := hydrateForWrite_ok hhyd
      all_goals simp only [hload]
    · exact ⟨[], by simp, by simp [GitServer.step, hid]⟩
  | loadSnapshot id =>
    right
    by_cases hid : st.attempts.lookup id = none
    · simp only [GitServer.step, hid, if_true]
      rcases hload : g.loadPointer S st with e | _ | ⟨etag, digest, m⟩
      · exact refuse_hydrate hid
      · exact refuse_hydrate hid
      · refine ⟨[.loadSnapshot id], by simp [RepoAct.isPublish], ?_⟩
        simp [RepoState.step, hid, loadSnapshot, loadPointer_ok hload]
    · exact ⟨[], by simp, by simp [GitServer.step, hid]⟩

/-- **Every run of a relay with limits is a run of the pointer machine.** -/
theorem run_refines (acts : List (ServerAct D g.files)) :
    ∃ acts' : List (RepoAct D), g.run S acts = (RepoState.run S acts' : RepoState D E) := by
  induction acts using reverseRecOn with
  | nil => exact ⟨[], rfl⟩
  | append_singleton acts act ih =>
    obtain ⟨before, hpre⟩ := ih
    have hlast : g.run S (acts ++ [act]) = g.step S (g.run S acts) act := by
      simp [GitServer.run]
    have hmore : ∃ more : List (RepoAct D), g.step S (RepoState.run S before) act =
        more.foldl (RepoState.step S) (RepoState.run S before) := by
      obtain ⟨id, ws, cap, _, hstep⟩ | ⟨more, _, hstep⟩ := step_cases (RepoState.run S before) act
      · exact ⟨[.publish id ws _ cap.toCapture], hstep⟩
      · exact ⟨more, hstep⟩
    obtain ⟨more, hmore⟩ := hmore
    refine ⟨before ++ more, ?_⟩
    rw [hlast, hpre, hmore]
    simp [RepoState.run]

end GitServer

end Buzz.Git
