import Buzz.Git.Manifest

/-!
What a push publishes.

`casPlan` is `cas_publish` up to the moment it writes: the snapshot of the workspace, the choice
between a compacted pack set and a delta pack, the composition of the new manifest and its
validation.  What the `git` subprocesses and the pack uploads answer is the argument `Capture`.
-/

namespace Buzz.Git

open Lib Except

variable {D E : Type}

inductive CasError
  | manifestInvalid (error : ManifestError)
  | backend (message : String)
  | packCapture (message : String)
  | resourceLimit (message : String)

structure PublishLimits where
  parentHydratedBytes : ℕ
  maxPackBytes : ℕ
  maxRepoBytes : ℕ

/-- The pointer and the manifest the workspace was hydrated from. -/
structure ParentState (D E : Type) where
  /-- The ETag the write is conditioned on; `none` for a repository without a pointer. -/
  ifMatch : Option E
  parentDigest : Option D
  parent : Manifest D

def ParentState.fresh : ParentState D E := ⟨none, none, ⟨manifestVersion, "", .empty, [], none⟩⟩

def ParentState.fromLoaded (etag : E) (digest : D) (parent : Manifest D) : ParentState D E :=
  ⟨some etag, some digest, parent⟩

/-! ### The workspace after `receive-pack` -/

def isSha1Oid (oid : String) : Bool := oid.toList.length = 40 && oid.toList.all isAsciiHexdigit

/-- What `for-each-ref` and `symbolic-ref` print in the workspace, a bare repository with SHA-1
object ids. -/
structure Workspace where
  /-- Ref names with object ids, one for each line. -/
  refLines : List (String × String)
  /-- The target of `HEAD`, empty when it is detached. -/
  head : String
  nodup : (refLines.map Prod.fst).Nodup
  oids : ∀ l ∈ refLines, isSha1Oid l.2

def Workspace.ref? (ws : Workspace) (name : String) : Option String :=
  SortedMap.find name ws.refLines

def maxRefSnapshotBytes : ℕ := 4 * 1024 * 1024

/-- The bytes of the `for-each-ref` output: name, blank, id and newline on each line. -/
def snapshotBytes (lines : List (String × String)) : ℕ :=
  (lines.map fun l => l.1.utf8ByteSize + l.2.utf8ByteSize + 2).sum

def readRefs : List (String × String) → Refs → Except CasError Refs
  | [], refs => .ok refs
  | (name, oid) :: lines, refs =>
    if !isSha1Oid oid then readRefs lines refs
    else if refs.size ≥ maxManifestRefs ∧ refs.contains name = false then
      .error (.resourceLimit ("workspace contains more than " ++ toString maxManifestRefs ++
        " refs"))
    else readRefs lines (refs.insert name oid)

def snapshotWorkspaceState (ws : Workspace) : Except CasError Refs := do
  refuseIf (snapshotBytes ws.refLines > maxRefSnapshotBytes)
    (.resourceLimit ("ref snapshot is " ++ toString (snapshotBytes ws.refLines) ++ " bytes (max " ++
      toString maxRefSnapshotBytes ++ ")"))
  readRefs ws.refLines .empty

def resolvePublishedHead (refs : Refs) (observedHead parentHead : String) : String :=
  let isPublishedBranch (name : String) : Bool :=
    startsWith name "refs/heads/" && refs.contains name
  if isPublishedBranch observedHead then observedHead
  else if isPublishedBranch parentHead then parentHead
  else if refs.contains "refs/heads/main" then "refs/heads/main"
  else if refs.contains "refs/heads/master" then "refs/heads/master"
  else
    match refs.keys.find? fun name => startsWith name "refs/heads/" with
    | some branch => branch
    | none => if observedHead ≠ "" then observedHead else parentHead

/-! ### Packs -/

/-- A pack file: the store key of its content, and the sizes of pack and index. -/
structure Pack where
  key : String
  bytes : ℕ
  idxBytes : ℕ

/-- A line that `pack-objects --revs` reads: a tip, or with a `^` one whose objects are left out. -/
inductive Rev
  | tip (oid : String)
  | exclude (oid : String)
deriving DecidableEq

/-- What the subprocesses and uploads of one publication answer to the lines they are given. -/
structure Capture where
  /-- Full-closure packs; an error covers the permit, the subprocess, the uploads and the time
  limit of the whole operation. -/
  compaction : List Rev → Except CasError (List Pack)
  /-- The delta pack over the parent's refs. -/
  delta : List Rev → Except CasError Pack
  /-- The upload of the delta pack. -/
  putPack : Except CasError Unit

def u64Max : ℕ := 2 ^ 64 - 1

def shouldCompact (parentPackCount threshold : ℕ) : Bool := parentPackCount ≥ threshold

def compactedPackSetIsUsable (parentPackCount compactedPackCount : ℕ) : Bool :=
  compactedPackCount < parentPackCount ||
    (parentPackCount ≥ maxManifestPacks && compactedPackCount ≤ maxManifestPacks)

/-- The size checks over the compacted packs; `total` is the sum so far. -/
def checkCompactedPacks (limits : PublishLimits) : List Pack → ℕ → Except CasError Unit
  | [], _ => .ok ()
  | p :: ps, total => do
    refuseIf (p.bytes > limits.maxPackBytes)
      (.resourceLimit ("compacted pack is " ++ toString p.bytes ++ " bytes (max " ++
        toString limits.maxPackBytes ++ ")"))
    refuseIf (total + p.bytes > u64Max)
      (.resourceLimit "compacted byte count overflowed u64")
    refuseIf (total + p.bytes > limits.maxRepoBytes)
      (.resourceLimit ("compacted repo needs " ++ toString (total + p.bytes) ++ " bytes (max " ++
        toString limits.maxRepoBytes ++ ")"))
    refuseIf (p.idxBytes > limits.maxPackBytes)
      (.resourceLimit ("compacted idx is " ++ toString p.idxBytes ++ " bytes (max " ++
        toString limits.maxPackBytes ++ ")"))
    checkCompactedPacks limits ps (total + p.bytes)

/-- The new tips, each once. -/
def compactionRevs (refsAfter : Refs) : List Rev := refsAfter.values.eraseDups.map .tip

/-- Positive new tips, negative old tips. -/
def deltaRevs (refsBefore refsAfter : Refs) : List Rev :=
  refsAfter.values.map .tip ++ refsBefore.values.map .exclude

variable (limits : PublishLimits) (refsAfter : Refs) (cap : Capture)

/-- The packs of the complete closure of the new refs; none for a repository without refs. -/
def captureCompactedPacks : Except CasError (List Pack) :=
  if refsAfter.entries = [] then .ok []
  else do
    let packs ← cap.compaction (compactionRevs refsAfter)
    refuseIf (packs.length > maxManifestPacks)
      (.resourceLimit ("compaction produced " ++ toString packs.length ++ " packs (max " ++
        toString maxManifestPacks ++ ")"))
    checkCompactedPacks limits packs 0
    return packs

def prepareCompaction (packsBefore : ℕ) (cap : Capture) : Except CasError (List String) := do
  let packs ← captureCompactedPacks limits refsAfter cap
  refuseIf (compactedPackSetIsUsable packsBefore packs.length = false)
    (.resourceLimit ("compaction did not reduce pack count (before " ++ toString packsBefore ++
      ", after " ++ toString packs.length ++ ")"))
  return sortDedup (packs.map Pack.key)

/-- The delta pack: `none` when there is no ref to cover, or nothing to write. -/
def capturePack (refsBefore : Refs) : Except CasError (Option Pack) :=
  if refsAfter.entries = [] then .ok none
  else do
    let pack ← cap.delta (deltaRevs refsBefore refsAfter)
    refuseIf (pack.bytes > limits.maxPackBytes)
      (.resourceLimit ("pack-objects output is " ++ toString pack.bytes ++ " bytes (max " ++
        toString limits.maxPackBytes ++ ")"))
    return if pack.bytes = 0 then none else some pack

def putDelta : Option Pack → Except CasError (Option String)
  | none => .ok none
  | some pack => do
    let total := limits.parentHydratedBytes + pack.bytes
    refuseIf (total > u64Max) (.resourceLimit "repo byte count overflowed u64")
    refuseIf (total > limits.maxRepoBytes)
      (.resourceLimit ("repo would need " ++ toString total ++ " hydrated bytes (max " ++
        toString limits.maxRepoBytes ++ ")"))
    cap.putPack
    return some pack.key

/-! ### The new manifest -/

def composeAfter (parent : Manifest D) (parentDigest : Option D) (head : String) (refs : Refs)
    (newPackKey : Option String) : Manifest D :=
  let packs :=
    match newPackKey with
    | some k => if k ∈ parent.packs then parent.packs else parent.packs ++ [k]
    | none => parent.packs
  ⟨manifestVersion, head, refs, sortDedup packs, parentDigest⟩

def composeCompactedAfter (parentDigest : Option D) (head : String) (refs : Refs)
    (compactedPackKeys : List String) : Manifest D :=
  ⟨manifestVersion, head, refs, sortDedup compactedPackKeys, parentDigest⟩

lemma mem_composeAfter_packs {parent : Manifest D} {parentDigest : Option D} {head : String}
    {refs : Refs} {key : Option String} {k : String} :
    k ∈ (composeAfter parent parentDigest head refs key).packs ↔ k ∈ parent.packs ∨ key = some k := by
  cases key with
  | none => simp [composeAfter]
  | some new =>
    by_cases hnew : new ∈ parent.packs
    · simp only [composeAfter, hnew, if_true, mem_sortDedup, Option.some.injEq]
      constructor
      · exact .inl
      rintro (hk | rfl)
      · exact hk
      · exact hnew
    · simp [composeAfter, hnew, eq_comm]

variable (ps : ParentState D E)

/-- Publication with a delta pack, after a compaction that failed or was not due. -/
def planDelta (limits : PublishLimits) (cap : Capture) (head : String)
    (refsAfter : Refs) (compactionFailure : Option CasError) : Except CasError (Manifest D) := do
  let packsBefore := ps.parent.packs.length
  let pack ← capturePack limits refsAfter cap ps.parent.refs
  refuseIf (pack.isSome ∧ packsBefore ≥ maxManifestPacks)
    (compactionFailure.getD (.resourceLimit ("repository already names " ++ toString packsBefore ++
      " packs and compaction failed")))
  let newPackKey ← putDelta limits cap pack
  return composeAfter ps.parent ps.parentDigest head refsAfter newPackKey

/-- The new manifest: compacted when the parent names enough packs and compaction succeeds. -/
def planManifest (limits : PublishLimits) (threshold : ℕ) (cap : Capture)
    (head : String) (refsAfter : Refs) : Except CasError (Manifest D) :=
  let packsBefore := ps.parent.packs.length
  if shouldCompact packsBefore threshold then
    match prepareCompaction limits refsAfter packsBefore cap with
    | .ok keys => .ok (composeCompactedAfter ps.parentDigest head refsAfter keys)
    | .error failure => planDelta ps limits cap head refsAfter (some failure)
  else planDelta ps limits cap head refsAfter none

def casPlan (limits : PublishLimits) (threshold : ℕ) (ws : Workspace)
    (cap : Capture) : Except CasError (Manifest D) := do
  let refsAfter ← snapshotWorkspaceState ws
  let head := resolvePublishedHead refsAfter ws.head ps.parent.head
  let after ← planManifest ps limits threshold cap head refsAfter
  after.validate.mapError .manifestInvalid
  return after

/-! ### What a plan holds -/

open SortedMap List

variable {limits : PublishLimits}

section Plan

variable {ps : ParentState D E} {threshold : ℕ} {ws : Workspace} {cap : Capture} {m : Manifest D}

lemma planDelta_ok {head : String} {failure : Option CasError}
    (h : planDelta ps limits cap head refs failure = .ok m) :
    ∃ pack newPackKey, capturePack limits refs cap ps.parent.refs = .ok pack ∧
      (pack.isSome → ps.parent.packs.length < maxManifestPacks) ∧
      putDelta limits cap pack = .ok newPackKey ∧
      m = composeAfter ps.parent ps.parentDigest head refs newPackKey := by
  simp only [planDelta, bind_eq_ok, refuseIf_eq_ok] at h
  obtain ⟨pack, hpack, _, hroom, key, hkey, hm⟩ := h
  refine ⟨pack, key, hpack, ?_, hkey, (ok.inj hm).symm⟩
  intro hsome
  by_contra hfull
  exact hroom ⟨hsome, not_lt.mp hfull⟩

lemma planManifest_ok {head : String} (h : planManifest ps limits threshold cap head refs = .ok m) :
    (∃ keys, prepareCompaction limits refs ps.parent.packs.length cap = .ok keys ∧
        m = composeCompactedAfter ps.parentDigest head refs keys) ∨
      ∃ pack newPackKey, capturePack limits refs cap ps.parent.refs = .ok pack ∧
        (pack.isSome → ps.parent.packs.length < maxManifestPacks) ∧
        putDelta limits cap pack = .ok newPackKey ∧
        m = composeAfter ps.parent ps.parentDigest head refs newPackKey := by
  simp only [planManifest] at h
  split_ifs at h
  · rcases hkeys : prepareCompaction limits refs ps.parent.packs.length cap with failure | keys
    · simp only [hkeys] at h
      exact .inr (planDelta_ok h)
    · simp only [hkeys] at h
      exact .inl ⟨keys, rfl, (ok.inj h).symm⟩
  · exact .inr (planDelta_ok h)

lemma casPlan_eq_ok : casPlan ps limits threshold ws cap = .ok m ↔
    ∃ refs, snapshotWorkspaceState ws = .ok refs ∧
      planManifest ps limits threshold cap (resolvePublishedHead refs ws.head ps.parent.head) refs =
        .ok m ∧ m.validate = .ok () := by
  simp only [casPlan, bind_eq_ok, mapError_eq_ok]
  constructor
  · rintro ⟨refs, hrefs, after, haft, _, hval, hm⟩
    obtain rfl : after = m := ok.inj hm
    exact ⟨refs, hrefs, haft, hval⟩
  · rintro ⟨refs, hrefs, haft, hval⟩
    exact ⟨refs, hrefs, m, haft, (), hval, rfl⟩

section

variable (h : casPlan ps limits threshold ws cap = .ok m)
include h

/-- **What is published.** A plan that succeeds holds the refs of the snapshot, names the parent it
was derived from, and takes its packs from one of the two capture paths. -/
theorem casPlan_ok : ∃ refs head, snapshotWorkspaceState ws = .ok refs ∧
      ((∃ keys, prepareCompaction limits refs ps.parent.packs.length cap = .ok keys ∧
          m = composeCompactedAfter ps.parentDigest head refs keys) ∨
        ∃ pack newPackKey, capturePack limits refs cap ps.parent.refs = .ok pack ∧
          putDelta limits cap pack = .ok newPackKey ∧
          m = composeAfter ps.parent ps.parentDigest head refs newPackKey) := by
  obtain ⟨refs, hrefs, hplan, _⟩ := casPlan_eq_ok.mp h
  refine ⟨refs, resolvePublishedHead refs ws.head ps.parent.head, hrefs, ?_⟩
  obtain hkeys | ⟨pack, key, hpack, _, hkey, hm⟩ := planManifest_ok hplan
  · exact .inl hkeys
  · exact .inr ⟨pack, key, hpack, hkey, hm⟩

lemma casPlan_refs : snapshotWorkspaceState ws = .ok m.refs := by
  obtain ⟨refs, head, hrefs, ⟨keys, _, rfl⟩ | ⟨pack, key, _, _, rfl⟩⟩ := casPlan_ok h
  · exact hrefs
  · exact hrefs

lemma casPlan_head : m.head = resolvePublishedHead m.refs ws.head ps.parent.head := by
  obtain ⟨refs, _, hplan, _⟩ := casPlan_eq_ok.mp h
  obtain ⟨keys, _, rfl⟩ | ⟨pack, key, _, _, _, rfl⟩ := planManifest_ok hplan
  · rfl
  · rfl

lemma casPlan_parent : m.parent = ps.parentDigest := by
  obtain ⟨refs, head, _, ⟨keys, _, rfl⟩ | ⟨pack, key, _, _, rfl⟩⟩ := casPlan_ok h
  · rfl
  · rfl

end

end Plan

/-! ### The refs of a snapshot -/

section Snapshot

variable {lines : List (String × String)} {refs : Refs}

lemma readRefs_get? (hn : (lines.map Prod.fst).Nodup) (hoid : ∀ l ∈ lines, isSha1Oid l.2)
    (h : readRefs lines refs = .ok refs') (name : String) :
    refs'.get? name = (SortedMap.find name lines).or (refs.get? name) := by
  induction lines generalizing refs with
  | nil =>
    obtain rfl : refs = refs' := ok.inj h
    rfl
  | cons l lines ih =>
    obtain ⟨line, oid⟩ := l
    rw [map_cons, nodup_cons] at hn
    have hl : isSha1Oid oid := hoid _ mem_cons_self
    simp only [readRefs, hl, Bool.not_true, Bool.false_eq_true, if_false] at h
    split_ifs at h with hfull
    rw [ih hn.2 (fun l hl => hoid l (mem_cons_of_mem _ hl)) h, get?_insert]
    by_cases hname : line = name
    · subst hname
      -- the name is on no later line
      have hnone : find line lines = none := by
        rw [Option.eq_none_iff_forall_not_mem]
        intro oid' hoid'
        exact hn.1 (mem_map.mpr ⟨_, mem_of_find hoid', rfl⟩)
      simp [find, hnone]
    · simp [find, hname]

lemma readRefs_mem (h : readRefs lines refs = .ok refs') (hr : r ∈ refs'.entries) :
    r ∈ lines ∨ r ∈ refs.entries := by
  induction lines generalizing refs with
  | nil =>
    obtain rfl : refs = refs' := ok.inj h
    exact .inr hr
  | cons l lines ih =>
    obtain ⟨line, oid⟩ := l
    simp only [readRefs] at h
    split_ifs at h
    · exact (ih h).imp_left (mem_cons_of_mem _)
    rcases ih h with hls | hrefs
    · exact .inl (mem_cons_of_mem _ hls)
    rcases mem_of_mem_insertEntry hrefs with rfl | hrefs
    · exact .inl mem_cons_self
    · exact .inr hrefs

variable (f : String × String → ℕ)

lemma readRefs_sum_le (h : readRefs lines refs = .ok refs') :
    (refs'.entries.map f).sum ≤ (lines.map f).sum + (refs.entries.map f).sum := by
  induction lines generalizing refs with
  | nil =>
    obtain rfl : refs = refs' := ok.inj h
    simp
  | cons l lines ih =>
    obtain ⟨line, oid⟩ := l
    simp only [readRefs] at h
    rw [map_cons, sum_cons]
    split_ifs at h
    · have hrest := ih h
      omega
    have hrest := ih h
    have hins : ((refs.insert line oid).entries.map f).sum ≤
        f (line, oid) + (refs.entries.map f).sum :=
      sum_insertEntry_le f line oid refs.entries
    omega

section

variable (h : snapshotWorkspaceState ws = .ok refs)

include h

lemma snapshotWorkspaceState_mem (hr : r ∈ refs.entries) : r ∈ ws.refLines := by
  simp only [snapshotWorkspaceState, bind_eq_ok] at h
  obtain ⟨_, _, h⟩ := h
  rcases readRefs_mem h hr with hls | hemp
  · exact hls
  · cases hemp

lemma snapshotWorkspaceState_sum_le : (refs.entries.map f).sum ≤ (ws.refLines.map f).sum := by
  simp only [snapshotWorkspaceState, bind_eq_ok] at h
  obtain ⟨_, _, h⟩ := h
  simpa [empty] using readRefs_sum_le f h

/-- **The snapshot is the workspace.** A snapshot that succeeds holds every ref of the workspace,
and no other. -/
theorem snapshotWorkspaceState_get? (name : String) : refs.get? name = ws.ref? name := by
  simp only [snapshotWorkspaceState, bind_eq_ok] at h
  obtain ⟨_, _, h⟩ := h
  have hget := readRefs_get? ws.nodup ws.oids h name
  simpa [Workspace.ref?] using hget

end

lemma mem_keys_of_contains (h : refs.contains name) : name ∈ refs.keys := by
  obtain ⟨oid, hoid⟩ := Option.isSome_iff_exists.mp h
  exact mem_map.mpr ⟨_, mem_of_find hoid, rfl⟩

/-- The published head is a ref, or taken over from the workspace or the parent. -/
lemma resolvePublishedHead_cases (refs : Refs) (observedHead parentHead : String) :
    resolvePublishedHead refs observedHead parentHead ∈ refs.keys ∨
      resolvePublishedHead refs observedHead parentHead = observedHead ∨
      resolvePublishedHead refs observedHead parentHead = parentHead := by
  simp only [resolvePublishedHead]
  split_ifs with _ _ hmain hmaster
  · exact .inr (.inl rfl)
  · exact .inr (.inr rfl)
  · exact .inl (mem_keys_of_contains hmain)
  · exact .inl (mem_keys_of_contains hmaster)
  · split
    · next branch hfind => exact .inl (mem_of_find?_eq_some hfind)
    · exact .inr (.inl rfl)
  split
  · next branch hfind => exact .inl (mem_of_find?_eq_some hfind)
  · exact .inr (.inr rfl)

lemma resolvePublishedHead_branch (refs : Refs) (observedHead parentHead : String)
    (h : ∃ name ∈ refs.keys, startsWith name "refs/heads/") :
    resolvePublishedHead refs observedHead parentHead ∈ refs.keys ∧
      startsWith (resolvePublishedHead refs observedHead parentHead) "refs/heads/" := by
  have hpub : ∀ name, (startsWith name "refs/heads/" && refs.contains name) →
      name ∈ refs.keys ∧ startsWith name "refs/heads/" := by
    intro name hname
    obtain ⟨hbranch, hcont⟩ := Bool.and_eq_true_iff.mp hname
    exact ⟨mem_keys_of_contains hcont, hbranch⟩
  simp only [resolvePublishedHead]
  split_ifs with hobs hpar hmain hmaster
  · exact hpub _ hobs
  · exact hpub _ hpar
  · exact ⟨mem_keys_of_contains hmain, by decide⟩
  · exact ⟨mem_keys_of_contains hmaster, by decide⟩
  all_goals
    obtain ⟨branch, hfind⟩ := Option.isSome_iff_exists.mp
      (find?_isSome.mpr h : (refs.keys.find? fun name => startsWith name "refs/heads/").isSome)
    rw [hfind]
    exact ⟨mem_of_find?_eq_some hfind, by simpa using find?_some hfind⟩

end Snapshot

/-! ### What the two capture paths add -/

section Capture

variable {refs : Refs} {cap : Capture}

lemma checkCompactedPacks_ok
    (h : checkCompactedPacks limits packs total = .ok ()) (htot : total ≤ limits.maxRepoBytes) :
    (∀ p ∈ packs, p.bytes ≤ limits.maxPackBytes ∧ p.idxBytes ≤ limits.maxPackBytes) ∧
      total + (packs.map Pack.bytes).sum ≤ limits.maxRepoBytes := by
  induction packs generalizing total with
  | nil => exact ⟨by simp, by simpa using htot⟩
  | cons p ps ih =>
    simp only [checkCompactedPacks, bind_eq_ok, refuseIf_eq_ok, not_lt, gt_iff_lt] at h
    obtain ⟨_, hby, _, _, _, hsum, _, hidx, hrest⟩ := h
    obtain ⟨hps, htail⟩ := ih hrest hsum
    refine ⟨?_, ?_⟩
    · intro q hq
      rcases mem_cons.mp hq with rfl | hq
      · exact ⟨hby, hidx⟩
      · exact hps q hq
    · rw [map_cons, sum_cons]
      omega

lemma prepareCompaction_ok {keys : List String}
    (h : prepareCompaction limits refs packsBefore cap = .ok keys) :
    ∃ packs : List Pack, (refs.entries = [] ∧ packs = [] ∨
        cap.compaction (compactionRevs refs) = .ok packs) ∧
      keys = sortDedup (packs.map Pack.key) ∧ packs.length ≤ maxManifestPacks ∧
      (∀ p ∈ packs, p.bytes ≤ limits.maxPackBytes ∧ p.idxBytes ≤ limits.maxPackBytes) ∧
      (packs.map Pack.bytes).sum ≤ limits.maxRepoBytes := by
  simp only [prepareCompaction, bind_eq_ok] at h
  obtain ⟨packs, hpks, _, _, hkeys⟩ := h
  obtain rfl : sortDedup (packs.map Pack.key) = keys := ok.inj hkeys
  unfold captureCompactedPacks at hpks
  split_ifs at hpks with hemp
  · obtain rfl : [] = packs := ok.inj hpks
    exact ⟨[], .inl ⟨hemp, rfl⟩, rfl, Nat.zero_le _, by simp, Nat.zero_le _⟩
  simp only [bind_eq_ok, refuseIf_eq_ok, not_lt, gt_iff_lt] at hpks
  obtain ⟨packs', hrun, _, hcnt, _, hchk, heq⟩ := hpks
  obtain rfl : packs' = packs := ok.inj heq
  obtain ⟨heach, hsum⟩ := checkCompactedPacks_ok hchk (Nat.zero_le _)
  rw [Nat.zero_add] at hsum
  exact ⟨packs', .inr hrun, rfl, hcnt, heach, hsum⟩

lemma capturePack_ok (h : capturePack limits refs cap refsBefore = .ok pack) :
    (pack = none ∧ (refs.entries = [] ∨
        ∃ p, cap.delta (deltaRevs refsBefore refs) = .ok p ∧ p.bytes = 0)) ∨
      ∃ p, pack = some p ∧ cap.delta (deltaRevs refsBefore refs) = .ok p ∧ p.bytes ≠ 0 ∧
        p.bytes ≤ limits.maxPackBytes := by
  unfold capturePack at h
  split_ifs at h with hemp
  · exact .inl ⟨(ok.inj h).symm, .inl hemp⟩
  simp only [bind_eq_ok, refuseIf_eq_ok, not_lt, gt_iff_lt] at h
  obtain ⟨p, hrun, _, hby, heq⟩ := h
  have hpack := ok.inj heq
  by_cases hzero : p.bytes = 0
  · rw [if_pos hzero] at hpack
    exact .inl ⟨hpack.symm, .inr ⟨p, hrun, hzero⟩⟩
  · rw [if_neg hzero] at hpack
    exact .inr ⟨p, hpack.symm, hrun, hzero, hby⟩

lemma putDelta_ok (h : putDelta limits cap pack = .ok key) :
    (pack = none ∧ key = none) ∨ ∃ p, pack = some p ∧ key = some p.key ∧
      limits.parentHydratedBytes + p.bytes ≤ limits.maxRepoBytes := by
  cases pack with
  | none => exact .inl ⟨rfl, (ok.inj h).symm⟩
  | some p =>
    simp only [putDelta, bind_eq_ok, refuseIf_eq_ok, not_lt, gt_iff_lt] at h
    obtain ⟨_, _, _, htot, _, _, hkey⟩ := h
    exact .inr ⟨p, rfl, (ok.inj hkey).symm, htot⟩

end Capture

end Buzz.Git
