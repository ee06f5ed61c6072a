import Buzz.Git.Invariant
import Mathlib.Data.Set.Lattice

/-!
The packs of a manifest hold everything its refs reach.

A delta pack holds what the new refs reach and the parent's refs do not, so that a manifest is
complete only together with the packs of its parent, and those with the packs of theirs.  A compacted
pack set holds everything the new refs reach and replaces the list.  `GitObjects` says what objects
and packs are, `FaithfulCapture` what is assumed of `pack-objects`; `packs_complete_run` is the
result, by induction over the history of publications.
-/

namespace Buzz.Git

open Lib RepoState

/-! ### Objects -/

/-- Objects and packs are named by their content: a name determines what it names. -/
structure GitObjects where
  /-- The objects that an object refers to. -/
  links : String → Set String
  /-- The objects in the pack with this store key. -/
  contents : String → Set String

namespace GitObjects

variable (G : GitObjects)

def reach (tips : Set String) : Set String :=
  {o | ∃ t ∈ tips, Relation.ReflTransGen (fun a b => b ∈ G.links a) t o}

def stored (packs : List String) : Set String := {o | ∃ k ∈ packs, o ∈ G.contents k}

lemma reach_empty : G.reach ∅ = ∅ := by
  ext o
  simp [reach]

end GitObjects

def tips (refs : Refs) : Set String := {o | o ∈ refs.values}

lemma tips_of_entries_nil (h : refs.entries = []) : tips refs = ∅ := by
  ext o
  simp [tips, SortedMap.values, h]

/-! ### The assumption on `pack-objects` -/

/-- What the tips among the lines reach, and the excluded ones do not. -/
def GitObjects.wanted (G : GitObjects) (revs : List Rev) : Set String :=
  G.reach {o | .tip o ∈ revs} \ G.reach {o | .exclude o ∈ revs}

lemma wanted_deltaRevs (G : GitObjects) (refsBefore refs : Refs) :
    G.wanted (deltaRevs refsBefore refs) = G.reach (tips refs) \ G.reach (tips refsBefore) := by
  simp [GitObjects.wanted, deltaRevs, tips]

lemma wanted_compactionRevs (G : GitObjects) (refs : Refs) :
    G.wanted (compactionRevs refs) = G.reach (tips refs) := by
  simp [GitObjects.wanted, compactionRevs, tips, G.reach_empty]

/-- `pack-objects --revs` emits exactly the objects that its positive tips reach and its negative
tips do not, in one pack or in several; no output stands for no object. -/
structure FaithfulCapture (G : GitObjects) (cap : Capture) : Prop where
  delta : ∀ revs p, cap.delta revs = .ok p →
    if p.bytes = 0 then G.wanted revs = ∅ else G.contents p.key = G.wanted revs
  compaction : ∀ revs packs, cap.compaction revs = .ok packs →
    G.stored (packs.map Pack.key) = G.wanted revs

/-- The step's subprocesses are faithful. -/
def GitFaithful {D E : Type} (G : GitObjects) (_ : RepoState D E) : RepoAct D → Prop
  | .publish _ _ _ cap => FaithfulCapture G cap
  | _ => True

/-! ### Complete manifests -/

section Complete

variable {G : GitObjects} {D E : Type}

/-- The packs of the manifest hold every object that its refs reach. -/
def Complete (G : GitObjects) (m : Manifest D) : Prop := G.reach (tips m.refs) ⊆ G.stored m.packs

variable {m : Manifest D} {cap : Capture}

lemma complete_of_entries_nil (h : m.refs.entries = []) : Complete G m := by
  unfold Complete
  rw [tips_of_entries_nil h, G.reach_empty]
  exact Set.empty_subset _

lemma complete_composeCompactedAfter {refs : Refs} {packsBefore : ℕ} {keys : List String}
    {head : String} {parent : Option D} (hcap : FaithfulCapture G cap)
    (h : prepareCompaction limits refs packsBefore cap = .ok keys) :
    Complete G (composeCompactedAfter parent head refs keys) := by
  obtain ⟨packs, ⟨hemp, -⟩ | hrun, rfl, -⟩ := prepareCompaction_ok h
  · exact complete_of_entries_nil hemp
  intro o ho
  have ho' : o ∈ G.stored (packs.map Pack.key) := by
    rw [hcap.compaction _ _ hrun, wanted_compactionRevs]
    exact ho
  obtain ⟨k, hk, hok⟩ := ho'
  exact ⟨k, by simpa [composeCompactedAfter] using hk, hok⟩

lemma complete_composeAfter {parent : Manifest D} {parentDigest : Option D} {head : String}
    {refs : Refs} {key : Option String} (hpar : Complete G parent)
    (hdel : G.reach (tips refs) \ G.reach (tips parent.refs) ⊆ {o | ∃ k, key = some k ∧
      o ∈ G.contents k}) : Complete G (composeAfter parent parentDigest head refs key) := by
  intro o ho
  by_cases hold : o ∈ G.reach (tips parent.refs)
  · obtain ⟨k, hk, hok⟩ := hpar hold
    exact ⟨k, mem_composeAfter_packs.mpr (.inl hk), hok⟩
  · obtain ⟨k, hk, hok⟩ := hdel ⟨ho, hold⟩
    exact ⟨k, mem_composeAfter_packs.mpr (.inr hk), hok⟩

lemma delta_covers (hcap : FaithfulCapture G cap)
    (hpack : capturePack limits refs cap refsBefore = .ok pack)
    (hput : putDelta limits cap pack = .ok key) :
    G.reach (tips refs) \ G.reach (tips refsBefore) ⊆ {o | ∃ k, key = some k ∧
      o ∈ G.contents k} := by
  rw [← wanted_deltaRevs]
  rcases capturePack_ok hpack with ⟨-, hemp | ⟨p, hrun, hby⟩⟩ | ⟨p, rfl, hrun, hby, -⟩
  · -- no refs, nothing to cover
    rw [wanted_deltaRevs, tips_of_entries_nil hemp, G.reach_empty, Set.empty_sdiff]
    exact Set.empty_subset _
  · have hdel := hcap.delta _ p hrun
    rw [if_pos hby] at hdel
    rw [hdel]
    exact Set.empty_subset _
  have hdel := hcap.delta _ p hrun
  rw [if_neg hby] at hdel
  obtain ⟨hnone, -⟩ | ⟨p', heq, rfl, -⟩ := putDelta_ok hput
  · cases hnone
  cases heq
  intro o ho
  exact ⟨p.key, rfl, hdel ▸ ho⟩

/-- **A publication keeps completeness.** From a complete parent, with delta pack, compaction or the
fallback after a failed one. -/
theorem complete_casPlan {ps : ParentState D E} (hpar : Complete G ps.parent)
    (hcap : FaithfulCapture G cap) (h : casPlan ps limits threshold ws cap = .ok m) : Complete G m := by
  obtain ⟨refs, head, -, hplan⟩ := casPlan_ok h
  rcases hplan with ⟨keys, hkeys, rfl⟩ | ⟨pack, key, hpack, hput, rfl⟩
  · exact complete_composeCompactedAfter hcap hkeys
  · exact complete_composeAfter hpar (delta_covers hcap hpack hput)

end Complete

/-! ### Runs -/

section Runs

variable {G : GitObjects} {D E : Type} {S : Hashing D E} {st : RepoState D E}

lemma complete_hereditary [DecidableEq D] : Hereditary S (Complete G) where
  seed := complete_of_entries_nil rfl
  canonical _ h o ho := by
    obtain ⟨k, hk, hok⟩ := h ho
    exact ⟨k, mem_sortDedup.mpr hk, hok⟩
  edit s s' request hs hedit := by
    obtain ⟨_, _, _, head, hed⟩ | ⟨hf, _⟩ := edit_ok hedit
    · rw [hed]
      exact hs
    · cases hf

lemma publishKeeps_complete {act : RepoAct D} (hact : GitFaithful G st act) :
    PublishKeeps (Complete G) st act := by
  cases act with
  | publish id ws limits cap =>
    intro base ps m _ hpar hplan
    have hparent' : Complete G ps.parent := by
      rcases hpar with rfl | hpar
      · exact complete_of_entries_nil rfl
      · exact hpar
    exact complete_casPlan hparent' hact hplan
  | _ => trivial

/-- **Complete packs.** In every run whose `pack-objects` calls are faithful, with any mix of delta
packs, compactions, fallbacks, deletions and pushes without new objects, the packs of every
published manifest hold every object that its refs reach. -/
theorem packs_complete_run [DecidableEq D] [DecidableEq E] (S : Hashing D E) (G : GitObjects) (acts : List (RepoAct D))
    (h : AllSteps (RepoState.step S) (GitFaithful G) init acts) :
    ∀ i ∈ (run S acts).installed, Complete G i.manifest :=
  (h.invariant (I := ManifestsInv (Complete G)) (fun _ _ hst hact =>
    hst.step complete_hereditary (publishKeeps_complete hact)) manifestsInv_init).installed

end Runs

/-! ### A second push -/

def nextOid : String := "9876543210987654321098765432109876543210"

def firstKey : String := "packs/0123456789012345678901234567890123456789012345678901234567890123"

def nextKey : String := "packs/9876543210987654321098765432109876543210987654321098765432109876"

/-- A commit on top of another one, each in a pack of its own. -/
def twoCommits : GitObjects where
  links oid := if oid = nextOid then {loneOid} else ∅
  contents key := if key = nextKey then {nextOid} else {loneOid}

/-- `pack-objects` for the first commit, and for the second one over the first. -/
def packCommits : Capture where
  compaction _ := .error (.packCapture "pack compaction capacity closed")
  delta revs :=
    if revs = [.tip loneOid] then .ok ⟨firstKey, 10, 10⟩
    else if revs = [.tip nextOid, .exclude loneOid] then .ok ⟨nextKey, 10, 10⟩
    else .error (.packCapture "pack-objects failed: status=Some(128) stderr=")
  putPack := .ok ()

def nextWorkspace : Workspace :=
  ⟨[("refs/heads/main", nextOid)], "refs/heads/main", by decide, by decide⟩

def twoPushes : List (RepoAct Transcript) :=
  [.hydrate 0, .publish 0 loneWorkspace ⟨0, 100, 100⟩ packCommits, .casPush 0 false,
    .hydrate 1, .publish 1 nextWorkspace ⟨10, 100, 100⟩ packCommits, .casPush 1 false]

lemma mem_reach_twoCommits {T : Set String} {o : String} :
    o ∈ twoCommits.reach T ↔ o ∈ T ∨ o = loneOid ∧ nextOid ∈ T := by
  constructor
  · rintro ⟨t, ht, hreach⟩
    induction hreach with
    | refl => exact .inl ht
    | tail _ hlink ih =>
      simp only [twoCommits] at hlink
      split_ifs at hlink with hnext
      · subst hnext
        exact .inr ⟨hlink, ih.resolve_right fun h => absurd h.1 (by decide)⟩
      · exact hlink.elim
  · rintro (h | ⟨rfl, h⟩)
    · exact ⟨o, h, .refl⟩
    · exact ⟨nextOid, h, .single rfl⟩

lemma packCommits_faithful : FaithfulCapture twoCommits packCommits where
  delta revs p h := by
    have hoid : nextOid ≠ loneOid := by decide
    have hfirst : twoCommits.contents firstKey = {loneOid} := by
      simp [twoCommits, firstKey, nextKey]
    have hnext : twoCommits.contents nextKey = {nextOid} := by simp [twoCommits]
    simp only [packCommits] at h
    split_ifs at h with hrevs hrevs <;> cases h <;> subst hrevs
    · ext o
      simp [hfirst, GitObjects.wanted, mem_reach_twoCommits, hoid]
    · ext o
      simp only [hnext, GitObjects.wanted, Set.mem_sdiff, mem_reach_twoCommits]
      grind
  compaction revs packs h := by cases h

theorem twoPushes_complete :
    (run Hashing.transcript twoPushes).installed.map (fun i => i.manifest.packs.length) = [2, 1] ∧
      ∀ i ∈ (run Hashing.transcript twoPushes).installed, Complete twoCommits i.manifest :=
  ⟨by decide +kernel, packs_complete_run Hashing.transcript twoCommits twoPushes
    ⟨trivial, packCommits_faithful, trivial, trivial, packCommits_faithful, trivial, trivial⟩⟩

end Buzz.Git
