import Buzz.Git.Publish
import Buzz.Lib.Run
import Buzz.Lib.Table

/-!
The repository pointer and its writers.

The object store is one pointer cell with a conditional write on an ETag that is a function of the
cell's content, and immutable manifests under their digests.  Three writers share the cell: pushes
(`hydrate_for_write`, then `cas_publish`), changes of the default branch (`DefaultBranchSnapshot`)
and the seeding of announced repositories (`seed_manifest_pointer`).  Every attempt is a little
program whose steps interleave freely with those of the others; a step that fails, or whose reply is
lost, ends the attempt.

`installed` is a record of the run and read by no step: the manifests the pointer was moved to,
newest first, with what the pointer held before and how many installations there had been when the
writer read it.
-/

namespace Buzz.Git

open Lib List

/-- The content addressing of the store: digests of manifests, and ETags of pointer contents. -/
structure Hashing (D E : Type) where
  digest : Manifest D → D
  etag : D → E
  digest_injective : Function.Injective digest
  etag_injective : Function.Injective etag

/-- One manifest of a transcript, and whether it has a parent. -/
structure TranscriptEntry where
  version : ℕ
  head : String
  refs : Refs
  packs : List String
  hasParent : Bool
deriving DecidableEq

/-- A digest that forgets nothing: the fields of the manifest on top of its parent's digest.  It
shows that such an addressing exists, and runs. -/
abbrev Transcript := List TranscriptEntry

def transcript (m : Manifest Transcript) : Transcript :=
  ⟨m.version, m.head, m.refs, m.packs, m.parent.isSome⟩ :: m.parent.getD []

lemma transcript_injective : Function.Injective transcript := by
  rintro ⟨version, head, refs, packs, parent⟩ ⟨version', head', refs', packs', parent'⟩ h
  cases parent <;> cases parent' <;> simp_all [transcript]

def Hashing.transcript : Hashing Transcript Transcript :=
  ⟨Git.transcript, id, transcript_injective, Function.injective_id⟩

/-! ### Changing the default branch -/

/-- A loaded pointer with its manifest. -/
structure DefaultBranchSnapshot (D E : Type) where
  etag : E
  digest : D
  manifest : Manifest D

structure SetDefaultBranch (D : Type) where
  branch : String
  expectedManifest : D

inductive SettingsError
  | conflict
  | badRequest (message : String)
  | backend

def pathParts : List Char → List (List Char)
  | [] => [[]]
  | c :: cs =>
    match c, pathParts cs with
    | '/', parts => [] :: parts
    | c, part :: parts => (c :: part) :: parts
    | c, [] => [[c]]

def invalidBranch (branch : String) : Bool :=
  branch = "" || branch.utf8ByteSize > 1024 || startsWith branch "-" ||
    !isSafeRefname ("refs/heads/" ++ branch) || endsWith branch "." ||
    (pathParts branch.toList).any fun part =>
      ".".toList.isPrefixOf part || ".lock".toList.isSuffixOf part

variable {D E : Type}

section Settings

variable [DecidableEq D]

/-- `DefaultBranchSnapshot::set` up to the pointer write: the snapshot to write, and whether the
default branch changes.  A change gives a new manifest with the loaded one as its parent. -/
def DefaultBranchSnapshot.edit (S : Hashing D E) (s : DefaultBranchSnapshot D E)
    (request : SetDefaultBranch D) : Except SettingsError (DefaultBranchSnapshot D E × Bool) := do
  refuseIf (s.digest ≠ request.expectedManifest) .conflict
  let head := "refs/heads/" ++ request.branch
  refuseIf (invalidBranch request.branch)
    (.badRequest "invalid branch name; use a short branch name such as main or release/v1")
  refuseIf (s.manifest.refs.contains head = false)
    (.badRequest "default branch must name an existing published branch")
  if s.manifest.head = head then return (s, false)
  else do
    let manifest := { s.manifest with head := head, parent := some s.digest }
    manifest.validate.mapError fun _ => .backend
    return (⟨s.etag, S.digest manifest.canonical, manifest⟩, true)

end Settings

/-! ### Attempts -/

/-- Where an attempt is.  `base` is the number of installations when it read the pointer. -/
inductive Attempt (D E : Type)
  /-- A push with a hydrated workspace. -/
  | hydrated (base : ℕ) (ps : ParentState D E)
  /-- A push whose manifest is stored, before its conditional write. -/
  | ready (base : ℕ) (ps : ParentState D E) (ws : Workspace) (after : Manifest D)
  /-- A push that lost the race and has yet to read the winner. -/
  | superseded
  /-- A default-branch change with a loaded snapshot. -/
  | snapshot (base : ℕ) (s : DefaultBranchSnapshot D E)
  /-- A default-branch change before its conditional write. -/
  | headReady (base : ℕ) (s : DefaultBranchSnapshot D E) (changed : Bool)
  /-- A seed before its conditional write. -/
  | seedReady
  /-- A seed that lost the race and has yet to read the pointer. -/
  | seedLost
  | pushed (ws : Workspace) (after : Manifest D)
  | defaultSet (manifest : Manifest D) (changed : Bool)
  | seeded
  | conflict
  | failed

def Attempt.inFlight {D E : Type} : Attempt D E → Bool
  | .hydrated .. | .ready .. | .superseded | .snapshot .. | .headReady .. | .seedReady
  | .seedLost => true
  | _ => false

/-- The pointer was moved to `manifest` by `attempt`. -/
structure Installation (D : Type) where
  attempt : ℕ
  base : ℕ
  /-- What the pointer held immediately before. -/
  before : Option D
  manifest : Manifest D

structure RepoState (D E : Type) where
  pointer : Option D
  manifests : List (Manifest D)
  attempts : Table ℕ (Attempt D E)
  installed : List (Installation D)

inductive Precond (E : Type)
  | ifMatch (etag : E)
  | ifNoneMatchStar

inductive RepoAct (D : Type)
  | hydrate (id : ℕ)
  | publish (id : ℕ) (ws : Workspace) (limits : PublishLimits) (cap : Capture)
  | casPush (id : ℕ) (replyLost : Bool)
  | readWinner (id : ℕ)
  | loadSnapshot (id : ℕ)
  | setDefault (id : ℕ) (request : SetDefaultBranch D)
  | casSetting (id : ℕ) (replyLost : Bool)
  | seed (id : ℕ)
  | ensure (id : ℕ)
  | casSeed (id : ℕ) (replyLost : Bool)
  | rereadSeed (id : ℕ)
  /-- Any read or write of the attempt fails before it has an effect. -/
  | abort (id : ℕ)

namespace RepoState

variable {D E : Type} [DecidableEq D] [DecidableEq E] (S : Hashing D E) (st : RepoState D E)
  (id base : ℕ)

def init : RepoState D E := ⟨none, [], ∅, []⟩

def setAttempt (a : Attempt D E) : RepoState D E :=
  { st with attempts := st.attempts.insert id a }

def putManifest (m : Manifest D) : RepoState D E :=
  { st with manifests := m.canonical :: st.manifests }

/-! ### The store -/

/-- The pointer with its verified manifest.  Manifests are immutable, so that reading the pointer
and then its manifest is one step here. -/
def loadPointer : Except Unit (Option (E × D × Manifest D)) :=
  match st.pointer with
  | none => .ok none
  | some d =>
    match st.manifests.find? fun m => decide (S.digest m = d) with
    | none => .error ()
    | some m =>
      match m.validate with
      | .ok () => .ok (some (S.etag d, d, m))
      | .error _ => .error ()

def holds : Precond E → Bool
  | .ifMatch etag => st.pointer.map S.etag = some etag
  | .ifNoneMatchStar => st.pointer = none

/-- The pointer after a write of `body`.  Rewriting what it holds installs nothing. -/
def install (body : D) (m : Manifest D) : RepoState D E :=
  { st with
    pointer := some body
    installed :=
      if st.pointer = some body then st.installed else ⟨id, base, st.pointer, m⟩ :: st.installed }

/-- The atomic conditional write: `true` when it took effect, `false` for a lost race. -/
def putPointer (body : D) (m : Manifest D) (precond : Precond E) : RepoState D E × Bool :=
  if st.holds S precond then (st.install id base body m, true) else (st, false)

/-- Where the conditional write leaves the attempt; a lost reply ends it whatever happened. -/
def conclude (r : RepoState D E × Bool) (id : ℕ) (replyLost : Bool) (won lost : Attempt D E) :
    RepoState D E :=
  r.1.setAttempt id (if replyLost then .failed else if r.2 then won else lost)

/-! ### Pushes -/

def precondOf : Option E → Precond E
  | some etag => .ifMatch etag
  | none => .ifNoneMatchStar

def hydrate : RepoState D E :=
  match st.loadPointer S with
  | .error _ => st.setAttempt id .failed
  | .ok none => st.setAttempt id (.hydrated st.installed.length .fresh)
  | .ok (some (etag, digest, m)) =>
    st.setAttempt id (.hydrated st.installed.length (.fromLoaded etag digest m))

def publish (ps : ParentState D E) (ws : Workspace)
    (limits : PublishLimits) (cap : Capture) : RepoState D E :=
  match casPlan ps limits packCompactionThreshold ws cap with
  | .error _ => st.setAttempt id .failed
  | .ok m => (st.putManifest m).setAttempt id (.ready base ps ws m)

def casPush (ps : ParentState D E)
    (ws : Workspace) (m : Manifest D) (replyLost : Bool) : RepoState D E :=
  conclude (st.putPointer S id base (S.digest m.canonical) m.canonical (precondOf ps.ifMatch)) id
    replyLost (.pushed ws m) .superseded

def readWinner : RepoState D E :=
  match st.pointer with
  | none => st.setAttempt id .failed
  | some d =>
    if st.manifests.any fun m => decide (S.digest m = d) then st.setAttempt id .conflict
    else st.setAttempt id .failed

/-! ### Default branches -/

def loadSnapshot : RepoState D E :=
  match st.loadPointer S with
  | .ok (some (etag, digest, m)) =>
    st.setAttempt id (.snapshot st.installed.length ⟨etag, digest, m⟩)
  | _ => st.setAttempt id .failed

def setDefault (s : DefaultBranchSnapshot D E) (request : SetDefaultBranch D) : RepoState D E :=
  match s.edit S request with
  | .error .conflict => st.setAttempt id .conflict
  | .error _ => st.setAttempt id .failed
  | .ok (s', true) => (st.putManifest s'.manifest).setAttempt id (.headReady base s' true)
  | .ok (s', false) => st.setAttempt id (.headReady base s' false)

/-- The conditional write of a default-branch change; even a change of nothing makes it. -/
def casSetting (s : DefaultBranchSnapshot D E) (changed replyLost : Bool) : RepoState D E :=
  conclude (st.putPointer S id base s.digest s.manifest.canonical (.ifMatch s.etag)) id replyLost
    (.defaultSet s.manifest changed) .conflict

/-! ### Seeds -/

def beginSeed : RepoState D E :=
  (st.putManifest .seed).setAttempt id .seedReady

/-- A second announcement by the owner seeds a missing pointer only. -/
def ensure : RepoState D E :=
  match st.pointer with
  | some _ => st.setAttempt id .seeded
  | none => st.beginSeed id

def casSeed (replyLost : Bool) : RepoState D E :=
  conclude (st.putPointer S id 0 (S.digest Manifest.seed.canonical) Manifest.seed.canonical
    .ifNoneMatchStar) id replyLost .seeded .seedLost

/-- A seed that lost the race succeeds only if the pointer names the same empty manifest. -/
def rereadSeed : RepoState D E :=
  if st.pointer = some (S.digest Manifest.seed.canonical) then st.setAttempt id .seeded
  else st.setAttempt id .failed

/-! ### Steps -/

/-- One step of one attempt; an action that does not fit the attempt's phase does nothing. -/
def step : RepoAct D → RepoState D E
  | .hydrate id => if st.attempts.lookup id = none then st.hydrate S id else st
  | .loadSnapshot id => if st.attempts.lookup id = none then st.loadSnapshot S id else st
  | .seed id => if st.attempts.lookup id = none then st.beginSeed id else st
  | .ensure id => if st.attempts.lookup id = none then st.ensure id else st
  | .publish id ws limits cap =>
    match st.attempts.lookup id with
    | some (.hydrated base ps) => st.publish id base ps ws limits cap
    | _ => st
  | .casPush id replyLost =>
    match st.attempts.lookup id with
    | some (.ready base ps ws m) => st.casPush S id base ps ws m replyLost
    | _ => st
  | .readWinner id =>
    match st.attempts.lookup id with
    | some .superseded => st.readWinner S id
    | _ => st
  | .setDefault id request =>
    match st.attempts.lookup id with
    | some (.snapshot base s) => st.setDefault S id base s request
    | _ => st
  | .casSetting id replyLost =>
    match st.attempts.lookup id with
    | some (.headReady base s changed) => st.casSetting S id base s changed replyLost
    | _ => st
  | .casSeed id replyLost =>
    match st.attempts.lookup id with
    | some .seedReady => st.casSeed S id replyLost
    | _ => st
  | .rereadSeed id =>
    match st.attempts.lookup id with
    | some .seedLost => st.rereadSeed S id
    | _ => st
  | .abort id =>
    match st.attempts.lookup id with
    | some a => if a.inFlight then st.setAttempt id .failed else st
    | none => st

def run (acts : List (RepoAct D)) : RepoState D E := acts.foldl (step S) init

end RepoState

open RepoState

/-! ### What the readers get -/

variable {S : Hashing D E}

section Reads

variable [DecidableEq D] {st : RepoState D E}

lemma loadPointer_some (h : st.loadPointer S = .ok (some (etag, digest, m))) :
    st.pointer = some digest ∧ etag = S.etag digest ∧ m ∈ st.manifests := by
  unfold loadPointer at h
  cases hp : st.pointer with
  | none =>
    rw [hp] at h
    cases h
  | some d =>
    simp only [hp] at h
    split at h
    · cases h
    next hfind =>
    split at h
    · cases h
      exact ⟨rfl, rfl, mem_of_find?_eq_some hfind⟩
    · cases h

lemma loadPointer_none (h : st.loadPointer S = .ok none) : st.pointer = none := by
  unfold loadPointer at h
  cases hp : st.pointer with
  | none => rfl
  | some d =>
    simp only [hp] at h
    split at h
    · cases h
    · split at h <;> cases h

variable {s s' : DefaultBranchSnapshot D E} {request : SetDefaultBranch D}

/-- An edit that changes the branch gives the loaded manifest another head and itself as parent,
and one that changes nothing is the loaded snapshot. -/
lemma edit_ok (h : s.edit S request = .ok (s', changed)) :
    (changed ∧ s'.etag = s.etag ∧ s'.digest = S.digest s'.manifest.canonical ∧
      ∃ head, s'.manifest = { s.manifest with head := head, parent := some s.digest }) ∨
    (changed = false ∧ s' = s) := by
  simp only [DefaultBranchSnapshot.edit, bind_eq_ok] at h
  obtain ⟨_, _, _, _, _, _, h⟩ := h
  split_ifs at h with hhead
  · cases h
    exact .inr ⟨rfl, rfl⟩
  simp only [bind_eq_ok] at h
  obtain ⟨_, _, h⟩ := h
  cases h
  exact .inl ⟨rfl, rfl, rfl, _, rfl⟩

lemma edit_changed (h : s.edit S request = .ok (s', true)) :
    s'.manifest.Valid ∧ s'.manifest.head ∈ s'.manifest.refs.keys ∧
      s'.manifest.head = "refs/heads/" ++ request.branch := by
  simp only [DefaultBranchSnapshot.edit, bind_eq_ok, refuseIf_eq_ok, Bool.not_eq_false] at h
  obtain ⟨_, _, _, _, _, hcont, h⟩ := h
  split_ifs at h with hhead
  · cases h
  simp only [bind_eq_ok, mapError_eq_ok] at h
  obtain ⟨_, hval, h⟩ := h
  cases h
  exact ⟨validate_eq_ok.mp hval, mem_keys_of_contains hcont, rfl⟩

end Reads

/-! ### Steps of other attempts -/

def RepoAct.id {D : Type} : RepoAct D → ℕ
  | .hydrate id | .publish id _ _ _ | .casPush id _ | .readWinner id | .loadSnapshot id
  | .setDefault id _ | .casSetting id _ | .seed id | .ensure id | .casSeed id _ | .rereadSeed id
  | .abort id => id

section Frame

variable {st : RepoState D E} {id : ℕ}

lemma lookup_setAttempt_self (a : Attempt D E) :
    (st.setAttempt id a).attempts.lookup id = some a := by
  simp [setAttempt]

lemma lookup_setAttempt_ne (h : id' ≠ id) (a : Attempt D E) :
    (st.setAttempt id' a).attempts.lookup id = st.attempts.lookup id := by
  simp [setAttempt, AList.lookup_insert_ne h.symm]

/-- A step of an attempt leaves the others alone, and keeps what is installed. -/
structure Frame (id : ℕ) (st st' : RepoState D E) : Prop where
  others : ∀ id' ≠ id, st'.attempts.lookup id' = st.attempts.lookup id'
  suffix : st.installed <:+ st'.installed

lemma Frame.refl (id : ℕ) (st : RepoState D E) : Frame id st st := ⟨fun _ _ => rfl, suffix_refl _⟩

variable [DecidableEq D] [DecidableEq E]

lemma frame_conclude : Frame id st
      (conclude (st.putPointer S id base body m precond) id replyLost won lost) := by
  refine ⟨fun id' hne => ?_, ?_⟩
  · rw [conclude, lookup_setAttempt_ne (Ne.symm hne)]
    unfold putPointer
    split_ifs <;> rfl
  show st.installed <:+ (st.putPointer S id base body m precond).1.installed
  unfold putPointer
  split_ifs
  · show st.installed <:+ if st.pointer = some body then st.installed else _ :: st.installed
    split_ifs
    · exact suffix_refl _
    · exact suffix_cons _ _
  · exact suffix_refl _

lemma frame_step (act : RepoAct D) : Frame act.id st (st.step S act) := by
  cases act with
  | casPush id replyLost | casSetting id replyLost | casSeed id replyLost =>
    simp only [step]
    split
    · exact frame_conclude
    · exact .refl _ _
  | _ =>
    -- the other steps write no pointer
    simp only [step, hydrate, loadSnapshot, beginSeed,
      ensure, publish, readWinner, setDefault, rereadSeed]
    repeat' split
    all_goals first
      | exact .refl _ _
      | exact ⟨fun _ hne => lookup_setAttempt_ne (Ne.symm hne) _, suffix_refl _⟩

lemma lookup_step_ne (h : act.id ≠ id) :
    (st.step S act).attempts.lookup id = st.attempts.lookup id :=
  (frame_step act).others id (Ne.symm h)

lemma lookup_foldl_step_ne {acts : List (RepoAct D)} (h : ∀ act ∈ acts, act.id ≠ id) :
    (acts.foldl (step S) st).attempts.lookup id = st.attempts.lookup id := by
  induction acts generalizing st with
  | nil => rfl
  | cons act acts ih =>
    rw [foldl_cons, ih fun act' hact => h act' (mem_cons_of_mem _ hact)]
    exact lookup_step_ne (h act mem_cons_self)

end Frame

/-! ### A sample push -/

def loneOid : String := "0123456789012345678901234567890123456789"

def loneWorkspace : Workspace :=
  ⟨[("refs/heads/main", loneOid)], "refs/heads/main", by decide, by decide⟩

def loneCapture : Capture :=
  ⟨fun _ => .error (.packCapture "pack compaction capacity closed"),
    fun _ => .ok ⟨"packs/0123456789012345678901234567890123456789012345678901234567890123", 10, 10⟩, .ok ()⟩

/-! ### A second announcement -/

section Reannouncement

variable {st : RepoState D E} {id : ℕ}

/-- The calls of an announcement by the owner of the name, as long as the store answers. -/
def RepoAct.Reannounces : RepoAct D → Prop
  | .ensure _ | .casSeed _ false | .rereadSeed _ => True
  | _ => False

/-- How far such an announcement has come, if it has not failed. -/
def Reannouncing (id : ℕ) (st : RepoState D E) : Prop :=
  st.attempts.lookup id = none ∨ st.attempts.lookup id = some .seedReady ∨
    st.attempts.lookup id = some .seedLost ∨ st.attempts.lookup id = some .seeded

variable [DecidableEq D] [DecidableEq E]

/-- An announcement that lost the race reads the pointer again only while that names the empty
manifest. -/
def SeedStands (S : Hashing D E) (id : ℕ) (st : RepoState D E) : RepoAct D → Prop
  | .rereadSeed id' => id' = id → st.attempts.lookup id = some .seedLost →
      st.pointer = some (S.digest Manifest.seed.canonical)
  | _ => True

lemma pointer_step_of_reannounces (hact : act.Reannounces)
    (h : st.pointer = some d) : (st.step S act).pointer = some d := by
  cases act with
  | ensure id =>
    simp only [step, ensure, h]
    split_ifs <;> exact h
  | casSeed id replyLost =>
    simp only [step, casSeed, putPointer, holds, h]
    split <;> exact h
  | rereadSeed id =>
    simp only [step, rereadSeed]
    repeat' split
    all_goals exact h
  | _ => exact hact.elim

lemma Reannouncing.step (h : Reannouncing id st)
    (hown : act.id = id → act.Reannounces) (hstands : SeedStands S id st act) :
    Reannouncing id (st.step S act) := by
  by_cases hid : act.id = id
  · have hact := hown hid
    cases act with
    | ensure id' =>
      obtain rfl : id' = id := hid
      simp only [step]
      split_ifs
      · unfold ensure
        split
        · exact .inr (.inr (.inr (lookup_setAttempt_self _)))
        · exact .inr (.inl (lookup_setAttempt_self _))
      · exact h
    | casSeed id' replyLost =>
      obtain rfl : id' = id := hid
      cases replyLost with
      | true => exact hact.elim
      | false =>
        simp only [step]
        split
        · simp only [Reannouncing, casSeed, conclude, lookup_setAttempt_self,
            Bool.false_eq_true, if_false]
          split <;> simp
        · exact h
    | rereadSeed id' =>
      obtain rfl : id' = id := hid
      simp only [step]
      split
      · next hlost =>
        rw [rereadSeed, if_pos (hstands rfl hlost)]
        exact .inr (.inr (.inr (lookup_setAttempt_self _)))
      · exact h
    | _ => exact hact.elim
  · rwa [Reannouncing, lookup_step_ne hid]

/-- **Second announcements.** An announcement that has ended has succeeded, if the pointer names the
empty manifest whenever it is read again after a lost race; and none of its steps changes a pointer
that is there. -/
theorem reannouncement_succeeds (S : Hashing D E) (id : ℕ) (acts : List (RepoAct D))
    (hown : ∀ act ∈ acts, act.id = id → act.Reannounces)
    (h : AllSteps (RepoState.step S) (SeedStands S id) RepoState.init acts) :
    (∀ a, (RepoState.run S acts).attempts.lookup id = some a → a.inFlight = false → a = .seeded) ∧
      ∀ before act after d, acts = before ++ act :: after → act.id = id →
        (RepoState.run S before).pointer = some d →
        (RepoState.run S (before ++ [act])).pointer = some d := by
  have hall : AllSteps (step S)
      (fun st act => (act.id = id → act.Reannounces) ∧ SeedStands S id st act) init acts :=
    h.mono fun st act hact hstands => ⟨hown act hact, hstands⟩
  have hrun : Reannouncing id (run S acts) :=
    AllSteps.invariant (I := Reannouncing id) (fun st act hst hact => hst.step hact.1 hact.2) hall
      (.inl rfl)
  constructor
  · rintro a ha hended
    rcases hrun with hphase | hphase | hphase | hphase <;> cases ha.symm.trans hphase
    · cases hended
    · cases hended
    · rfl
  rintro before act after d rfl hid hpointer
  have hact := hown act (by simp) hid
  rw [run, foldl_append]
  exact pointer_step_of_reannounces hact hpointer

end Reannouncement

def crossedAnnouncement : List (RepoAct Transcript) :=
  [.ensure 0, .hydrate 1, .publish 1 loneWorkspace ⟨0, 100, 100⟩ loneCapture, .casPush 1 false,
    .casSeed 0 false, .rereadSeed 0]

set_option maxRecDepth 4000 in
theorem crossed_announcement_fails :
    ¬∀ a, (RepoState.run .transcript crossedAnnouncement : RepoState _ Transcript).attempts.lookup 0 =
      some a → a.inFlight = false → a = .seeded := by
  intro h
  cases h .failed rfl rfl

/-- Of two second announcements one seeds the pointer, and the other finds it. -/
theorem reannouncement_succeeds_pair :
    ∃ a, (RepoState.run .transcript [.ensure 0, .ensure 1, .casSeed 1 false, .casSeed 0 false,
      .rereadSeed 0] : RepoState _ Transcript).attempts.lookup 0 = some a ∧ a = .seeded :=
  ⟨_, rfl, (reannouncement_succeeds .transcript 0 [.ensure 0, .ensure 1, .casSeed 1 false,
    .casSeed 0 false, .rereadSeed 0] (by simp [RepoAct.id, RepoAct.Reannounces])
    ⟨trivial, trivial, trivial, trivial, fun _ _ => rfl, trivial⟩).1 _ rfl rfl⟩

end Buzz.Git
