import Buzz.Git.Pointer

/-!
What holds of all manifests.

A manifest that the pointer is ever moved to is a seed, the plan of a publication, or the loaded
manifest with another head.  `ManifestsInv P` says that `P` holds of every manifest in the store, in
the chain and in the hands of an attempt; `ManifestsInv.step` reduces it to what makes new manifests
(`Hereditary`, and `PublishKeeps` for the one step that reads packs).
-/

namespace Buzz.Git

open Lib RepoState

variable {D E : Type} {S : Hashing D E} {st : RepoState D E} {P : Manifest D → Prop}

/-- The manifest the attempt carries has the property; a push to a repository without a pointer
has none to carry. -/
def Attempt.Carries (P : Manifest D → Prop) : Attempt D E → Prop
  | .hydrated _ ps => ps = .fresh ∨ P ps.parent
  | .ready _ _ _ m => P m
  | .snapshot _ s => P s.manifest
  | .headReady _ s _ => P s.manifest
  | _ => True

structure ManifestsInv (P : Manifest D → Prop) (st : RepoState D E) : Prop where
  manifests : ∀ m ∈ st.manifests, P m
  installed : ∀ i ∈ st.installed, P i.manifest
  attempts : ∀ id a, st.attempts.lookup id = some a → a.Carries P

lemma manifestsInv_init : ManifestsInv P (init : RepoState D E) where
  manifests m hm := by cases hm
  installed i hi := by cases hi
  attempts id a hl := by cases hl

lemma ManifestsInv.setAttempt (h : ManifestsInv P st) (id : ℕ)
    (ha : a.Carries P) : ManifestsInv P (st.setAttempt id a) where
  manifests := h.manifests
  installed := h.installed
  attempts id' a' hl := by
    by_cases hne : id' = id
    · subst hne
      rw [lookup_setAttempt_self] at hl
      obtain rfl : a = a' := Option.some.inj hl
      exact ha
    · rw [lookup_setAttempt_ne (Ne.symm hne)] at hl
      exact h.attempts id' a' hl

variable {m : Manifest D}

lemma ManifestsInv.putManifest (h : ManifestsInv P st) (hm : P m.canonical) :
    ManifestsInv P (st.putManifest m) where
  manifests m' hm' := by
    rcases List.mem_cons.mp hm' with rfl | hm'
    · exact hm
    · exact h.manifests m' hm'
  installed := h.installed
  attempts := h.attempts

variable [DecidableEq D] [DecidableEq E]

lemma ManifestsInv.putPointer (h : ManifestsInv P st) (hm : P m) (id base : ℕ)
    (body : D) (precond : Precond E) :
    ManifestsInv P (st.putPointer S id base body m precond).1 := by
  unfold RepoState.putPointer
  by_cases hc : st.holds S precond
  · rw [if_pos hc]
    refine ⟨h.manifests, ?_, h.attempts⟩
    intro i hi
    have hi' : i ∈ if st.pointer = some body then st.installed
        else ⟨id, base, st.pointer, m⟩ :: st.installed := hi
    split_ifs at hi'
    · exact h.installed i hi'
    rcases List.mem_cons.mp hi' with rfl | hi'
    · exact hm
    · exact h.installed i hi'
  · rw [if_neg hc]
    exact h

lemma ManifestsInv.conclude (h : ManifestsInv P st) (hm : P m) {id base : ℕ}
    (hwon : won.Carries P) (hlost : lost.Carries P) :
    ManifestsInv P (conclude (st.putPointer S id base body m precond) id replyLost won lost) := by
  refine (h.putPointer hm id base body precond).setAttempt id ?_
  split_ifs
  · trivial
  · exact hwon
  · exact hlost

/-! ### Steps -/

/-- The property holds of the first manifest and is kept by the stored form and by a change of the
default branch. -/
structure Hereditary (S : Hashing D E) (P : Manifest D → Prop) : Prop where
  seed : P .seed
  canonical : ∀ m, P m → P m.canonical
  edit : ∀ (s s' : DefaultBranchSnapshot D E) (request : SetDefaultBranch D), P s.manifest →
    s.edit S request = .ok (s', true) → P s'.manifest

/-- A publication from a parent with the property gives a manifest with it. -/
def PublishKeeps (P : Manifest D → Prop) (st : RepoState D E) : RepoAct D → Prop
  | .publish id ws limits cap => ∀ base ps m, st.attempts.lookup id = some (.hydrated base ps) →
      ps = .fresh ∨ P ps.parent → casPlan ps limits packCompactionThreshold ws cap = .ok m → P m
  | _ => True

omit [DecidableEq E] in
lemma ManifestsInv.loaded (h : ManifestsInv P st)
    (hload : st.loadPointer S = .ok (some (etag, digest, m))) : P m :=
  h.manifests m (loadPointer_some hload).2.2

omit [DecidableEq E] in
lemma ManifestsInv.setDefault (h : ManifestsInv P st) (hP : Hereditary S P) {id base : ℕ}
    (hs : P s.manifest) (request : SetDefaultBranch D) :
    ManifestsInv P (st.setDefault S id base s request) := by
  unfold RepoState.setDefault
  split
  · exact h.setAttempt id trivial
  · exact h.setAttempt id trivial
  · next s' hedit =>
    have hs' : P s'.manifest := hP.edit s s' request hs hedit
    exact (h.putManifest (hP.canonical _ hs')).setAttempt id hs'
  next s' hedit =>
  obtain ⟨htrue, _⟩ | ⟨_, rfl⟩ := edit_ok hedit
  · cases htrue
  · exact h.setAttempt id hs

/-- **Step lemma.** Every step keeps what is hereditary, a publication only if it keeps it. -/
theorem ManifestsInv.step (h : ManifestsInv P st) (hP : Hereditary S P) {act : RepoAct D}
    (hact : PublishKeeps P st act) : ManifestsInv P (st.step S act) := by
  cases act with
  | hydrate id =>
    simp only [RepoState.step, RepoState.hydrate]
    split_ifs
    · split
      · exact h.setAttempt id trivial
      · exact h.setAttempt id (.inl rfl)
      · next hload => exact h.setAttempt id (.inr (h.loaded hload))
    · exact h
  | loadSnapshot id =>
    simp only [RepoState.step, loadSnapshot]
    split_ifs
    · split
      · next hload => exact h.setAttempt id (h.loaded hload)
      · exact h.setAttempt id trivial
    · exact h
  | seed id =>
    simp only [RepoState.step]
    split_ifs
    · exact (h.putManifest (hP.canonical _ hP.seed)).setAttempt id trivial
    · exact h
  | ensure id =>
    simp only [RepoState.step, ensure]
    split_ifs
    · split
      · exact h.setAttempt id trivial
      · exact (h.putManifest (hP.canonical _ hP.seed)).setAttempt id trivial
    · exact h
  | publish id ws limits cap =>
    simp only [RepoState.step]
    split
    · next base ps hl =>
      unfold publish
      split
      · exact h.setAttempt id trivial
      next m hplan =>
      have hm : P m := hact base ps m hl (h.attempts _ _ hl) hplan
      exact (h.putManifest (hP.canonical _ hm)).setAttempt id hm
    · exact h
  | casPush id replyLost =>
    simp only [RepoState.step]
    split
    · next base ps ws m hl =>
      have hm : P m := h.attempts _ _ hl
      exact h.conclude (hP.canonical _ hm) trivial trivial
    · exact h
  | readWinner id =>
    simp only [RepoState.step, readWinner]
    split
    · split
      · exact h.setAttempt id trivial
      · split_ifs <;> exact h.setAttempt id trivial
    · exact h
  | setDefault id request =>
    simp only [RepoState.step]
    split
    · next base s hl => exact h.setDefault hP (h.attempts _ _ hl) request
    · exact h
  | casSetting id replyLost =>
    simp only [RepoState.step]
    split
    · next base s changed hl =>
      have hs : P s.manifest := h.attempts _ _ hl
      exact h.conclude (hP.canonical _ hs) trivial trivial
    · exact h
  | casSeed id replyLost =>
    simp only [RepoState.step]
    split
    · exact h.conclude (hP.canonical _ hP.seed) trivial trivial
    · exact h
  | rereadSeed id =>
    simp only [RepoState.step, rereadSeed]
    split
    · split_ifs <;> exact h.setAttempt id trivial
    · exact h
  | abort id =>
    simp only [RepoState.step]
    split
    · split_ifs
      · exact h.setAttempt id trivial
      · exact h
    · exact h

/-! ### Heads -/

/-- If the manifest has branches, its head names one of them. -/
def HeadNamesBranch (m : Manifest D) : Prop :=
  (∃ name ∈ m.refs.keys, startsWith name "refs/heads/") →
    m.head ∈ m.refs.keys ∧ startsWith m.head "refs/heads/"

omit [DecidableEq E] in
lemma headNamesBranch_hereditary : Hereditary S (HeadNamesBranch : Manifest D → Prop) where
  seed := by
    rintro ⟨name, hname, -⟩
    cases hname
  canonical m hm := hm
  edit s s' request _ hedit _ := by
    obtain ⟨-, hmem, hhead⟩ := edit_changed hedit
    refine ⟨hmem, ?_⟩
    rw [hhead, startsWith, String.toList_append, List.isPrefixOf_iff_prefix]
    exact List.prefix_append _ _

/-- **Heads name branches**, in the store and in all that the pointer was ever moved to. -/
theorem published_head_names_branch (S : Hashing D E) (acts : List (RepoAct D)) :
    (∀ m ∈ (run S acts).manifests, HeadNamesBranch m) ∧
      ∀ i ∈ (run S acts).installed, HeadNamesBranch i.manifest := by
  have hinv : ManifestsInv HeadNamesBranch (run S acts) := by
    apply List.foldlRecOn (motive := fun st : RepoState D E => ManifestsInv HeadNamesBranch st) acts
    · exact manifestsInv_init
    intro st ih act _
    refine ih.step headNamesBranch_hereditary ?_
    cases act with
    | publish id ws limits cap =>
      intro base ps m _ _ hplan hbranch
      rw [casPlan_head hplan]
      exact resolvePublishedHead_branch m.refs ws.head ps.parent.head hbranch
    | _ => trivial
  exact ⟨hinv.manifests, hinv.installed⟩

end Buzz.Git
