import Buzz.Git.RepoName
import Buzz.Git.Pointer

/-!
Announcing repositories.

The handler of an announcement claims the identifier in the community's name registry, takes a
serving lease and makes sure that the repository has a pointer; if that fails it gives back the
name it has just claimed.  Every call of the database and of the object store is one step here, and
the steps of all handlers and of the requests that move pointers interleave freely.  A call can
fail before it has an effect, and its reply can be lost after it; the loss of the lease while the
pointer is made is such a failure.  An announcement is accepted when its handler returned `Ok`.
-/

namespace Buzz.Git

open Lib Buzz.Core

/-- The repository an announcement names: the author and the `d` tag. -/
structure RepoPair where
  owner : PublicKey
  repoId : String
deriving DecidableEq

def RepoPair.key (c : CommunityId) (p : RepoPair) : String := pointerKey c p.owner.toHex p.repoId

/-- Where a handler is.  `fresh` says that this attempt inserted the name. -/
inductive AnnouncePhase
  /-- The `d` tag is valid. -/
  | received
  /-- Nobody holds the name. -/
  | unowned
  /-- The author may have another repository. -/
  | underQuota
  /-- The insertion met a row. -/
  | conflicted
  | claimed (fresh : Bool)
  | leased (fresh : Bool)
  | verified (fresh : Bool)
  /-- The author holds the name and there is no pointer. -/
  | unpointed
  /-- The empty manifest is stored. -/
  | seeding (fresh : Bool)
  /-- The create-only write found a pointer. -/
  | lostRace (fresh : Bool)
  | pointed (fresh : Bool)
  | pointerFailed (fresh : Bool) (message : String)
  | accepted
  | refused (message : String)
deriving DecidableEq

open AnnouncePhase

structure Announcing where
  community : CommunityId
  pair : RepoPair
  phase : AnnouncePhase
deriving DecidableEq

/-- How a call to the database, the lease service or the store ends. -/
inductive CallOutcome
  | answered | failed
  /-- The call took effect and its caller sees a failure. -/
  | replyLost

structure AnnounceState (D : Type) where
  /-- The registry, `git_repo_names`: the holder of each name. -/
  names : Table (CommunityId × String) String
  pointers : Table String D
  handlers : Table ℕ Announcing

inductive AnnounceAct (D : Type)
  /-- An announcement arrives. -/
  | announce (id : ℕ) (community : CommunityId) (event : Event)
  /-- The handler makes its next call. -/
  | advance (id : ℕ) (outcome : CallOutcome)
  /-- A request that was let in moves its pointer. -/
  | write (route : GitRoute) (community : CommunityId) (owner repo : String) (body : D)

namespace AnnounceState

variable {D E : Type} [DecidableEq D] (S : Hashing D E) (limit : ℕ)
  (st : AnnounceState D)

def init : AnnounceState D := ⟨∅, ∅, ∅⟩

def setPhase (id : ℕ) (a : Announcing) (phase : AnnouncePhase) : AnnounceState D :=
  { st with handlers := st.handlers.insert id { a with phase := phase } }

def announce (id : ℕ) (c : CommunityId) (e : Event) : AnnounceState D :=
  match extractTagValue e "d" with
  | none => st.setPhase id ⟨c, ⟨e.pubkey, ""⟩, .received⟩ (.refused "kind:30617 missing d tag")
  | some repoId =>
    let a : Announcing := ⟨c, ⟨e.pubkey, repoId⟩, .received⟩
    if Announcement.validateRepoId repoId then st.setPhase id a .received
    else st.setPhase id a (.refused ("invalid repo identifier: must be " ++
      "[a-zA-Z0-9._-]\x7b1,64\x7d, no leading dots, no '..'"))

def countReposForOwner (c : CommunityId) (owner : String) : ℕ :=
  (st.names.entries.filter fun row => row.1.1 = c ∧ row.2 = owner).length

def takenMessage (repoId : String) : String :=
  "repo name '" ++ repoId ++ "' already taken by another owner"

def seedDigest : D := S.digest Manifest.seed.canonical

/-- What the next call does when it takes effect: the state, and where the handler is if it gets
the answer. -/
def call (a : Announcing) : AnnounceState D × AnnouncePhase :=
  let row := (a.community, a.pair.repoId)
  let owner := a.pair.owner.toHex
  let key := a.pair.key a.community
  match a.phase with
  | .received =>
    match st.names.lookup row with
    | none => (st, .unowned)
    | some holder =>
      (st, if holder = owner then .claimed false else .refused (takenMessage a.pair.repoId))
  | .unowned =>
    let owned := st.countReposForOwner a.community owner
    (st, if limit ≤ owned then
        .refused ("repo limit exceeded: " ++ toString owned ++ " >= " ++ toString limit)
      else .underQuota)
  | .underQuota =>
    match st.names.lookup row with
    | none => ({ st with names := st.names.insert row owner }, .claimed true)
    | some _ => (st, .conflicted)
  | .conflicted =>
    -- the row may be gone by now, which counts as taken
    (st, if st.names.lookup row = some owner then .claimed false
      else .refused (takenMessage a.pair.repoId))
  | .claimed fresh => (st, .leased fresh)
  | .leased fresh => (st, .verified fresh)
  | .verified true => (st, .seeding true)
  | .verified false => (st, if (st.pointers.lookup key).isSome then .pointed false else .unpointed)
  | .unpointed => (st, .seeding false)
  | .seeding fresh =>
    match st.pointers.lookup key with
    | none => ({ st with pointers := st.pointers.insert key (seedDigest S) }, .pointed fresh)
    | some _ => (st, .lostRace fresh)
  | .lostRace fresh =>
    match st.pointers.lookup key with
    | none => (st, .pointerFailed fresh "pointer vanished after LostRace race")
    | some body =>
      (st, if body = seedDigest S then .pointed fresh
        else .pointerFailed fresh ("repo '" ++ a.pair.repoId ++ "' for owner " ++ owner ++
          " already has a non-empty pointer; refusing to overwrite via announce"))
  | .pointed _ =>
    -- the ref-state event is published between, and its failure is not fatal
    (st, .accepted)
  | .pointerFailed true message =>
    ((if st.names.lookup row = some owner then { st with names := st.names.erase row } else st),
      .refused ("failed to ensure manifest pointer: " ++ message))
  | .pointerFailed false message =>
    (st, .refused ("failed to ensure manifest pointer: " ++ message))
  | .accepted => (st, .accepted)
  | .refused message => (st, .refused message)

/-- Where the handler goes when its call fails, or seems to. -/
def failure (phase : AnnouncePhase) : AnnouncePhase :=
  match phase with
  | .claimed _ => .refused "repo announcement rejected by community deletion fence"
  | .leased _ => .refused "repo announcement lost community serving lease"
  | .verified fresh | .seeding fresh => .pointerFailed fresh "put_pointer"
  | .unpointed => .pointerFailed false "put_manifest"
  | .lostRace fresh => .pointerFailed fresh "re-read pointer after LostRace"
  | .pointed _ => .refused "repo announcement lost community serving lease on release"
  | .pointerFailed _ message => .refused ("failed to ensure manifest pointer: " ++ message)
  | .accepted => .accepted
  | .refused message => .refused message
  | .received | .unowned | .underQuota | .conflicted => .refused "database error"

def advance (id : ℕ) (a : Announcing) (outcome : CallOutcome) : AnnounceState D :=
  match outcome with
  | .failed => st.setPhase id a (failure a.phase)
  | .answered => (st.call S limit a).1.setPhase id a (st.call S limit a).2
  | .replyLost => (st.call S limit a).1.setPhase id a (failure a.phase)

def step : AnnounceAct D → AnnounceState D
  | .announce id c e => if st.handlers.lookup id = none then st.announce id c e else st
  | .advance id outcome =>
    match st.handlers.lookup id with
    | none => st
    | some a => st.advance S limit id a outcome
  | .write route c owner repo body =>
    match route.access c owner repo with
    | .error _ => st
    | .ok access => { st with pointers := st.pointers.insert access.pointer body }

def run (acts : List (AnnounceAct D)) : AnnounceState D :=
  acts.foldl (step S limit) init

def Accepted (c : CommunityId) (p : RepoPair) : Prop :=
  ∃ id, st.handlers.lookup id = some ⟨c, p, .accepted⟩

end AnnounceState

open AnnounceState

/-! ### What a handler has established -/

section Invariant

variable {D E : Type} [DecidableEq D] {S : Hashing D E} {limit : ℕ} {st : AnnounceState D}
  {a : Announcing}

def AnnouncePhase.live : AnnouncePhase → Bool
  | .refused _ => false
  | _ => true

def AnnouncePhase.hasPointer : AnnouncePhase → Bool
  | .pointed _ | .accepted => true
  | _ => false

lemma live_of_call (h : (st.call S limit a).2.live) : a.phase.live := by
  cases hp : a.phase with
  | refused message => simp [call, hp, live] at h
  | _ => rfl

lemma live_of_failure (h : (failure phase).live) : phase.live := by
  cases phase with
  | refused message => cases h
  | _ => rfl

lemma hasPointer_of_failure (h : (failure phase).hasPointer) : phase.hasPointer := by
  cases phase with
  | accepted => rfl
  | _ => cases h

variable (S limit st a) in
/-- **What a call changes.** Names, or one new pointer of the handler's repository. -/
lemma call_changes : (st.call S limit a).1.handlers = st.handlers ∧
    ((st.call S limit a).1.pointers = st.pointers ∨
      st.pointers.lookup (a.pair.key a.community) = none ∧ (st.call S limit a).1.pointers =
          st.pointers.insert (a.pair.key a.community) (seedDigest S)) := by
  unfold call
  cases a.phase with
  | received | underQuota | lostRace fresh =>
    dsimp only
    split <;> exact ⟨rfl, .inl rfl⟩
  | verified fresh => cases fresh <;> exact ⟨rfl, .inl rfl⟩
  | seeding fresh =>
    dsimp only
    split
    · next hkey => exact ⟨rfl, .inr ⟨hkey, rfl⟩⟩
    · exact ⟨rfl, .inl rfl⟩
  | pointerFailed fresh message =>
    cases fresh with
    | false => exact ⟨rfl, .inl rfl⟩
    | true =>
      dsimp only
      split_ifs <;> exact ⟨rfl, .inl rfl⟩
  | _ => exact ⟨rfl, .inl rfl⟩

lemma isSome_pointers_call (h : (st.pointers.lookup key).isSome) :
    ((st.call S limit a).1.pointers.lookup key).isSome := by
  obtain ⟨-, hsame | ⟨hnone, hnew⟩⟩ := call_changes S limit st a
  · rw [hsame]
    exact h
  have hk : key ≠ a.pair.key a.community := by
    rintro rfl
    rw [hnone] at h
    cases h
  rw [hnew, AList.lookup_insert_ne hk]
  exact h

lemma isSome_of_hasPointer_call (h : (st.call S limit a).2.hasPointer)
    (ha : a.phase.hasPointer → (st.pointers.lookup (a.pair.key a.community)).isSome) :
    ((st.call S limit a).1.pointers.lookup (a.pair.key a.community)).isSome := by
  unfold call at h ⊢
  cases hp : a.phase with
  | seeding fresh =>
    cases hkey : st.pointers.lookup (a.pair.key a.community) with
    | some body => simp [hp, hkey, hasPointer] at h
    | none => simp [hkey]
  | lostRace fresh =>
    cases hkey : st.pointers.lookup (a.pair.key a.community) with
    | some body => simp [hkey]
    | none => simp [hp, hkey, hasPointer] at h
  | verified fresh =>
    cases fresh with
    | true => simp [hp, hasPointer] at h
    | false =>
      simp only [hp] at h
      by_contra hnone
      rw [if_neg hnone] at h
      cases h
  | pointed fresh | accepted => exact ha (by rw [hp]; rfl)
  | received =>
    simp only [hp] at h
    split at h
    · cases h
    · dsimp only at h
      split_ifs at h <;> cases h
  | unowned | conflicted =>
    simp only [hp] at h
    split_ifs at h <;> cases h
  | underQuota =>
    simp only [hp] at h
    split at h <;> cases h
  | pointerFailed fresh message => cases fresh <;> simp [hp, hasPointer] at h
  | _ => simp [hp, hasPointer] at h

/-- **What every run keeps.** A handler that goes on has a valid name, and one that is past the
store has its pointer there. -/
structure AnnounceState.Sound (st : AnnounceState D) : Prop where
  valid : ∀ id a, st.handlers.lookup id = some a → a.phase.live →
    Announcement.validateRepoId a.pair.repoId
  pointed : ∀ id a, st.handlers.lookup id = some a → a.phase.hasPointer →
    (st.pointers.lookup (a.pair.key a.community)).isSome

namespace AnnounceState

variable {id : ℕ}

lemma Sound.call (h : st.Sound) : (st.call S limit a).1.Sound := by
  constructor
  · intro id b hb
    rw [(call_changes S limit st a).1] at hb
    exact h.valid id b hb
  intro id b hb hph
  rw [(call_changes S limit st a).1] at hb
  exact isSome_pointers_call (h.pointed id b hb hph)

omit [DecidableEq D] in
lemma Sound.setPhase (h : st.Sound)
    (hval : phase.live → Announcement.validateRepoId a.pair.repoId) (hpointed : phase.hasPointer →
      (st.pointers.lookup (a.pair.key a.community)).isSome) : (st.setPhase id a phase).Sound := by
  have hcases : ∀ id' b, (st.setPhase id a phase).handlers.lookup id' = some b →
      b = { a with phase := phase } ∨ st.handlers.lookup id' = some b := by
    intro id' b hb
    rcases Table.lookup_insert_eq_some.mp hb with ⟨-, rfl⟩ | ⟨-, hb⟩
    · exact .inl rfl
    · exact .inr hb
  constructor
  · intro id' b hb hlive
    obtain rfl | hold := hcases id' b hb
    · exact hval hlive
    · exact h.valid id' b hold hlive
  intro id' b hb hph
  obtain rfl | hold := hcases id' b hb
  · exact hpointed hph
  · exact h.pointed id' b hold hph

omit [DecidableEq D] in
lemma Sound.announce (h : st.Sound) : (st.announce id c e).Sound := by
  unfold AnnounceState.announce
  split
  · exact h.setPhase (fun hlive => by cases hlive) (fun hph => by cases hph)
  split_ifs with hval
  · exact h.setPhase (fun _ => hval) (fun hph => by cases hph)
  · exact h.setPhase (fun hlive => by cases hlive) (fun hph => by cases hph)

lemma Sound.advance (h : st.Sound) (ha : st.handlers.lookup id = some a) :
    (st.advance S limit id a outcome).Sound := by
  have hcall : (st.call S limit a).1.handlers.lookup id = some a := by
    rw [(call_changes S limit st a).1, ha]
  cases outcome with
  | failed =>
    exact h.setPhase (fun hlive => h.valid id a ha (live_of_failure hlive))
      (fun hph => h.pointed id a ha (hasPointer_of_failure hph))
  | answered =>
    exact h.call.setPhase (fun hlive => h.valid id a ha (live_of_call hlive))
      (fun hph => isSome_of_hasPointer_call hph (h.pointed id a ha))
  | replyLost =>
    exact h.call.setPhase (fun hlive => h.valid id a ha (live_of_failure hlive))
      (fun hph => h.call.pointed id a hcall (hasPointer_of_failure hph))

lemma Sound.step (h : st.Sound) (act : AnnounceAct D) : (st.step S limit act).Sound := by
  cases act with
  | announce id c e =>
    simp only [AnnounceState.step]
    split_ifs
    · exact h.announce
    · exact h
  | advance id outcome =>
    simp only [AnnounceState.step]
    split
    · exact h
    · next ha => exact h.advance ha
  | write route c owner repo body =>
    simp only [AnnounceState.step]
    split
    · exact h
    next access haccess =>
    refine ⟨h.valid, fun id b hb hph => ?_⟩
    rw [Table.lookup_insert_if]
    split_ifs
    · rfl
    · exact h.pointed id b hb hph

variable (S limit) in
theorem sound_run (acts : List (AnnounceAct D)) : (run S limit acts).Sound := by
  have hinit : (init : AnnounceState D).Sound :=
    ⟨fun id a h => by simp [init] at h, fun id a h => by simp [init] at h⟩
  unfold run
  induction acts using List.reverseRecOn with
  | nil => exact hinit
  | append_singleton acts act ih =>
    rw [List.foldl_append]
    exact ih.step act

/-- **Announced repositories have pointers.** -/
theorem accepted_pointer
    (h : (run S limit acts).Accepted c p) : Announcement.validateRepoId p.repoId = true ∧
      ((run S limit acts).pointers.lookup (p.key c)).isSome = true := by
  obtain ⟨id, hid⟩ := h
  have hsnd := sound_run S limit acts
  have hval := hsnd.valid id _ hid rfl
  have hpointed := hsnd.pointed id _ hid rfl
  exact ⟨hval, hpointed⟩

end AnnounceState

end Invariant

/-! ### Distinct repositories -/

section Separation

variable {D : Type}

/-- Accepted announcements of one community with one key are of one repository. -/
def AnnounceState.SeparateKeys (st : AnnounceState D) (c : CommunityId) : Prop :=
  ∀ p q, st.Accepted c p → st.Accepted c q → p.key c = q.key c → p = q

/-- No author has announced a name both with the suffix and without. -/
def AnnounceState.NoTwins (st : AnnounceState D) (c : CommunityId) : Prop :=
  ∀ p q, st.Accepted c p → st.Accepted c q → p.owner = q.owner → ¬DotGitTwin p.repoId q.repoId

lemma RepoPair.key_eq_iff {p q : RepoPair} : p.key c = q.key c ↔ p.owner = q.owner ∧
      (p.repoId = q.repoId ∨ DotGitTwin p.repoId q.repoId ∨ DotGitTwin q.repoId p.repoId) := by
  have hlen : p.owner.toHex.toList.length = q.owner.toHex.toList.length := by
    rw [length_toHex, length_toHex]
  rw [RepoPair.key, RepoPair.key, pointerKey_eq_iff hlen, stripDotGit_eq_iff,
    toHex_injective.eq_iff]

lemma DotGitTwin.ne (h : DotGitTwin d d') : d ≠ d' := by
  rintro rfl
  have hlen := congrArg (fun s => s.toList.length) h.2
  simp at hlen

lemma AnnounceState.separateKeys_iff {st : AnnounceState D} {c : CommunityId} :
    st.SeparateKeys c ↔ st.NoTwins c := by
  constructor
  · intro h p q hp hq hown htwin
    have hpq := h p q hp hq (RepoPair.key_eq_iff.mpr ⟨hown, .inr (.inl htwin)⟩)
    exact htwin.ne (congrArg RepoPair.repoId hpq)
  intro h p q hp hq hkey
  obtain ⟨hown, hid | htwin | htwin⟩ := RepoPair.key_eq_iff.mp hkey
  · cases p
    cases q
    simp only at hown hid
    rw [hown, hid]
  · exact absurd htwin (h p q hp hq hown)
  · exact absurd htwin (h q p hq hp hown.symm)

/-- **Which repositories share storage.** After every run, the accepted announcements of a
community have pointers of their own, and a request uses the pointer of the announcement it is
checked against, exactly if no author has announced a name both with the suffix `.git` and without,
and the request does not bring a segment with two suffixes to one of git's own routes. -/
theorem storage_separation [DecidableEq D] {E : Type} (S : Hashing D E) (limit : ℕ)
    (acts : List (AnnounceAct D)) (c : CommunityId) (route : GitRoute) (owner repo : String)
    (access : RepoAccess) (h : route.access c owner repo = .ok access) :
    ((AnnounceState.run S limit acts).SeparateKeys c ∧
        access.pointer = pointerKey c owner access.checkedId) ↔
      ((AnnounceState.run S limit acts).NoTwins c ∧
        ¬(route.smartHttp = true ∧ endsWith repo ".git.git" = true)) := by
  rw [separateKeys_iff, access_pointer_iff h]

end Separation

/-! ### One pointer for two repositories -/

def sampleCommunity : CommunityId := ⟨⟨1⟩⟩

def sampleOwner : PublicKey := ⟨2⟩

def sampleAnnouncement (repoId : String) : Event :=
  ⟨⟨0⟩, sampleOwner, 0, 30617, [⟨"d", [repoId]⟩], ""⟩

def demoAnnouncement : List (AnnounceAct Transcript) :=
  .announce 0 sampleCommunity (sampleAnnouncement "demo") :: List.replicate 8 (.advance 0 .answered)

def twinAnnouncements : List (AnnounceAct Transcript) :=
  demoAnnouncement ++ .announce 1 sampleCommunity (sampleAnnouncement "demo.git") ::
    List.replicate 9 (.advance 1 .answered)

def twinState : AnnounceState Transcript :=
  run Hashing.transcript 10 twinAnnouncements

/-- The announcements of `demo` and `demo.git` are accepted and share a pointer, and a clone of
`demo.git.git` is checked against the second and served from a third. -/
theorem twins_share_pointer :
    twinState.handlers.lookup 0 = some ⟨sampleCommunity, ⟨sampleOwner, "demo"⟩, .accepted⟩ ∧
    twinState.handlers.lookup 1 = some ⟨sampleCommunity, ⟨sampleOwner, "demo.git"⟩, .accepted⟩ ∧
    pointerKey sampleCommunity sampleOwner.toHex "demo" =
      pointerKey sampleCommunity sampleOwner.toHex "demo.git" ∧
    GitRoute.uploadPack.access sampleCommunity sampleOwner.toHex "demo.git.git" =
      .ok ⟨"demo.git", "repos/00000000-0000-0000-0000-000000000001/" ++ sampleOwner.toHex ++
        "/demo.git/pointer"⟩ ∧
    pointerKey sampleCommunity sampleOwner.toHex "demo.git" =
      "repos/00000000-0000-0000-0000-000000000001/" ++ sampleOwner.toHex ++ "/demo/pointer" := by
  decide +kernel

theorem demo_has_pointer : ((run Hashing.transcript 10 demoAnnouncement).pointers.lookup
    (RepoPair.key sampleCommunity ⟨sampleOwner, "demo"⟩)).isSome :=
  (accepted_pointer ⟨0, by decide +kernel⟩).2

theorem demo_storage_separation :
    GitRoute.uploadPack.access sampleCommunity sampleOwner.toHex "demo.git" =
        .ok ⟨"demo", pointerKey sampleCommunity sampleOwner.toHex "demo"⟩ ∧
      (((AnnounceState.run Hashing.transcript 10 demoAnnouncement).SeparateKeys sampleCommunity ∧
          pointerKey sampleCommunity sampleOwner.toHex "demo" =
            pointerKey sampleCommunity sampleOwner.toHex "demo") ↔
        ((AnnounceState.run Hashing.transcript 10 demoAnnouncement).NoTwins sampleCommunity ∧
          ¬(GitRoute.uploadPack.smartHttp = true ∧ endsWith "demo.git" ".git.git" = true))) := by
  have haccess : GitRoute.uploadPack.access sampleCommunity sampleOwner.toHex "demo.git" =
      .ok ⟨"demo", pointerKey sampleCommunity sampleOwner.toHex "demo"⟩ := by decide +kernel
  exact ⟨haccess, storage_separation Hashing.transcript 10 demoAnnouncement sampleCommunity
    .uploadPack sampleOwner.toHex "demo.git" _ haccess⟩

end Buzz.Git
