import Buzz.Git.Pointer
import Buzz.Lib.HashChain
import Mathlib.Data.List.Infix

/-!
The installed manifests form one chain.

Three writers move the pointer, and nothing but the conditional write orders them.  The invariant
carried through every interleaving is `RepoInv`: the installed manifests are linked by parent
digests down to one without parent, the pointer holds the digest of the newest, and what an attempt
has read is a point of that chain.  Since no digest occurs in a chain twice, an ETag that still
matches means that nothing was installed since it was read (`Loaded.current`).

Main result: `forkFree_run`.
-/

namespace Buzz.Git

open Lib RepoState List

variable {D E : Type} {S : Hashing D E} {st st' : RepoState D E}

/-! ### The invariant -/

def manifestsOf (l : List (Installation D)) : List (Manifest D) := l.map Installation.manifest

def Chained (S : Hashing D E) (l : List (Installation D)) : Prop :=
  Linked Manifest.parent S.digest (manifestsOf l)

/-- The attempt has ended in a way that may have moved the pointer. -/
def Attempt.mayHaveInstalled : Attempt D E → Bool
  | .pushed .. | .defaultSet .. | .seeded | .failed => true
  | _ => false

/-- What was read: no pointer, or the pointer of the installation that was newest at the time. -/
def Loaded (S : Hashing D E) (st : RepoState D E) (base : ℕ) (etag : Option E) (digest : Option D) :
    Prop :=
  (etag = none ∧ digest = none ∧ base = 0) ∨
    ∃ i older, i :: older <:+ st.installed ∧ base = older.length + 1 ∧
      etag = some (S.etag (S.digest i.manifest)) ∧ digest = some (S.digest i.manifest)

def Installed (st : RepoState D E) (id : ℕ) (m : Manifest D) : Prop :=
  ∃ i ∈ st.installed, i.attempt = id ∧ i.manifest = m.canonical

def AttemptOk (S : Hashing D E) (st : RepoState D E) (id : ℕ) : Attempt D E → Prop
  | .hydrated base ps => Loaded S st base ps.ifMatch ps.parentDigest
  | .ready base ps ws m => Loaded S st base ps.ifMatch ps.parentDigest ∧
      m.parent = ps.parentDigest ∧ snapshotWorkspaceState ws = .ok m.refs
  | .snapshot base s => Loaded S st base (some s.etag) (some s.digest)
  | .headReady base s true => ∃ d, Loaded S st base (some s.etag) (some d) ∧
      s.manifest.parent = some d ∧ s.digest = S.digest s.manifest.canonical
  | .headReady base s false => Loaded S st base (some s.etag) (some s.digest)
  | .pushed ws m => snapshotWorkspaceState ws = .ok m.refs ∧ Installed st id m
  | .defaultSet m true => Installed st id m
  | _ => True

structure RepoInv (S : Hashing D E) (st : RepoState D E) : Prop where
  pointer : st.pointer = (manifestsOf st.installed).head?.map S.digest
  chained : Chained S st.installed
  /-- Each installation records the digest it replaced, and was based on the one before it. -/
  recorded : ∀ i older, i :: older <:+ st.installed →
    i.before = (manifestsOf older).head?.map S.digest ∧ i.base = older.length
  /-- Installations are by attempts that ended, and not in a conflict. -/
  settled : ∀ i ∈ st.installed, ∃ a, st.attempts.lookup i.attempt = some a ∧
    a.mayHaveInstalled
  attempts : ∀ id a, st.attempts.lookup id = some a → AttemptOk S st id a

/-! ### What later states keep -/

lemma Loaded.mono (hs : st.installed <:+ st'.installed)
    (h : Loaded S st base etag digest) : Loaded S st' base etag digest := by
  rcases h with h | ⟨i, older, hsuf, h⟩
  · exact .inl h
  · exact .inr ⟨i, older, hsuf.trans hs, h⟩

variable {id : ℕ} {a : Attempt D E}

lemma Installed.mono (hs : st.installed <:+ st'.installed)
    (h : Installed st id m) : Installed st' id m := by
  obtain ⟨i, hi, h⟩ := h
  exact ⟨i, hs.subset hi, h⟩

lemma AttemptOk.mono (hs : st.installed <:+ st'.installed)
    (h : AttemptOk S st id a) : AttemptOk S st' id a := by
  match a, h with
  | .hydrated base ps, h => exact Loaded.mono hs h
  | .ready base ps ws m, ⟨h, hm⟩ => exact ⟨h.mono hs, hm⟩
  | .snapshot base s, h => exact Loaded.mono hs h
  | .headReady base s true, ⟨d, h, hm⟩ => exact ⟨d, h.mono hs, hm⟩
  | .headReady base s false, h => exact Loaded.mono hs h
  | .pushed ws m, ⟨hr, h⟩ => exact ⟨hr, h.mono hs⟩
  | .defaultSet m true, h => exact Installed.mono hs h
  | .defaultSet m false, _ => trivial
  | .superseded, _ => trivial
  | .seedReady, _ => trivial
  | .seedLost, _ => trivial
  | .seeded, _ => trivial
  | .conflict, _ => trivial
  | .failed, _ => trivial

def Idle (st : RepoState D E) (id : ℕ) : Prop := ∀ i ∈ st.installed, i.attempt ≠ id

section

variable (h : RepoInv S st)

include h

lemma RepoInv.idle_of_lookup
    (hl : st.attempts.lookup id = some a) (ha : a.mayHaveInstalled = false) : Idle st id := by
  rintro i hi rfl
  obtain ⟨a', hl', ha'⟩ := h.settled i hi
  obtain rfl := Option.mem_unique hl hl'
  rw [ha] at ha'
  cases ha'

lemma RepoInv.idle_of_new (hl : st.attempts.lookup id = none) : Idle st id := by
  rintro i hi rfl
  obtain ⟨a', hl', _⟩ := h.settled i hi
  rw [hl] at hl'
  cases hl'

lemma RepoInv.setAttempt (hid : Idle st id)
    (ha : AttemptOk S st id a) : RepoInv S (st.setAttempt id a) where
  pointer := h.pointer
  chained := h.chained
  recorded := h.recorded
  settled i hi := by
    obtain ⟨a', hl, ha'⟩ := h.settled i hi
    refine ⟨a', ?_, ha'⟩
    show (st.attempts.insert id a).lookup i.attempt = some a'
    rw [AList.lookup_insert_ne (hid i hi), hl]
  attempts id' a' hl := by
    have hsame : AttemptOk S st id' a' := by
      rcases Table.lookup_insert_eq_some.mp hl with ⟨rfl, rfl⟩ | ⟨-, hl⟩
      · exact ha
      · exact h.attempts id' a' hl
    exact hsame.mono (suffix_refl _)

lemma RepoInv.putManifest (m : Manifest D) : RepoInv S (st.putManifest m) where
  pointer := h.pointer
  chained := h.chained
  recorded := h.recorded
  settled := h.settled
  attempts id a hl := (h.attempts id a hl).mono (suffix_refl _)

/-! ### The conditional write -/

lemma RepoInv.pointer_eq_none (hp : st.pointer = none) : st.installed = [] := by
  cases hl : st.installed with
  | nil => rfl
  | cons i older =>
    have hptr := h.pointer
    rw [hp, hl] at hptr
    cases hptr

/-- **A matching ETag is a fresh one.** If the condition of the write holds, the pointer holds what
the attempt read, and nothing was installed since. -/
lemma Loaded.current [DecidableEq D] [DecidableEq E] (hl : Loaded S st base etag digest)
    (hc : st.holds S (precondOf etag)) : st.pointer = digest ∧ base = st.installed.length := by
  rcases hl with ⟨rfl, rfl, rfl⟩ | ⟨i, older, hsuf, rfl, rfl, rfl⟩
  · have hp : st.pointer = none := by simpa [precondOf, holds] using hc
    rw [h.pointer_eq_none hp]
    exact ⟨hp, rfl⟩
  have hmap : st.pointer.map S.etag = some (S.etag (S.digest i.manifest)) := by
    simpa [precondOf, holds] using hc
  have hp : st.pointer = some (S.digest i.manifest) := by
    obtain ⟨d, hd, hetag⟩ := Option.map_eq_some_iff.mp hmap
    rw [hd, S.etag_injective hetag]
  refine ⟨hp, ?_⟩
  cases hinst : st.installed with
  | nil =>
    rw [hinst] at hsuf
    cases suffix_nil.mp hsuf
  | cons j newer =>
    rw [hinst] at hsuf
    have hptr := h.pointer
    rw [hp, hinst] at hptr
    have hdig : S.digest i.manifest = S.digest j.manifest := Option.some.inj hptr
    have hch : Chained S (j :: newer) := hinst ▸ h.chained
    have heq : manifestsOf (i :: older) = manifestsOf (j :: newer) :=
      hch.eq_of_suffix S.digest_injective (hsuf.map Installation.manifest) hdig
    have hlen := congrArg length heq
    simpa [manifestsOf] using hlen

/-- A manifest whose parent is the current pointer has another digest than the pointer's. -/
lemma RepoInv.digest_ne (hm : m.parent = st.pointer) : st.pointer ≠ some (S.digest m) := by
  intro hp
  have hch : Linked Manifest.parent S.digest (m :: manifestsOf st.installed) :=
    ⟨hm.trans h.pointer, h.chained⟩
  have hnd := hch.nodup S.digest_injective
  rw [map_cons, nodup_cons] at hnd
  have hhead : (manifestsOf st.installed).head?.map S.digest = some (S.digest m) :=
    h.pointer.symm.trans hp
  obtain ⟨m', hm', hdig⟩ := Option.map_eq_some_iff.mp hhead
  exact hnd.1 (mem_map.mpr ⟨m', mem_of_mem_head? hm', hdig⟩)

end

section Install

variable [DecidableEq D] {m : Manifest D}

lemma install_installed (id base : ℕ) (hp : st.pointer ≠ some (S.digest m)) :
    (st.install id base (S.digest m) m).installed =
      ⟨id, base, st.pointer, m⟩ :: st.installed := if_neg hp

/-- The installation of a manifest whose parent is what the pointer holds. -/
lemma RepoInv.install (h : RepoInv S st) (hid : Idle st id)
    (hm : m.parent = st.pointer) (ha : a.mayHaveInstalled)
    (hok : AttemptOk S (st.install id st.installed.length (S.digest m) m) id a) :
    RepoInv S ((st.install id st.installed.length (S.digest m) m).setAttempt id a) := by
  have hinst := install_installed id st.installed.length (h.digest_ne hm)
  have hsuf : st.installed <:+ (st.install id st.installed.length (S.digest m) m).installed := by
    rw [hinst]
    exact suffix_cons _ _
  constructor
  · show some (S.digest m) =
      (manifestsOf (st.install id st.installed.length (S.digest m) m).installed).head?.map S.digest
    rw [hinst]
    rfl
  · show Chained S (st.install id st.installed.length (S.digest m) m).installed
    rw [hinst]
    exact ⟨hm.trans h.pointer, h.chained⟩
  · intro i older hio
    have hio' : i :: older <:+ (st.install id st.installed.length (S.digest m) m).installed := hio
    rw [hinst] at hio'
    rcases suffix_cons_iff.mp hio' with heq | hio'
    · obtain ⟨rfl, rfl⟩ := cons.inj heq
      exact ⟨h.pointer, rfl⟩
    · exact h.recorded i older hio'
  · intro i hi
    have hi' : i ∈ (st.install id st.installed.length (S.digest m) m).installed := hi
    rw [hinst] at hi'
    rcases mem_cons.mp hi' with rfl | hi'
    · exact ⟨a, AList.lookup_insert _, ha⟩
    obtain ⟨a', hl, ha'⟩ := h.settled i hi'
    refine ⟨a', ?_, ha'⟩
    show (st.attempts.insert id a).lookup i.attempt = some a'
    rw [AList.lookup_insert_ne (hid i hi'), hl]
  intro id' a' hl
  rcases Table.lookup_insert_eq_some.mp hl with ⟨rfl, rfl⟩ | ⟨-, hl⟩
  · exact hok.mono (suffix_refl _)
  · exact (h.attempts id' a' hl).mono hsuf

lemma install_same (hp : st.pointer = some body) : st.install id base body m = st := by
  obtain ⟨pointer, manifests, attempts, installed⟩ := st
  obtain rfl : pointer = some body := hp
  simp [RepoState.install]

/-! ### What the readers get -/

lemma RepoInv.loaded_of_loadPointer (h : RepoInv S st)
    (hload : st.loadPointer S = .ok (some (etag, digest, m))) :
    Loaded S st st.installed.length (some etag) (some digest) := by
  obtain ⟨hp, rfl, _⟩ := loadPointer_some hload
  have hptr := h.pointer
  rw [hp] at hptr
  cases hinst : st.installed with
  | nil =>
    rw [hinst] at hptr
    cases hptr
  | cons i older =>
    rw [hinst] at hptr
    obtain rfl : digest = S.digest i.manifest := Option.some.inj hptr
    exact .inr ⟨i, older, hinst ▸ suffix_refl _, rfl, rfl, rfl⟩

lemma RepoInv.loaded_none (h : RepoInv S st) (hload : st.loadPointer S = .ok none) :
    Loaded S st st.installed.length none none := by
  rw [h.pointer_eq_none (loadPointer_none hload)]
  exact .inl ⟨rfl, rfl, rfl⟩

end Install

section Steps

variable [DecidableEq D] [DecidableEq E]

/-- **The conditional write keeps the chain.** Whether it wins, loses or its reply is lost, as long
as the manifest's parent is what the attempt read. -/
lemma RepoInv.conclude (h : RepoInv S st) (hid : Idle st id) (hl : Loaded S st base etag digest)
    (hm : m.parent = digest) (won lost : Attempt D E) (hwon : won.mayHaveInstalled)
    (hwonOk : ∀ st' : RepoState D E, (∃ i ∈ st'.installed, i.attempt = id ∧ i.manifest = m) →
      AttemptOk S st' id won) (hlostOk : AttemptOk S st id lost) (replyLost : Bool) :
    RepoInv S (RepoState.conclude (st.putPointer S id base (S.digest m) m (precondOf etag)) id
      replyLost won lost) := by
  unfold RepoState.conclude putPointer
  by_cases hc : st.holds S (precondOf etag)
  · obtain ⟨hp, rfl⟩ := hl.current h hc
    have hm' : m.parent = st.pointer := hm.trans hp.symm
    rw [if_pos hc]
    cases replyLost with
    | true => exact h.install hid hm' rfl trivial
    | false =>
      refine h.install hid hm' hwon (hwonOk _ ?_)
      rw [install_installed id st.installed.length (h.digest_ne hm')]
      exact ⟨_, mem_cons_self, rfl, rfl⟩
  rw [if_neg hc]
  cases replyLost with
  | true => exact h.setAttempt hid trivial
  | false => exact h.setAttempt hid hlostOk

/-! ### One step -/

section

variable (h : RepoInv S st)
include h

variable {id base : ℕ}

section

variable (hid : Idle st id)

include hid

omit [DecidableEq E] in
lemma RepoInv.hydrate : RepoInv S (st.hydrate S id) := by
  unfold RepoState.hydrate
  split
  · exact h.setAttempt hid trivial
  · next hload => exact h.setAttempt hid (h.loaded_none hload)
  · next hload => exact h.setAttempt hid (h.loaded_of_loadPointer hload)

omit [DecidableEq E] in
lemma RepoInv.loadSnapshot : RepoInv S (st.loadSnapshot S id) := by
  unfold RepoState.loadSnapshot
  split
  · next hload => exact h.setAttempt hid (h.loaded_of_loadPointer hload)
  · exact h.setAttempt hid trivial

omit [DecidableEq D] [DecidableEq E] in
lemma RepoInv.publish
    (hl : Loaded S st base ps.ifMatch ps.parentDigest) (ws : Workspace) (limits : PublishLimits)
    (cap : Capture) : RepoInv S (st.publish id base ps ws limits cap) := by
  unfold RepoState.publish
  split
  · exact h.setAttempt hid trivial
  · next m hplan =>
    exact (h.putManifest m).setAttempt hid ⟨hl, casPlan_parent hplan, casPlan_refs hplan⟩

lemma RepoInv.casPush (ha : AttemptOk S st id (.ready base ps ws m))
    (replyLost : Bool) : RepoInv S (st.casPush S id base ps ws m replyLost) := by
  obtain ⟨hl, hpar, hrefs⟩ := ha
  exact h.conclude hid hl (m := m.canonical) hpar (.pushed ws m) .superseded rfl
    (fun st' hi => ⟨hrefs, hi⟩) trivial replyLost

variable {s : DefaultBranchSnapshot D E}

omit [DecidableEq E] in
lemma RepoInv.setDefault (hl : Loaded S st base (some s.etag) (some s.digest))
    (request : SetDefaultBranch D) : RepoInv S (st.setDefault S id base s request) := by
  unfold RepoState.setDefault
  split
  · exact h.setAttempt hid trivial
  · exact h.setAttempt hid trivial
  · next s' hedit =>
    obtain ⟨_, hetag, hdig, head, hed⟩ | ⟨hf, _⟩ := edit_ok hedit
    · have hpar : s'.manifest.parent = some s.digest := by rw [hed]
      exact (h.putManifest s'.manifest).setAttempt hid ⟨s.digest, hetag ▸ hl, hpar, hdig⟩
    · cases hf
  next s' hedit =>
  obtain ⟨htrue, _⟩ | ⟨_, rfl⟩ := edit_ok hedit
  · cases htrue
  · exact h.setAttempt hid hl

/-- The write of a default-branch change: an installation when the branch changes, and otherwise a
rewrite of what the pointer holds. -/
lemma RepoInv.casSetting (ha : AttemptOk S st id (.headReady base s changed)) (replyLost : Bool) :
    RepoInv S (st.casSetting S id base s changed replyLost) := by
  cases changed with
  | true =>
    obtain ⟨d, hl, hpar, hdig⟩ := ha
    unfold RepoState.casSetting
    rw [hdig]
    exact h.conclude hid hl (m := s.manifest.canonical) hpar (.defaultSet s.manifest true)
      .conflict rfl (fun st' hi => hi) trivial replyLost
  | false =>
    have hl : Loaded S st base (some s.etag) (some s.digest) := ha
    unfold RepoState.casSetting RepoState.conclude putPointer
    by_cases hc : st.holds S (.ifMatch s.etag)
    · obtain ⟨hp, _⟩ := hl.current h hc
      rw [if_pos hc]
      simp only [install_same hp]
      cases replyLost <;> exact h.setAttempt hid trivial
    · rw [if_neg hc]
      cases replyLost <;> exact h.setAttempt hid trivial

lemma RepoInv.casSeed (replyLost : Bool) : RepoInv S (st.casSeed S id replyLost) := by
  have hl : Loaded S st 0 none none := .inl ⟨rfl, rfl, rfl⟩
  exact h.conclude hid hl rfl .seeded .seedLost rfl (fun st' _ => trivial) trivial replyLost

end

/-- **Step lemma.** Every step of every attempt keeps the invariant. -/
theorem RepoInv.step (act : RepoAct D) : RepoInv S (st.step S act) := by
  cases act with
  | hydrate id =>
    simp only [RepoState.step]
    split_ifs with hnew
    · exact h.hydrate (h.idle_of_new hnew)
    · exact h
  | loadSnapshot id =>
    simp only [RepoState.step]
    split_ifs with hnew
    · exact h.loadSnapshot (h.idle_of_new hnew)
    · exact h
  | seed id =>
    simp only [RepoState.step]
    split_ifs with hnew
    · exact (h.putManifest .seed).setAttempt (h.idle_of_new hnew) trivial
    · exact h
  | ensure id =>
    simp only [RepoState.step]
    split_ifs with hnew
    · unfold RepoState.ensure
      split
      · exact h.setAttempt (h.idle_of_new hnew) trivial
      · exact (h.putManifest .seed).setAttempt (h.idle_of_new hnew) trivial
    · exact h
  | publish id ws limits cap =>
    simp only [RepoState.step]
    split
    · next hl => exact h.publish (h.idle_of_lookup hl rfl) (h.attempts _ _ hl) ws limits cap
    · exact h
  | casPush id replyLost =>
    simp only [RepoState.step]
    split
    · next hl => exact h.casPush (h.idle_of_lookup hl rfl) (h.attempts _ _ hl) replyLost
    · exact h
  | readWinner id =>
    simp only [RepoState.step]
    split
    · next hl =>
      have hid := h.idle_of_lookup hl rfl
      unfold RepoState.readWinner
      split
      · exact h.setAttempt hid trivial
      · split_ifs <;> exact h.setAttempt hid trivial
    · exact h
  | setDefault id request =>
    simp only [RepoState.step]
    split
    · next hl => exact h.setDefault (h.idle_of_lookup hl rfl) (h.attempts _ _ hl) request
    · exact h
  | casSetting id replyLost =>
    simp only [RepoState.step]
    split
    · next hl => exact h.casSetting (h.idle_of_lookup hl rfl) (h.attempts _ _ hl) replyLost
    · exact h
  | casSeed id replyLost =>
    simp only [RepoState.step]
    split
    · next hl => exact h.casSeed (h.idle_of_lookup hl rfl) replyLost
    · exact h
  | rereadSeed id =>
    simp only [RepoState.step]
    split
    · next hl =>
      unfold RepoState.rereadSeed
      split_ifs <;> exact h.setAttempt (h.idle_of_lookup hl rfl) trivial
    · exact h
  | abort id =>
    simp only [RepoState.step]
    split
    · next a hl =>
      split_ifs with hfl
      · have ha : a.mayHaveInstalled = false := by cases a <;> first | rfl | cases hfl
        exact h.setAttempt (h.idle_of_lookup hl ha) trivial
      · exact h
    · exact h

end

omit [DecidableEq D] [DecidableEq E] in
lemma repoInv_init : RepoInv S (init : RepoState D E) where
  pointer := rfl
  chained := trivial
  recorded i older h := by cases suffix_nil.mp h
  settled i h := by cases h
  attempts id a h := by cases h

/-- **Run lemma.** The invariant holds after every interleaving. -/
theorem repoInv_run (S : Hashing D E) (acts : List (RepoAct D)) : RepoInv S (run S acts) :=
  foldlRecOn acts (RepoState.step S) repoInv_init fun _ h act _ => h.step act

/-! ### The chain only grows -/

lemma foldl_step_suffix (acts : List (RepoAct D)) :
    st.installed <:+ (acts.foldl (RepoState.step S) st).installed := by
  induction acts generalizing st with
  | nil => exact suffix_refl _
  | cons act acts ih => exact (frame_step act).suffix.trans ih

/-! ### The result -/

/-- The installed manifests form a single chain, and what the attempts were told about it is
true. -/
structure ForkFree (S : Hashing D E) (st : RepoState D E) : Prop where
  /-- The pointer holds the digest of the newest manifest. -/
  pointer : st.pointer = (manifestsOf st.installed).head?.map S.digest
  /-- Each manifest's parent is the digest the pointer held immediately before, which is that of
  the manifest installed before it (none for the first); and its writer had read the pointer after
  exactly these installations, so that nothing came in between. -/
  parent : ∀ i older, i :: older <:+ st.installed →
    i.manifest.parent = i.before ∧ i.before = (manifestsOf older).head?.map S.digest ∧
      i.base = older.length
  /-- No manifest is installed twice, and no two have the same parent. -/
  noFork : ((manifestsOf st.installed).map S.digest).Nodup ∧
    ((manifestsOf st.installed).map Manifest.parent).Nodup
  /-- A push that succeeded installed exactly the refs of its workspace. -/
  pushed : ∀ id ws m, st.attempts.lookup id = some (.pushed ws m) →
    (∀ name, m.refs.get? name = ws.ref? name) ∧ Installed st id m
  /-- So did a default-branch change, with its manifest. -/
  defaultSet : ∀ id m, st.attempts.lookup id = some (.defaultSet m true) → Installed st id m
  /-- An attempt that was told of a conflict installed nothing. -/
  conflict : ∀ id, st.attempts.lookup id = some .conflict → Idle st id

omit [DecidableEq D] [DecidableEq E] in
lemma RepoInv.forkFree (h : RepoInv S st) : ForkFree S st where
  pointer := h.pointer
  parent i older hsuf := by
    obtain ⟨hpre, hbase⟩ := h.recorded i older hsuf
    have hlinked : Linked Manifest.parent S.digest (manifestsOf (i :: older)) :=
      h.chained.suffix (hsuf.map Installation.manifest)
    exact ⟨hlinked.1.trans hpre.symm, hpre, hbase⟩
  noFork := ⟨h.chained.nodup S.digest_injective, h.chained.nodup_parents S.digest_injective⟩
  pushed id ws m hl := by
    obtain ⟨hrefs, hinst⟩ := h.attempts _ _ hl
    exact ⟨snapshotWorkspaceState_get? hrefs, hinst⟩
  defaultSet id m hl := h.attempts _ _ hl
  conflict id hl := h.idle_of_lookup hl rfl

/-- **One chain.** In every state of every interleaving of pushes, default-branch changes and seeds,
the installed manifests form a single fork-free chain, and no later step takes one back. -/
theorem forkFree_run (S : Hashing D E) (acts more : List (RepoAct D)) :
    ForkFree S (run S acts) ∧ (run S acts).installed <:+ (run S (acts ++ more)).installed := by
  refine ⟨(repoInv_run S acts).forkFree, ?_⟩
  unfold run
  rw [foldl_append]
  exact foldl_step_suffix more

end Steps

end Buzz.Git
