import Buzz.Core.Event
import Buzz.Git.Manifest
import Buzz.Lib.PrefixCode

/-!
Names of repositories.

A repository is named three times.  The announcement carries its identifier as the `d` tag, a
request carries a segment of its URL, and the object store keeps its pointer under a key.  Each
place deals with a trailing `.git` by itself: the announcement keeps it, the URL loses one, and the
key loses one.  `pointerKey_eq_iff` says which names end up under one key, and `access_pointer_iff`
which requests use the key of the announcement they were checked against.
-/

namespace Buzz.Git

open Lib Buzz.Core String

/-! ### The suffix -/

def stripDotGit (repo : String) : String :=
  if endsWith repo ".git" then String.ofList (repo.toList.take (repo.toList.length - 4)) else repo

/-- One name is the other with a `.git` more, and the other has none. -/
def DotGitTwin (d d' : String) : Prop := endsWith d ".git" = false ∧ d' = d ++ ".git"

lemma endsWith_iff : endsWith s suf ↔ suf.toList <:+ s.toList := by
  simp [endsWith]

lemma stripDotGit_append (d : String) : stripDotGit (d ++ ".git") = d := by
  have hend : endsWith (d ++ ".git") ".git" := by
    rw [endsWith_iff, toList_append]
    exact List.suffix_append _ _
  have hlen : (d ++ ".git").toList.length - 4 = d.toList.length := by
    simp [toList_append]
  rw [stripDotGit, if_pos hend, hlen, toList_append, List.take_left' rfl, ofList_toList]

variable {d : String} {c : CommunityId}

lemma stripDotGit_of_not_endsWith (h : endsWith d ".git" = false) : stripDotGit d = d := by
  simp [stripDotGit, h]

lemma eq_append_of_endsWith (h : endsWith d ".git") : d = stripDotGit d ++ ".git" := by
  obtain ⟨front, hfro⟩ := endsWith_iff.mp h
  have hd : d = ofList front ++ ".git" := by
    apply toList_injective
    rw [toList_append, toList_ofList, hfro]
  rw [hd, stripDotGit_append]

/-- **What the stripping forgets.** Two names become one exactly if they are equal or differ by
the suffix. -/
theorem stripDotGit_eq_iff :
    stripDotGit d = stripDotGit d' ↔ d = d' ∨ DotGitTwin d d' ∨ DotGitTwin d' d := by
  constructor
  · intro h
    cases hd : endsWith d ".git" <;> cases hd' : endsWith d' ".git"
    · rw [stripDotGit_of_not_endsWith hd, stripDotGit_of_not_endsWith hd'] at h
      exact .inl h
    · rw [stripDotGit_of_not_endsWith hd] at h
      exact .inr (.inl ⟨hd, h ▸ eq_append_of_endsWith hd'⟩)
    · rw [stripDotGit_of_not_endsWith hd'] at h
      exact .inr (.inr ⟨hd', h ▸ eq_append_of_endsWith hd⟩)
    · rw [eq_append_of_endsWith hd, eq_append_of_endsWith hd', h]
      exact .inl rfl
  rintro (rfl | ⟨hd, rfl⟩ | ⟨hd', rfl⟩)
  · rfl
  · rw [stripDotGit_append, stripDotGit_of_not_endsWith hd]
  · rw [stripDotGit_append, stripDotGit_of_not_endsWith hd']

/-! ### Keys -/

/-- The key of a repository's pointer, `repos/<community>/<owner>/<repo>/pointer`. -/
def pointerKey (community : CommunityId) (owner repo : String) : String :=
  "repos/" ++ community.uuid.toString ++ "/" ++ owner ++ "/" ++ stripDotGit repo ++ "/pointer"

/-- Owners of one length and their repositories can be read off the key. -/
lemma pointerKey_eq_iff (hlen : owner.toList.length = owner'.toList.length) :
    pointerKey c owner repo = pointerKey c owner' repo' ↔
      owner = owner' ∧ stripDotGit repo = stripDotGit repo' := by
  constructor
  · intro h
    have hlist := congrArg toList h
    simp only [pointerKey, toList_append, List.append_assoc, List.append_cancel_left_eq] at hlist
    obtain ⟨hown, hrest⟩ := List.append_inj hlist hlen
    have hrepo := List.append_cancel_right (List.append_cancel_left hrest)
    exact ⟨toList_injective hown, toList_injective hrepo⟩
  · rintro ⟨rfl, h⟩
    simp only [pointerKey, h]

/-! ### Owners -/

@[simp] lemma length_hexDigits (w n : ℕ) : (hexDigits w n).length = w := by
  induction w generalizing n with
  | zero => rfl
  | succ w ih => simp [hexDigits, ih]

lemma hexDigits_inj (hn : n < 16 ^ w) (hm : m < 16 ^ w)
    (h : hexDigits w n = hexDigits w m) : n = m :=
  eq_of_digits_eq length_hexDigits (fun _ _ => rfl) (by decide) hn hm h

lemma length_toHex (k : PublicKey) : k.toHex.toList.length = 64 := by
  simp [PublicKey.toHex]

lemma toHex_injective : Function.Injective PublicKey.toHex := by
  intro k k' h
  have hbd : ∀ k : PublicKey, k.bits.toNat < 16 ^ 64 := fun k => k.bits.isLt
  have hdgs : hexDigits 64 k.bits.toNat = hexDigits 64 k'.bits.toNat := by
    simpa [PublicKey.toHex] using congrArg toList h
  have hbits := BitVec.eq_of_toNat_eq (hexDigits_inj (hbd k) (hbd k') hdgs)
  cases k
  cases k'
  exact congrArg PublicKey.mk hbits

/-! ### Announcements -/

def isRepoName (name : String) : Bool :=
  name ≠ "" && name.utf8ByteSize ≤ 64 && !startsWith name "." && !containsText name ".." &&
    name.toList.all fun c => isAsciiAlphanumeric c || c = '.' || c = '_' || c = '-'

def Announcement.validateRepoId (repoId : String) : Bool := isRepoName repoId

/-- The first tag of the name decides, even if it has no content. -/
def extractTagValue (e : Event) (tagName : String) : Option String :=
  (e.tags.find? fun t => t.kind = tagName).bind Tag.content

/-! ### Requests -/

def Transport.validateRepoId (owner repo : String) : Except (ℕ × String) String := do
  refuseIf (owner.utf8ByteSize ≠ 64 ∨
      (owner.toList.all fun c => isAsciiHexdigit c && !('A' ≤ c && c ≤ 'Z')) = false)
    (400, "invalid owner")
  let repoName := stripDotGit repo
  refuseIf (isRepoName repoName = false) (400, "invalid repo name")
  return repoName

/-- The routes that reach a repository's pointer. -/
inductive GitRoute
  | infoRefs | uploadPack | receivePack | getDefaultBranch | setDefaultBranch

def GitRoute.smartHttp : GitRoute → Bool
  | .infoRefs | .uploadPack | .receivePack => true
  | .getDefaultBranch | .setDefaultBranch => false

/-- What a request works with: the `d` tag of the announcement that membership and policy are
checked against, and the key of the pointer it reads, and writes if it writes. -/
structure RepoAccess where
  checkedId : String
  pointer : String
deriving DecidableEq

/-- The protocol's routes make the key of the segment, the settings that of the identifier. -/
def GitRoute.access (route : GitRoute) (c : CommunityId) (owner repo : String) :
    Except (ℕ × String) RepoAccess := do
  let repoName ← Transport.validateRepoId owner repo
  match route with
  | .infoRefs | .uploadPack | .receivePack => return ⟨repoName, pointerKey c owner repo⟩
  | .getDefaultBranch | .setDefaultBranch => return ⟨repoName, pointerKey c owner repoName⟩

lemma validateRepoId_ok {owner repo id : String}
    (h : Transport.validateRepoId owner repo = .ok id) : id = stripDotGit repo := by
  simp only [Transport.validateRepoId, bind_eq_ok] at h
  obtain ⟨_, _, _, _, h⟩ := h
  exact (Except.ok.inj h).symm

lemma endsWith_twice_iff : endsWith d ".git.git" ↔
      endsWith d ".git" ∧ endsWith (stripDotGit d) ".git" := by
  constructor
  · intro h
    obtain ⟨front, hfro⟩ := endsWith_iff.mp h
    have hd : d = ofList (front ++ ".git".toList) ++ ".git" := by
      apply toList_injective
      rw [toList_append, toList_ofList, ← hfro, List.append_assoc]
      rfl
    rw [hd, stripDotGit_append]
    constructor
    · rw [endsWith_iff, toList_append]
      exact List.suffix_append _ _
    · rw [endsWith_iff]
      exact ⟨front, toList_ofList.symm⟩
  rintro ⟨h, h'⟩
  rw [eq_append_of_endsWith h, eq_append_of_endsWith h', endsWith_iff, toList_append,
    toList_append, List.append_assoc]
  exact List.suffix_append _ _

/-- **Whose pointer a request uses.** A request uses the pointer of the announcement it is checked
against, unless git's own routes see a segment with the suffix twice. -/
theorem access_pointer_iff {route : GitRoute} (h : route.access c owner repo = .ok a) :
    a.pointer = pointerKey c owner a.checkedId ↔
      ¬(route.smartHttp = true ∧ endsWith repo ".git.git" = true) := by
  obtain ⟨hid, hkey⟩ : a.checkedId = stripDotGit repo ∧
      a.pointer = pointerKey c owner (if route.smartHttp then repo else stripDotGit repo) := by
    obtain ⟨id, hid, h⟩ := bind_eq_ok.mp h
    obtain rfl := validateRepoId_ok hid
    cases route <;> cases h <;> exact ⟨rfl, rfl⟩
  rw [hid, hkey, pointerKey_eq_iff rfl]
  cases hrt : route.smartHttp with
  | false => simp
  | true =>
    have hfix : stripDotGit repo = stripDotGit (stripDotGit repo) ↔
        endsWith (stripDotGit repo) ".git" = false := by
      constructor
      · intro heq
        by_contra hend
        rw [Bool.not_eq_false] at hend
        have hlong := congrArg (fun s => s.toList.length) (eq_append_of_endsWith hend)
        simp [← heq] at hlong
      · intro hend
        exact (stripDotGit_of_not_endsWith hend).symm
    have htwice : endsWith repo ".git.git" ↔ endsWith (stripDotGit repo) ".git" := by
      rw [endsWith_twice_iff]
      constructor
      · exact And.right
      intro hend
      refine ⟨?_, hend⟩
      by_contra hrepo
      rw [Bool.not_eq_true] at hrepo
      rw [stripDotGit_of_not_endsWith hrepo] at hend
      exact absurd hend (by rw [hrepo]; decide)
    simp [hfix, htwice]

end Buzz.Git
