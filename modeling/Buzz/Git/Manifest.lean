import Buzz.Lib.SortedMap
import Buzz.Lib.Guard
import Mathlib.Data.List.Sort
import Mathlib.Data.List.Dedup

/-!
Manifests.

A manifest is the immutable snapshot of a repository's published state: its refs, its symbolic
`HEAD`, the packs that hold its objects and the digest of the manifest it supersedes.  Digests are
values of an arbitrary type `D`, so that nothing below depends on the hash function; their text is
always well formed, which is why `validate` has no check of the parent's shape.
-/

namespace Buzz.Git

open Lib

def manifestVersion : ℕ := 1
def maxManifestPacks : ℕ := 128
def packCompactionThreshold : ℕ := maxManifestPacks * 3 / 4
def maxManifestRefs : ℕ := 10000

abbrev Refs := SortedMap String String

structure Manifest (D : Type) where
  version : ℕ
  /-- The symbolic `HEAD`. -/
  head : String
  refs : Refs
  /-- Store keys of the packs. -/
  packs : List String
  /-- The digest of the superseded manifest. -/
  parent : Option D

inductive ManifestError
  | unsupportedVersion (got expected : ℕ)
  | unsafeRefName (name : String)
  | malformedOid (refname oid : String)
  | emptyHead
  | tooManyPacks (got max : ℕ)
  | tooManyRefs (got max : ℕ)
  | malformedPackKey (key : String)
deriving DecidableEq

/-! ### Names and keys -/

def startsWith (s pre : String) : Bool := pre.toList.isPrefixOf s.toList

def endsWith (s suf : String) : Bool := suf.toList.isSuffixOf s.toList

def containsText (s part : String) : Bool := s.toList.tails.any fun t => part.toList.isPrefixOf t

def isAsciiHexdigit (c : Char) : Bool :=
  ('0' ≤ c && c ≤ '9') || ('a' ≤ c && c ≤ 'f') || ('A' ≤ c && c ≤ 'F')

def isAsciiAlphanumeric (c : Char) : Bool :=
  ('0' ≤ c && c ≤ '9') || ('a' ≤ c && c ≤ 'z') || ('A' ≤ c && c ≤ 'Z')

def isSafeRefname (s : String) : Bool :=
  if !startsWith s "refs/" then false
  else if containsText s ".." || containsText s "//" || startsWith s "/" || endsWith s "/" then
    false
  else s.toList.all fun c => isAsciiAlphanumeric c || c = '/' || c = '_' || c = '.' || c = '-'

def isHexOid (s : String) : Bool :=
  (s.toList.length = 40 || s.toList.length = 64) && s.toList.all isAsciiHexdigit

def isManifestDigest (s : List Char) : Bool :=
  s.length = 64 && s.all fun c => ('0' ≤ c && c ≤ '9') || ('a' ≤ c && c ≤ 'f')

def isPackKey (s : String) : Bool :=
  startsWith s "packs/" && isManifestDigest (s.toList.drop 6)

/-! ### Validation and the canonical form -/

variable {D : Type}

/-- The checks before a manifest is written, and again after it is read. -/
def Manifest.validate (m : Manifest D) : Except ManifestError Unit := do
  refuseIf (m.packs.length > maxManifestPacks) (.tooManyPacks m.packs.length maxManifestPacks)
  refuseIf (m.refs.size > maxManifestRefs) (.tooManyRefs m.refs.size maxManifestRefs)
  refuseIf (m.head = "") .emptyHead
  refuseIf (isSafeRefname m.head = false) (.unsafeRefName m.head)
  m.refs.entries.forM fun (refname, oid) => do
    refuseIf (isSafeRefname refname = false) (.unsafeRefName refname)
    refuseIf (isHexOid oid = false) (.malformedOid refname oid)
  m.packs.forM fun pack => refuseIf (isPackKey pack = false) (.malformedPackKey pack)

/-- What a manifest that passes validation satisfies. -/
structure Manifest.Valid (m : Manifest D) : Prop where
  packCount : m.packs.length ≤ maxManifestPacks
  refCount : m.refs.size ≤ maxManifestRefs
  headNonempty : m.head ≠ ""
  headSafe : isSafeRefname m.head
  refsSafe : ∀ r ∈ m.refs.entries, isSafeRefname r.1 ∧ isHexOid r.2
  packKeys : ∀ k ∈ m.packs, isPackKey k

lemma validate_eq_ok {m : Manifest D} : m.validate = .ok () ↔ m.Valid := by
  simp only [Manifest.validate, bind_eq_ok, refuseIf_eq_ok, forM_eq_ok, not_lt, gt_iff_lt,
    Bool.not_eq_false]
  constructor
  · rintro ⟨_, hpks, _, hrefs, _, hhead, _, hsafe, _, hents, hkeys⟩
    refine ⟨hpks, hrefs, hhead, hsafe, ?_, hkeys⟩
    intro r hr
    obtain ⟨_, hname, hoid⟩ := hents r hr
    exact ⟨hname, hoid⟩
  intro h
  exact ⟨(), h.packCount, (), h.refCount, (), h.headNonempty, (), h.headSafe, (),
    fun r hr => ⟨(), h.refsSafe r hr⟩, h.packKeys⟩

def sortDedup (keys : List String) : List String := (keys.insertionSort (· ≤ ·)).dedup

@[simp] lemma mem_sortDedup : k ∈ sortDedup keys ↔ k ∈ keys := by
  rw [sortDedup, List.mem_dedup, (List.perm_insertionSort (· ≤ ·) keys).mem_iff]

lemma sortDedup_subperm (keys : List String) : List.Subperm (sortDedup keys) keys :=
  (List.dedup_sublist _).subperm.trans (List.perm_insertionSort (· ≤ ·) keys).subperm

def Manifest.canonical (m : Manifest D) : Manifest D := { m with packs := sortDedup m.packs }

lemma Manifest.Valid.canonical {m : Manifest D} (h : m.Valid) : m.canonical.Valid where
  packCount := (sortDedup_subperm m.packs).length_le.trans h.packCount
  refCount := h.refCount
  headNonempty := h.headNonempty
  headSafe := h.headSafe
  refsSafe := h.refsSafe
  packKeys k hk := h.packKeys k (mem_sortDedup.mp hk)

/-- The manifest of a repository that was announced and never pushed to. -/
def defaultHead : String := "refs/heads/main"

def Manifest.seed : Manifest D := ⟨manifestVersion, defaultHead, .empty, [], none⟩

end Buzz.Git
