import Buzz.Git.Hydrate
import Buzz.Lib.Text

/-!
Content addressing.

A manifest is stored under the digest of its canonical bytes.  The bytes are the same for two
manifests exactly if these have the same head, refs, set of packs and parent, and what is read back
is the manifest with its packs in order, each one once.

`serde_json` is not part of the source: `readJson` is its reader of JSON texts, of which a theorem
assumes that it reads the text of the manifest at hand as the value it was written from.  What the
derived `Deserialize` makes of a value is `Manifest.ofJson`.  A parent is a text, as in the source.
-/

namespace Buzz.Git

open Lib Buzz.Core Manifest

/-! ### Reading -/

def maxU32 : ℕ := 4294967295

def textOf : Json → Option String
  | .string s => some s
  | _ => none

def u32Of : Json → Option ℕ
  | .number n => parseUnsigned maxU32 n.literal
  | _ => none

def refsOf : Json → Option Refs
  | .object fields => (fields.mapM fun f => (textOf f.2).map (f.1, ·)).map SortedMap.ofEntries
  | _ => none

def packsOf : Json → Option (List String)
  | .array items => items.mapM textOf
  | _ => none

def parentOf : Json → Option (Option String)
  | .null => some none
  | j => (textOf j).map some

/-- The value of a field; a field that stands twice is an error. -/
def fieldOf (fields : List (String × Json)) (name : String) (absent : Option Json) : Option Json :=
  match fields.filter fun f => f.1 = name with
  | [] => absent
  | [f] => some f.2
  | _ => none

/-- A struct is read from an array too.  Fields of other names are skipped, and an `Option` may be
missing. -/
def valuesOf : Json → Option (List Json)
  | .array values => some values
  | .object fields => do
    let version ← fieldOf fields "version" none
    let head ← fieldOf fields "head" none
    let refs ← fieldOf fields "refs" none
    let packs ← fieldOf fields "packs" none
    let parent ← fieldOf fields "parent" (some .null)
    pure [version, head, refs, packs, parent]
  | _ => none

def Manifest.ofJson (j : Json) : Option (Manifest String) := do
  let [version, head, refs, packs, parent] ← valuesOf j | none
  pure ⟨← u32Of version, ← textOf head, ← refsOf refs, ← packsOf packs, ← parentOf parent⟩

/-- The error `none` is `ManifestError::Serde`. -/
def Manifest.fromBytes (readJson : Bytes → Option Json) (bytes : Bytes) :
    Except (Option ManifestError) (Manifest String) :=
  match (readJson bytes).bind ofJson with
  | none => .error none
  | some m => (m.checkVersion.mapError some).map fun _ => m

/-! ### What was written is read -/

lemma mapM_map_eq_some {α β : Type} (f : α → β) (g : β → Option α) (h : ∀ a, g (f a) = some a)
    (l : List α) : (l.map f).mapM g = some l := by
  induction l with
  | nil => rfl
  | cons a l ih => simp [h, ih]

lemma refsOf_object (refs : Refs) :
    refsOf (.object (refs.entries.map fun r => (r.1, .string r.2))) = some refs := by
  have hfs := mapM_map_eq_some (fun r : String × String => (r.1, Json.string r.2))
    (fun f => (textOf f.2).map (f.1, ·)) (fun _ => rfl) refs.entries
  rw [refsOf, hfs, Option.map_some, SortedMap.ofEntries_entries]

lemma parentOf_parentJson (parent : Option String) : parentOf (parentJson id parent) = some parent := by
  cases parent <;> rfl

lemma ofJson_json (m : Manifest String) (h : m.version ≤ maxU32) : ofJson (m.json id) = some m := by
  have hver : u32Of (.number (JsonNumber.ofNat m.version)) = some m.version :=
    parseUnsigned_toDigits h
  have hpks : packsOf (.array (m.packs.map Json.string)) = some m.packs :=
    mapM_map_eq_some Json.string textOf (fun _ => rfl) m.packs
  have hvals : valuesOf (m.json id) = some [.number (JsonNumber.ofNat m.version), .string m.head,
      .object (m.refs.entries.map fun r => (r.1, .string r.2)), .array (m.packs.map Json.string),
      parentJson id m.parent] := rfl
  simp [ofJson, hvals, hver, hpks, refsOf_object, parentOf_parentJson, textOf]

/-! ### Equal bytes -/

lemma sortDedup_eq_iff : sortDedup keys = sortDedup keys' ↔ ∀ key, key ∈ keys ↔ key ∈ keys' := by
  have hsorted : ∀ keys, (sortDedup keys).Pairwise (· ≤ ·) := fun keys =>
    (List.pairwise_insertionSort (· ≤ ·) keys).sublist (List.dedup_sublist _)
  constructor
  · intro h key
    rw [← mem_sortDedup, h, mem_sortDedup]
  intro h
  refine List.Perm.eq_of_pairwise' (hsorted keys) (hsorted keys') ?_
  refine (List.perm_ext_iff_of_nodup (List.nodup_dedup _) (List.nodup_dedup _)).mpr fun key => ?_
  exact mem_sortDedup.trans ((h key).trans mem_sortDedup.symm)

/-- Equal up to the order and the repetition of the packs. -/
structure Manifest.Same (m m' : Manifest String) : Prop where
  version : m.version = m'.version
  head : m.head = m'.head
  refs : m.refs = m'.refs
  packs : ∀ key, key ∈ m.packs ↔ key ∈ m'.packs
  parent : m.parent = m'.parent

lemma canonical_eq_iff {m m' : Manifest String} : m.canonical = m'.canonical ↔ m.Same m' := by
  simp only [canonical, mk.injEq, sortDedup_eq_iff]
  exact ⟨fun ⟨hv, hh, hr, hk, hp⟩ => ⟨hv, hh, hr, hk, hp⟩,
    fun ⟨hv, hh, hr, hk, hp⟩ => ⟨hv, hh, hr, hk, hp⟩⟩

lemma canonicalBytes_eq_iff {m m' : Manifest String} (h : m.version ≤ maxU32)
    (h' : m'.version ≤ maxU32) : m.canonicalBytes id = m'.canonicalBytes id ↔ m.Same m' := by
  rw [← canonical_eq_iff]
  constructor
  · intro heq
    have hjson : m.canonical.json id = m'.canonical.json id :=
      compact_injective (String.ofList_injective (utf8_injective heq))
    have hread : ofJson (m.canonical.json id) = some m'.canonical := by
      rw [hjson]
      exact ofJson_json m'.canonical h'
    rw [ofJson_json m.canonical h] at hread
    exact Option.some.inj hread
  · intro heq
    rw [canonicalBytes, canonicalBytes, heq]

/-- **Content addressing is canonical.** -/
theorem canonicalBytes_canonical {D : Type} (readJson : Bytes → Option Json) (sha256 : Bytes → D)
    (hsha256 : Function.Injective sha256) (m m' : Manifest String) (h : m.version = manifestVersion)
    (h' : m'.version = manifestVersion)
    (hread : readJson (m.canonicalBytes id) = some (m.canonical.json id)) :
    (m.canonicalBytes id = m'.canonicalBytes id ↔ m.Same m') ∧
      fromBytes readJson (m.canonicalBytes id) = .ok m.canonical ∧
      (sha256 (m.canonicalBytes id) = sha256 (m'.canonicalBytes id) → m.Same m') := by
  have hle : m.version ≤ maxU32 := by rw [h]; decide
  have hle' : m'.version ≤ maxU32 := by rw [h']; decide
  have hiff := canonicalBytes_eq_iff hle hle'
  refine ⟨hiff, ?_, fun heq => hiff.mp (hsha256 heq)⟩
  have hread' : (readJson (m.canonicalBytes id)).bind ofJson = some m.canonical := by
    rw [hread]
    exact ofJson_json m.canonical hle
  have hversion : m.canonical.checkVersion = .ok () := refuseIf_eq_ok.mpr (not_not.mpr h)
  simp only [fromBytes, hread', hversion]
  rfl

def packedTwice : Manifest String := { seed with packs := ["packs/b", "packs/a", "packs/b"] }

theorem canonicalBytes_canonical_packedTwice :
    (packedTwice.canonicalBytes id = seed.canonicalBytes id ↔ packedTwice.Same .seed) ∧
      fromBytes (fun _ => some (packedTwice.canonical.json id))
        (packedTwice.canonicalBytes id) = .ok packedTwice.canonical ∧
      (packedTwice.canonicalBytes id = seed.canonicalBytes id → packedTwice.Same .seed) :=
  canonicalBytes_canonical _ id Function.injective_id packedTwice .seed rfl rfl rfl

end Buzz.Git
