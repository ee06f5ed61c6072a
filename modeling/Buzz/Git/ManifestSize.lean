import Buzz.Git.Hydrate

/-!
The size of a stored manifest.

Names, object ids and keys of a valid manifest need no escapes, so that its canonical bytes can be
counted: each ref takes its name, its id and six bytes of punctuation, which is four more than a line
of the ref snapshot has.
-/

namespace Buzz.Git

open Lib Buzz.Core List Json Bool

variable {D : Type} {c : Char}

/-! ### Plain texts -/

def Plain (s : String) : Prop := ∀ c ∈ s.toList, escapeChar c = [c]

lemma escapeChar_of_name (h : (isAsciiAlphanumeric c || c = '/' || c = '_' || c = '.' || c = '-')) :
    escapeChar c = [c] := by
  rcases escapeChar_cases c with ⟨hplain, _⟩ | ⟨hmem, _⟩
  · exact hplain
  have hnot : escapedChars.all fun c =>
      !(isAsciiAlphanumeric c || c = '/' || c = '_' || c = '.' || c = '-') := by decide +kernel
  have hc := all_eq_true.mp hnot c hmem
  rw [h] at hc
  cases hc

lemma plain_of_isSafeRefname (h : isSafeRefname s) : Plain s := by
  intro c hc
  unfold isSafeRefname at h
  split_ifs at h
  exact escapeChar_of_name (all_eq_true.mp h c hc)

lemma isAsciiAlphanumeric_of_hex (h : isAsciiHexdigit c) : isAsciiAlphanumeric c := by
  simp only [isAsciiHexdigit, isAsciiAlphanumeric, or_eq_true, and_eq_true,
    decide_eq_true_eq] at h ⊢
  rcases h with (hdigit | ⟨hlo, hhi⟩) | ⟨hlo, hhi⟩
  · exact .inl (.inl hdigit)
  · exact .inl (.inr ⟨hlo, hhi.trans (by decide)⟩)
  · exact .inr ⟨hlo, hhi.trans (by decide)⟩

lemma plain_of_isHexOid (h : isHexOid s) : Plain s := by
  intro c hc
  simp only [isHexOid, and_eq_true] at h
  have hhex : isAsciiHexdigit c := all_eq_true.mp h.2 c hc
  exact escapeChar_of_name (by simp [isAsciiAlphanumeric_of_hex hhex])

lemma utf8Size_of_hex (h : isAsciiHexdigit c) : c.utf8Size = 1 := by
  have hle : c ≤ 'f' := by
    simp only [isAsciiHexdigit, or_eq_true, and_eq_true, decide_eq_true_eq] at h
    rcases h with (⟨-, hhi⟩ | ⟨-, hhi⟩) | ⟨-, hhi⟩
    · exact hhi.trans (by decide)
    · exact hhi
    · exact hhi.trans (by decide)
  have hval : c.val ≤ 'f'.val := hle
  have hlast : 'f'.val ≤ 127 := by decide
  exact Char.utf8Size_eq_one_iff.mpr (UInt32.le_trans hval hlast)

lemma digest_bytes (h : isManifestDigest s) : (∀ c ∈ s, escapeChar c = [c]) ∧ textBytes s = 64 := by
  simp only [isManifestDigest, and_eq_true, decide_eq_true_eq, all_eq_true, or_eq_true] at h
  obtain ⟨hlen, hchars⟩ := h
  have hhex : ∀ c ∈ s, isAsciiHexdigit c := by
    intro c hc
    simp only [isAsciiHexdigit, or_eq_true, and_eq_true, decide_eq_true_eq]
    exact .inl (hchars c hc)
  refine ⟨?_, ?_⟩
  · intro c hc
    exact escapeChar_of_name (by simp [isAsciiAlphanumeric_of_hex (hhex c hc)])
  · rw [textBytes_of_utf8Size fun c hc => utf8Size_of_hex (hhex c hc), hlen]

lemma packKey_bytes (h : isPackKey key) : Plain key ∧ key.utf8ByteSize = 70 := by
  simp only [isPackKey, and_eq_true, startsWith] at h
  obtain ⟨rest, hrest⟩ := List.isPrefixOf_iff_prefix.mp h.1
  have hkey : key.toList = "packs/".toList ++ key.toList.drop 6 := by
    rw [← hrest]
    rfl
  obtain ⟨hplain, hbytes⟩ := digest_bytes h.2
  have hfront : ("packs/".toList.all fun c => escapeChar c = [c]) := by decide
  constructor
  · intro c hc
    rw [hkey, mem_append] at hc
    rcases hc with hc | hc
    · exact of_decide_eq_true (all_eq_true.mp hfront c hc)
    · exact hplain c hc
  · rw [← textBytes_toList, hkey, textBytes_append, hbytes]
    rfl

/-! ### The fields -/

def refsJsonBytes (refs : List (String × String)) : ℕ :=
  (refs.map fun r => r.1.utf8ByteSize + r.2.utf8ByteSize + 6).sum

lemma textBytes_refs (refs : List (String × String)) (h : ∀ r ∈ refs, Plain r.1 ∧ Plain r.2) :
    textBytes (Json.object (refs.map fun r => (r.1, Json.string r.2))).compact ≤
      refsJsonBytes refs + 2 := by
  have hmembers : textBytes ((refs.map fun r => compactField (r.1, string r.2)).flatMap
      fun w => ',' :: w) = refsJsonBytes refs := by
    induction refs with
    | nil => rfl
    | cons r refs ih =>
      obtain ⟨hname, hoid⟩ := h r mem_cons_self
      have hrest := ih fun r' hr' => h r' (mem_cons_of_mem _ hr')
      have hcomma : ','.utf8Size = 1 := by decide
      have hcolon : ':'.utf8Size = 1 := by decide
      simp only [map_cons, flatMap_cons, textBytes_append, textBytes_cons, compactField,
        compact, textBytes_quoted hname, textBytes_quoted hoid, hrest, hcomma, hcolon,
        refsJsonBytes, sum_cons] at hrest ⊢
      omega
  have hsep := textBytes_separated_le ',' (refs.map fun r => compactField (r.1, string r.2))
  have hopen : '{'.utf8Size = 1 := by decide
  have hclose : '}'.utf8Size = 1 := by decide
  rw [compact, compactFields_eq, map_map]
  simp only [Function.comp_def, cons_append, textBytes_cons, textBytes_append, textBytes_nil,
    hopen, hclose]
  omega

lemma textBytes_packs {packs : List String} (h : ∀ k ∈ packs, isPackKey k) :
    textBytes (Json.array (packs.map Json.string)).compact ≤ 73 * packs.length + 2 := by
  have hitems : textBytes ((packs.map quoted).flatMap fun w => ',' :: w) = 73 * packs.length := by
    induction packs with
    | nil => rfl
    | cons k packs ih =>
      obtain ⟨hplain, hbytes⟩ := packKey_bytes (h k mem_cons_self)
      have hrest := ih fun k' hk' => h k' (mem_cons_of_mem _ hk')
      have hcomma : ','.utf8Size = 1 := by decide
      simp only [map_cons, flatMap_cons, textBytes_append, textBytes_cons,
        textBytes_quoted hplain, hbytes, hrest, hcomma, length_cons]
      omega
  have hsep := textBytes_separated_le ',' (packs.map quoted)
  have hopen : '['.utf8Size = 1 := by decide
  have hclose : ']'.utf8Size = 1 := by decide
  have hquoted : (packs.map string).map compact = packs.map quoted := by
    rw [map_map]
    rfl
  rw [compact, compactItems_eq, hquoted]
  simp only [cons_append, textBytes_cons, textBytes_append, textBytes_nil, hopen, hclose]
  omega

lemma textBytes_parent (h : ∀ d, isManifestDigest (digestText d).toList) (parent : Option D) :
    textBytes (parentJson digestText parent).compact ≤ 66 := by
  cases parent with
  | none =>
    show textBytes null.compact ≤ 66
    decide
  | some d =>
    obtain ⟨hplain, hbytes⟩ := digest_bytes (h d)
    rw [textBytes_toList] at hbytes
    simp only [parentJson, compact, textBytes_quoted hplain, hbytes]
    exact le_rfl

/-- **The size of a manifest.** The bytes of its refs, its head and its packs, and a little more. -/
theorem canonicalBytes_length_le
    (htext : ∀ d, isManifestDigest (digestText d).toList = true) {m : Manifest D} (hm : m.Valid)
    (hver : m.version = manifestVersion) : (m.canonicalBytes digestText).length ≤
      refsJsonBytes m.refs.entries + m.head.utf8ByteSize + 73 * m.packs.length + 120 := by
  have hc : m.canonical.Valid := hm.canonical
  have hrefs := textBytes_refs m.refs.entries fun r hr =>
    ⟨plain_of_isSafeRefname (hm.refsSafe r hr).1, plain_of_isHexOid (hm.refsSafe r hr).2⟩
  have hpacks := textBytes_packs hc.packKeys
  have hcnt : m.canonical.packs.length ≤ m.packs.length := (sortDedup_subperm m.packs).length_le
  have hpar := textBytes_parent htext m.parent
  have hhead : textBytes (string m.head).compact = m.head.utf8ByteSize + 2 :=
    textBytes_quoted (plain_of_isSafeRefname hm.headSafe)
  have hnumber : textBytes (number (JsonNumber.ofNat m.version)).compact = 1 := by
    rw [hver]
    decide
  have hfields : m.canonical.version = m.version ∧ m.canonical.head = m.head ∧
      m.canonical.refs = m.refs ∧ m.canonical.parent = m.parent := ⟨rfl, rfl, rfl, rfl⟩
  have hnames : textBytes (quoted "version") = 9 ∧ textBytes (quoted "head") = 6 ∧
      textBytes (quoted "refs") = 6 ∧ textBytes (quoted "packs") = 7 ∧
      textBytes (quoted "parent") = 8 := by decide
  have hpunct : '{'.utf8Size = 1 ∧ '}'.utf8Size = 1 ∧ ','.utf8Size = 1 ∧ ':'.utf8Size = 1 := by
    decide
  have hlen : (m.canonicalBytes digestText).length =
      textBytes (m.canonical.json digestText).compact := by
    simp only [Manifest.canonicalBytes, utf8, textBytes, Array.length_toList, ByteArray.size_data,
      String.size_toByteArray]
  rw [hlen, Manifest.json, compact, compactFields_eq]
  simp only [map_cons, map_nil, separated, flatMap_cons, flatMap_nil,
    compactField, cons_append, textBytes_cons, textBytes_append, textBytes_nil, hnames, hpunct]
  rw [hfields.1, hfields.2.1, hfields.2.2.1, hfields.2.2.2, hnumber, hhead]
  omega

end Buzz.Git
