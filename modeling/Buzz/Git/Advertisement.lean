import Buzz.Git.ManifestSize

/-!
The ref advertisement that is built from a manifest alone.

A repository with branches only is advertised without hydrating it.  The gate in front bounds every
name, so that each line, the first one with its capabilities too, fits into a pkt-line.
-/

namespace Buzz.Git

open Lib Buzz.Core List

variable {D : Type}

/-! ### The fast path -/

def maxFastPathRefnameLen : ℕ := 4096

def fastPathEligible (m : Manifest D) : Bool :=
  if m.refs.keys.any (startsWith · "refs/tags/") then false
  else if !m.refs.contains m.head then false
  else m.refs.entries.all fun r =>
    isSafeRefname r.1 && r.1.utf8ByteSize ≤ maxFastPathRefnameLen && isHexOid r.2

def pktLineMaxPayload : ℕ := 0xffff - 4

/-- A payload that is too long is dropped, for an empty pkt-line. -/
def pktLine (payload : Bytes) : Bytes :=
  if payload.length > pktLineMaxPayload then utf8 "0004"
  else pktLen (payload.length + 4) ++ payload

def serviceLine : Bytes := utf8 "# service=git-upload-pack\n"

/-- The capabilities in front of `symref`. -/
def offer : String :=
  "multi_ack thin-pack side-band side-band-64k ofs-delta shallow deepen-since deepen-not " ++
    "deepen-relative no-progress include-tag multi_ack_detailed no-done"

def headLine (head oid : String) : Bytes :=
  let objectFormat := if oid.utf8ByteSize = 64 then "sha256" else "sha1"
  utf8 (oid ++ " HEAD\x00" ++ (offer ++ " symref=HEAD:" ++ head ++ " object-format=" ++
    objectFormat ++ " agent=buzz-git") ++ "\n")

def refLine (r : String × String) : Bytes := utf8 (r.2 ++ " " ++ r.1 ++ "\n")

/-- The body of `info/refs`; `none` where the code panics for want of the head's ref. -/
def buildUploadPackAdvertisement (m : Manifest D) : Option Bytes :=
  (m.refs.get? m.head).map fun headOid =>
    pktLine serviceLine ++ flushPkt ++ pktLine (headLine m.head headOid) ++
      m.refs.entries.flatMap (fun r => pktLine (refLine r)) ++ flushPkt

/-! ### Its lines fit -/

@[simp] lemma length_utf8 (s : String) : (utf8 s).length = s.utf8ByteSize := by
  rw [utf8, Array.length_toList]
  rfl

variable {oid : String}

lemma utf8ByteSize_of_isHexOid (h : isHexOid oid) : oid.utf8ByteSize ≤ 64 := by
  simp only [isHexOid, Bool.and_eq_true, Bool.or_eq_true, decide_eq_true_eq, all_eq_true] at h
  have hsize : ∀ c ∈ oid.toList, c.utf8Size = 1 := fun c hc => utf8Size_of_hex (h.2 c hc)
  rw [← textBytes_toList, textBytes_of_utf8Size hsize]
  omega

variable {payload : Bytes}

lemma pktLine_eq (h : payload.length + 4 < 65536) : pktLine payload = pkt payload :=
  if_neg (by unfold pktLineMaxPayload; omega)

lemma length_refLine (hname : r.1.utf8ByteSize ≤ maxFastPathRefnameLen)
    (hoid : isHexOid r.2) : (refLine r).length + 4 < 65536 := by
  have hsize := utf8ByteSize_of_isHexOid hoid
  have hblank : " ".utf8ByteSize = 1 := rfl
  have hnewline : "\n".utf8ByteSize = 1 := rfl
  unfold maxFastPathRefnameLen at hname
  simp only [refLine, length_utf8, String.utf8ByteSize_append]
  omega

/-- The capabilities repeat the name of the head. -/
lemma length_headLine {head oid : String} (hname : head.utf8ByteSize ≤ maxFastPathRefnameLen)
    (hoid : isHexOid oid) : (headLine head oid).length + 4 < 65536 := by
  have hsize := utf8ByteSize_of_isHexOid hoid
  have hfix : (" HEAD\x00" ++ offer ++ " symref=HEAD:" ++ " object-format=" ++ "sha256" ++
    " agent=buzz-git" ++ "\n").utf8ByteSize ≤ 300 := by decide +kernel
  have hsha : "sha1".utf8ByteSize ≤ "sha256".utf8ByteSize := by decide +kernel
  unfold maxFastPathRefnameLen at hname
  simp only [headLine, length_utf8, String.utf8ByteSize_append] at hfix ⊢
  split <;> omega

/-! ### Reading it back -/

/-- The body is read back as the service line, the line of `HEAD` with the oid of the head's ref and a
`symref` that names it, and one line for each ref in ascending order; flush packets stand after the
first line and at the end only. -/
structure Advertises (m : Manifest D) (oid : String) (body : Bytes) : Prop where
  head : m.refs.get? m.head = some oid
  lines : ∃ before after, pktLines body = utf8 "# service=git-upload-pack\n" ::
    utf8 (oid ++ " HEAD\x00" ++ before ++ " symref=HEAD:" ++ m.head ++ " " ++ after ++ "\n") ::
    m.refs.entries.map fun r => utf8 (r.2 ++ " " ++ r.1 ++ "\n")
  frames : ∃ service first refs, pktLines body = service :: first :: refs ∧
    body = pkt service ++ flushPkt ++ pkt first ++ refs.flatMap pkt ++ flushPkt
  /-- Four digits are enough for the lengths. -/
  fits : ∀ line ∈ pktLines body, line.length + 4 < 65536
  ascending : m.refs.keys.Pairwise (· < ·)

/-- **The advertisement** of every eligible manifest can be read back, with no ref missing. -/
theorem advertisement_complete (m : Manifest D) (h : fastPathEligible m = true) :
    ∃ body oid, buildUploadPackAdvertisement m = some body ∧ Advertises m oid body := by
  unfold fastPathEligible at h
  split_ifs at h with htags hhead
  obtain ⟨oid, hoid⟩ : ∃ oid, m.refs.get? m.head = some oid :=
    Option.ne_none_iff_exists'.mp (by simpa [SortedMap.contains] using hhead)
  have hrefs : ∀ r ∈ m.refs.entries, r.1.utf8ByteSize ≤ maxFastPathRefnameLen ∧
      isHexOid r.2 = true := by
    intro r hr
    have hall := all_eq_true.mp h r hr
    simp only [Bool.and_eq_true, decide_eq_true_eq] at hall
    exact ⟨hall.1.2, hall.2⟩
  have hfits : ∀ r ∈ m.refs.entries, (refLine r).length + 4 < 65536 :=
    fun r hr => length_refLine (hrefs r hr).1 (hrefs r hr).2
  have hrest : ∀ line ∈ m.refs.entries.map refLine, line.length + 4 < 65536 :=
    forall_mem_map.mpr hfits
  obtain ⟨hname, hhex⟩ := hrefs _ (SortedMap.mem_of_find hoid)
  have hfirst : (headLine m.head oid).length + 4 < 65536 := length_headLine hname hhex
  have hservice : serviceLine.length + 4 < 65536 := by decide +kernel
  -- no line is dropped
  have hbody : buildUploadPackAdvertisement m = some (pkt serviceLine ++ flushPkt ++
      pkt (headLine m.head oid) ++ (m.refs.entries.map refLine).flatMap pkt ++ flushPkt) := by
    have hlines : m.refs.entries.flatMap (fun r => pktLine (refLine r)) =
        (m.refs.entries.map refLine).flatMap pkt := by
      rw [flatMap_map]
      exact flatMap_congr fun r hr => pktLine_eq (hfits r hr)
    rw [buildUploadPackAdvertisement, hoid, Option.map_some, hlines, pktLine_eq hservice,
      pktLine_eq hfirst]
  have hread : pktLines (pkt serviceLine ++ flushPkt ++ pkt (headLine m.head oid) ++
      (m.refs.entries.map refLine).flatMap pkt ++ flushPkt) =
      serviceLine :: headLine m.head oid :: m.refs.entries.map refLine := by
    have hflush : pktLines flushPkt = [] := by decide
    rw [append_assoc, append_assoc, append_assoc, pktLines_pkt_append hservice,
      pktLines_flush_append, pktLines_pkt_append hfirst, pktLines_flatMap_pkt hrest, hflush,
      append_nil]
  obtain ⟨before, after, hsymref⟩ : ∃ before after, headLine m.head oid = utf8 (oid ++
      " HEAD\x00" ++ before ++ " symref=HEAD:" ++ m.head ++ " " ++ after ++ "\n") := by
    have hblank : " object-format=" = " " ++ "object-format=" := rfl
    refine ⟨offer, "object-format=" ++ (if oid.utf8ByteSize = 64 then "sha256" else "sha1") ++
      " agent=buzz-git", ?_⟩
    simp only [headLine, hblank, String.append_assoc]
  refine ⟨_, oid, hbody, hoid, ⟨before, after, ?_⟩, ⟨_, _, _, hread, rfl⟩, ?_,
    pairwise_map.mpr m.refs.sorted⟩
  · rw [hread, hsymref]
    rfl
  · rw [hread]
    exact forall_mem_cons.mpr ⟨hservice, forall_mem_cons.mpr ⟨hfirst, hrest⟩⟩

def twoBranches : Manifest Unit :=
  ⟨1, "refs/heads/main", (SortedMap.empty.insert "refs/heads/main"
    "0123456789012345678901234567890123456789").insert "refs/heads/dev"
    "9876543210987654321098765432109876543210", [], none⟩

theorem advertisement_complete_two : ∃ body oid,
    buildUploadPackAdvertisement twoBranches = some body ∧ Advertises twoBranches oid body :=
  advertisement_complete twoBranches (by decide +kernel)

end Buzz.Git
