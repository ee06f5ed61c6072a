import Buzz.Git.PktLine
import Mathlib.Algebra.BigOperators.Group.List.Basic

/-!
The scan of a report-status for rejected refs.

`receive-pack` reports on the refs of a push in pkt-lines, bare or as a byte stream inside channel 1
of a side-band, cut into frames and interleaved with frames of channels 2 and 3.  The scan reads each
channel-1 frame as a pkt-line stream of its own.
-/

namespace Buzz.Git

open List

/-! ### The scan -/

def isNg (line : Bytes) : Bool := [110, 103, 32].isPrefixOf line

/-- A channel-1 payload read as pkt-lines of its own. -/
def innerRejected (inner : Bytes) : Bool := (pktLines inner).any isNg

def payloadRejected : Bytes → Bool
  | 1 :: inner => innerRejected inner
  | 2 :: _ => false
  | 3 :: _ => false
  | payload => isNg payload

def receivePackReportRejected (stdout : Bytes) : Bool := (pktLines stdout).any payloadRejected

/-! ### Reports and their framings -/

/-- A line of a report-status: a text that starts with none of the channel bytes, has room for a
status word, and fits into a pkt-line. -/
structure ReportLine where
  text : Bytes
  three_le : 3 ≤ text.length
  le_max : text.length ≤ 65516
  noBand : ∀ b ∈ text.head?, b ≠ 1 ∧ b ≠ 2 ∧ b ≠ 3

open ReportLine

lemma noBand_of_head {text : Bytes} (hb : text.head? = some b)
    (h : b ≠ 1 ∧ b ≠ 2 ∧ b ≠ 3) : ∀ c ∈ text.head?, c ≠ 1 ∧ c ≠ 2 ∧ c ≠ 3 := by
  rw [hb]
  rintro c ⟨⟩
  exact h

abbrev Report := List ReportLine

namespace Report

variable (r : Report)

def Rejects : Prop := ∃ l ∈ r, isNg l.text

def lines : Bytes := r.flatMap fun l => pkt l.text

def stream : Bytes := r.lines ++ flushPkt

def lengths : List ℕ := r.map fun l => l.text.length

end Report

open Report

/-- One frame of the side-band: the next bytes of the report, or other text. -/
inductive Slot
  | data (size : ℕ) (fits : size ≤ 65515)
  | progress (text : Bytes) (fits : text.length ≤ 65515)
  | error (text : Bytes) (fits : text.length ≤ 65515)

def dataSizes : List Slot → List ℕ
  | [] => []
  | .data size _ :: slots => size :: dataSizes slots
  | .progress _ _ :: slots => dataSizes slots
  | .error _ _ :: slots => dataSizes slots

/-- The outer stream: the report's bytes handed out to the channel-1 frames in order. -/
def sideBand : List Slot → Bytes → Bytes
  | [], _ => flushPkt
  | .data size _ :: slots, inner => pkt (1 :: inner.take size) ++ sideBand slots (inner.drop size)
  | .progress text _ :: slots, inner => pkt (2 :: text) ++ sideBand slots inner
  | .error text _ :: slots, inner => pkt (3 :: text) ++ sideBand slots inner

def chunks : List ℕ → Bytes → List Bytes
  | [], _ => []
  | size :: sizes, inner => inner.take size :: chunks sizes (inner.drop size)

def linesSize (lengths : List ℕ) : ℕ := (lengths.map (· + 4)).sum

/-- Every frame ends where a line ends, or after the last line. -/
def Aligned : List ℕ → List ℕ → Prop
  | _, [] => True
  | lengths, size :: sizes => linesSize lengths ≤ size ∨
      ∃ k ≤ lengths.length, size = linesSize (lengths.take k) ∧ Aligned (lengths.drop k) sizes

/-! ### The outer stream -/

lemma pktLines_flushPkt : pktLines flushPkt = [] := by decide

def framePayloads : List Slot → Bytes → List Bytes
  | [], _ => []
  | .data size _ :: slots, inner => (1 :: inner.take size) :: framePayloads slots (inner.drop size)
  | .progress text _ :: slots, inner => (2 :: text) :: framePayloads slots inner
  | .error text _ :: slots, inner => (3 :: text) :: framePayloads slots inner

lemma pktLines_sideBand (slots : List Slot) (inner : Bytes) :
    pktLines (sideBand slots inner) = framePayloads slots inner := by
  have hfits : ∀ (channel : UInt8) (text : Bytes), text.length ≤ 65515 →
      (channel :: text).length + 4 < 65536 := by
    intro channel text htext
    rw [length_cons]
    omega
  induction slots generalizing inner with
  | nil => exact pktLines_flushPkt
  | cons slot slots ih =>
    cases slot with
    | data size fits =>
      have htake : (inner.take size).length ≤ 65515 := (length_take_le _ _).trans fits
      rw [sideBand, pktLines_pkt_append (hfits 1 _ htake), ih, framePayloads]
    | progress text fits => rw [sideBand, pktLines_pkt_append (hfits 2 text fits), ih, framePayloads]
    | error text fits => rw [sideBand, pktLines_pkt_append (hfits 3 text fits), ih, framePayloads]

lemma rejected_sideBand (slots : List Slot) (inner : Bytes) :
    receivePackReportRejected (sideBand slots inner) =
      (chunks (dataSizes slots) inner).any innerRejected := by
  unfold receivePackReportRejected
  rw [pktLines_sideBand]
  induction slots generalizing inner with
  | nil => rfl
  | cons slot slots ih =>
    cases slot with
    | data size fits => exact congrArg (innerRejected (inner.take size) || ·) (ih (inner.drop size))
    | progress text fits => exact ih inner
    | error text fits => exact ih inner

/-! ### Whole lines -/

section WholeLines

lemma ReportLine.pkt_fits (l : ReportLine) : l.text.length + 4 < 65536 := by
  have := l.le_max
  omega

variable (r : Report)

lemma pktLines_lines_append (rest : Bytes) :
    pktLines (r.lines ++ rest) = r.map text ++ pktLines rest := by
  rw [← pktLines_flatMap_pkt (forall_mem_map.mpr fun l _ => l.pkt_fits), flatMap_map]
  rfl

lemma any_isNg_texts : (r.map text).any isNg ↔ r.Rejects := by
  simp [Report.Rejects]

lemma length_lines : r.lines.length = linesSize r.lengths := by
  induction r with
  | nil => rfl
  | cons l r ih =>
    simp only [lines, flatMap_cons, length_append, length_pkt, lengths,
      map_cons, linesSize, sum_cons]
    simp only [lines, lengths, linesSize] at ih
    omega

lemma lines_append (r' : Report) : lines (r ++ r') = r.lines ++ r'.lines := by
  simp [lines]

lemma payloadRejected_text (l : ReportLine) : payloadRejected l.text = isNg l.text := by
  have hband := l.noBand
  unfold payloadRejected
  split
  · next inner heq => simp [heq] at hband
  · next rest heq => simp [heq] at hband
  · next rest heq => simp [heq] at hband
  · rfl

/-- **Bare framing.** Without side-band the scan finds exactly the rejected refs. -/
theorem bare_scan : receivePackReportRejected r.stream = true ↔ r.Rejects := by
  unfold receivePackReportRejected stream
  rw [pktLines_lines_append, pktLines_flushPkt, append_nil]
  simp [Report.Rejects, payloadRejected_text]

end WholeLines

/-! ### Chunks without rejections -/

lemma not_innerRejected_of_notMem (h : (110 : UInt8) ∉ c.drop 4) : innerRejected c = false := by
  unfold innerRejected
  rw [any_eq_false]
  intro p hp hng
  cases p with
  | nil => cases hng
  | cons b p =>
    have hb : b = 110 := by
      simp only [isNg, isPrefixOf, Bool.and_eq_true, beq_iff_eq] at hng
      exact hng.1.symm
    subst hb
    exact h (mem_drop_of_mem_pktLines hp mem_cons_self)

variable {sizes : List ℕ}

lemma mem_drop_of_chunk {inner c : Bytes} (hc : c ∈ chunks sizes inner)
    (hb : b ∈ c.drop 4) : b ∈ inner.drop 4 := by
  induction sizes generalizing inner with
  | nil => cases hc
  | cons size sizes ih =>
    rcases mem_cons.mp hc with rfl | hc
    · rw [drop_take] at hb
      exact mem_of_mem_take hb
    have hmem := ih hc
    rw [drop_drop, Nat.add_comm, ← drop_drop] at hmem
    exact mem_of_mem_drop hmem

lemma chunks_not_rejected {inner : Bytes} (h : (110 : UInt8) ∉ inner.drop 4) :
    (chunks sizes inner).any innerRejected = false := by
  rw [any_eq_false]
  intro c hc
  have hf : innerRejected c = false :=
    not_innerRejected_of_notMem fun hmem => h (mem_drop_of_chunk hc hmem)
  rw [hf]
  exact Bool.false_ne_true

/-! ### Aligned framings -/

section AlignedFrames

variable {r : Report}

lemma stream_split (r : Report) (k : ℕ) : r.stream = lines (r.take k) ++ stream (r.drop k) := by
  unfold stream
  rw [← append_assoc, ← lines_append, take_append_drop]

lemma rejects_split (r : Report) (k : ℕ) :
    r.Rejects ↔ Report.Rejects (r.take k) ∨ Report.Rejects (r.drop k) := by
  have happend : r.Rejects ↔ Report.Rejects (r.take k ++ r.drop k) := by
    rw [take_append_drop]
  rw [happend]
  simp only [Report.Rejects, mem_append, or_and_right, exists_or]

lemma innerRejected_lines (r : Report) : innerRejected r.lines ↔ r.Rejects := by
  have hsh : pktLines [] = [] := pktLines_short (by decide)
  have hls := pktLines_lines_append r []
  simp only [append_nil, hsh] at hls
  unfold innerRejected
  rw [hls, any_isNg_texts]

lemma pktLines_flush_take (n : ℕ) : pktLines (flushPkt.take n) = [] := by
  by_cases hn : n < 4
  · exact pktLines_short (by rw [length_take]; omega)
  · rw [take_of_length_le (by show 4 ≤ n; omega)]
    exact pktLines_flushPkt

/-- **Aligned framings.** If every frame ends where a line ends, the chunks show exactly the
rejected refs. -/
theorem scan_of_aligned {sizes : List ℕ} (ha : Aligned r.lengths sizes)
    (hsum : sizes.sum = r.stream.length) :
    (chunks sizes r.stream).any innerRejected = true ↔ r.Rejects := by
  induction sizes generalizing r with
  | nil =>
    have hpos : r.stream.length = (lines r).length + 4 := by
      simp [stream, flushPkt]
    simp only [sum_nil] at hsum
    omega
  | cons size sizes ih =>
    rw [chunks, any_cons, Bool.or_eq_true]
    rcases ha with hlast | ⟨k, hk, rfl, ha⟩
    · -- the last line is in this frame, and at most a part of the flush packet behind it
      have hlen : (lines r).length ≤ size := by rw [length_lines]; exact hlast
      have htake : r.stream.take size = lines r ++ flushPkt.take (size - (lines r).length) := by
        rw [stream, take_append, take_of_length_le hlen]
      have hdrop : r.stream.drop size = flushPkt.drop (size - (lines r).length) := by
        rw [stream, drop_append, drop_of_length_le hlen, nil_append]
      have hrest : (chunks sizes (r.stream.drop size)).any innerRejected = false := by
        refine chunks_not_rejected ?_
        rw [hdrop]
        intro hmem
        have hflu : (110 : UInt8) ∈ flushPkt := mem_of_mem_drop (mem_of_mem_drop hmem)
        exact absurd hflu (by decide)
      have hfst : innerRejected (r.stream.take size) ↔ r.Rejects := by
        unfold innerRejected
        rw [htake, pktLines_lines_append, pktLines_flush_take, append_nil, any_isNg_texts]
      rw [hrest, hfst]
      simp
    -- the frame holds the first `k` lines
    have hlen : (lines (r.take k)).length = linesSize (r.lengths.take k) := by
      rw [length_lines]
      simp [lengths, map_take]
    have htake : r.stream.take (linesSize (r.lengths.take k)) = lines (r.take k) := by
      rw [stream_split r k]
      exact take_left' hlen
    have hdrop : r.stream.drop (linesSize (r.lengths.take k)) = stream (r.drop k) := by
      rw [stream_split r k]
      exact drop_left' hlen
    have hsum' : sizes.sum = (stream (r.drop k)).length := by
      have htot := congrArg length (stream_split r k)
      rw [length_append] at htot
      rw [sum_cons] at hsum
      omega
    have hlens : lengths (r.drop k) = r.lengths.drop k := by
      simp [lengths, map_drop]
    rw [htake, hdrop, innerRejected_lines, ih (hlens ▸ ha) hsum', ← rejects_split]

end AlignedFrames

/-! ### Frames that end inside a line -/

section Misaligned

variable (l : ReportLine)

lemma ReportLine.length_padded (a b c : UInt8) :
    ([a, b, c] ++ List.replicate (l.text.length - 3) 120).length = l.text.length := by
  have hthree := l.three_le
  rw [length_append, length_replicate]
  exact Nat.add_sub_cancel' hthree

/-- A line of the same length that reports success, and one that reports a rejection. -/
def ReportLine.asOk (l : ReportLine) : ReportLine where
  text := [111, 107, 32] ++ List.replicate (l.text.length - 3) 120
  three_le := (l.length_padded 111 107 32).symm ▸ l.three_le
  le_max := (l.length_padded 111 107 32).symm ▸ l.le_max
  noBand := noBand_of_head rfl (by decide)

def ReportLine.asNg (l : ReportLine) : ReportLine where
  text := [110, 103, 32] ++ List.replicate (l.text.length - 3) 120
  three_le := (l.length_padded 110 103 32).symm ▸ l.three_le
  le_max := (l.length_padded 110 103 32).symm ▸ l.le_max
  noBand := noBand_of_head rfl (by decide)

lemma ReportLine.length_asOk : l.asOk.text.length = l.text.length :=
  l.length_padded 111 107 32

lemma ReportLine.length_asNg : l.asNg.text.length = l.text.length :=
  l.length_padded 110 103 32

variable (r : Report)

lemma lengths_map_asOk : lengths (r.map asOk) = r.lengths := by
  simp [lengths, length_asOk]

lemma not_rejects_map_asOk : ¬Report.Rejects (r.map asOk) := by
  rintro ⟨l, hl, hng⟩
  obtain ⟨l, _, rfl⟩ := mem_map.mp hl
  simp [asOk, isNg] at hng

lemma n_notMem_lines_asOk : (110 : UInt8) ∉ lines (r.map asOk) := by
  intro hmem
  simp only [lines, mem_flatMap, mem_map] at hmem
  obtain ⟨_, ⟨l, _, rfl⟩, hmem⟩ := hmem
  rcases mem_append.mp hmem with hlen | htext
  · simp only [pktLen, mem_cons, not_mem_nil, or_false] at hlen
    rcases hlen with h | h | h | h
    all_goals exact hexByte_ne_n (Nat.mod_lt _ (by omega)) h.symm
  · simp [asOk] at htext

lemma n_notMem_drop_asNg {d : ℕ} (hd : 1 ≤ d) :
    (110 : UInt8) ∉ ((pkt l.asNg.text).drop d).drop 4 := by
  intro hmem
  have hdrop : ((pkt l.asNg.text).drop d).drop 4 = l.asNg.text.drop d := by
    rw [drop_drop, Nat.add_comm, ← drop_drop, drop_pkt]
  rw [hdrop] at hmem
  have htail : (110 : UInt8) ∈ l.asNg.text.drop 1 := by
    obtain ⟨d', rfl⟩ : ∃ d', d = 1 + d' := ⟨d - 1, by omega⟩
    rw [← drop_drop] at hmem
    exact mem_of_mem_drop hmem
  simp [asNg] at htail

variable {size : ℕ}

/-- A frame that does not end where a line ends is cut inside one. -/
lemma exists_cut_line (hsize : size < linesSize r.lengths)
    (hcut : ∀ k ≤ r.lengths.length, size ≠ linesSize (r.lengths.take k)) :
    ∃ before l after, r = before ++ l :: after ∧ linesSize (lengths before) < size ∧
      size < linesSize (lengths before) + (l.text.length + 4) := by
  induction r generalizing size with
  | nil => simp [linesSize, lengths] at hsize
  | cons l r ih =>
    have hzero : size ≠ 0 := by simpa [linesSize] using hcut 0 (Nat.zero_le _)
    by_cases hin : size < l.text.length + 4
    · refine ⟨[], l, r, rfl, ?_, ?_⟩
      · simp only [lengths, linesSize, map_nil, sum_nil]
        omega
      · simpa [linesSize, lengths] using hin
    have hsize' : size - (l.text.length + 4) < linesSize (lengths r) := by
      simp only [lengths, linesSize, map_cons, sum_cons] at hsize ⊢
      omega
    have hcut' : ∀ k ≤ (lengths r).length,
        size - (l.text.length + 4) ≠ linesSize ((lengths r).take k) := by
      intro k hk heq
      refine hcut (k + 1) (by simpa [lengths] using hk) ?_
      simp only [lengths, map_cons, take_succ_cons, linesSize, sum_cons]
      simp only [lengths, linesSize] at heq
      omega
    obtain ⟨before, l', after, rfl, hlow, hhigh⟩ := ih hsize' hcut'
    refine ⟨l :: before, l', after, rfl, ?_, ?_⟩
    · simp only [lengths, linesSize, map_cons, sum_cons] at hlow ⊢
      omega
    · simp only [lengths, linesSize, map_cons, sum_cons] at hhigh ⊢
      omega

lemma missed_of_cut (before after : Report) (l : ReportLine) {size : ℕ} (sizes : List ℕ)
    (hlow : linesSize (lengths before) < size)
    (hhigh : size < linesSize (lengths before) + (l.text.length + 4)) :
    (chunks (size :: sizes) (stream (before.map asOk ++ l.asNg ::
      after.map asOk))).any innerRejected = false := by
  have hlen : (lines (before.map asOk)).length =
      linesSize (lengths before) := by rw [length_lines, lengths_map_asOk]
  have hng := l.length_asNg
  obtain ⟨d, rfl⟩ : ∃ d, size = linesSize (lengths before) + d :=
    ⟨size - linesSize (lengths before), by omega⟩
  have hstr : stream (before.map asOk ++ l.asNg :: after.map asOk) = lines (before.map asOk) ++
        (pkt l.asNg.text ++ (lines (after.map asOk) ++ flushPkt)) := by
    simp [stream, lines]
  rw [hstr, chunks, any_cons, Bool.or_eq_false_iff]
  constructor
  · -- the frame holds the lines before, and a part of the rejection
    rw [← hlen, take_length_add_append, take_append_of_le_length (by rw [length_pkt]; omega)]
    unfold innerRejected
    rw [pktLines_lines_append, pktLines_truncated l.asNg.pkt_fits (by omega), append_nil]
    have hnone := not_rejects_map_asOk before
    rw [← any_isNg_texts] at hnone
    simpa using hnone
  -- the next frames start inside the rejection
  rw [← hlen, drop_length_add_append, drop_append_of_le_length (by rw [length_pkt]; omega)]
  refine chunks_not_rejected ?_
  intro hmem
  rw [drop_append] at hmem
  rcases mem_append.mp hmem with hmem | hmem
  · exact n_notMem_drop_asNg l (by omega) hmem
  rcases mem_append.mp (mem_of_mem_drop hmem) with hmem | hmem
  · exact n_notMem_lines_asOk after hmem
  · exact absurd hmem (by decide)

/-- **Frames that end inside a line.** If a framing is not aligned, it hides the rejection in some
report whose lines have the same lengths. -/
theorem exists_missed (sizes : List ℕ) (h : ¬Aligned r.lengths sizes) :
    ∃ r' : Report, lengths r' = r.lengths ∧ Report.Rejects r' ∧
      (chunks sizes (stream r')).any innerRejected = false := by
  induction sizes generalizing r with
  | nil => exact absurd trivial h
  | cons size sizes ih =>
    simp only [Aligned, not_or, not_exists, not_and, not_le] at h
    obtain ⟨hsize, hcut⟩ := h
    by_cases hk : ∃ k ≤ r.lengths.length, size = linesSize (r.lengths.take k)
    · -- this frame is aligned: a later one is not
      obtain ⟨k, hk, rfl⟩ := hk
      have hlens : lengths (r.drop k) = r.lengths.drop k := by
        simp [lengths, map_drop]
      obtain ⟨r', hr', hrej, hmissed⟩ := ih (r.drop k) (hlens ▸ hcut k hk rfl)
      refine ⟨(r.take k).map asOk ++ r', ?_, ?_, ?_⟩
      · have htake : lengths ((r.take k).map asOk) = r.lengths.take k := by
          rw [lengths_map_asOk]
          simp [lengths, map_take]
        have hdrop : lengths r' = r.lengths.drop k := hr'.trans hlens
        simp only [lengths, map_append] at htake hdrop ⊢
        rw [htake, hdrop, take_append_drop]
      · obtain ⟨l, hl, hng⟩ := hrej
        exact ⟨l, mem_append_right _ hl, hng⟩
      have hlen : (lines ((r.take k).map asOk)).length = linesSize (r.lengths.take k) := by
        rw [length_lines, lengths_map_asOk]
        simp [lengths, map_take]
      have hstr : stream ((r.take k).map asOk ++ r') =
          lines ((r.take k).map asOk) ++ stream r' := by
        simp [stream, lines]
      rw [hstr, chunks, take_left' hlen, drop_left' hlen, any_cons, hmissed, Bool.or_false]
      have hnone := not_rejects_map_asOk (r.take k)
      rw [← innerRejected_lines] at hnone
      simpa using hnone
    obtain ⟨before, l, after, rfl, hlow, hhigh⟩ := exists_cut_line r hsize
      fun k hk' heq => hk ⟨k, hk', heq⟩
    refine ⟨before.map asOk ++ l.asNg :: after.map asOk, ?_, ?_,
      missed_of_cut before after l sizes hlow hhigh⟩
    · have hpre := lengths_map_asOk before
      have haft := lengths_map_asOk after
      simp only [lengths] at hpre haft
      simp [lengths, hpre, haft, length_asNg]
    · refine ⟨l.asNg, by simp, ?_⟩
      simp [asNg, isNg]

end Misaligned

/-! ### The result -/

/-- A framing for reports of some total size: the frames hand out the whole stream. -/
structure Framing (total : ℕ) where
  slots : List Slot
  complete : (dataSizes slots).sum = total

/-- **The scan.** It ends on every byte string; it is right on every bare report; and a side-band
framing shows the rejections of every report with lines of given lengths exactly when it is aligned
with them. -/
theorem report_scan_iff (buf : Bytes) (r : Report) (f : Framing r.stream.length) :
    (pktLoop (buf.length + 1) buf).isSome = true ∧
    (receivePackReportRejected r.stream = true ↔ r.Rejects) ∧
    ((∀ r' : Report, Report.lengths r' = r.lengths →
        (receivePackReportRejected (sideBand f.slots (Report.stream r')) = true ↔
          Report.Rejects r')) ↔
      Aligned r.lengths (dataSizes f.slots)) := by
  refine ⟨?_, bare_scan r, fun hall => ?_, fun ha r' hr' => ?_⟩
  · rw [pktLoop_eq_some (buf.length + 1) (by omega)]
    rfl
  · by_contra hna
    obtain ⟨r', hr', hrej, hmissed⟩ := exists_missed r (dataSizes f.slots) hna
    have hfound := (hall r' hr').mpr hrej
    rw [rejected_sideBand, hmissed] at hfound
    cases hfound
  rw [rejected_sideBand]
  refine scan_of_aligned (hr' ▸ ha) ?_
  have hstream : (stream r').length = r.stream.length := by
    simp [stream, length_lines, hr']
  rw [hstream]
  exact f.complete

def declinedReport : Report :=
  [⟨utf8 "unpack ok\n", by decide, by decide, noBand_of_head rfl (by decide)⟩,
    ⟨utf8 "ng refs/heads/main pre-receive hook declined\n", by decide, by decide,
      noBand_of_head rfl (by decide)⟩]

def straddlingFraming : Framing declinedReport.stream.length where
  slots := [.data 18 (by decide), .progress (utf8 "remote: checking\n") (by decide),
    .data 49 (by decide)]
  complete := by decide

set_option maxRecDepth 4000 in
theorem straddling_rejection_missed :
    declinedReport.Rejects ∧ receivePackReportRejected declinedReport.stream = true ∧
      receivePackReportRejected (sideBand straddlingFraming.slots declinedReport.stream) = false :=
  ⟨⟨_, mem_cons_of_mem _ mem_cons_self, by decide⟩, by decide, by decide⟩

end Buzz.Git
