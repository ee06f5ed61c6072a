import Mathlib.Data.List.Infix
import Mathlib.Data.List.Sort

/-!
The scan of a file.

The search keeps the last lines in a ring, counts down the lines to print after a match, and
remembers the last line it has printed.  What it prints are the lines near a match, each once.
-/

namespace Buzz.DevMcp

open List

def maxOutputBytes : ℕ := 50 * 1024
def maxOutputLines : ℕ := 2000

/-- The sink, with what it has printed. -/
structure CappedSink where
  bytes : ℕ
  lines : ℕ
  capped : Bool
  out : List String

def CappedSink.writeln (sink : CappedSink) (s : String) : CappedSink :=
  if sink.capped then sink
  else if sink.bytes + s.utf8ByteSize + 1 > maxOutputBytes ∨ sink.lines ≥ maxOutputLines then
    { sink with capped := true }
  else ⟨sink.bytes + s.utf8ByteSize + 1, sink.lines + 1, false, sink.out ++ [s]⟩

/-- The arguments of a scan, with the lower case of the Unicode tables. -/
structure RgArgs where
  path : String
  needle : String
  ignoreCase : Bool
  listFilesWithMatches : Bool
  lineNumbers : Bool
  context : ℕ
  lower : String → String

/-- What a scan keeps between lines, and the files listed so far. -/
structure Scan where
  ring : List String
  tail : ℕ
  last : Option ℕ
  idx : ℕ
  found : Bool
  sink : CappedSink
  printed : List String

variable (a : RgArgs)

def isMatch (line : String) : Bool :=
  a.needle.toList <:+: (if a.ignoreCase then a.lower line else line).toList

def lineText (p : String × ℕ) : String :=
  (if a.lineNumbers then a.path ++ ":" ++ toString (p.2 + 1) ++ ":" else a.path ++ ":") ++ p.1

namespace Scan

variable (s : Scan) (line : String)

def emitLine (p : String × ℕ) : Scan :=
  { s with sink := s.sink.writeln (lineText a p), last := some p.2 }

def emitNew (p : String × ℕ) : Scan := if s.last.all (· < p.2) then s.emitLine a p else s

def onMatch : Scan :=
  let s := (s.ring.zipIdx (s.idx - s.ring.length)).foldl (emitNew a) s
  { s.emitNew a (line, s.idx) with tail := a.context, found := true }

def onTail : Scan :=
  if s.tail > 0 then { s.emitLine a (line, s.idx) with tail := s.tail - 1 } else s

def push : Scan :=
  { s with
    ring :=
      if a.context > 0 then (if s.ring.length = a.context then s.ring.tail else s.ring) ++ [line]
      else s.ring
    idx := s.idx + 1 }

def readLine : Scan := (if isMatch a line then s.onMatch a line else s.onTail a line).push a line

def listFile : Scan :=
  if a.path ∈ s.printed then { s with found := true }
  else { s with found := true, printed := a.path :: s.printed, sink := s.sink.writeln a.path }

end Scan

/-- The loop on what is read of the file: a line, or none for one that is too long or no UTF-8. -/
def scanLoop (s : Scan) : List (Option String) → Scan
  | [] => s
  | none :: _ => s
  | some line :: lines =>
    if s.sink.capped then s
    else if isMatch a line ∧ a.listFilesWithMatches then s.listFile a
    else scanLoop (s.readLine a line) lines

/-- The scan; of a file that cannot be opened nothing is read. -/
def scanFile (sink : CappedSink) (printed : List String) (file : List (Option String)) : Scan :=
  scanLoop a ⟨[], 0, none, 0, false, sink, printed⟩ file

section

variable (lines : List String)

/-- One of the first `n` lines matches, and this one is at most the context away. -/
def near (n i : ℕ) : Bool :=
  ∃ j < n, isMatch a (lines.getD j "") ∧ i ≤ j + a.context ∧ j ≤ i + a.context

def textsAt (places : List ℕ) : List String := places.map fun i => lineText a (lines.getD i "", i)

/-- What has been printed, in order, and the last of it. -/
structure Prints (start sink : CappedSink) (last : Option ℕ) (out : List ℕ) : Prop where
  written : sink = (textsAt a lines out).foldl CappedSink.writeln start
  latest : ∀ i, last.all (· < i) ↔ ∀ x ∈ out, x < i
  sorted : out.Pairwise (· < ·)

/-- What a scan knows when it has read some lines. -/
structure Inv (start : CappedSink) (s : Scan) (out : List ℕ) : Prop where
  prints : Prints a lines start s.sink s.last out
  ring : s.ring = (lines.take s.idx).drop (s.idx - a.context)
  mem : ∀ i, i ∈ out ↔ i < s.idx ∧ near a lines s.idx i
  tail : ∀ i ≥ s.idx, i < s.idx + s.tail ↔ near a lines s.idx i

end

variable {a} {lines : List String} {start : CappedSink} {out : List ℕ} {s : Scan}

lemma Prints.writeln (h : Prints a lines start sink last out) (hlt : ∀ x ∈ out, x < i) :
    Prints a lines start (sink.writeln (lineText a (lines.getD i "", i))) (some i) (out ++ [i]) where
  written := by simp [textsAt, h.written]
  latest j := by grind
  sorted := by simpa [pairwise_append, h.sorted] using hlt

/-- The fold over the ring prints what is after all that is printed. -/
lemma Prints.foldl_emitNew (n k : ℕ) (h : Prints a lines start s.sink s.last out) :
    ∃ sink last out', ((range' n k).map fun i => (lines.getD i "", i)).foldl (Scan.emitNew a) s =
        { s with sink, last } ∧ Prints a lines start sink last out' ∧
      ∀ i, i ∈ out' ↔ i ∈ out ∨ n ≤ i ∧ i < n + k ∧ ∀ x ∈ out, x < i := by
  induction k with
  | zero => exact ⟨_, _, out, rfl, h, by grind⟩
  | succ k ih =>
    obtain ⟨sink, last, out', hs, h', hmem⟩ := ih
    rw [range'_concat, map_append, foldl_append, hs, Nat.one_mul, map_singleton, foldl_cons, foldl_nil,
      Scan.emitNew]
    split
    · next hlast =>
      have hlt := (h'.latest _).mp hlast
      exact ⟨_, _, _, rfl, h'.writeln hlt, by grind⟩
    next hlast =>
    have hlt := mt (h'.latest _).mpr hlast
    exact ⟨_, _, out', rfl, h', by grind⟩

lemma zipIdx_ring (hn : n ≤ lines.length) :
    ((lines.take n).drop (n - c)).zipIdx (n - ((lines.take n).drop (n - c)).length) =
      (range' (n - c) (min n c)).map fun i => (lines.getD i "", i) := by
  apply ext_getElem
  · simp
    omega
  intro i hi _
  simp at hi
  simp [show n - c + i < lines.length by omega]
  omega

lemma Inv.push_ring (h : Inv a lines start s out) (hn : s.idx < lines.length) :
    (s.push a (lines.getD s.idx "")).ring =
      (lines.take (s.idx + 1)).drop (s.idx + 1 - a.context) := by
  rw [take_succ_eq_append_getElem hn]
  simp only [Scan.push, h.ring, tail_drop]
  grind [drop_eq_nil_of_le]

lemma near_succ (n i : ℕ) : near a lines (n + 1) i ↔ near a lines n i ∨
    isMatch a (lines.getD n "") ∧ i ≤ n + a.context ∧ n ≤ i + a.context := by
  simp only [near, Nat.lt_succ_iff_lt_or_eq, or_and_right, exists_or, exists_eq_left,
    decide_eq_true_eq]

/-- A match prints what is left of the ring and its own line, a line that one reaches is printed. -/
lemma Inv.readLine (hn : s.idx < lines.length) (h : Inv a lines start s out) :
    (s.readLine a (lines.getD s.idx "")).idx = s.idx + 1 ∧
      ∃ out', Inv a lines start (s.readLine a (lines.getD s.idx "")) out' := by
  have hlt : ∀ x ∈ out, x < s.idx := fun x hx => ((h.mem x).mp hx).1
  have hrch := h.tail s.idx le_rfl
  unfold Scan.readLine
  split
  · next hm =>
    obtain ⟨sink, last, out', hs, h', hmem⟩ :=
      h.prints.foldl_emitNew (s.idx - a.context) (min s.idx a.context)
    rw [← zipIdx_ring hn.le, ← h.ring] at hs
    have hlt' : ∀ x ∈ out', x < s.idx := by grind
    simp only [Scan.onMatch, hs, Scan.emitNew, if_pos ((h'.latest _).mpr hlt')]
    refine ⟨rfl, _, h'.writeln hlt', h.push_ring hn, fun i => ?_, fun i (hi : s.idx + 1 ≤ i) => ?_⟩
    · simp only [Scan.push, Scan.emitLine, mem_append, mem_singleton, hmem, h.mem, near_succ, hm]
      grind [near]
    · simp only [Scan.push, Scan.emitLine, near_succ, hm]
      grind [near]
  next hm =>
  unfold Scan.onTail
  split
  · refine ⟨rfl, _, h.prints.writeln hlt, h.push_ring hn, fun i => ?_, fun i (hi : s.idx + 1 ≤ i) => ?_⟩
    · simp only [Scan.push, Scan.emitLine, near_succ, hm, mem_append, mem_singleton, h.mem]
      grind
    have := h.tail i (by omega)
    simp only [Scan.push, Scan.emitLine, near_succ, hm, ← this]
    grind
  refine ⟨rfl, out, h.prints, h.push_ring hn, fun i => ?_, fun i (hi : s.idx + 1 ≤ i) => ?_⟩
  · simp only [Scan.push, near_succ, hm, h.mem]
    grind
  have := h.tail i (by omega)
  simp only [Scan.push, near_succ, hm, ← this]
  grind

def nearMatches (a : RgArgs) (lines : List String) : List ℕ :=
  (range lines.length).filter (near a lines lines.length)

lemma scanLoop_sink (hlist : a.listFilesWithMatches = false) (hrest : lines.drop s.idx = rest)
    (hlen : s.idx + rest.length = lines.length) (h : Inv a lines start s out)
    (hcap : (scanLoop a s (rest.map some)).sink.capped = false) :
    (scanLoop a s (rest.map some)).sink =
      (textsAt a lines (nearMatches a lines)).foldl CappedSink.writeln start := by
  induction rest generalizing s out with
  | nil =>
    have hout : out = nearMatches a lines := by
      refine h.prints.sorted.eq_of_mem_iff (pairwise_lt_range.filter _) fun i => ?_
      simpa [nearMatches, ← hlen] using h.mem i
    exact hout ▸ h.prints.written
  | cons line rest ih =>
    rw [length_cons] at hlen
    have hn : s.idx < lines.length := by omega
    obtain ⟨hline, hdrop⟩ := cons.inj ((drop_eq_getElem_cons hn).symm.trans hrest)
    obtain rfl : lines.getD s.idx "" = line := by simp [hn, hline]
    obtain ⟨hidx, out', h'⟩ := h.readLine hn
    simp only [map_cons, scanLoop, hlist, Bool.false_eq_true, and_false, if_false] at hcap ⊢
    split at hcap
    · next hcapped => cases hcap.symm.trans hcapped
    next hopen =>
    rw [if_neg hopen]
    exact ih (hidx ▸ hdrop) (by omega) h' hcap

lemma CappedSink.out_foldl (texts : List String) (hcap : (texts.foldl writeln start).capped = false) :
    (texts.foldl writeln start).out = start.out ++ texts := by
  induction texts using reverseRecOn with
  | nil => simp
  | append_singleton texts text ih =>
    rw [foldl_append, foldl_cons, foldl_nil] at hcap ⊢
    generalize texts.foldl writeln start = sink at *
    grind [writeln]

/-- **What a scan prints.** If the cap is not reached, the lines near a match, in order. -/
theorem scan_prints_near_matches (a : RgArgs) (sink : CappedSink) (printed lines : List String)
    (hlist : a.listFilesWithMatches = false)
    (hcap : (scanFile a sink printed (lines.map some)).sink.capped = false) :
    (scanFile a sink printed (lines.map some)).sink.out =
      sink.out ++ textsAt a lines (nearMatches a lines) := by
  have hinv : Inv a lines sink ⟨[], 0, none, 0, false, sink, printed⟩ [] :=
    ⟨⟨rfl, by simp, .nil⟩, by simp, by simp, by simp [near]⟩
  have hsink := scanLoop_sink hlist rfl (by simp) hinv hcap
  rw [← CappedSink.out_foldl _ (hsink ▸ hcap)]
  exact congrArg _ hsink

/-- Two matches that share a line of context. -/
theorem scan_prints_near_matches_shared :
    (scanFile ⟨"f", "x", false, false, true, 1, id⟩ ⟨0, 0, false, []⟩ []
      (["x", "b", "x", "c", "d"].map some)).sink.out = ["f:1:x", "f:2:b", "f:3:x", "f:4:c"] := by
  rw [scan_prints_near_matches _ _ _ _ rfl (by decide +kernel)]
  decide +kernel

end Buzz.DevMcp
