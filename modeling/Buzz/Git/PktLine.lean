import Mathlib.Tactic.IntervalCases

/-!
The pkt-line format.

A pkt-line is a four-digit hexadecimal length, which counts itself, and a payload.  `pktLines` is
`PktLineIter` run to its end: it skips control packets and stops at the first malformed or truncated
one.  The loop is written with fuel, and `pktLoop_eq_some` says that the length of the buffer is
always enough, so that `pktLines` satisfies the loop's own equation (`pktLines_eq`).
-/

namespace Buzz.Git

open List

abbrev Bytes := List UInt8

def utf8 (s : String) : Bytes := s.toByteArray.data.toList

lemma utf8_injective : Function.Injective utf8 := by
  intro s t h
  exact String.toByteArray_inj.mp (ByteArray.ext (Array.toList_inj.mp h))

/-! ### Reading -/

def hexVal (b : UInt8) : Option ℕ :=
  if 48 ≤ b ∧ b ≤ 57 then some (b.toNat - 48)
  else if 97 ≤ b ∧ b ≤ 102 then some (b.toNat - 87)
  else if 65 ≤ b ∧ b ≤ 70 then some (b.toNat - 55)
  else none

def readDigits (acc : ℕ) : Bytes → Option ℕ
  | [] => some acc
  | b :: bs =>
    match hexVal b with
    | some d => readDigits (acc * 16 + d) bs
    | none => none

/-- `usize::from_str_radix` with radix sixteen: a leading plus sign is accepted. -/
def readLen : Bytes → Option ℕ
  | [] => none
  | b :: bs =>
    if b = 43 then if bs = [] then none else readDigits 0 bs
    else readDigits 0 (b :: bs)

/-- What one round of the iterator's loop does with the rest of the buffer. -/
inductive IterStep
  | done
  | skip (rest : Bytes)
  | yield (payload rest : Bytes)

def iterStep (rest : Bytes) : IterStep :=
  if rest.length < 4 then .done
  else
    match readLen (rest.take 4) with
    | none => .done
    | some len =>
      -- flush, delimiter and response-end packets have no payload
      if len < 4 then .skip (rest.drop 4)
      else if rest.length < len then .done
      else .yield ((rest.take len).drop 4) (rest.drop len)

/-- The payloads in order; `none` when the fuel runs out. -/
def pktLoop : ℕ → Bytes → Option (List Bytes)
  | 0, _ => none
  | fuel + 1, rest =>
    match iterStep rest with
    | .done => some []
    | .skip rest' => pktLoop fuel rest'
    | .yield payload rest' => (pktLoop fuel rest').map (payload :: ·)

def pktLines (buf : Bytes) : List Bytes := (pktLoop (buf.length + 1) buf).getD []

/-! ### The loop ends -/

variable {rest payload : Bytes} {d : ℕ}

lemma iterStep_skip (h : iterStep rest = .skip rest') : 4 ≤ rest.length ∧ rest' = rest.drop 4 := by
  unfold iterStep at h
  split_ifs at h with hsh
  split at h
  · cases h
  split_ifs at h
  cases h
  exact ⟨not_lt.mp hsh, rfl⟩

lemma iterStep_yield (h : iterStep rest = .yield payload rest') :
    ∃ len, 4 ≤ len ∧ len ≤ rest.length ∧ payload = (rest.take len).drop 4 ∧
      rest' = rest.drop len := by
  unfold iterStep at h
  split_ifs at h
  split at h
  · cases h
  next len _ =>
  split_ifs at h with hctl hlong
  cases h
  exact ⟨len, not_lt.mp hctl, not_lt.mp hlong, rfl, rfl⟩

lemma pktLoop_eq_some (fuel : ℕ) (h : rest.length < fuel) :
    pktLoop fuel rest = some (pktLines rest) := by
  have hfuel : ∀ n : ℕ, ∀ rest : Bytes, rest.length < n →
      ∃ lines, ∀ fuel, n ≤ fuel → pktLoop fuel rest = some lines := by
    intro n
    induction n with
    | zero => intro rest hrest; omega
    | succ n ih =>
      intro rest hrest
      cases hstep : iterStep rest with
      | done =>
        refine ⟨[], fun fuel hn => ?_⟩
        obtain ⟨fuel, rfl⟩ : ∃ k, fuel = k + 1 := ⟨fuel - 1, by omega⟩
        simp only [pktLoop, hstep]
      | skip rest' =>
        obtain ⟨hlen, rfl⟩ := iterStep_skip hstep
        obtain ⟨lines, hls⟩ := ih (rest.drop 4) (by rw [length_drop]; omega)
        refine ⟨lines, fun fuel hn => ?_⟩
        obtain ⟨fuel, rfl⟩ : ∃ k, fuel = k + 1 := ⟨fuel - 1, by omega⟩
        simp only [pktLoop, hstep]
        exact hls fuel (by omega)
      | yield payload rest' =>
        obtain ⟨len, hlen, _, _, rfl⟩ := iterStep_yield hstep
        obtain ⟨lines, hls⟩ := ih (rest.drop len) (by rw [length_drop]; omega)
        refine ⟨payload :: lines, fun fuel hn => ?_⟩
        obtain ⟨fuel, rfl⟩ : ∃ k, fuel = k + 1 := ⟨fuel - 1, by omega⟩
        simp [pktLoop, hstep, hls fuel (by omega)]
  obtain ⟨lines, hls⟩ := hfuel (rest.length + 1) rest (by omega)
  unfold pktLines
  rw [hls (rest.length + 1) le_rfl, hls fuel (by omega)]
  rfl

theorem pktLines_eq (rest : Bytes) : pktLines rest =
    match iterStep rest with
    | .done => []
    | .skip rest' => pktLines rest'
    | .yield payload rest' => payload :: pktLines rest' := by
  have hsome : pktLoop (rest.length + 1) rest = some (pktLines rest) :=
    pktLoop_eq_some (rest.length + 1) (by omega)
  cases hstep : iterStep rest with
  | done =>
    simp only [pktLoop, hstep] at hsome
    exact (Option.some.inj hsome).symm
  | skip rest' =>
    obtain ⟨hlen, rfl⟩ := iterStep_skip hstep
    simp only [pktLoop, hstep] at hsome
    rw [pktLoop_eq_some rest.length (by rw [length_drop]; omega)] at hsome
    exact (Option.some.inj hsome).symm
  | yield payload rest' =>
    obtain ⟨len, hlen, _, _, rfl⟩ := iterStep_yield hstep
    simp only [pktLoop, hstep] at hsome
    rw [pktLoop_eq_some rest.length (by rw [length_drop]; omega)] at hsome
    exact (Option.some.inj hsome).symm

/-! ### Writing -/

def hexByte (d : ℕ) : UInt8 := if d < 10 then UInt8.ofNat (48 + d) else UInt8.ofNat (87 + d)

def pktLen (n : ℕ) : Bytes :=
  [hexByte (n / 4096 % 16), hexByte (n / 256 % 16), hexByte (n / 16 % 16), hexByte (n % 16)]

def pkt (payload : Bytes) : Bytes := pktLen (payload.length + 4) ++ payload

def flushPkt : Bytes := [48, 48, 48, 48]

@[simp] lemma length_pktLen (n : ℕ) : (pktLen n).length = 4 := rfl

@[simp] lemma length_pkt (payload : Bytes) : (pkt payload).length = payload.length + 4 := by
  simp [pkt, Nat.add_comm]

@[simp] lemma take_pkt (payload : Bytes) : (pkt payload).take 4 = pktLen (payload.length + 4) :=
  take_left' rfl

@[simp] lemma drop_pkt (payload : Bytes) : (pkt payload).drop 4 = payload := drop_left' rfl

lemma hexVal_hexByte (h : d < 16) : hexVal (hexByte d) = some d := by
  interval_cases d <;> rfl

lemma hexByte_ne_plus (h : d < 16) : hexByte d ≠ 43 := by
  interval_cases d <;> decide

lemma hexByte_ne_n (h : d < 16) : hexByte d ≠ 110 := by
  interval_cases d <;> decide

lemma readLen_pktLen (h : n < 65536) : readLen (pktLen n) = some n := by
  have h1 : n / 4096 % 16 < 16 := Nat.mod_lt _ (by omega)
  have h2 : n / 256 % 16 < 16 := Nat.mod_lt _ (by omega)
  have h3 : n / 16 % 16 < 16 := Nat.mod_lt _ (by omega)
  have h4 : n % 16 < 16 := Nat.mod_lt _ (by omega)
  simp only [readLen, pktLen, hexByte_ne_plus h1, if_false, readDigits, hexVal_hexByte h1,
    hexVal_hexByte h2, hexVal_hexByte h3, hexVal_hexByte h4]
  congr 1
  omega

/-! ### Reading what was written -/

/-- **Round trip.** A pkt-line in front of a stream is its first payload. -/
theorem pktLines_pkt_append (h : payload.length + 4 < 65536) (rest : Bytes) :
    pktLines (pkt payload ++ rest) = payload :: pktLines rest := by
  have htake : (pkt payload ++ rest).take 4 = pktLen (payload.length + 4) := by
    rw [take_append_of_le_length (by rw [length_pkt]; omega), take_pkt]
  have hstep : iterStep (pkt payload ++ rest) = .yield payload rest := by
    unfold iterStep
    rw [htake, readLen_pktLen h]
    have hlen : (pkt payload ++ rest).length = payload.length + 4 + rest.length := by simp
    rw [if_neg (by omega)]
    simp only
    rw [if_neg (by omega), if_neg (by omega)]
    have hpayload : ((pkt payload ++ rest).take (payload.length + 4)).drop 4 = payload := by
      rw [take_left' (length_pkt payload), drop_pkt]
    have hrest : (pkt payload ++ rest).drop (payload.length + 4) = rest :=
      drop_left' (length_pkt payload)
    rw [hpayload, hrest]
  rw [pktLines_eq, hstep]

lemma pktLines_flatMap_pkt (h : ∀ line ∈ lines, line.length + 4 < 65536)
    (rest : Bytes) : pktLines (lines.flatMap pkt ++ rest) = lines ++ pktLines rest := by
  induction lines with
  | nil => rfl
  | cons line lines ih =>
    obtain ⟨hline, hls⟩ := forall_mem_cons.mp h
    rw [flatMap_cons, append_assoc, pktLines_pkt_append hline, ih hls]
    rfl

lemma pktLines_flush_append (rest : Bytes) : pktLines (flushPkt ++ rest) = pktLines rest := by
  rw [pktLines_eq]
  rfl

lemma pktLines_short (h : rest.length < 4) : pktLines rest = [] := by
  rw [pktLines_eq, iterStep, if_pos h]

lemma pktLines_truncated (h : payload.length + 4 < 65536)
    (hd : d < payload.length + 4) : pktLines ((pkt payload).take d) = [] := by
  by_cases hsh : d < 4
  · exact pktLines_short (by rw [length_take]; omega)
  have htake : ((pkt payload).take d).take 4 = pktLen (payload.length + 4) := by
    rw [take_take, Nat.min_eq_left (by omega), take_pkt]
  have hlen : ((pkt payload).take d).length = d := by
    rw [length_take, length_pkt]
    omega
  rw [pktLines_eq, iterStep, if_neg (by omega), htake, readLen_pktLen h]
  simp only
  rw [if_neg (by omega), if_pos (by omega)]

lemma mem_drop_of_mem_pktLines (h : p ∈ pktLines buf) (hb : b ∈ p) : b ∈ buf.drop 4 := by
  have hrec : ∀ n : ℕ, ∀ buf : Bytes, buf.length < n → p ∈ pktLines buf → b ∈ buf.drop 4 := by
    intro n
    induction n with
    | zero => intro buf hbuf; omega
    | succ n ih =>
      intro buf hbuf hp
      rw [pktLines_eq] at hp
      cases hstep : iterStep buf with
      | done =>
        rw [hstep] at hp
        cases hp
      | skip rest =>
        rw [hstep] at hp
        obtain ⟨hlen, rfl⟩ := iterStep_skip hstep
        have hmem := ih (buf.drop 4) (by rw [length_drop]; omega) hp
        exact mem_of_mem_drop hmem
      | yield payload rest =>
        rw [hstep] at hp
        obtain ⟨len, hlen, _, rfl, rfl⟩ := iterStep_yield hstep
        rcases mem_cons.mp hp with rfl | hp
        · rw [drop_take] at hb
          exact mem_of_mem_take hb
        have hmem := ih (buf.drop len) (by rw [length_drop]; omega) hp
        rw [drop_drop] at hmem
        have hdrop : buf.drop (len + 4) = (buf.drop 4).drop len := by
          rw [drop_drop, Nat.add_comm]
        rw [hdrop] at hmem
        exact mem_of_mem_drop hmem
  exact hrec (buf.length + 1) buf (by omega) h

end Buzz.Git
