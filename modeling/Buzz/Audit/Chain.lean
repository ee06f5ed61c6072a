import Buzz.Audit.Hash
import Buzz.Lib.HashChain

/-!
The audit chain of a community.

`audit_log` is keyed by community and sequence number.  `log` appends to the chain of one community,
whose head it reads under the community's lock; `verifyChain` reads a range of it in order,
recomputes every hash and compares every row but the first with the row before it.
-/

namespace Buzz.Audit

open Lib Buzz.Core List Option AuditAction Prod
open Git (utf8)

/-! ### Rows -/

/-- The columns of a row besides its key.  The time is in microseconds. -/
structure AuditRow where
  hash : List UInt8
  prevHash : Option (List UInt8)
  action : String
  actorPubkey : Option (List UInt8)
  objectId : Option String
  detail : Value
  createdAt : ℤ
  hashVersion : ℤ

abbrev AuditLog := Table (Uuid × ℤ) AuditRow

def AuditRow.toEntry (row : AuditRow) (community : Uuid) (seq : ℤ) :
    Except AuditError AuditEntry := do
  let action ← okOr (fromStr row.action) .unknownAction
  return {
    communityId := community
    seq := seq
    hashVersion := row.hashVersion
    hash := row.hash
    prevHash := row.prevHash
    action := action
    actorPubkey := row.actorPubkey
    objectId := row.objectId
    detail := row.detail
    createdAt := row.createdAt * 1000 }

def AuditLog.select (t : AuditLog) (community : Uuid) (fromSeq toSeq : ℤ) : List (ℤ × AuditRow) :=
  (List.range (toSeq + 1 - fromSeq).toNat).filterMap fun i : ℕ =>
    (t.lookup (community, fromSeq + i)).map (mk (fromSeq + i))

/-! ### Appending -/

structure NewAuditEntry where
  action : AuditAction
  actorPubkey : Option (List UInt8)
  objectId : Option String
  detail : Value

/-- The largest sequence number of a community, and the hash of its row. -/
def AuditLog.head (t : AuditLog) (community : Uuid) : Option (ℤ × List UInt8) :=
  let seqs := (t.keys.filter fun key => key.1 = community).map snd
  seqs.max?.bind fun seq => (t.lookup (community, seq)).map fun row => (seq, row.hash)

variable (P : Primitives)

def nextEntry (t : AuditLog) (community : Uuid) (new : NewAuditEntry) (now : ℤ) :
    Except AuditError AuditEntry := do
  let (prevSeq, prevHash) : ℤ × Option (List UInt8) :=
    match t.head community with
    | some (seq, hash) => (seq, some hash)
    | none => (0, none)
  refuseIf (prevSeq + 1 > isizeMax) .overflow
  let entry : AuditEntry := {
    communityId := community
    seq := prevSeq + 1
    hashVersion := currentHashVersion
    hash := []
    prevHash := prevHash
    action := new.action
    actorPubkey := new.actorPubkey
    objectId := new.objectId
    detail := new.detail
    createdAt := toStoragePrecision now }
  let hash ← computeHash P entry
  return { entry with hash := hash }

def AuditEntry.toRow (e : AuditEntry) : AuditRow where
  hash := e.hash
  prevHash := e.prevHash
  action := e.action.asStr
  actorPubkey := e.actorPubkey
  objectId := e.objectId
  detail := e.detail
  createdAt := e.createdAt / 1000
  hashVersion := e.hashVersion

/-- One append; a call that fails leaves the table as it is. -/
def log (community : Uuid) (t : AuditLog) (call : NewAuditEntry × ℤ) : AuditLog :=
  match nextEntry P t community call.1 call.2 with
  | .ok e => t.insert (community, e.seq) e.toRow
  | .error _ => t

def logAll (community : Uuid) (t : AuditLog) (calls : List (NewAuditEntry × ℤ)) : AuditLog :=
  calls.foldl (log P community) t

/-! ### Verifying -/

/-- The loop over the rows; `expectedPrev` is the hash of the row before, if there is one. -/
def verifyRows (P : Primitives) (community : Uuid) :
    Option (List UInt8) → List (ℤ × AuditRow) → Except AuditError Bool
  | _, [] => .ok true
  | expectedPrev, (seq, row) :: rows => do
    let entry ← row.toEntry community seq
    refuseIf (expectedPrev ≠ none ∧ entry.prevHash ≠ expectedPrev) (.chainViolation entry.seq)
    let computed ← computeHash P entry
    refuseIf (computed ≠ entry.hash) (.hashMismatch entry.seq)
    verifyRows P community (some entry.hash) rows

def verifyChain (t : AuditLog) (community : Uuid) (fromSeq toSeq : ℤ) : Except AuditError Bool :=
  match t.select community fromSeq toSeq with
  | [] => .ok false
  | rows => verifyRows P community none rows

/-! ### What verification checks -/

variable {community : Uuid}

section Verify

variable {P : Primitives}

def Checks (P : Primitives) (community : Uuid) (p : ℤ × AuditRow) : Prop :=
  ∃ entry, p.2.toEntry community p.1 = .ok entry ∧ computeHash P entry = .ok p.2.hash

lemma toEntry_ok {row : AuditRow} (h : row.toEntry community seq = .ok entry) :
    ∃ action, fromStr row.action = some action ∧
      entry = ⟨community, seq, row.hashVersion, row.hash, row.prevHash, action, row.actorPubkey,
        row.objectId, row.detail, row.createdAt * 1000⟩ := by
  simp only [AuditRow.toEntry, bind_eq_ok, okOr_eq_ok] at h
  obtain ⟨action, haction, hent⟩ := h
  exact ⟨action, haction, (Except.ok.inj hent).symm⟩

/-- The loop succeeds if every row holds its own hash and names the row before it. -/
theorem verifyRows_eq_true_iff {expectedPrev : Option (List UInt8)} :
    verifyRows P community expectedPrev rows = .ok true ↔ (∀ p ∈ rows, Checks P community p) ∧
      rows.IsChain (fun p p' => p'.2.prevHash = some p.2.hash) ∧
      (∀ hash, expectedPrev = some hash → ∀ p ∈ rows.head?, p.2.prevHash = some hash) := by
  induction rows generalizing expectedPrev with
  | nil => simp [verifyRows]
  | cons p rows ih =>
    obtain ⟨seq, row⟩ := p
    simp only [verifyRows, bind_eq_ok, refuseIf_eq_ok, ih, not_and_or, not_not]
    constructor
    · rintro ⟨entry, hent, _, hprev, computed, hcomp, _, hhash, hall, hchain, hnext⟩
      obtain ⟨action, -, rfl⟩ := toEntry_ok hent
      subst hhash
      refine ⟨forall_mem_cons.mpr ⟨⟨_, hent, hcomp⟩, hall⟩,
        isChain_cons.mpr ⟨fun p hp => hnext _ rfl p hp, hchain⟩, ?_⟩
      rintro hash rfl p ⟨⟩
      exact hprev.resolve_left (by simp)
    rintro ⟨hall, hchain, hprev⟩
    obtain ⟨⟨entry, hent, hcomp⟩, hall⟩ := forall_mem_cons.mp hall
    obtain ⟨hnext, hchain⟩ := isChain_cons.mp hchain
    obtain ⟨action, -, rfl⟩ := toEntry_ok hent
    refine ⟨_, hent, (), ?_, _, hcomp, (), rfl, hall, hchain, ?_⟩
    · cases expectedPrev with
      | none => exact .inl rfl
      | some hash => exact .inr (hprev hash rfl _ rfl)
    · rintro hash ⟨⟩ p hp
      exact hnext p hp

end Verify

/-! ### Rows of a range -/

section Select

variable {t t' : AuditLog} {a b n : ℤ}

lemma select_append (hab : a ≤ b + 1) (hbn : b ≤ n) :
    t.select community a n = t.select community a b ++ t.select community (b + 1) n := by
  have hlen : (n + 1 - a).toNat = (b + 1 - a).toNat + (n + 1 - (b + 1)).toNat := by omega
  unfold AuditLog.select
  rw [hlen, range_add, filterMap_append, filterMap_map]
  congr 1
  apply filterMap_congr
  intro i _
  have hseq : a + (((b + 1 - a).toNat + i : ℕ) : ℤ) = b + 1 + i := by omega
  rw [Function.comp_apply, hseq]

lemma select_singleton :
    t.select community a a = ((t.lookup (community, a)).map (mk a)).toList := by
  have hlen : (a + 1 - a).toNat = 1 := by omega
  have hseq : a + ((0 : ℕ) : ℤ) = a := by omega
  unfold AuditLog.select
  rw [hlen, range_one, filterMap_cons, filterMap_nil, hseq]
  cases t.lookup (community, a) with
  | none => rfl
  | some row => rfl

lemma mem_select :
    p ∈ t.select community a b ↔ (a ≤ p.1 ∧ p.1 ≤ b) ∧ t.lookup (community, p.1) = some p.2 := by
  constructor
  · intro h
    obtain ⟨i, hi, hrow⟩ := mem_filterMap.mp h
    obtain ⟨row, hget, rfl⟩ := map_eq_some_iff.mp hrow
    have hin := mem_range.mp hi
    refine ⟨⟨?_, ?_⟩, hget⟩
    all_goals
      omega
  rintro ⟨⟨ha, hb⟩, hget⟩
  have hseq : a + (((p.1 - a).toNat : ℕ) : ℤ) = p.1 := by omega
  refine mem_filterMap.mpr ⟨(p.1 - a).toNat, mem_range.mpr (by omega), ?_⟩
  rw [hseq, hget]
  rfl

lemma select_congr (h : ∀ seq, a ≤ seq → seq ≤ b →
    t'.lookup (community, seq) = t.lookup (community, seq)) :
    t'.select community a b = t.select community a b := by
  apply filterMap_congr
  intro i hi
  have hin := mem_range.mp hi
  rw [h (a + i) (by omega) (by omega)]

/-- The rows of the range in one table are those behind `m` in another: the others have been
deleted, and nothing else is changed. -/
lemma select_eq_suffix_iff (hm : 0 ≤ m) (hmn : m ≤ n) :
    t'.select community 1 n = t.select community (m + 1) n ↔ ∀ seq, 1 ≤ seq → seq ≤ n →
        t'.lookup (community, seq) = if seq ≤ m then none else t.lookup (community, seq) := by
  constructor
  · intro h seq hlow hhigh
    have hmem : ∀ row, t'.lookup (community, seq) = some row ↔
        m + 1 ≤ seq ∧ t.lookup (community, seq) = some row := by
      intro row
      have hiff : (seq, row) ∈ t'.select community 1 n ↔
          (seq, row) ∈ t.select community (m + 1) n := by
        rw [h]
      rw [mem_select, mem_select] at hiff
      constructor
      · intro hrow
        obtain ⟨hrange, hrow'⟩ := hiff.mp ⟨⟨hlow, hhigh⟩, hrow⟩
        exact ⟨hrange.1, hrow'⟩
      · rintro ⟨hrange, hrow⟩
        exact (hiff.mpr ⟨⟨hrange, hhigh⟩, hrow⟩).2
    split_ifs with hseq
    · rw [eq_none_iff_forall_ne_some]
      intro row hrow
      have hrange := ((hmem row).mp hrow).1
      omega
    apply ext
    intro row
    rw [hmem row]
    constructor
    · exact And.right
    · intro hrow
      exact ⟨by omega, hrow⟩
  intro h
  have hdel : t'.select community 1 m = [] := by
    rw [eq_nil_iff_forall_not_mem]
    intro p hp
    obtain ⟨⟨hlow, hhigh⟩, hrow⟩ := mem_select.mp hp
    rw [h p.1 hlow (by omega), if_pos hhigh] at hrow
    cases hrow
  rw [select_append (by omega) hmn, hdel, nil_append]
  apply select_congr
  intro seq hlow hhigh
  rw [h seq (by omega) hhigh, if_neg (by omega)]

lemma length_select {n : ℕ}
    (h : ∀ seq : ℤ, 1 ≤ seq → seq ≤ n → (t.lookup (community, seq)).isSome) :
    (t.select community 1 n).length = n := by
  induction n with
  | zero => rfl
  | succ n ih =>
    have hcut : t.select community 1 (n + 1 : ℕ) =
        t.select community 1 n ++ t.select community (n + 1) (n + 1) :=
      select_append (by omega) (by omega)
    have hrows : (t.select community 1 n).length = n := by
      apply ih
      intro seq hlow hhigh
      exact h seq hlow (by omega)
    obtain ⟨row, hrow⟩ := isSome_iff_exists.mp (h (n + 1) (by omega) (by omega))
    rw [hcut, length_append, hrows, select_singleton, hrow]
    rfl

lemma getLast?_select (hn : 1 ≤ n) (h : t.lookup (community, n) = some row) :
    (t.select community 1 n).getLast? = some (n, row) := by
  have hcut : t.select community 1 n =
      t.select community 1 (n - 1) ++ t.select community (n - 1 + 1) n :=
    select_append (by omega) (by omega)
  rw [hcut, Int.sub_add_cancel, select_singleton, h]
  simp

end Select

/-! ### The chain that is logged -/

section Logged

variable {P : Primitives} {t : AuditLog} {n : ℕ}

/-- The table holds a chain of `n` rows of the current version, and no other rows of the
community. -/
structure Logged (P : Primitives) (community : Uuid) (t : AuditLog) (n : ℕ) : Prop where
  rows : ∀ seq : ℤ, (t.lookup (community, seq)).isSome ↔ 1 ≤ seq ∧ seq ≤ n
  linked : Linked (fun p : ℤ × AuditRow => p.2.prevHash) (fun p => p.2.hash)
    (t.select community 1 n).reverse
  checks : ∀ p ∈ t.select community 1 n, Checks P community p ∧ p.2.hashVersion = currentHashVersion
  bound : n ≤ isizeMax

lemma Logged.head_cases (h : Logged P community t n) :
    (n = 0 ∧ t.head community = none) ∨ ∃ row, t.lookup (community, (n : ℤ)) = some row ∧ 1 ≤ n ∧
      t.head community = some ((n : ℤ), row.hash) := by
  have hmem : ∀ seq, seq ∈ (t.keys.filter fun key => key.1 = community).map snd ↔
      1 ≤ seq ∧ seq ≤ n := by
    intro seq
    rw [← h.rows seq, AList.lookup_isSome, AList.mem_keys]
    simp
  unfold AuditLog.head
  dsimp only
  obtain rfl | hn := Nat.eq_zero_or_pos n
  · left
    have hnil : (t.keys.filter fun key => key.1 = community).map snd = [] := by
      rw [eq_nil_iff_forall_not_mem]
      intro seq hseq
      have hrange := (hmem seq).mp hseq
      omega
    rw [hnil]
    exact ⟨rfl, rfl⟩
  right
  have hmax : ((t.keys.filter fun key => key.1 = community).map snd).max? = some (n : ℤ) := by
    rw [max?_eq_some_iff]
    refine ⟨(hmem n).mpr (by omega), ?_⟩
    intro seq hseq
    exact ((hmem seq).mp hseq).2
  obtain ⟨row, hrow⟩ := isSome_iff_exists.mp ((h.rows n).mpr (by omega))
  refine ⟨row, hrow, hn, ?_⟩
  rw [hmax, bind_some, hrow]
  rfl

lemma Logged.nextEntry_ok (h : Logged P community t n)
    (he : nextEntry P t community new now = .ok e) :
    e.communityId = community ∧ e.seq = (n + 1 : ℕ) ∧ n + 1 ≤ isizeMax ∧
      e.hashVersion = currentHashVersion ∧
      e.prevHash = ((t.select community 1 n).reverse.head?).map (fun p => p.2.hash) ∧
      e.createdAt % 1000 = 0 ∧ computeHash P e = .ok e.hash := by
  obtain ⟨prevSeq, prevHash, hhead, hseq, hprev⟩ : ∃ (prevSeq : ℤ) (prevHash : Option (List UInt8)),
      (match t.head community with
        | some (seq, hash) => (seq, some hash)
        | none => ((0 : ℤ), none)) = (prevSeq, prevHash) ∧ prevSeq = n ∧
      prevHash = ((t.select community 1 n).reverse.head?).map (fun p => p.2.hash) := by
    obtain ⟨rfl, hnone⟩ | ⟨row, hrow, hn, hsome⟩ := h.head_cases
    · exact ⟨0, none, by rw [hnone], rfl, rfl⟩
    refine ⟨n, some row.hash, by rw [hsome], rfl, ?_⟩
    rw [head?_reverse, getLast?_select (by omega) hrow]
    rfl
  simp only [nextEntry, hhead, bind_eq_ok, refuseIf_eq_ok] at he
  obtain ⟨_, hbd, hash, hhash, heq⟩ := he
  subst hseq
  obtain rfl := Except.ok.inj heq
  refine ⟨rfl, by simp, by omega, rfl, hprev, ?_, hhash⟩
  simp only [toStoragePrecision]
  omega

lemma toEntry_toRow {e : AuditEntry} (h : e.createdAt % 1000 = 0) :
    e.toRow.toEntry e.communityId e.seq = .ok e := by
  have htime : e.createdAt / 1000 * 1000 = e.createdAt := by omega
  simp only [AuditRow.toEntry, AuditEntry.toRow, fromStr_asStr, htime]
  rfl

lemma Logged.insert (h : Logged P community t n) (hbd : n + 1 ≤ isizeMax)
    (hprev : row.prevHash = ((t.select community 1 n).reverse.head?).map (fun p => p.2.hash))
    (hchk : Checks P community (((n + 1 : ℕ) : ℤ), row))
    (hver : row.hashVersion = currentHashVersion) :
    Logged P community (t.insert (community, ((n + 1 : ℕ) : ℤ)) row) (n + 1) := by
  have hoth : ∀ seq : ℤ, seq ≠ (n + 1 : ℕ) →
      (t.insert (community, ((n + 1 : ℕ) : ℤ)) row).lookup (community, seq) =
        t.lookup (community, seq) := by
    intro seq hseq
    apply AList.lookup_insert_ne
    intro heq
    exact hseq (congrArg snd heq)
  have hselect : AuditLog.select (t.insert (community, ((n + 1 : ℕ) : ℤ)) row) community 1
      (n + 1 : ℕ) = t.select community 1 n ++ [(((n + 1 : ℕ) : ℤ), row)] := by
    rw [Int.natCast_succ, select_append (b := n) (by omega) (by omega), select_singleton,
      AList.lookup_insert]
    congr 1
    apply select_congr
    intro seq _ hle
    exact hoth seq (by omega)
  constructor
  · intro seq
    by_cases hseq : seq = (n + 1 : ℕ)
    · subst hseq
      rw [AList.lookup_insert]
      constructor
      · intro _
        omega
      · intro _
        rfl
    · rw [hoth seq hseq, h.rows seq]
      omega
  · rw [hselect, reverse_append]
    exact ⟨hprev, h.linked⟩
  · rw [hselect]
    intro p hp
    rcases mem_append.mp hp with hp | hp
    · exact h.checks p hp
    · obtain rfl := mem_singleton.mp hp
      exact ⟨hchk, hver⟩
  · exact hbd

lemma Logged.log (h : Logged P community t n) (call : NewAuditEntry × ℤ) :
    ∃ n', Logged P community (log P community t call) n' := by
  unfold Audit.log
  split
  case h_1 e he =>
    obtain ⟨hcomm, hseq, hbd, hver, hprev, htime, hhash⟩ := h.nextEntry_ok he
    have hent := toEntry_toRow htime
    rw [hcomm, hseq] at hent
    rw [hseq]
    exact ⟨n + 1, h.insert hbd hprev ⟨e, hent, hhash⟩ hver⟩
  case h_2 =>
    exact ⟨n, h⟩

theorem logged_logAll (hempty : ∀ seq, t.lookup (community, seq) = none)
    (calls : List (NewAuditEntry × ℤ)) :
    ∃ n, Logged P community (logAll P community t calls) n := by
  have hstart : Logged P community t 0 := by
    constructor
    · intro seq
      rw [hempty seq]
      constructor
      · intro h
        cases h
      · intro h
        omega
    · trivial
    · intro p hp
      cases hp
    · exact Nat.zero_le _
  refine foldlRecOn (motive := fun t => ∃ n, Logged P community t n) calls
    (Audit.log P community) ⟨0, hstart⟩ ?_
  rintro t ⟨n, h⟩ call _
  exact h.log call

/-! ### What a chain that verifies is -/

/-- A row of the current version is told by its hash from every other row that holds its own. -/
lemma eq_of_hash_eq {p p' : ℤ × AuditRow} (hver : p.2.hashVersion = currentHashVersion)
    (hp : 1 ≤ p.1 ∧ p.1 ≤ isizeMax) (hp' : 1 ≤ p'.1 ∧ p'.1 ≤ isizeMax)
    (hchk : Checks P community p) (hchecks' : Checks P community p')
    (hhash : p.2.hash = p'.2.hash) : p = p' := by
  obtain ⟨e, he, hcomp⟩ := hchk
  obtain ⟨e', he', hcomputed'⟩ := hchecks'
  obtain ⟨action, haction, rfl⟩ := toEntry_ok he
  obtain ⟨action', haction', rfl⟩ := toEntry_ok he'
  rw [← hhash] at hcomputed'
  obtain ⟨hsame, hversion'⟩ := sameContent_of_computeHash hver (by rfl) (by dsimp only; omega)
    (by dsimp only; omega) hcomp hcomputed'
  obtain ⟨seq, row⟩ := p
  obtain ⟨seq', row'⟩ := p'
  obtain ⟨-, hseq, htime, haction_eq, hact, hobject, hdetail, hprev⟩ := hsame
  dsimp only at *
  have htime' : row.createdAt = row'.createdAt := by
    simp only [toStoragePrecision] at htime
    omega
  have hname : row.action = row'.action := by
    rw [← asStr_of_fromStr haction, haction_eq, asStr_of_fromStr haction']
  cases row
  cases row'
  simp_all

/-- Verification succeeds if there are rows, each holds its own hash, and each but the first names
the one before. -/
lemma verifyChain_eq_true_iff : verifyChain P t community a b = .ok true ↔
    t.select community a b ≠ [] ∧ (∀ p ∈ t.select community a b, Checks P community p) ∧
      (t.select community a b).IsChain (fun p p' => p'.2.prevHash = some p.2.hash) := by
  unfold verifyChain
  cases t.select community a b with
  | nil => simp
  | cons p rows => simp [verifyRows_eq_true_iff]

/-- **Below its genuine last row, a table verifies just when it is the logged chain without some of
its first rows.** -/
theorem Logged.verifyChain_iff (h : Logged P community t n) (hn : 1 ≤ n) {t' : AuditLog}
    (hlast : t'.lookup (community, (n : ℤ)) = t.lookup (community, (n : ℤ))) :
    verifyChain P t' community 1 n = .ok true ↔
      ∃ m : ℕ, m < n ∧ t'.select community 1 n = t.select community (m + 1) n := by
  have hlen : ∀ m : ℕ, m ≤ n → (t.select community 1 m).length = m := by
    intro m hm
    apply length_select
    intro seq hlow hhigh
    exact (h.rows seq).mpr ⟨hlow, by omega⟩
  have hcut : ∀ m : ℕ, m ≤ n →
      t.select community 1 n = t.select community 1 m ++ t.select community (m + 1) n := by
    intro m hm
    exact select_append (by omega) (by omega)
  obtain ⟨row, hrow⟩ := isSome_iff_exists.mp ((h.rows n).mpr (by omega))
  rw [verifyChain_eq_true_iff]
  constructor
  · rintro ⟨hne, hchk, hchain⟩
    -- read from the last row back, the stored rows are the newest part of the logged chain
    have hprefix : (t'.select community 1 n).reverse <+: (t.select community 1 n).reverse := by
      apply h.linked.prefix_of_isChain
      · rw [isChain_reverse]
        exact hchain
      · intro p hp p' hp' hhash
        rw [mem_reverse] at hp hp'
        obtain ⟨⟨hlow, hhigh⟩, -⟩ := mem_select.mp hp
        obtain ⟨⟨hlow', hhigh'⟩, -⟩ := mem_select.mp hp'
        have hbd := h.bound
        exact eq_of_hash_eq (h.checks p hp).2 ⟨hlow, by omega⟩ ⟨hlow', by omega⟩
          (h.checks p hp).1 (hchk p' hp') hhash
      · rw [head?_reverse, head?_reverse, getLast?_select (by omega) hrow,
          getLast?_select (by omega) (hlast.trans hrow)]
    have hsuf := suffix_iff_eq_drop.mp (List.reverse_prefix.mp hprefix)
    have hpos := length_pos_iff.mpr hne
    rw [hlen n le_rfl] at hsuf
    obtain ⟨m, hm, hdrop⟩ : ∃ m, m < n ∧
        t'.select community 1 n = (t.select community 1 n).drop m := ⟨_, by omega, hsuf⟩
    refine ⟨m, hm, ?_⟩
    rw [hdrop, hcut m hm.le]
    exact drop_left' (hlen m hm.le)
  rintro ⟨m, hm, heq⟩
  have hrows : t.select community (m + 1) n <:+ t.select community 1 n := by
    rw [hcut m (by omega)]
    exact suffix_append _ _
  rw [heq]
  refine ⟨?_, ?_, ?_⟩
  · have hmem : ((n : ℤ), row) ∈ t.select community (m + 1) n :=
      mem_select.mpr ⟨⟨by dsimp only; omega, le_rfl⟩, hrow⟩
    exact ne_nil_of_mem hmem
  · intro p hp
    exact (h.checks p (hrows.subset hp)).1
  have hchain := h.linked.isChain
  rw [isChain_reverse] at hchain
  exact hchain.suffix hrows

/-- **Tampering shows, but for a missing beginning.**  After any calls for a community, and any
change of the table that leaves the last row, a successful verification means that the rows are the
logged ones, just if the change is not this: some of the first rows deleted, and nothing else. -/
theorem verifyChain_detects_iff (P : Primitives) (community : Uuid) (t : AuditLog)
    (hempty : ∀ seq, t.lookup (community, seq) = none) (calls : List (NewAuditEntry × ℤ)) (n : ℤ)
    (hn : ((logAll P community t calls).head community).map fst = some n) (t' : AuditLog)
    (hlast : t'.lookup (community, n) = (logAll P community t calls).lookup (community, n)) :
    (verifyChain P t' community 1 n = .ok true →
      ∀ seq, 1 ≤ seq → seq ≤ n →
        t'.lookup (community, seq) = (logAll P community t calls).lookup (community, seq)) ↔
    ¬ ∃ m, 1 ≤ m ∧ m < n ∧ ∀ seq, 1 ≤ seq → seq ≤ n → t'.lookup (community, seq) =
      if seq ≤ m then none else (logAll P community t calls).lookup (community, seq) := by
  obtain ⟨k, h⟩ := logged_logAll (P := P) hempty calls
  generalize logAll P community t calls = s at *
  obtain ⟨-, hnone⟩ | ⟨row, hrow, hk, hsome⟩ := h.head_cases
  · rw [hnone] at hn
    cases hn
  rw [hsome] at hn
  obtain rfl : (k : ℤ) = n := some.inj hn
  rw [h.verifyChain_iff hk hlast]
  constructor
  · rintro hdetects ⟨m, hm, hmk, hdeleted⟩
    -- the first row is among the deleted ones
    have hsuffix := (select_eq_suffix_iff (by omega) (by omega)).mpr hdeleted
    have hfirst := hdetects ⟨m.toNat, by omega, by rwa [Int.toNat_of_nonneg (by omega)]⟩ 1 le_rfl
      (by omega)
    rw [hdeleted 1 le_rfl (by omega), if_pos hm] at hfirst
    have hthere := (h.rows 1).mpr (by omega)
    rw [← hfirst] at hthere
    cases hthere
  rintro hnot ⟨m, hm, heq⟩ seq hlow hhigh
  have hdeleted := (select_eq_suffix_iff (by omega) (by omega)).mp heq
  obtain rfl | hpos := Nat.eq_zero_or_pos m
  · rw [hdeleted seq hlow hhigh, if_neg (by omega)]
  · exact absurd ⟨m, by omega, by omega, hdeleted⟩ hnot

end Logged

/-! ### A chain without its first row -/

def demoCall : NewAuditEntry × ℤ :=
  (⟨.eventCreated, some [171], some "obj", ⟨.object [("test", .bool true)], by decide⟩⟩, 0)

def demoLog : AuditLog := logAll demoPrimitives ⟨1⟩ ∅ [demoCall, demoCall]

/-- Two rows are logged and the first is deleted: the chain still verifies from its start. -/
theorem verifyChain_without_first :
    (demoLog.head ⟨1⟩).map fst = some 2 ∧
    (demoLog.lookup (⟨1⟩, 1)).isSome = true ∧
    (demoLog.erase (⟨1⟩, 1)).lookup (⟨1⟩, 2) = demoLog.lookup (⟨1⟩, 2) ∧
    verifyChain demoPrimitives (demoLog.erase (⟨1⟩, 1)) ⟨1⟩ 1 2 = .ok true ∧
    (demoLog.erase (⟨1⟩, 1)).lookup (⟨1⟩, 1) = none := by
  refine ⟨by decide +kernel, by decide +kernel, ?_, by decide +kernel, AList.lookup_erase _ _⟩
  exact AList.lookup_erase_ne (by decide)

def demoEdited : AuditLog :=
  (demoLog.lookup (⟨1⟩, 1)).elim demoLog fun row =>
    demoLog.insert (⟨1⟩, 1) { row with objectId := some "other" }

theorem demo_verifyChain_detects :
    verifyChain demoPrimitives demoEdited ⟨1⟩ 1 2 = .error (.hashMismatch 1) ∧
    ¬ ∃ m, 1 ≤ m ∧ m < 2 ∧ ∀ seq, 1 ≤ seq → seq ≤ 2 → demoEdited.lookup (⟨1⟩, seq) =
      if seq ≤ m then none else demoLog.lookup (⟨1⟩, seq) := by
  have hshows : verifyChain demoPrimitives demoEdited ⟨1⟩ 1 2 = .error (.hashMismatch 1) := by
    decide +kernel
  have hlast : demoEdited.lookup (⟨1⟩, 2) = demoLog.lookup (⟨1⟩, 2) := by
    unfold demoEdited
    generalize demoLog = s
    cases s.lookup (⟨1⟩, 1) with
    | none => rfl
    | some row => exact AList.lookup_insert_ne (by decide)
  refine ⟨hshows, (verifyChain_detects_iff demoPrimitives ⟨1⟩ ∅ (fun _ => AList.lookup_empty _)
    [demoCall, demoCall] 2 (by decide +kernel) demoEdited hlast).mp ?_⟩
  intro htrue
  rw [hshows] at htrue
  cases htrue

end Buzz.Audit
