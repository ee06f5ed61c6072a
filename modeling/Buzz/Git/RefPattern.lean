import Buzz.Git.Manifest

/-!
Ref patterns and protection rules.

A repository announcement protects refs with tags of a pattern and some rules.  A pattern is a ref name
with whole segments as wildcards; a `**` stands for the rest of the name and is the last segment, which
`RefPattern` carries as a proof, so that matching meets it nowhere else (`tryMatches_eq`).
-/

namespace Buzz.Git

open Lib List Nat

/-! ### Roles -/

/-- A member's role in a channel. -/
inductive MemberRole
  | owner | admin | member | guest | bot
deriving DecidableEq

namespace MemberRole

def asStr : MemberRole → String
  | owner => "owner"
  | admin => "admin"
  | member => "member"
  | guest => "guest"
  | bot => "bot"

def fromStr (s : String) : Option MemberRole :=
  [owner, admin, member, guest, bot].find? fun role => role.asStr = s

def isElevated : MemberRole → Bool
  | owner | admin => true
  | member | guest | bot => false

def permissionLevel : MemberRole → ℕ
  | owner => 4
  | admin => 3
  | member => 2
  | guest => 1
  | bot => 0

def hasAtLeast (self required : MemberRole) : Bool :=
  self.permissionLevel ≥ required.permissionLevel

@[simp] lemma fromStr_asStr (role : MemberRole) : fromStr role.asStr = some role := by
  cases role <;> decide

lemma asStr_injective : Function.Injective asStr := by
  intro a b h
  have hsome : some a = some b := by rw [← fromStr_asStr a, ← fromStr_asStr b, h]
  exact Option.some.inj hsome

lemma permissionLevel_injective : Function.Injective permissionLevel := by
  intro a b h
  cases a <;> cases b <;> first | rfl | cases h

def strictest (existing : Option MemberRole) (role : MemberRole) : MemberRole :=
  match existing with
  | none => role
  | some existing => if role.permissionLevel > existing.permissionLevel then role else existing

end MemberRole

open MemberRole

/-! ### Patterns -/

def maxPatternLength : ℕ := 256
def maxWildcardsPerPattern : ℕ := 3

inductive PatternSegment
  | literal (text : String)
  | wildcard
  | recursiveWildcard
deriving DecidableEq

inductive PatternError
  | empty
  | tooLong
  | missingRefsPrefix
  | invalidSegment (segment : String)
  | tooManyWildcards

def splitSlash (name : String) : List String :=
  (name.toList.splitOn '/').map String.ofList

/-- A pattern, with `**` as its last segment only. -/
structure RefPattern where
  raw : String
  segments : List PatternSegment
  recursiveLast : .recursiveWildcard ∉ segments.dropLast

namespace RefPattern

def isPatternChar (c : Char) : Bool := isAsciiAlphanumeric c || c = '.' || c = '_' || c = '-'

def parseSegments (wildcardCount : ℕ) : List String → Except PatternError (List PatternSegment)
  | [] => .ok []
  | part :: rest =>
    if part = "**" then
      if rest ≠ [] then .error (.invalidSegment "** must be the last segment")
      else if wildcardCount + 1 > maxWildcardsPerPattern then .error .tooManyWildcards
      else do
        let segments ← parseSegments (wildcardCount + 1) rest
        pure (.recursiveWildcard :: segments)
    else if part = "*" then
      if wildcardCount + 1 > maxWildcardsPerPattern then .error .tooManyWildcards
      else do
        let segments ← parseSegments (wildcardCount + 1) rest
        pure (.wildcard :: segments)
    else if part = "" then .error (.invalidSegment "")
    -- partial globs
    else if part.toList.any fun c => c = '*' || c = '?' || c = '[' || c = ']' then
      .error (.invalidSegment part)
    else if !part.toList.all isPatternChar then .error (.invalidSegment part)
    else do
      let segments ← parseSegments wildcardCount rest
      pure (.literal part :: segments)

/-! ### The grammar -/

def isWild (part : String) : Bool := part = "**" || part = "*"

/-- A part of a pattern: a wildcard or a literal. -/
def Allowed (part : String) : Prop :=
  isWild part ∨ part ≠ "" ∧ part.toList.all isPatternChar

def segmentOf (part : String) : PatternSegment :=
  if part = "**" then .recursiveWildcard else if part = "*" then .wildcard else .literal part

/-- The documented grammar: a name under `refs/` with a few whole segments as wildcards, and `**` as the
last segment only. -/
structure Grammar (pattern : String) : Prop where
  short : pattern.utf8ByteSize ≤ maxPatternLength
  refs : startsWith pattern "refs/"
  parts : ∀ part ∈ splitSlash pattern, Allowed part
  last : "**" ∉ (splitSlash pattern).dropLast
  wildcards : (splitSlash pattern).countP isWild ≤ maxWildcardsPerPattern

section Parsing

variable {part : String} {parts : List String} {n : ℕ} {segments : List PatternSegment}

lemma parseSegments_cons : parseSegments n (part :: parts) = .ok segments ↔
    ∃ tail, parseSegments (n + (isWild part).toNat) parts = .ok tail ∧
      segments = segmentOf part :: tail ∧ Allowed part ∧ (part = "**" → parts = []) ∧
      (isWild part → n + 1 ≤ maxWildcardsPerPattern) := by
  rw [parseSegments]
  split_ifs with hdbl hrest hcnt hsing hcnt hemp hglob hcs
  · simp [hdbl, hrest]
  · simp [hdbl, isWild, not_le.mpr hcnt]
  · rw [bind_eq_ok]
    simp [eq_comm (b := segments), hdbl, isWild, segmentOf, Allowed, not_not.mp hrest,
      not_lt.mp hcnt]
  · simp [hsing, isWild, not_le.mpr hcnt]
  · rw [bind_eq_ok]
    simp [eq_comm (b := segments), hsing, isWild, segmentOf, Allowed, not_lt.mp hcnt]
  · simp [hemp, Allowed, isWild]
  · -- a partial glob has a character that no literal has
    obtain ⟨c, hc, hglob⟩ := any_eq_true.mp hglob
    have hnot : isPatternChar c = false := by
      simp only [Bool.or_eq_true, decide_eq_true_eq] at hglob
      rcases hglob with ((rfl | rfl) | rfl) | rfl <;> decide
    have hcs : part.toList.all isPatternChar = false := all_eq_false.mpr ⟨c, hc, by simp [hnot]⟩
    simp [hdbl, hsing, Allowed, isWild, hcs]
  · simp [hdbl, hsing, Allowed, isWild, Bool.not_eq_true' _ ▸ hcs]
  rw [Bool.not_eq_true, Bool.not_eq_false'] at hcs
  rw [bind_eq_ok]
  simp [eq_comm (b := segments), hdbl, hsing, isWild, segmentOf, Allowed, hemp, hcs]

lemma parseSegments_eq_ok (hn : n ≤ maxWildcardsPerPattern) :
    parseSegments n parts = .ok segments ↔ segments = parts.map segmentOf ∧
      (∀ part ∈ parts, Allowed part) ∧ "**" ∉ parts.dropLast ∧
      n + parts.countP isWild ≤ maxWildcardsPerPattern := by
  induction parts generalizing n segments with
  | nil => simp [parseSegments, hn, eq_comm]
  | cons part rest ih =>
    have hlast : "**" ∉ (part :: rest).dropLast ↔ (part = "**" → rest = []) ∧ "**" ∉ rest.dropLast := by
      cases rest <;> simp [eq_comm]
    have hcons : (part :: rest).countP isWild = (isWild part).toNat + rest.countP isWild := by
      cases hwild : isWild part <;> simp [hwild, add_comm]
    have hcnt : (isWild part → n + 1 ≤ maxWildcardsPerPattern) ↔
        n + (isWild part).toNat ≤ maxWildcardsPerPattern := by
      cases isWild part <;> simp [hn]
    rw [parseSegments_cons, map_cons, hcons, forall_mem_cons, hlast, hcnt, ← add_assoc]
    constructor
    · rintro ⟨tail, htail, rfl, hpart, hdbl, hroom⟩
      obtain ⟨rfl, hpts, hrest, hsum⟩ := (ih hroom).mp htail
      exact ⟨rfl, ⟨hpart, hpts⟩, ⟨hdbl, hrest⟩, hsum⟩
    rintro ⟨rfl, ⟨hpart, hpts⟩, ⟨hdbl, hrest⟩, hsum⟩
    have hroom := le_of_add_right_le hsum
    exact ⟨_, (ih hroom).mpr ⟨rfl, hpts, hrest, hsum⟩, rfl, hpart, hdbl, hroom⟩

lemma recursiveLast_of_parseSegments (h : parseSegments 0 parts = .ok segments) :
    .recursiveWildcard ∉ segments.dropLast := by
  obtain ⟨rfl, -, hlast, -⟩ := (parseSegments_eq_ok (zero_le _)).mp h
  rw [← map_dropLast]
  intro hmem
  obtain ⟨part, hpart, hsegment⟩ := mem_map.mp hmem
  rw [segmentOf] at hsegment
  split_ifs at hsegment with hdbl
  exact hlast (hdbl ▸ hpart)

end Parsing

def parse (pattern : String) : Except PatternError RefPattern :=
  if pattern = "" then .error .empty
  else if pattern.utf8ByteSize > maxPatternLength then .error .tooLong
  else if !startsWith pattern "refs/" then .error .missingRefsPrefix
  else
    match h : parseSegments 0 (splitSlash pattern) with
    | .error err => .error err
    | .ok segments => .ok ⟨pattern, segments, recursiveLast_of_parseSegments h⟩

/-! ### Matching -/

/-- Whether a segment of a name fits one of the pattern.  The code does not expect `**` here. -/
def accepts : PatternSegment → String → Option Bool
  | .literal text, segment => some (text = segment)
  | .wildcard, _ => some true
  | .recursiveWildcard, _ => none

def allAccept : List PatternSegment → List String → Option Bool
  | pattern :: patterns, segment :: segments => do
    if ← accepts pattern segment then allAccept patterns segments else some false
  | _, _ => some true

def tryMatches (p : RefPattern) (refName : String) : Option Bool :=
  let refSegments := splitSlash refName
  if p.segments.getLast? = some .recursiveWildcard then
    let prefixLen := p.segments.length - 1
    if refSegments.length ≤ prefixLen then some false
    else allAccept (p.segments.take prefixLen) (refSegments.take prefixLen)
  else if refSegments.length ≠ p.segments.length then some false
  else allAccept p.segments refSegments

/-- A wildcard stands for one segment, and a final `**` for one or more. -/
inductive Matches : List PatternSegment → List String → Prop
  | nil : Matches [] []
  | literal {patterns segments} (text : String) :
    Matches patterns segments → Matches (.literal text :: patterns) (text :: segments)
  | wildcard {patterns segments} (segment : String) :
    Matches patterns segments → Matches (.wildcard :: patterns) (segment :: segments)
  | rest (segment : String) (segments : List String) :
    Matches [.recursiveWildcard] (segment :: segments)

section Matching

variable {patterns : List PatternSegment} {text segment : String} {segments : List String}

lemma matches_wildcard_cons :
    Matches (.wildcard :: patterns) (segment :: segments) ↔ Matches patterns segments :=
  ⟨fun | .wildcard _ h => h, .wildcard segment⟩

lemma matches_literal_cons : Matches (.literal text :: patterns) (segment :: segments) ↔
    text = segment ∧ Matches patterns segments :=
  ⟨fun | .literal _ h => ⟨rfl, h⟩, fun ⟨htext, h⟩ => htext ▸ .literal text h⟩

/-- The matcher comes to a verdict, which is the meaning of the pattern. -/
lemma tryMatches_eq (p : RefPattern) (refName : String) :
    ∃ verdict, p.tryMatches refName = some verdict ∧
      (verdict ↔ Matches p.segments (splitSlash refName)) := by
  unfold tryMatches
  have hlast := p.recursiveLast
  generalize p.segments = patterns, splitSlash refName = segments at hlast
  induction patterns generalizing segments with
  | nil =>
    cases segments with
    | nil => exact ⟨true, rfl, iff_of_true rfl .nil⟩
    | cons segment segments => exact ⟨false, rfl, iff_of_false nofun nofun⟩
  | cons pattern patterns ih =>
    have hrest : .recursiveWildcard ∉ patterns.dropLast := by cases patterns <;> simp_all
    cases segments with
    | nil => exact ⟨false, by simp, iff_of_false nofun nofun⟩
    | cons segment segments =>
      obtain ⟨verdict, hver, hmng⟩ := ih segments hrest
      cases pattern with
      | recursiveWildcard =>
        cases patterns with
        | nil => exact ⟨true, rfl, iff_of_true rfl (.rest segment segments)⟩
        | cons => simp at hlast
      | wildcard =>
        refine ⟨verdict, ?_, hmng.trans matches_wildcard_cons.symm⟩
        rw [← hver]
        cases patterns <;> simp [allAccept, accepts]
      | literal text =>
        rw [matches_literal_cons]
        by_cases htext : text = segment
        · refine ⟨verdict, ?_, by simpa [htext] using hmng⟩
          rw [← hver]
          cases patterns <;> simp [allAccept, accepts, htext]
        · refine ⟨false, ?_, by simp [htext]⟩
          cases patterns <;> simp [allAccept, accepts, htext]

end Matching

lemma isSome_tryMatches (p : RefPattern) (refName : String) : (p.tryMatches refName).isSome := by
  obtain ⟨verdict, hver, -⟩ := p.tryMatches_eq refName
  rw [hver]
  rfl

def matchesRef (p : RefPattern) (refName : String) : Bool :=
  (p.tryMatches refName).get (p.isSome_tryMatches refName)

lemma parse_cases (pattern : String) :
    (∃ p, parse pattern = .ok p ∧ p.raw = pattern ∧ p.segments = (splitSlash pattern).map segmentOf ∧
      Grammar pattern) ∨ (∃ err, parse pattern = .error err) ∧ ¬Grammar pattern := by
  have hsegs := @parseSegments_eq_ok (splitSlash pattern) 0
  rw [parse]
  split_ifs with hemp hlong hrefs
  · exact .inr ⟨⟨_, rfl⟩, fun h => absurd (hemp ▸ h.refs) (by decide)⟩
  · exact .inr ⟨⟨_, rfl⟩, fun h => absurd h.short (not_le.mpr hlong)⟩
  · exact .inr ⟨⟨_, rfl⟩, fun h => by simp [h.refs] at hrefs⟩
  split
  · next err herr =>
    refine .inr ⟨⟨_, rfl⟩, fun h => ?_⟩
    rw [(hsegs (zero_le _)).mpr ⟨rfl, h.parts, h.last, by simpa using h.wildcards⟩] at herr
    cases herr
  next segments hok =>
  obtain ⟨hmap, hpts, hlast, hcnt⟩ := (hsegs (zero_le _)).mp hok
  exact .inl ⟨_, rfl, rfl, hmap, not_lt.mp hlong, by simpa using hrefs, hpts, hlast,
    by simpa using hcnt⟩

/-- **Patterns.** A pattern is accepted exactly if it is in the grammar; it is kept as written, and in
segments; and it matches what its segments mean, without the matcher ever meeting a `**` that it does
not expect. -/
theorem parse_spec (pattern : String) :
    ((∃ p, parse pattern = .ok p) ↔ Grammar pattern) ∧
    ∀ p, parse pattern = .ok p → p.raw = pattern ∧
      p.segments = (splitSlash pattern).map segmentOf ∧ ∀ refName,
        (∃ verdict, p.tryMatches refName = some verdict) ∧
        (p.matchesRef refName = true ↔
          Matches ((splitSlash pattern).map segmentOf) (splitSlash refName)) := by
  rcases parse_cases pattern with ⟨p, hp, hraw, hsegments, hgrammar⟩ | ⟨⟨err, herr⟩, hnot⟩
  · refine ⟨iff_of_true ⟨p, hp⟩ hgrammar, fun p' hp' => ?_⟩
    obtain rfl : p = p' := Except.ok.inj (hp.symm.trans hp')
    refine ⟨hraw, hsegments, fun refName => ?_⟩
    obtain ⟨verdict, hverdict, hmeaning⟩ := p.tryMatches_eq refName
    rw [hsegments] at hmeaning
    exact ⟨⟨verdict, hverdict⟩, by simpa only [matchesRef, hverdict, Option.get_some] using hmeaning⟩
  refine ⟨iff_of_false (fun ⟨p, hp⟩ => ?_) hnot, fun p hp => ?_⟩
  · cases herr.symm.trans hp
  · cases herr.symm.trans hp

end RefPattern

/-! ### Rules -/

structure ProtectionRule where
  pattern : RefPattern
  pushRole : Option MemberRole
  noForcePush : Bool
  noDelete : Bool
  requirePatch : Bool

end Buzz.Git
