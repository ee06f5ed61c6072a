import Buzz.Git.RepoName
import Buzz.Lib.Text
import Buzz.Mesh.Membership

/-!
The text of a session lease.

A lease is stored as `owner|generation|profile`: the owner in hexadecimal digits, and the generation
as the script's language writes a number.  That language has no integers and writes a large number
with an exponent, of which only that is assumed; a lease with such a generation is written but cannot
be read back.
-/

namespace Buzz.Tunnel

open Buzz.Core Lib List
open Mesh (RuntimeId)

/-! ### Leases -/

inductive Profile
  | reliableStream | realtimeMedia | huddleControl
deriving DecidableEq

def Profile.asWireStr : Profile → String
  | .reliableStream => "reliable-stream"
  | .realtimeMedia => "realtime-media"
  | .huddleControl => "huddle-control"

def profileFromWire (value : List Char) : Option Profile :=
  if value = "reliable-stream".toList then some .reliableStream
  else if value = "realtime-media".toList then some .realtimeMedia
  else if value = "huddle-control".toList then some .huddleControl
  else none

structure SessionLease where
  communityId : CommunityId
  sessionId : Uuid
  ownerRuntimeId : RuntimeId
  generation : ℕ
  profile : Profile

inductive DirectoryError
  | pool (message : String)
  | redis (message : String)
  | malformedLease (communityId : CommunityId) (sessionId : Uuid) (value : List Char)
  | malformedGeneration (communityId : CommunityId) (sessionId : Uuid) (value : List Char)
  | unexpectedScriptStatus
  | invalidLeaseTtl
  | communityWriteFenced (message : String)
  /-- Not an error of the source but the panic of an `expect`. -/
  | expectFailed (message : String)
deriving DecidableEq

/-! ### Numbers of the script's language -/

/-- `tostring` of a whole number: all its digits up to fourteen of them, and an exponent beyond. -/
structure LuaNumbers where
  tostring : ℕ → List Char
  tostring_small : ∀ n < 100000000000000, tostring n = Nat.toDigits 10 n
  tostring_large : ∀ n, 100000000000000 ≤ n → 'e' ∈ tostring n
  noBar : ∀ n, '|' ∉ tostring n

/-! ### Hexadecimal digits -/

def hexValue (c : Char) : Option ℕ :=
  if '0' ≤ c ∧ c ≤ '9' then some (c.toNat - 48)
  else if 'a' ≤ c ∧ c ≤ 'f' then some (c.toNat - 87)
  else if 'A' ≤ c ∧ c ≤ 'F' then some (c.toNat - 55)
  else none

def hexNumber (s : List Char) : Option ℕ :=
  s.foldlM (fun n c => (hexValue c).map fun d => 16 * n + d) 0

def runtimeIdFromHex (s : List Char) : Option RuntimeId :=
  if s.length = 64 then (hexNumber s).map fun n => ⟨BitVec.ofNat 256 n⟩ else none

/-! ### Reading and writing -/

/-- `owner .. '|' .. tostring(generation) .. '|' .. profile`. -/
def leaseValue (L : LuaNumbers) (owner : List Char) (generation : ℕ) (profile : List Char) :
    List Char :=
  owner ++ '|' :: (L.tostring generation ++ '|' :: profile)

/-- `string.match(current, '^([^|]+)|([^|]+)|([^|]+)$')`. -/
def matchLease (current : List Char) : Option (List Char × List Char × List Char) :=
  match current.splitOn '|' with
  | [owner, generation, profile] =>
    if owner ≠ [] ∧ generation ≠ [] ∧ profile ≠ [] then some (owner, generation, profile) else none
  | _ => none

variable (communityId : CommunityId) (sessionId : Uuid)

def parseLease (value : List Char) : Except DirectoryError SessionLease := do
  let malformed : DirectoryError := .malformedLease communityId sessionId value
  let parts := value.splitOn '|'
  let ownerHex ← okOr parts[0]? malformed
  let text ← okOr parts[1]? malformed
  let generation ← okOr (parseU64 text) malformed
  refuseIf (generation = 0) malformed
  let profile ← okOr (parts[2]?.bind profileFromWire) malformed
  refuseIf (parts[3]?.isSome) malformed
  let owner ← okOr (runtimeIdFromHex ownerHex) malformed
  return ⟨communityId, sessionId, owner, generation, profile⟩

def parseOptionalLease (value : List Char) : Except DirectoryError (Option SessionLease) :=
  if value = [] then .ok none else (parseLease communityId sessionId value).map some

def parseOptionalGeneration (value : List Char) : Except DirectoryError (Option ℕ) := do
  if value = [] then return none
  let malformed : DirectoryError := .malformedGeneration communityId sessionId value
  let generation ← okOr (parseU64 value) malformed
  refuseIf (generation = 0) malformed
  return some generation

/-! ### What is written can be read -/

section Hex

lemma hexValue_hexDigit : ∀ d < 16, hexValue (hexDigit d) = some d := by decide

lemma hexNumber_append (s : List Char) (c : Char) :
    hexNumber (s ++ [c]) = (hexNumber s).bind fun n => (hexValue c).map fun d => 16 * n + d := by
  simp only [hexNumber, foldlM_append]
  cases hexNumber s <;> simp

lemma hexNumber_hexDigits (h : n < 16 ^ w) : hexNumber (hexDigits w n) = some n := by
  induction w generalizing n with
  | zero =>
    have hn : n = 0 := by omega
    subst hn
    rfl
  | succ w ih =>
    have hdiv : n / 16 < 16 ^ w := by
      rw [Nat.pow_succ] at h
      omega
    rw [hexDigits, hexNumber_append, ih hdiv, Option.bind_some,
      hexValue_hexDigit _ (Nat.mod_lt _ (by decide)), Option.map_some]
    congr 1
    omega

variable (id : RuntimeId)

lemma runtimeIdFromHex_toHex : runtimeIdFromHex id.toHex.toList = some id := by
  have hbd : id.bits.toNat < 16 ^ 64 := id.bits.isLt
  simp only [RuntimeId.toHex, String.toList_ofList, runtimeIdFromHex, Git.length_hexDigits, if_true,
    hexNumber_hexDigits hbd, Option.map_some]
  rw [BitVec.ofNat_toNat, BitVec.setWidth_eq]

lemma toHex_injective : Function.Injective RuntimeId.toHex := by
  intro a b h
  have hsome := runtimeIdFromHex_toHex a
  rw [h, runtimeIdFromHex_toHex b] at hsome
  exact (Option.some.inj hsome).symm

lemma hexDigit_ne_bar : ∀ d < 16, hexDigit d ≠ '|' := by decide

lemma bar_not_mem_hexDigits (w n : ℕ) : '|' ∉ hexDigits w n := by
  induction w generalizing n with
  | zero => exact not_mem_nil
  | succ w ih =>
    rw [hexDigits, mem_append, mem_singleton, not_or]
    exact ⟨ih _, (hexDigit_ne_bar _ (Nat.mod_lt _ (by decide))).symm⟩

lemma bar_not_mem_toHex : '|' ∉ id.toHex.toList := by
  simp [RuntimeId.toHex, bar_not_mem_hexDigits]

lemma toHex_ne_nil : id.toHex.toList ≠ [] := by
  rw [ne_eq, ← length_eq_zero_iff]
  simp [RuntimeId.toHex]

end Hex

lemma profileFromWire_asWireStr (p : Profile) : profileFromWire p.asWireStr.toList = some p := by
  cases p <;> decide

lemma bar_not_mem_asWireStr (p : Profile) : '|' ∉ p.asWireStr.toList := by
  cases p <;> decide

lemma asWireStr_ne_nil (p : Profile) : p.asWireStr.toList ≠ [] := by
  cases p <;> decide

section Texts

variable (L : LuaNumbers) (owner : RuntimeId) (generation : ℕ) (profile : Profile)

def leaseText : List Char := leaseValue L owner.toHex.toList generation profile.asWireStr.toList

lemma tostring_ne_nil : L.tostring generation ≠ [] := by
  rcases lt_or_ge generation 100000000000000 with h | h
  · rw [L.tostring_small _ h]
    exact Nat.toDigits_ne_nil
  · exact ne_nil_of_mem (L.tostring_large _ h)

lemma leaseText_ne_nil : leaseText L owner generation profile ≠ [] := by
  simp [leaseText, leaseValue]

lemma splitOn_leaseText : (leaseText L owner generation profile).splitOn '|' =
    [owner.toHex.toList, L.tostring generation, profile.asWireStr.toList] := by
  have hpts : (['|'].intercalate [owner.toHex.toList, L.tostring generation,
      profile.asWireStr.toList]).splitOn '|' =
        [owner.toHex.toList, L.tostring generation, profile.asWireStr.toList] :=
    splitOn_intercalate '|' (by simp [bar_not_mem_toHex, L.noBar, bar_not_mem_asWireStr]) (by simp)
  rw [← hpts]
  simp [leaseText, leaseValue, intercalate]

lemma matchLease_leaseText : matchLease (leaseText L owner generation profile) =
    some (owner.toHex.toList, L.tostring generation, profile.asWireStr.toList) := by
  unfold matchLease
  rw [splitOn_leaseText]
  simp only [toHex_ne_nil, tostring_ne_nil, asWireStr_ne_nil, ne_eq, not_false_eq_true, and_self,
    if_true]

lemma parseU64_tostring (h : generation < 100000000000000) :
    parseU64 (L.tostring generation) = some generation := by
  rw [L.tostring_small _ h]
  exact parseUnsigned_toDigits (by unfold maxU64; omega)

lemma tostring_eq_toDigits {generation n : ℕ} (h : L.tostring generation = Nat.toDigits 10 n) :
    generation = n := by
  rcases lt_or_ge generation 100000000000000 with hsm | hlg
  · rw [L.tostring_small _ hsm] at h
    have hval := congrArg (fun digits => Nat.ofDigitChars 10 digits 0) h
    simpa only [Nat.ofDigitChars_ten_toDigits] using hval
  have he : 'e' ∈ Nat.toDigits 10 n := h ▸ L.tostring_large _ hlg
  have hdg : 'e'.isDigit := isDigit_of_mem_toDigits he
  cases hdg

variable (communityId : CommunityId) (sessionId : Uuid)

/-- **A lease is read back**, if its generation is written in full. -/
theorem parseLease_leaseText (hpos : 0 < generation) (h : generation < 100000000000000) :
    parseLease communityId sessionId (leaseText L owner generation profile) =
      .ok ⟨communityId, sessionId, owner, generation, profile⟩ := by
  simp only [parseLease, splitOn_leaseText, getElem?_cons_zero, getElem?_cons_succ,
    getElem?_nil, okOr_some, ok_bind, parseU64_tostring L generation h, Option.bind_some,
    profileFromWire_asWireStr, runtimeIdFromHex_toHex, refuseIf, hpos.ne', if_false]
  rfl

theorem parseLease_leaseText_large (h : 100000000000000 ≤ generation) :
    parseLease communityId sessionId (leaseText L owner generation profile) =
      .error (.malformedLease communityId sessionId (leaseText L owner generation profile)) := by
  simp only [parseLease, splitOn_leaseText, getElem?_cons_zero, getElem?_cons_succ,
    okOr_some, ok_bind, parseU64,
    parseUnsigned_eq_none (L.tostring_large generation h) (by decide) (by decide)]
  rfl

lemma eq_of_parseLease_leaseText (hpos : 0 < generation)
    (h : parseLease communityId sessionId (leaseText L owner generation profile) = .ok lease) :
    lease = ⟨communityId, sessionId, owner, generation, profile⟩ := by
  rcases lt_or_ge generation 100000000000000 with hsm | hlg
  · rw [parseLease_leaseText L owner generation profile _ _ hpos hsm] at h
    exact (Except.ok.inj h).symm
  · rw [parseLease_leaseText_large L owner generation profile _ _ hlg] at h
    cases h

end Texts

end Buzz.Tunnel
