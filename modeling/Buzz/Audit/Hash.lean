import Buzz.Core.Json
import Buzz.Git.PktLine
import Buzz.Lib.Guard
import Buzz.Lib.Tlv

/-!
Audit entries and their hashes.

An entry of the audit log is hashed over all its fields.  The current encoding tags each field and
gives its length; the historical one concatenates.  SHA-256 and the text of a timestamp come from
libraries: `Primitives` holds what is used of them, that the hash is treated as injective and that
timestamps have different texts, which begin with a digit or a sign.

`sameContent_of_computeHash` is what the chain rests on: an entry of the current version is
determined by its hash, among all entries of its community, whatever version they claim to have.
`tlvEncoded_unambiguous` is about the encodings alone, and all communities.
-/

namespace Buzz.Audit

open Lib Buzz.Core List Option
open Git (utf8 utf8_injective)

/-- SHA-256, and the RFC 3339 text of a time in nanoseconds. -/
structure Primitives where
  sha256 : List UInt8 → List UInt8
  sha256_injective : Function.Injective sha256
  rfc3339 : ℤ → List UInt8
  rfc3339_injective : Function.Injective rfc3339
  /-- A digit, or the sign of a year out of the ordinary. -/
  rfc3339_begins : ∀ t, ∃ b text, rfc3339 t = b :: text ∧ (48 ≤ b ∧ b ≤ 57 ∨ b = 43 ∨ b = 45)

/-! ### Entries -/

inductive AuditAction
  | eventCreated | eventDeleted | channelCreated | channelUpdated | channelDeleted | memberAdded
  | memberRemoved | authSuccess | authFailure | rateLimitExceeded | mediaUploaded
deriving DecidableEq

namespace AuditAction

def asStr : AuditAction → String
  | eventCreated => "event_created"
  | eventDeleted => "event_deleted"
  | channelCreated => "channel_created"
  | channelUpdated => "channel_updated"
  | channelDeleted => "channel_deleted"
  | memberAdded => "member_added"
  | memberRemoved => "member_removed"
  | authSuccess => "auth_success"
  | authFailure => "auth_failure"
  | rateLimitExceeded => "rate_limit_exceeded"
  | mediaUploaded => "media_uploaded"

def all : List AuditAction :=
  [eventCreated, eventDeleted, channelCreated, channelUpdated, channelDeleted, memberAdded,
    memberRemoved, authSuccess, authFailure, rateLimitExceeded, mediaUploaded]

def fromStr (s : String) : Option AuditAction := all.find? fun a => a.asStr = s

lemma fromStr_asStr (a : AuditAction) : fromStr a.asStr = some a := by
  cases a <;> decide

lemma asStr_of_fromStr (h : fromStr s = some a) : a.asStr = s := by
  simpa using find?_some h

lemma asStr_injective : Function.Injective asStr := by
  intro a b h
  have hfound := fromStr_asStr a
  rw [h, fromStr_asStr b] at hfound
  exact (some.inj hfound).symm

end AuditAction

/-- An entry of the log.  The time is in nanoseconds. -/
structure AuditEntry where
  communityId : Uuid
  seq : ℤ
  hashVersion : ℤ
  hash : List UInt8
  prevHash : Option (List UInt8)
  action : AuditAction
  actorPubkey : Option (List UInt8)
  objectId : Option String
  detail : Value
  createdAt : ℤ

inductive AuditError
  | database
  | chainViolation (seq : ℤ)
  | hashMismatch (seq : ℤ)
  | unknownAction
  | unsupportedHashVersion (version : ℤ)
  /-- No error of the code but a panic: a buffer or a sequence number that is too large. -/
  | overflow
deriving DecidableEq

def genesisHash : List UInt8 := List.replicate 32 0

def currentHashVersion : ℤ := 2

def isizeMax : ℕ := 9223372036854775807

/-- The precision the database keeps, a microsecond. -/
def toStoragePrecision (createdAt : ℤ) : ℤ := createdAt - createdAt % 1000

/-! ### Encodings -/

def Uuid.asBytes (u : Uuid) : List UInt8 := beBytes 16 u.bits.toNat

open Uuid

def i64Bytes (n : ℤ) : List UInt8 := beBytes 8 (BitVec.ofInt 64 n).toNat

/-- The bytes of `buzz:audit:v2` and a zero. -/
def domain : List UInt8 := [98, 117, 122, 122, 58, 97, 117, 100, 105, 116, 58, 118, 50, 0]

def appendTlv (encoded : List UInt8) (tag : UInt8) (value : List UInt8) : List UInt8 :=
  encoded ++ tlv tag value

def appendOptional (encoded : List UInt8) (tag : UInt8) : Option (List UInt8) → List UInt8
  | some value => appendTlv encoded tag value
  | none => encoded

variable (P : Primitives) (e : AuditEntry)

def tlvEncoded : List UInt8 :=
  let encoded := domain
  let encoded := appendTlv encoded 1 (asBytes e.communityId)
  let encoded := appendTlv encoded 2 (i64Bytes e.seq)
  let encoded := appendTlv encoded 3 (P.rfc3339 (toStoragePrecision e.createdAt))
  let encoded := appendTlv encoded 4 (utf8 e.action.asStr)
  let encoded := appendOptional encoded 5 e.actorPubkey
  let encoded := appendOptional encoded 6 (e.objectId.map utf8)
  let encoded := appendTlv encoded 7 (utf8 (canonicalJson e.detail))
  appendOptional encoded 8 e.prevHash

/-- A presence tag before a field that is not delimited. -/
def tagged : Option (List UInt8) → List UInt8
  | some value => 1 :: value
  | none => [0]

def legacyEncoded : List UInt8 :=
  asBytes e.communityId ++ i64Bytes e.seq ++ P.rfc3339 (toStoragePrecision e.createdAt) ++
    utf8 e.action.asStr ++ tagged e.actorPubkey ++ tagged (e.objectId.map utf8) ++
    utf8 (canonicalJson e.detail) ++ e.prevHash.getD genesisHash

def computeTlvHash : Except AuditError (List UInt8) := do
  refuseIf ((tlvEncoded P e).length > isizeMax) .overflow
  return P.sha256 (tlvEncoded P e)

def computeLegacyHash : Except AuditError (List UInt8) :=
  .ok (P.sha256 (legacyEncoded P e))

def computeHash : Except AuditError (List UInt8) :=
  if e.hashVersion = 1 then computeLegacyHash P e
  else if e.hashVersion = currentHashVersion then computeTlvHash P e
  else .error (.unsupportedHashVersion e.hashVersion)

/-! ### Fields from their bytes -/

lemma Uuid.asBytes_injective : Function.Injective asBytes := by
  intro u v h
  have hbd : ∀ u : Uuid, u.bits.toNat < 256 ^ 16 := fun u => u.bits.isLt
  have hbits := BitVec.eq_of_toNat_eq (beBytes_inj (hbd u) (hbd v) h)
  cases u
  cases v
  exact congrArg mk hbits

/-- The range of `i64`. -/
def InI64 (n : ℤ) : Prop := -isizeMax - 1 ≤ n ∧ n ≤ isizeMax

lemma i64Bytes_inj (hn : InI64 n) (hm : InI64 m) (h : i64Bytes n = i64Bytes m) : n = m := by
  have hbd : ∀ n : ℤ, (BitVec.ofInt 64 n).toNat < 256 ^ 8 := fun n => (BitVec.ofInt 64 n).isLt
  have hbits := BitVec.eq_of_toNat_eq (beBytes_inj (hbd n) (hbd m) h)
  have hself : ∀ n : ℤ, InI64 n → (BitVec.ofInt 64 n).toInt = n := by
    intro n hn
    rw [BitVec.toInt_ofInt]
    simp only [InI64, isizeMax] at hn
    apply Int.bmod_eq_of_le
    · omega
    · omega
  rw [← hself n hn, ← hself m hm, hbits]

/-! ### The current encoding -/

variable {P : Primitives} {e e' : AuditEntry}

def fieldList (P : Primitives) (e : AuditEntry) : List (UInt8 × List UInt8) :=
  [(1, asBytes e.communityId), (2, i64Bytes e.seq),
    (3, P.rfc3339 (toStoragePrecision e.createdAt)), (4, utf8 e.action.asStr)] ++
    (e.actorPubkey.map (Prod.mk 5)).toList ++ ((e.objectId.map utf8).map (Prod.mk 6)).toList ++
    [(7, utf8 (canonicalJson e.detail))] ++ (e.prevHash.map (Prod.mk 8)).toList

lemma tlvEncoded_eq : tlvEncoded P e = domain ++ tlvs (fieldList P e) := by
  cases hact : e.actorPubkey <;> cases hobject : e.objectId <;> cases hprev : e.prevHash <;>
    simp [tlvEncoded, appendTlv, appendOptional, fieldList, tlvs, hact, hobject, hprev]

lemma lookup_fieldList (P : Primitives) (e : AuditEntry) :
    (fieldList P e).lookup 1 = some (asBytes e.communityId) ∧
    (fieldList P e).lookup 2 = some (i64Bytes e.seq) ∧
    (fieldList P e).lookup 3 = some (P.rfc3339 (toStoragePrecision e.createdAt)) ∧
    (fieldList P e).lookup 4 = some (utf8 e.action.asStr) ∧
    (fieldList P e).lookup 5 = e.actorPubkey ∧ (fieldList P e).lookup 6 = e.objectId.map utf8 ∧
    (fieldList P e).lookup 7 = some (utf8 (canonicalJson e.detail)) ∧
    (fieldList P e).lookup 8 = e.prevHash := by
  cases hact : e.actorPubkey <;> cases hobject : e.objectId <;> cases hprev : e.prevHash <;>
    simp [fieldList, lookup_cons, hact, hobject, hprev]

/-- The entries agree in everything that is hashed. -/
structure SameContent (e e' : AuditEntry) : Prop where
  communityId : e.communityId = e'.communityId
  seq : e.seq = e'.seq
  createdAt : toStoragePrecision e.createdAt = toStoragePrecision e'.createdAt
  action : e.action = e'.action
  actorPubkey : e.actorPubkey = e'.actorPubkey
  objectId : e.objectId = e'.objectId
  detail : e.detail = e'.detail
  prevHash : e.prevHash = e'.prevHash

lemma fieldList_fits (h : (tlvEncoded P e).length ≤ isizeMax) :
    ∀ f ∈ fieldList P e, f.2.length < 256 ^ 8 := by
  intro f hf
  have hfield := length_le_tlvs hf
  rw [tlvEncoded_eq, length_append] at h
  have hmax : isizeMax < 256 ^ 8 := by decide
  omega

/-- **The current encoding is unambiguous.** -/
theorem sameContent_of_tlvEncoded (hseq : InI64 e.seq) (hseq' : InI64 e'.seq)
    (hlen : (tlvEncoded P e).length ≤ isizeMax) (hlen' : (tlvEncoded P e').length ≤ isizeMax)
    (h : tlvEncoded P e = tlvEncoded P e') : SameContent e e' := by
  have hfields : fieldList P e = fieldList P e' := by
    rw [tlvEncoded_eq, tlvEncoded_eq] at h
    exact tlvs_inj (fieldList_fits hlen) (fieldList_fits hlen') (append_cancel_left h)
  obtain ⟨h1, h2, h3, h4, h5, h6, h7, h8⟩ := lookup_fieldList P e
  obtain ⟨h1', h2', h3', h4', h5', h6', h7', h8'⟩ := lookup_fieldList P e'
  rw [hfields] at h1 h2 h3 h4 h5 h6 h7 h8
  constructor
  · exact asBytes_injective (some.inj (h1.symm.trans h1'))
  · exact i64Bytes_inj hseq hseq' (some.inj (h2.symm.trans h2'))
  · exact P.rfc3339_injective (some.inj (h3.symm.trans h3'))
  · exact AuditAction.asStr_injective (utf8_injective (some.inj (h4.symm.trans h4')))
  · exact h5.symm.trans h5'
  · exact map_injective utf8_injective (h6.symm.trans h6')
  · exact canonicalJson_injective (utf8_injective (some.inj (h7.symm.trans h7')))
  · exact h8.symm.trans h8'

/-! ### The historical encoding -/

/-- A historical encoding that is a current one begins with its domain, which the community's bytes
have to be, and goes on with the rest of the length of the first field. -/
lemma legacyEncoded_front (h : legacyEncoded P e = tlvEncoded P e') :
    asBytes e.communityId = domain ++ [1, 0] ∧ ∃ rest rest',
      i64Bytes e.seq ++ (P.rfc3339 (toStoragePrecision e.createdAt) ++ rest) =
        [0, 0, 0, 0, 0, 0, 16] ++ (asBytes e'.communityId ++ rest') := by
  have hcomm : ∀ u : Uuid, (asBytes u).length = 16 := fun _ => length_beBytes _ _
  obtain ⟨rest, hlegacy⟩ : ∃ rest, legacyEncoded P e = asBytes e.communityId ++
      (i64Bytes e.seq ++ (P.rfc3339 (toStoragePrecision e.createdAt) ++ rest)) := by
    simp only [legacyEncoded, append_assoc]
    exact ⟨_, rfl⟩
  obtain ⟨rest', htlv⟩ : ∃ rest', tlvEncoded P e' =
      (domain ++ [1, 0]) ++ ([0, 0, 0, 0, 0, 0, 16] ++ (asBytes e'.communityId ++ rest')) := by
    have hlen : beBytes 8 16 = [0, 0, 0, 0, 0, 0, 0, 16] := by decide
    rw [tlvEncoded_eq, fieldList]
    simp only [tlvs, cons_append, flatMap_cons, append_assoc, tlv, hcomm, hlen, nil_append, domain]
    exact ⟨_, rfl⟩
  rw [hlegacy, htlv] at h
  obtain ⟨hbytes, hbehind⟩ := append_inj h (hcomm _)
  exact ⟨hbytes, rest, rest', hbehind⟩

/-- In one community no historical encoding is a current one.  The community's own bytes would have
to be the first sixteen of the other encoding, and then stand where the timestamp begins. -/
lemma legacyEncoded_ne_tlvEncoded (hc : e.communityId = e'.communityId) :
    legacyEncoded P e ≠ tlvEncoded P e' := by
  intro h
  obtain ⟨b, text, htext, hb⟩ := P.rfc3339_begins (toStoragePrecision e.createdAt)
  obtain ⟨hbytes, rest, rest', hbehind⟩ := legacyEncoded_front h
  rw [htext, ← hc, hbytes] at hbehind
  obtain ⟨tail, htail⟩ : ∃ tail, i64Bytes e.seq ++ (b :: text ++ rest) =
      [0, 0, 0, 0, 0, 0, 16, 98] ++ 117 :: tail := ⟨_, hbehind⟩
  have hb' : b = 117 := head_eq_of_cons_eq (append_inj htail (length_beBytes _ _)).2
  subst hb'
  exact absurd hb (by decide)

/-- **A hash determines the entry.** Among entries of one community with sequence numbers in range,
one of the current version shares its hash with none that differs in what is hashed. -/
theorem sameContent_of_computeHash {hash : List UInt8}
    (hver : e.hashVersion = currentHashVersion) (hc : e.communityId = e'.communityId)
    (hseq : -isizeMax ≤ e.seq ∧ e.seq ≤ isizeMax) (hseq' : -isizeMax ≤ e'.seq ∧ e'.seq ≤ isizeMax)
    (h : computeHash P e = .ok hash) (h' : computeHash P e' = .ok hash) :
    SameContent e e' ∧ e'.hashVersion = currentHashVersion := by
  have hne : currentHashVersion ≠ 1 := by decide
  rw [computeHash, hver, if_neg hne, if_pos rfl] at h
  simp only [computeTlvHash, bind_eq_ok, refuseIf_eq_ok, not_lt] at h
  obtain ⟨_, hlen, hhash⟩ := h
  unfold computeHash at h'
  split_ifs at h' with hlegacy hcur
  · exfalso
    have hsame : legacyEncoded P e' = tlvEncoded P e :=
      P.sha256_injective ((Except.ok.inj h').trans (Except.ok.inj hhash).symm)
    exact legacyEncoded_ne_tlvEncoded hc.symm hsame
  simp only [computeTlvHash, bind_eq_ok, refuseIf_eq_ok, not_lt] at h'
  obtain ⟨_, hlen', hhash'⟩ := h'
  have hsame : tlvEncoded P e = tlvEncoded P e' :=
    P.sha256_injective ((Except.ok.inj hhash).trans (Except.ok.inj hhash').symm)
  have hi64 : ∀ n : ℤ, -isizeMax ≤ n ∧ n ≤ isizeMax → InI64 n := fun n hn => ⟨by omega, hn.2⟩
  exact ⟨sameContent_of_tlvEncoded (hi64 _ hseq) (hi64 _ hseq') hlen hlen' hsame, hcur⟩

/-! ### Both encodings -/

/-- The two bits of the variant say that the id is one of RFC 4122. -/
def Uuid.isRfc4122 (u : Uuid) : Bool := u.bits.extractLsb' 62 2 = 2

lemma not_isRfc4122_of_asBytes (h : asBytes u = domain ++ [1, 0]) : isRfc4122 u = false := by
  -- the letter `i` stands where the variant is
  have hdomain : domain ++ [1, 0] = beBytes 16 0x62757a7a3a61756469743a7632000100 := by decide
  have hbits := beBytes_inj u.bits.isLt (by decide) (h.trans hdomain)
  obtain ⟨bits⟩ := u
  obtain rfl := BitVec.eq_of_toNat_eq (y := 0x62757a7a3a61756469743a7632000100#128) hbits
  decide

/-- An entry that there can be: its number is an `i64`, and a buffer holds its encoding. -/
structure Representable (P : Primitives) (e : AuditEntry) : Prop where
  seq : InI64 e.seq
  length : (tlvEncoded P e).length ≤ isizeMax

/-- **What is hashed is unambiguous.** The bytes of the current encoding determine everything that
goes into them, and they are not those of a historical entry in a community with an ordinary id. -/
theorem tlvEncoded_unambiguous (h : Representable P e) (h' : Representable P e') :
    (tlvEncoded P e = tlvEncoded P e' → SameContent e e') ∧
      (Uuid.isRfc4122 e'.communityId = true → legacyEncoded P e' ≠ tlvEncoded P e) := by
  constructor
  · exact sameContent_of_tlvEncoded h.seq h'.seq h.length h'.length
  intro hrfc hsame
  have hvariant := not_isRfc4122_of_asBytes (legacyEncoded_front hsame).1
  exact absurd (hrfc.symm.trans hvariant) (by decide)

/-- Texts of times that begin as they should; that of the epoch is the real one. -/
def demoRfc3339 (time : ℤ) : List UInt8 :=
  if time = 0 then utf8 "1970-01-01T00:00:00+00:00"
  else if 0 < time then 48 :: List.replicate time.toNat 48
  else 45 :: List.replicate (-time).toNat 48

lemma utf8_epoch : utf8 "1970-01-01T00:00:00+00:00" = 49 :: (utf8 "970-01-01T00:00:00+00:00") := by
  decide +kernel

lemma demoRfc3339_injective : Function.Injective demoRfc3339 := by
  intro time time' h
  have hlen := congrArg length h
  have hhead := congrArg head? h
  unfold demoRfc3339 at hlen hhead
  rw [utf8_epoch] at hlen hhead
  split_ifs at hlen hhead <;> simp at hlen hhead <;> omega

lemma demoRfc3339_begins (time : ℤ) : ∃ b text, demoRfc3339 time = b :: text ∧
    (48 ≤ b ∧ b ≤ 57 ∨ b = 43 ∨ b = 45) := by
  unfold demoRfc3339
  split_ifs
  all_goals exact ⟨_, _, rfl, by decide⟩

def demoPrimitives : Primitives where
  sha256 := id
  sha256_injective := Function.injective_id
  rfc3339 := demoRfc3339
  rfc3339_injective := demoRfc3339_injective
  rfc3339_begins := demoRfc3339_begins

def demoEntry (prevHash : Option (List UInt8)) : AuditEntry where
  communityId := ⟨0x00000000000040008000000000000001⟩
  seq := 1
  hashVersion := currentHashVersion
  hash := []
  prevHash := prevHash
  action := .eventCreated
  actorPubkey := none
  objectId := none
  detail := ⟨.null, by decide⟩
  createdAt := 0

lemma demoEntry_representable :
    Representable demoPrimitives (demoEntry none) ∧ Representable demoPrimitives (demoEntry (some [])) :=
  ⟨⟨⟨by decide, by decide⟩, by decide +kernel⟩, ⟨⟨by decide, by decide⟩, by decide +kernel⟩⟩

/-- No previous hash is not an empty one. -/
theorem tlvEncoded_unambiguous_absent :
    tlvEncoded demoPrimitives (demoEntry none) ≠ tlvEncoded demoPrimitives (demoEntry (some [])) ∧
    legacyEncoded demoPrimitives (demoEntry (some [])) ≠ tlvEncoded demoPrimitives (demoEntry none) := by
  obtain ⟨hsame, hother⟩ :=
    tlvEncoded_unambiguous demoEntry_representable.1 demoEntry_representable.2
  refine ⟨fun h => ?_, hother (by decide)⟩
  cases (hsame h).prevHash

end Buzz.Audit
