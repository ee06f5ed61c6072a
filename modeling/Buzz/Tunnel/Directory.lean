import Buzz.Tunnel.LeaseText

/-!
The session directory.

Who owns a session is decided by two keys of the store: the lease, which expires, and the counter of
generations, which does not.  Each operation is one script, which the store runs in one go, around
which a runtime encodes its arguments and decodes the reply; the reply may be lost.  A frame is let
through if its owner and generation are those of the live lease.

The keys carry the community and the session, so this is about the two keys of one session.
-/

namespace Buzz.Tunnel

open Buzz.Core Lib
open Mesh (RuntimeId)

/-! ### The store -/

/-- The lease key: its value, and the time to live it was last given. -/
structure LeaseEntry where
  value : List Char
  ttlMs : ℕ

structure SessionStore where
  lease : Option LeaseEntry
  generation : Option ℕ

namespace SessionStore

def generationText (st : SessionStore) : List Char :=
  match st.generation with
  | some n => Nat.toDigits 10 n
  | none => []

def leaseOrEmpty (st : SessionStore) : List Char :=
  match st.lease with
  | some entry => entry.value
  | none => []

end SessionStore

inductive ScriptStatus
  | acquired
  | «exists»
  | renewed
  | released
  | missing
  | lost
deriving DecidableEq

structure ScriptReply where
  status : ScriptStatus
  value : List Char
  knownGeneration : List Char

/-- The largest number of the store. -/
def maxCounter : ℕ := 9223372036854775807

/-! ### The scripts -/

section Scripts

variable (L : LuaNumbers) (st : SessionStore)

/-- A script that fails has done nothing. -/
def acquireScript (owner profile : List Char) (ttlMs : ℕ) : Except String ScriptReply × SessionStore :=
  match st.lease with
  | some current => (.ok ⟨.exists, current.value, st.generationText⟩, st)
  | none =>
    if st.generation = some maxCounter then
      (.error "ERR increment or decrement would overflow", st)
    else
      let generation := st.generation.getD 0 + 1
      let value := leaseValue L owner generation profile
      (.ok ⟨.acquired, value, L.tostring generation⟩, ⟨some ⟨value, ttlMs⟩, some generation⟩)

def knownOr (currentGeneration : List Char) : List Char :=
  match st.generation with
  | some n => Nat.toDigits 10 n
  | none => currentGeneration

/-- The scripts that only the holder may run: `won` if the lease is of this owner and generation. -/
def holderScript (owner generation : List Char) (won : ScriptStatus)
    (change : LeaseEntry → Option LeaseEntry) : ScriptReply × SessionStore :=
  match st.lease with
  | none => (⟨.missing, [], st.generationText⟩, st)
  | some current =>
    match matchLease current.value with
    | some (currentOwner, currentGeneration, _) =>
      if currentOwner = owner ∧ currentGeneration = generation then
        (⟨won, current.value, knownOr st currentGeneration⟩, { st with lease := change current })
      else (⟨.lost, current.value, knownOr st currentGeneration⟩, st)
    | none => (⟨.lost, current.value, knownOr st []⟩, st)

def renewScript (owner generation : List Char) (ttlMs : ℕ) : ScriptReply × SessionStore :=
  holderScript st owner generation .renewed fun current => some { current with ttlMs }

def releaseScript (owner generation : List Char) : ScriptReply × SessionStore :=
  holderScript st owner generation .released fun _ => none

end Scripts

/-! ### The operations -/

/-- What becomes of a call: it may fail before the script is run, or after it. -/
inductive Delivery
  | answered
  | notSent (e : DirectoryError)
  | unanswered (e : DirectoryError)
  /-- The reply is read, but the write guard cannot be finished. -/
  | unfinished (e : DirectoryError)

inductive AcquireResult
  | acquired (lease : SessionLease)
  | «exists» (lease : SessionLease)

inductive RenewResult
  | renewed (lease : SessionLease)
  | lost (current : Option SessionLease) (knownGeneration : Option ℕ)

inductive ReleaseResult
  | released (lease : SessionLease)
  | notOwner (current : Option SessionLease) (knownGeneration : Option ℕ)

def Delivery.finish : Delivery → Except DirectoryError Unit
  | .unfinished e => .error e
  | _ => .ok ()

section Operations

variable (L : LuaNumbers) (communityId : CommunityId) (sessionId : Uuid) (st : SessionStore)

def readAcquire (delivery : Delivery) (reply : ScriptReply) : Except DirectoryError AcquireResult := do
  let lease ← parseLease communityId sessionId reply.value
  delivery.finish
  match reply.status with
  | .acquired => return .acquired lease
  | .exists => return .exists lease
  | _ => .error .unexpectedScriptStatus

def acquire (owner : RuntimeId) (profile : Profile) (ttlMs : ℕ) (delivery : Delivery) :
    Except DirectoryError AcquireResult × SessionStore :=
  match delivery with
  | .notSent e => (.error e, st)
  | .unanswered e =>
    (.error e, (acquireScript L st owner.toHex.toList profile.asWireStr.toList ttlMs).2)
  | delivery =>
    match acquireScript L st owner.toHex.toList profile.asWireStr.toList ttlMs with
    | (.ok reply, st') => (readAcquire communityId sessionId delivery reply, st')
    | (.error e, st') => (.error (.redis e), st')

/-- The reply to a script of the holder: `yes` of the lease if it was the holder's, `no` of what was
found if not. -/
def readHolderReply {R : Type} (lease : SessionLease) (won : ScriptStatus) (message : String)
    (yes : SessionLease → R) (no : Option SessionLease → Option ℕ → R) (delivery : Delivery)
    (reply : ScriptReply) : Except DirectoryError R := do
  let current ← parseOptionalLease lease.communityId lease.sessionId reply.value
  delivery.finish
  if reply.status = won then
    let current ← okOr current (.expectFailed message)
    return yes current
  else if reply.status = .missing ∨ reply.status = .lost then
    let known ← parseOptionalGeneration lease.communityId lease.sessionId reply.knownGeneration
    return no current known
  else .error .unexpectedScriptStatus

def holderCall {R : Type} (ran : ScriptReply × SessionStore)
    (read : Delivery → ScriptReply → Except DirectoryError R) :
    Delivery → Except DirectoryError R × SessionStore
  | .notSent e => (.error e, st)
  | .unanswered e => (.error e, ran.2)
  | delivery => (read delivery ran.1, ran.2)

/-- A runtime renews the lease it was given; its generation is written in full. -/
def renew (lease : SessionLease) (ttlMs : ℕ) (delivery : Delivery) :
    Except DirectoryError RenewResult × SessionStore :=
  holderCall st
    (renewScript st lease.ownerRuntimeId.toHex.toList (Nat.toDigits 10 lease.generation) ttlMs)
    (readHolderReply lease .renewed "renewed returns lease" .renewed .lost) delivery

def release (lease : SessionLease) (delivery : Delivery) :
    Except DirectoryError ReleaseResult × SessionStore :=
  holderCall st
    (releaseScript st lease.ownerRuntimeId.toHex.toList (Nat.toDigits 10 lease.generation))
    (readHolderReply lease .released "released returns lease" .released .notOwner) delivery

end Operations

/-! ### The fence -/

structure FencedHeader where
  sessionId : Uuid
  generation : ℕ
  ownerRuntimeId : RuntimeId
deriving DecidableEq

/-- Why a frame is rejected. -/
inductive MeshError
  | transport (e : DirectoryError)
  | staleGeneration (sessionId : Uuid) (frameGeneration knownGeneration : ℕ)
  | noActiveLease (sessionId : Uuid) (frameGeneration knownGeneration : ℕ)
      (frameOwnerRuntimeId : RuntimeId)
  | futureGeneration (sessionId : Uuid) (frameGeneration knownGeneration : ℕ)
  | ownerMismatch (sessionId : Uuid) (generation : ℕ)
      (frameOwnerRuntimeId currentOwnerRuntimeId : RuntimeId)
deriving DecidableEq

/-- The check of a frame on what was read of the two keys. -/
def validateFencedHeader (communityId : CommunityId) (st : SessionStore) (fenced : FencedHeader) :
    Except MeshError Unit := do
  let counter ← (parseOptionalGeneration communityId fenced.sessionId st.generationText).mapError
    .transport
  let current ← (parseOptionalLease communityId fenced.sessionId st.leaseOrEmpty).mapError .transport
  let knownFromCounter := counter.getD 0
  let known := max ((current.map SessionLease.generation).getD knownFromCounter) knownFromCounter
  refuseIf (known > 0 ∧ fenced.generation < known)
    (.staleGeneration fenced.sessionId fenced.generation known)
  let current ← okOr current
    (.noActiveLease fenced.sessionId fenced.generation known fenced.ownerRuntimeId)
  refuseIf (fenced.generation ≠ current.generation)
    (.futureGeneration fenced.sessionId fenced.generation current.generation)
  refuseIf (fenced.ownerRuntimeId ≠ current.ownerRuntimeId)
    (.ownerMismatch fenced.sessionId fenced.generation fenced.ownerRuntimeId current.ownerRuntimeId)

end Buzz.Tunnel
