import Buzz.Core.Event
import Buzz.Lib.Guard
import Mathlib.Data.Finset.Insert

/-!
The device pairing session.

One side of the exchange: a source shows a code with a secret, a target scans it, both compare a short
authentication string, and the source sends its payload, or asks for one.  Every method is a function
of the session, of the clock and of the random values it draws.  What the session takes from other
crates (keys, signatures, encryption, key derivation and JSON) is a parameter, `Crypto`.

A method that fails may still have changed the session, so it returns the result together with the
session.
-/

namespace Buzz.Pairing

open Buzz.Core (Tag Kind)
open Lib

/-! ### Messages -/

inductive PayloadType
  | nsec | bunker | connect | custom
deriving DecidableEq

inductive AbortReason
  | sasMismatch | userDenied | timeout | protocolError | unknown
deriving DecidableEq

/-- The messages of a session.  `Text` is the type of the strings in them. -/
inductive PairingMessage (Text : Type)
  | offer (sessionId : Text) (version : UInt32)
  | sasConfirm (transcriptHash : Text)
  | payload (payloadType : PayloadType) (payload : Text)
  | complete (success : Bool)
  | abort (reason : AbortReason)

inductive PairingError
  | invalidQr (message : String)
  | invalidSessionId
  | sasMismatch
  | transcriptMismatch
  | unexpectedMessage (expected got : String)
  | sessionExpired
  | nip44 (message : String)
  | json (message : String)
  | invalidPubkey (message : String)
  | signingError (message : String)

def unexpected {Text : Type} (expected : String) (got : PairingMessage Text) : PairingError :=
  let gotName := match got with
    | .offer _ _ => "offer"
    | .sasConfirm _ => "sas-confirm"
    | .payload _ _ => "payload"
    | .complete _ => "complete"
    | .abort _ => "abort"
  .unexpectedMessage expected gotName

/-! ### Events and cryptography -/

structure EventBuilder (Content : Type) where
  kind : Kind
  tags : List Tag
  content : Content
  createdAt : ℕ
deriving DecidableEq

/-- A signed event, over the types of keys, contents, ids and signatures. -/
structure SignedEvent (Key Content Id Sig : Type) extends EventBuilder Content where
  pubkey : Key
  id : Id
  sig : Sig

/-- What a session takes from the `nostr` and `serde_json` crates.  A `Word` is a value of thirty-two
bytes; a longer byte string is the list of its words. -/
structure Crypto where
  SecretKey : Type
  PublicKey : Type
  Word : Type
  Text : Type
  Content : Type
  EventId : Type
  Signature : Type
  decPublicKey : DecidableEq PublicKey
  decWord : DecidableEq Word
  decEventId : DecidableEq EventId
  publicKey : SecretKey → PublicKey
  /-- The thirty-two bytes of a public key. -/
  keyBytes : PublicKey → Word
  toHex : PublicKey → String
  /-- `hex::encode`, and `hex::decode` to thirty-two bytes. -/
  encodeHex : Word → Text
  decodeHex : Text → Option Word
  generateSharedKey : SecretKey → PublicKey → Except String Word
  /-- HKDF-SHA256 of salt, input and label. -/
  hkdf32 : List Word → List Word → String → Word
  /-- The first four bytes, most significant first. -/
  beU32 : Word → UInt32
  /-- NIP-44 under the conversation key of a shared key, with a nonce. -/
  encryptShared : Word → Word → Text → Except String Content
  decryptShared : Word → Content → Except String Text
  contentLen : Content → ℕ
  textLen : Text → ℕ
  toJson : PairingMessage Text → Except String Text
  fromJson : Text → Except String (PairingMessage Text)
  signWithKeys : SecretKey → EventBuilder Content →
    Except String (SignedEvent PublicKey Content EventId Signature)
  verify : SignedEvent PublicKey Content EventId Signature → Except String Unit

attribute [instance] Crypto.decPublicKey Crypto.decWord Crypto.decEventId

namespace Crypto

variable (C : Crypto)

abbrev Event : Type := SignedEvent C.PublicKey C.Content C.EventId C.Signature

/-- NIP-44 encryption and decryption, which agree on the key with ECDH. -/
def encrypt (secretKey : C.SecretKey) (peer : C.PublicKey) (nonce : C.Word) (text : C.Text) :
    Except String C.Content := do
  let shared ← C.generateSharedKey secretKey peer
  C.encryptShared shared nonce text

def decrypt (secretKey : C.SecretKey) (peer : C.PublicKey) (content : C.Content) :
    Except String C.Text := do
  let shared ← C.generateSharedKey secretKey peer
  C.decryptShared shared content

def deriveSessionId (sessionSecret : C.Word) : C.Word :=
  C.hkdf32 [] [sessionSecret] "nostr-pair-session-id"

def deriveSas (ecdhShared sessionSecret : C.Word) : UInt32 × C.Word :=
  let sasInput := C.hkdf32 [sessionSecret] [ecdhShared] "nostr-pair-sas-v1"
  (C.beU32 sasInput % 1000000, sasInput)

def deriveTranscriptHash (sessionId : C.Word) (sourcePubkey targetPubkey : C.PublicKey)
    (sasInput sessionSecret : C.Word) : C.Word :=
  C.hkdf32 [sessionSecret]
    [sessionId, C.keyBytes sourcePubkey, C.keyBytes targetPubkey, sasInput]
    "nostr-pair-transcript-v1"

end Crypto

def formatSas (code : UInt32) : String :=
  String.ofList (Nat.toDigits 10 code.toNat |>.leftpad 6 '0')

/-! ### The session -/

inductive Role
  | source | target
deriving DecidableEq

def Role.name : Role → String
  | source => "Source"
  | target => "Target"

inductive SessionState
  | waiting | confirming | awaitingConfirmation | transferring | payloadExchanged | completed
  | aborted
deriving DecidableEq

def SessionState.name : SessionState → String
  | waiting => "Waiting"
  | confirming => "Confirming"
  | awaitingConfirmation => "AwaitingConfirmation"
  | transferring => "Transferring"
  | payloadExchanged => "PayloadExchanged"
  | completed => "Completed"
  | aborted => "Aborted"

def SessionState.isTerminal : SessionState → Bool
  | completed => true
  | aborted => true
  | _ => false

/-- One side of a pairing.  Times are in nanoseconds. -/
structure PairingSession (C : Crypto) where
  role : Role
  state : SessionState
  secretKey : C.SecretKey
  sessionSecret : C.Word
  relayUrls : List String
  peerPubkey : Option C.PublicKey
  sessionId : C.Word
  sasCode : Option UInt32
  sasInput : Option C.Word
  processedIds : Finset C.EventId
  createdAt : ℕ
  timeout : ℕ

structure QrPayload (C : Crypto) where
  version : UInt32
  sourcePubkey : C.PublicKey
  sessionSecret : C.Word
  relays : List String

/-- What building an event draws: the nonce, the clock in seconds and the jitter of the timestamp. -/
structure Draw (C : Crypto) where
  nonce : C.Word
  clock : ℕ
  jitter : ℕ

def pairingKind : Kind := 24134
def defaultTimeout : ℕ := 120 * 1000000000

namespace PairingSession

variable {C : Crypto} (now : ℕ) (event : C.Event) (s : PairingSession C) (draw : Draw C)

def pubkey : C.PublicKey := C.publicKey s.secretKey

def isExpired : Bool := now - s.createdAt > s.timeout

/-! ### Checks -/

def checkExpired : Except PairingError Unit :=
  refuseIf (s.isExpired now) .sessionExpired

def expectState (expected : SessionState) (s : PairingSession C) : Except PairingError Unit :=
  refuseIf (s.state ≠ expected)
    (.unexpectedMessage ("state " ++ expected.name) ("state " ++ s.state.name))

def expectRole (expected : Role) (s : PairingSession C) : Except PairingError Unit :=
  refuseIf (s.role ≠ expected)
    (.unexpectedMessage ("role " ++ expected.name) ("role " ++ s.role.name))

def expect (state : SessionState) (role : Role) (s : PairingSession C) :
    Except PairingError Unit := do
  s.checkExpired now
  s.expectState state
  s.expectRole role

def hasPTag : Bool :=
  event.tags.any fun t => t.kind = "p" ∧ t.content = some (C.toHex s.pubkey)

def validateEventBasics : Except PairingError Unit := do
  (C.verify event).mapError fun e => .invalidPubkey ("event verification failed: " ++ e)
  refuseIf (event.id ∈ s.processedIds) (.unexpectedMessage "new event" "duplicate event id")
  refuseIf (event.kind ≠ pairingKind)
    (.unexpectedMessage ("kind " ++ toString pairingKind) ("kind " ++ toString event.kind))
  refuseIf (s.hasPTag event = false)
    (.invalidPubkey "event p-tag does not match our ephemeral pubkey")

def validateEventFromPeer : Except PairingError Unit := do
  s.validateEventBasics event
  match s.peerPubkey with
  | none => pure ()
  | some expected =>
    refuseIf (event.pubkey ≠ expected)
      (.invalidPubkey ("event from " ++ C.toHex event.pubkey ++ " but expected " ++
        C.toHex expected))

def decryptMessage : Except PairingError (PairingMessage C.Text) := do
  let contentLen := C.contentLen event.content
  refuseIf (¬(132 ≤ contentLen ∧ contentLen ≤ 87472))
    (.unexpectedMessage "NIP-44 content (132–87472 chars)" (toString contentLen ++ " chars"))
  let decrypted ← (C.decrypt s.secretKey event.pubkey event.content).mapError .nip44
  refuseIf (C.textLen decrypted > 65535)
    (.unexpectedMessage "plaintext ≤ 65535 bytes" (toString (C.textLen decrypted) ++ " bytes"))
  (C.fromJson decrypted).mapError .json

def peerMessage : Except PairingError (PairingMessage C.Text) := do
  s.validateEventFromPeer event
  s.decryptMessage event

def recordEvent : PairingSession C :=
  { s with processedIds := insert event.id s.processedIds }

def buildEvent (message : PairingMessage C.Text) (s : PairingSession C) :
    Except PairingError C.Event := do
  let peer ← okOr s.peerPubkey (.invalidPubkey "no peer pubkey set")
  let plaintext ← (C.toJson message).mapError .json
  let encrypted ← (C.encrypt s.secretKey peer draw.nonce plaintext).mapError .nip44
  let builder : EventBuilder C.Content :=
    ⟨pairingKind, [⟨"p", [C.toHex peer]⟩], encrypted, draw.clock - draw.jitter % 31⟩
  (C.signWithKeys s.secretKey builder).mapError .signingError

/-- Checks that only read the session, and then what the method does. -/
def after {α β : Type} (s : PairingSession C) (checks : Except PairingError α)
    (act : α → Except PairingError β × PairingSession C) : Except PairingError β × PairingSession C :=
  match checks with
  | .error e => (.error e, s)
  | .ok a => act a

/-! ### The source -/

def newSource (secretKey : C.SecretKey) (sessionSecret : C.Word) (relayUrl : String) (now : ℕ) :
    PairingSession C × QrPayload C :=
  ({ role := .source
     state := .waiting
     secretKey := secretKey
     sessionSecret := sessionSecret
     relayUrls := [relayUrl]
     peerPubkey := none
     sessionId := C.deriveSessionId sessionSecret
     sasCode := none
     sasInput := none
     processedIds := ∅
     createdAt := now
     timeout := defaultTimeout },
   { version := 1
     sourcePubkey := C.publicKey secretKey
     sessionSecret := sessionSecret
     relays := [relayUrl] })

def checkOffer : Except PairingError Unit := do
  s.expect now .waiting .source
  s.validateEventBasics event
  match ← s.decryptMessage event with
  | .offer sessionId version =>
    refuseIf (version ≠ 1)
      (.unexpectedMessage "version 1" ("version " ++ toString version))
    refuseIf (C.decodeHex sessionId ≠ some s.sessionId) .invalidSessionId
  | other => throw (unexpected "offer" other)

def handleOffer : Except PairingError String × PairingSession C :=
  s.after (s.checkOffer now event) fun _ =>
    -- the peer is locked before the shared key is computed
    let locked := { s with peerPubkey := some event.pubkey }
    match C.generateSharedKey s.secretKey event.pubkey with
    | .error e => (.error (.signingError e), locked)
    | .ok ecdh =>
      let (code, sasInput) := C.deriveSas ecdh s.sessionSecret
      (.ok (formatSas code), recordEvent event { locked with
        sasCode := some code
        sasInput := some sasInput
        state := .confirming })

def transcriptHash (source target : C.PublicKey) (sasInput : C.Word) (s : PairingSession C) :
    C.Word :=
  C.deriveTranscriptHash s.sessionId source target sasInput s.sessionSecret

def confirmSas (s : PairingSession C) : Except PairingError C.Event × PairingSession C :=
  s.after (do
      s.expect now .confirming .source
      let sasInput ← okOr s.sasInput .sasMismatch
      let peer ← okOr s.peerPubkey (.invalidPubkey "no peer")
      s.buildEvent draw
        (.sasConfirm (C.encodeHex (s.transcriptHash s.pubkey peer sasInput)))) fun event =>
    (.ok event, { s with state := .transferring })

def handleReturnPayload : Except PairingError (PayloadType × C.Text) × PairingSession C :=
  s.after (do s.expect now .transferring .source; s.peerMessage event) fun
    | .payload payloadType payload =>
      (.ok (payloadType, payload), recordEvent event { s with state := .payloadExchanged })
    | other => (.error (unexpected "payload" other), s)

def sendSourceComplete (success : Bool) (draw : Draw C) (s : PairingSession C) :
    Except PairingError C.Event × PairingSession C :=
  s.after (do s.expect now .payloadExchanged .source; s.buildEvent draw (.complete success))
    fun event => (.ok event, { s with state := if success then .completed else .aborted })

def sendPayload (payloadType : PayloadType) (payload : C.Text) (draw : Draw C)
    (s : PairingSession C) : Except PairingError C.Event × PairingSession C :=
  s.after (do s.expect now .transferring .source; s.buildEvent draw (.payload payloadType payload))
    fun event => (.ok event, { s with state := .payloadExchanged })

def handleComplete : Except PairingError Unit × PairingSession C :=
  s.after (do s.expect now .payloadExchanged .source; s.peerMessage event) fun
    | .complete true => (.ok (), recordEvent event { s with state := .completed })
    | .complete false =>
      -- not recorded: the session is over
      (.error (.unexpectedMessage "complete(success=true)" "complete(success=false)"),
        { s with state := .aborted })
    | other => (.error (unexpected "complete" other), s)

/-! ### The target -/

def newTarget (qr : QrPayload C) (secretKey : C.SecretKey) (draw : Draw C) (now : ℕ) :
    Except PairingError (PairingSession C × C.Event) := do
  let sessionId := C.deriveSessionId qr.sessionSecret
  let ecdh ← (C.generateSharedKey secretKey qr.sourcePubkey).mapError .signingError
  let (code, sasInput) := C.deriveSas ecdh qr.sessionSecret
  let session : PairingSession C :=
    { role := .target
      state := .waiting
      secretKey := secretKey
      sessionSecret := qr.sessionSecret
      relayUrls := qr.relays
      peerPubkey := some qr.sourcePubkey
      sessionId := sessionId
      sasCode := some code
      sasInput := some sasInput
      processedIds := ∅
      createdAt := now
      timeout := defaultTimeout }
  let event ← session.buildEvent draw (.offer (C.encodeHex sessionId) 1)
  pure ({ session with state := .confirming }, event)

/-- The transcript hash that the source sent, and the one the target expects. -/
def checkSasConfirm : Except PairingError (Option C.Word × C.Word) := do
  s.expect now .confirming .target
  match ← s.peerMessage event with
  | .sasConfirm received =>
    let sasInput ← okOr s.sasInput .sasMismatch
    let peer ← okOr s.peerPubkey (.invalidPubkey "no peer")
    pure (C.decodeHex received, s.transcriptHash peer s.pubkey sasInput)
  | other => throw (unexpected "sas-confirm" other)

def handleSasConfirm : Except PairingError String × PairingSession C :=
  s.after (s.checkSasConfirm now event) fun (received, expected) =>
    if received = some expected then
      -- recorded before the code is looked up
      ((okOr s.sasCode .sasMismatch).map formatSas,
        recordEvent event { s with state := .awaitingConfirmation })
    else (.error .transcriptMismatch, { s with state := .aborted })

def confirmTargetSas : Except PairingError Unit × PairingSession C :=
  s.after (s.expect now .awaitingConfirmation .target) fun _ =>
    (.ok (), { s with state := .transferring })

def handlePayload : Except PairingError (PayloadType × C.Text) × PairingSession C :=
  s.after (do s.expect now .transferring .target; s.peerMessage event) fun
    | .payload payloadType payload =>
      (.ok (payloadType, payload), recordEvent event { s with state := .payloadExchanged })
    | other => (.error (unexpected "payload" other), s)

def sendComplete (s : PairingSession C) : Except PairingError C.Event × PairingSession C :=
  s.after (do s.expect now .payloadExchanged .target; s.buildEvent draw (.complete true))
    fun event => (.ok event, { s with state := .completed })

/-! ### Either side -/

def expectNonTerminal : Except PairingError Unit :=
  refuseIf (s.state.isTerminal)
    (.unexpectedMessage "non-terminal state" ("state " ++ s.state.name))

def abort (reason : AbortReason) (draw : Draw C) (s : PairingSession C) :
    Except PairingError (Option C.Event) × PairingSession C :=
  s.after (do
      s.expectNonTerminal
      if s.peerPubkey = none then pure none
      else
        let event ← s.buildEvent draw (.abort reason)
        pure (some event)) fun event =>
    (.ok event, { s with state := .aborted })

def handleAbort : Except PairingError AbortReason × PairingSession C :=
  s.after (do
      s.expectNonTerminal
      refuseIf (s.peerPubkey = none) (.invalidPubkey "cannot accept abort before peer is known")
      s.peerMessage event) fun
    | .abort reason => (.ok reason, recordEvent event { s with state := .aborted })
    | other => (.error (unexpected "abort" other), s)

def signEvent (builder : EventBuilder C.Content) (s : PairingSession C) :
    Except PairingError C.Event :=
  (C.signWithKeys s.secretKey builder).mapError .signingError

end PairingSession

end Buzz.Pairing
