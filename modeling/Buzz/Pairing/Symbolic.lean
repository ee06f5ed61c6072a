import Buzz.Pairing.Effect

/-!
Symbolic cryptography.

The terms are free: a derived value is its derivation, a ciphertext is its key with the text, an event
id is the event, and a signature is its signer with the id.  So key derivation is injective, a
ciphertext opens under its own key only, and a signature is valid for its own signer and event only.
A shared key of ECDH is the pair of the two parties, without an order.

The encoding of texts (hexadecimal digits and JSON) stays a parameter, with its round trips.
-/

namespace Buzz.Pairing

open Lib

/-- Who holds a key: the two parties of a pairing, and everybody else. -/
inductive Agent
  | source
  | target
  | other (n : ℕ)
deriving DecidableEq

def Agent.rank : Agent → ℕ
  | source => 0
  | target => 1
  | other n => n + 2

lemma Agent.rank_injective : Function.Injective Agent.rank := by
  intro a b h
  cases a <;> cases b <;> simp_all [Agent.rank]

/-- Values of thirty-two bytes. -/
inductive Word
  | empty
  | random (n : ℕ)
  | key (a : Agent)
  | shared (a b : Agent)
  | cat (w w' : Word)
  | hkdf (salt ikm : Word) (info : String)
deriving DecidableEq

def Word.concat : List Word → Word
  | [] => .empty
  | w :: ws => .cat w (concat ws)

lemma Word.concat_injective : Function.Injective Word.concat := by
  intro ws
  induction ws with
  | nil =>
    intro ws' h
    cases ws' with
    | nil => rfl
    | cons w' ws' => cases h
  | cons w ws ih =>
    intro ws' h
    cases ws' with
    | nil => cases h
    | cons w' ws' =>
      injection h with hw hws
      rw [hw, ih hws]

def sharedKey (a b : Agent) : Word := if a.rank ≤ b.rank then .shared a b else .shared b a

lemma sharedKey_comm (a b : Agent) : sharedKey a b = sharedKey b a := by
  unfold sharedKey
  rcases Nat.lt_trichotomy a.rank b.rank with hlt | heq | hgt
  · rw [if_pos hlt.le, if_neg (by omega)]
  · rw [Agent.rank_injective heq]
  · rw [if_neg (by omega), if_pos hgt.le]

lemma sharedKey_right_inj : sharedKey a b = sharedKey a c ↔ b = c := by
  constructor
  · unfold sharedKey
    intro h
    split_ifs at h <;> injection h with h₁ h₂ <;> simp_all
  · rintro rfl
    rfl

/-- The content of an event: a text in the clear, or one that is encrypted. -/
inductive Content (Text : Type)
  | plain (text : Text)
  | sealed (key nonce : Word) (text : Text)
deriving DecidableEq

/-- The id of an event, from which its signer and the event can be read. -/
abbrev EventId (Text : Type) : Type := Agent × EventBuilder (Content Text)

inductive Signature (Text : Type)
  | invalid (n : ℕ)
  | made (signer : Agent) (id : EventId Text)
deriving DecidableEq

structure Codec where
  Text : Type
  decText : DecidableEq Text
  toHex : Agent → String
  encodeHex : Word → Text
  decodeHex : Text → Option Word
  toJson : PairingMessage Text → Text
  fromJson : Text → Except String (PairingMessage Text)
  beU32 : Word → UInt32
  textLen : Text → ℕ
  decodeHex_encodeHex : ∀ w, decodeHex (encodeHex w) = some w
  fromJson_toJson : ∀ m, fromJson (toJson m) = .ok m

attribute [instance] Codec.decText

/-- The length NIP-44 pads a text to: multiples of an eighth of the next power of two, from 32 on. -/
def paddedLen (len : ℕ) : ℕ :=
  if len ≤ 32 then 32
  else
    let nextPower := 1 <<< (Nat.log2 (len - 1) + 1)
    let chunk := if nextPower ≤ 256 then 32 else nextPower / 8
    chunk * ((len - 1) / chunk + 1)

/-- The base64 length of version, nonce, length field, padded text and code. -/
def sealedLen (len : ℕ) : ℕ := (1 + 32 + 2 + paddedLen len + 32 + 2) / 3 * 4

def symbolic (k : Codec) : Crypto where
  SecretKey := Agent
  PublicKey := Agent
  Word := Word
  Text := k.Text
  Content := Content k.Text
  EventId := EventId k.Text
  Signature := Signature k.Text
  decPublicKey := inferInstance
  decWord := inferInstance
  decEventId := inferInstance
  publicKey a := a
  keyBytes := Word.key
  toHex := k.toHex
  encodeHex := k.encodeHex
  decodeHex := k.decodeHex
  generateSharedKey a b := .ok (sharedKey a b)
  hkdf32 salt ikm info := .hkdf (Word.concat salt) (Word.concat ikm) info
  beU32 := k.beU32
  encryptShared key nonce text := .ok (.sealed key nonce text)
  decryptShared key content :=
    match content with
    | .plain _ => .error "invalid payload"
    | .sealed key' _ text => if key' = key then .ok text else .error "invalid HMAC"
  contentLen content :=
    match content with
    | .plain text => k.textLen text
    | .sealed _ _ text => sealedLen (k.textLen text)
  textLen := k.textLen
  toJson m := .ok (k.toJson m)
  fromJson := k.fromJson
  signWithKeys a builder := .ok
    { toEventBuilder := builder, pubkey := a, id := (a, builder), sig := .made a (a, builder) }
  verify event := do
    refuseIf (event.id ≠ (event.pubkey, event.toEventBuilder)) "invalid event id"
    refuseIf (event.sig ≠ .made event.pubkey event.id) "invalid signature"

variable {k : Codec}

section Laws

variable {s : PairingSession (symbolic k)} {event : (symbolic k).Event}

variable {message : PairingMessage k.Text}

lemma sealed_of_decryptMessage (h : s.decryptMessage event = .ok message) :
    ∃ nonce text, event.content = .sealed (sharedKey s.secretKey event.pubkey) nonce text ∧
      k.fromJson text = .ok message := by
  obtain ⟨ecdh, text, hecdh, hop, hjson⟩ := PairingSession.opened_of_decryptMessage h
  cases hecdh
  cases hcont : event.content with
  | plain clear =>
    rw [hcont] at hop
    cases hop
  | «sealed» key nonce inner =>
    rw [hcont] at hop
    change (if key = sharedKey s.secretKey event.pubkey then Except.ok inner
      else Except.error "invalid HMAC") = Except.ok text at hop
    split_ifs at hop with hkey
    cases hop
    rw [hkey]
    exact ⟨nonce, text, rfl, hjson⟩

lemma sealed_of_buildEvent (h : s.buildEvent draw message = .ok event) :
    ∃ peer nonce, s.peerPubkey = some peer ∧
      event.content = .sealed (sharedKey s.secretKey peer) nonce (k.toJson message) := by
  obtain ⟨peer, text, ecdh, builder, hpeer, hjson, hecdh, henc, hsigned⟩ :=
    PairingSession.built_of_buildEvent h
  cases hjson
  cases hecdh
  cases hsigned
  exact ⟨peer, draw.nonce, hpeer, (Except.ok.inj henc).symm⟩

end Laws

/-! ### An encoding -/

inductive FreeText
  | chars (text : String)
  | hex (w : Word)
  | offer (sessionId : FreeText) (version : UInt32)
  | sasConfirm (transcriptHash : FreeText)
  | payload (payloadType : PayloadType) (payload : FreeText)
  | complete (success : Bool)
  | abort (reason : AbortReason)
deriving DecidableEq

namespace FreeText

def toJson : PairingMessage FreeText → FreeText
  | .offer sessionId version => offer sessionId version
  | .sasConfirm transcriptHash => sasConfirm transcriptHash
  | .payload payloadType text => payload payloadType text
  | .complete success => complete success
  | .abort reason => abort reason

def fromJson : FreeText → Except String (PairingMessage FreeText)
  | chars _ => .error "expected value"
  | hex _ => .error "expected value"
  | offer sessionId version => .ok (.offer sessionId version)
  | sasConfirm transcriptHash => .ok (.sasConfirm transcriptHash)
  | payload payloadType text => .ok (.payload payloadType text)
  | complete success => .ok (.complete success)
  | abort reason => .ok (.abort reason)

lemma fromJson_toJson (m : PairingMessage FreeText) : fromJson (toJson m) = .ok m := by
  cases m <;> rfl

def decodeHex : FreeText → Option Word
  | hex w => some w
  | _ => none

/-- The bytes of the text, in JSON without the characters that need an escape. -/
def len : FreeText → ℕ
  | chars text => text.utf8ByteSize
  | hex _ => 64
  | offer sessionId _ => 43 + len sessionId
  | sasConfirm transcriptHash => 43 + len transcriptHash
  | payload _ text => 54 + len text
  | complete _ => 34
  | abort _ => 40

end FreeText

/-- An encoding that is its own syntax tree.  It shows that the round trips can be met, and runs. -/
def freeCodec : Codec where
  Text := FreeText
  decText := inferInstance
  toHex a := match a with
    | .source => "source"
    | .target => "target"
    | .other n => toString n
  encodeHex := .hex
  decodeHex := FreeText.decodeHex
  toJson := FreeText.toJson
  fromJson := FreeText.fromJson
  beU32 _ := 0
  textLen := FreeText.len
  decodeHex_encodeHex _ := rfl
  fromJson_toJson := FreeText.fromJson_toJson

end Buzz.Pairing
