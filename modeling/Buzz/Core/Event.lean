import Buzz.Lib.Table

/-!
Events and identifiers.

The data every part of the relay handles: identifiers with their text forms, tags, signed events
and the relay's own wrapper of an event.  Signatures are left out, as no function below reads them;
an event's `id` and `pubkey` are the thirty-two bytes the code compares.
-/

namespace Buzz.Core

/-! ### Identifiers and their text forms -/

def hexDigit (n : ℕ) : Char := "0123456789abcdef".toList.getD n '0'

def hexDigits : ℕ → ℕ → List Char
  | 0, _ => []
  | w + 1, n => hexDigits w (n / 16) ++ [hexDigit (n % 16)]

structure Uuid where
  bits : BitVec 128
deriving DecidableEq

/-- The hyphenated text of a `Uuid`: groups of 8, 4, 4, 4 and 12 digits. -/
def Uuid.toString (u : Uuid) : String :=
  let d := hexDigits 32 u.bits.toNat
  String.ofList (d.take 8 ++ '-' :: (d.drop 8).take 4 ++ '-' :: (d.drop 12).take 4 ++
    '-' :: (d.drop 16).take 4 ++ '-' :: d.drop 20)

/-- The community (tenant) an object belongs to, as the server resolved it. -/
structure CommunityId where
  uuid : Uuid
deriving DecidableEq

structure PublicKey where
  bits : BitVec 256
deriving DecidableEq

structure EventId where
  bits : BitVec 256
deriving DecidableEq

def PublicKey.toHex (k : PublicKey) : String := String.ofList (hexDigits 64 k.bits.toNat)

def EventId.toHex (i : EventId) : String := String.ofList (hexDigits 64 i.bits.toNat)

abbrev Kind := UInt16

/-! ### Tags and events -/

/-- A tag: a list of texts that has a first element, the name of the tag. -/
structure Tag where
  name : String
  values : List String
deriving DecidableEq

def Tag.kind (t : Tag) : String := t.name

def Tag.content (t : Tag) : Option String := t.values.head?

structure Event where
  id : EventId
  pubkey : PublicKey
  createdAt : ℕ
  kind : Kind
  tags : List Tag
  content : String
deriving DecidableEq

def eventKindU32 (e : Event) : ℕ := e.kind.toNat

/-- An event with its channel scope; `none` for community-global events. -/
structure StoredEvent where
  event : Event
  channelId : Option Uuid

def Event.tagContents (e : Event) (name : String) : List String :=
  (e.tags.filter fun t => t.kind = name).filterMap Tag.content

end Buzz.Core
