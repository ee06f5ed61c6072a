import Buzz.Tunnel.LeaseText

/-!
Thread markers.

A reply names the root of its thread and its parent in `e` tags with a marker.  A marker counts only
with an id of sixty-four hexadecimal digits; the last valid one of each kind wins.
-/

namespace Buzz.Core

open Tunnel (hexNumber)

structure ThreadMarkers where
  root : Option String
  reply : Option String

/-- The root and the parent of a reply; an event without a `reply` marker is top-level. -/
def ThreadMarkers.resolve (m : ThreadMarkers) : Option (String × String) :=
  match m.root, m.reply with
  | some root, some reply => some (root, reply)
  | none, some reply => some (reply, reply)
  | _, none => none

def isEventIdHex (id : String) : Bool :=
  id.toList.length = 64 && (hexNumber id.toList).isSome

def ThreadMarkers.read (m : ThreadMarkers) (tag : Tag) : ThreadMarkers :=
  match tag.values with
  | id :: _ :: marker :: _ =>
    if tag.name = "e" ∧ isEventIdHex id then
      if marker = "root" then { m with root := some id }
      else if marker = "reply" then { m with reply := some id }
      else m
    else m
  | _ => m

def parseThreadMarkers (tags : List Tag) : ThreadMarkers :=
  tags.foldl ThreadMarkers.read ⟨none, none⟩

/-- `hex::decode`, and the event id the bytes are: none when there are not thirty-two of them. -/
def decodeEventId (hex : String) : Option (Option EventId) :=
  let digits := hex.toList
  if digits.length % 2 = 0 then
    (hexNumber digits).map fun n =>
      if digits.length = 64 then some ⟨BitVec.ofNat 256 n⟩ else none
  else none

end Buzz.Core
