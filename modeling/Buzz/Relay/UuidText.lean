import Buzz.Tunnel.LeaseText

/-!
Reading a `Uuid`.

A text names a `Uuid` in four ways, each in either case: thirty-two digits, the digits with hyphens,
these in braces, and these after `urn:uuid:`.  So one `Uuid` has many spellings.
-/

namespace Buzz.Relay

open Buzz.Core
open Tunnel (hexNumber)

/-- Groups of 8, 4, 4, 4 and 12 digits with hyphens between. -/
def parseHyphenated (s : List Char) : Option ℕ :=
  if [8, 13, 18, 23].all (fun i => s[i]? = some '-') then
    hexNumber (s.take 8 ++ (s.drop 9).take 4 ++ (s.drop 14).take 4 ++ (s.drop 19).take 4 ++ s.drop 24)
  else none

def parseUuid (text : String) : Option Uuid :=
  let s := text.toList
  let bits :=
    if s.length = 32 then hexNumber s
    else if s.length = 36 then parseHyphenated s
    else if s.length = 38 ∧ s.head? = some '\x7b' ∧ s.getLast? = some '\x7d' then
      parseHyphenated ((s.drop 1).take 36)
    else if s.length = 45 ∧ s.take 9 = "urn:uuid:".toList then parseHyphenated (s.drop 9)
    else none
  bits.map fun n => ⟨BitVec.ofNat 128 n⟩

/-- Two spellings. -/
example : parseUuid "0000000000000000000000000000000A" =
    parseUuid "00000000-0000-0000-0000-00000000000a" := by decide

end Buzz.Relay
