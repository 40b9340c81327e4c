import VersionTags.Time.Scan
/-!
# Times in the store

A stored time is a text that anyone may have put there.  `readStored` reads a date, a separator, a time of day and a
zone; if that fails it reads the same without a zone, as universal time, and the error is the one of this second
attempt.  The separator is `T` when the eleventh byte of the text is a `T` and blank otherwise.
`Instant.storedText` writes the form it reads.
-/
namespace VersionTags.Time

/-- The character that starts at the given byte of a text. -/
def charAtByte : Nat → List Char → Option Char
  | _, [] => none
  | 0, c :: _ => some c
  | n + 1, c :: rest => if c.utf8Size ≤ n + 1 then charAtByte (n + 1 - c.utf8Size) rest else none

namespace Scan

/-- Takes a date, a separator and a time of day. -/
def storedFields (letter : Bool) : Scan Fields := do
  let y ← year
  literal '-'
  let m ← field 1 12
  literal '-'
  let d ← field 1 31
  if letter then literal 'T' else blanks
  let h ← field 0 23
  literal ':'
  let mi ← field 0 59
  literal ':'
  let s ← field 0 60
  let n ← fraction
  return ⟨y, m, d, h, mi, s, n⟩

end Scan

/-- The instant of a stored text with a zone. -/
def readZoned (letter : Bool) (cs : List Char) : Option Instant :=
  match (do let f ← Scan.storedFields letter; Scan.blanks; let z ← Scan.zone true; return (f, z) : Scan _) cs with
  | .ok ((f, z), []) => f.instant? z
  | _ => none

/-- The instant of a stored text without a zone. -/
def readUnzoned (letter : Bool) (cs : List Char) : Except ReadError Instant := do
  let (f, rest) ← Scan.storedFields letter cs
  if rest ≠ [] then throw .tooLong
  match f.instant? 0 with
  | some t => return t
  | none => throw .outOfRange

/-- The instant a stored text denotes, or why it denotes none. -/
def readStored (s : String) : Except ReadError Instant :=
  let cs := s.toList
  let letter := charAtByte 10 cs == some 'T'
  match readZoned letter cs with
  | some t => .ok t
  | none => readUnzoned letter cs

end VersionTags.Time
