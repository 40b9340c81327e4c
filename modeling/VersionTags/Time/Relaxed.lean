import VersionTags.Time.Scan
/-!
# Times in exchanged records

`readRelaxed` reads the internet form of a time and its loose relatives: the date and the time are separated by `T`,
`t` or one blank, numbers need no leading zeros, blanks may stand around the parts, and the zone is `Z`, `UTC` in any
case, or hours and minutes with a sign.  `Instant.zuluText` writes the form it reads.
-/
namespace VersionTags.Time

namespace Scan

/-- Takes the separator of date and time. -/
def separator : Scan Unit := do
  match ← get with
  | [] => throw .tooShort
  | c :: rest => if c = 'T' ∨ c = 't' ∨ c = ' ' then set rest else throw .invalid

/-- Takes `UTC` in any case, or a zone with its minutes. -/
def namedZone : Scan Int := do
  match ← get with
  | a :: b :: c :: rest =>
    if [a, b, c].map Char.toUpper = ['U', 'T', 'C'] then do
      set rest
      return 0
    else zone false
  | _ => zone false

def relaxedFields : Scan Fields := do
  let y ← year
  blanks; literal '-'
  let m ← field 1 12
  blanks; literal '-'
  let d ← field 1 31
  separator
  let h ← field 0 23
  blanks; literal ':'
  let mi ← field 0 59
  blanks; literal ':'
  let s ← field 0 60
  let n ← fraction
  blanks
  return ⟨y, m, d, h, mi, s, n⟩

end Scan

/-- The instant a text of an exchanged record denotes. -/
def readRelaxed (s : String) : Option Instant :=
  match (do let f ← Scan.relaxedFields; let z ← Scan.namedZone; Scan.blanks; return (f, z) : Scan _) s.toList with
  | .ok ((f, z), []) => f.instant? z
  | _ => none

end VersionTags.Time
