import VersionTags.Decimal
import VersionTags.Text.Blank
import VersionTags.Time.Instant
/-!
# Scanning times

The pieces out of which the readers of times are made.  A scan takes characters from the front of a text and yields a
value and the rest, or says at once why it cannot: the text ended, a character does not fit, or a number is out of
range.  Blank characters are skipped before every number.
-/
namespace VersionTags.Time

/-- Why a text is not a time. -/
inductive ReadError where
  | tooShort
  | invalid
  | outOfRange
  | tooLong
  deriving DecidableEq, Repr

def ReadError.message : ReadError → String
  | .tooShort => "premature end of input"
  | .invalid => "input contains invalid characters"
  | .outOfRange => "input is out of range"
  | .tooLong => "trailing input"

/-- A reader that takes its value from the front of the text. -/
abbrev Scan (α : Type) := StateT (List Char) (Except ReadError) α

namespace Scan

/-- Skips blank characters. -/
def blanks : Scan Unit := modify Text.trimStart

/-- Takes one given character. -/
def literal (c : Char) : Scan Unit := do
  match ← get with
  | [] => throw .tooShort
  | x :: rest => if x = c then set rest else throw .invalid

/-- Takes the digits at the front, at least one and at most `most` of them. -/
def digits (most : Option Nat) : Scan (List Char) := do
  let cs ← get
  let ds := (match most with | some k => cs.take k | none => cs).takeWhile Char.isDigit
  if ds = [] then throw (if cs = [] then .tooShort else .invalid)
  else if Decimal.maxInt64 < (Decimal.value ds : Int) then throw .outOfRange
  else
    set (cs.drop ds.length)
    return ds

/-- Takes a number from `lo` to `hi` of one or two digits. -/
def field (lo hi : Nat) : Scan Nat := do
  blanks
  let n := Decimal.value (← digits (some 2))
  if lo ≤ n ∧ n ≤ hi then return n else throw .outOfRange

/-- Takes a year: up to four digits, or a sign and any number of them. -/
def year : Scan Int := do
  blanks
  let n : Int ← match ← get with
    | '-' :: rest => do set rest; pure (-(Decimal.value (← digits none) : Int))
    | '+' :: rest => do set rest; pure (Decimal.value (← digits none) : Int)
    | _ => do pure (Decimal.value (← digits (some 4)) : Int)
  if Decimal.minInt32 ≤ n ∧ n ≤ Decimal.maxInt32 then return n else throw .outOfRange

/-- Takes a point and the digits of a fraction, as nanoseconds; digits after the ninth are dropped.  Without a point
it takes nothing. -/
def fraction : Scan Nat := do
  match ← get with
  | '.' :: rest => do
    set rest
    let ds ← digits (some 9)
    modify (·.dropWhile Char.isDigit)
    return Decimal.value ds * Nat.pow 10 (9 - ds.length)
  | _ => return 0

/-- A date and time of day as written, not yet checked against the calendar. -/
structure Fields where
  year : Int
  month : Nat
  day : Nat
  hour : Nat
  minute : Nat
  second : Nat
  nano : Nat

/-- Takes two digits, as tens and units. -/
def pair (tens : Char → Bool) : Scan Nat := do
  match ← get with
  | a :: b :: rest =>
    if a.isDigit && b.isDigit then
      if tens a then do
        set rest
        return Decimal.value [a, b]
      else throw .outOfRange
    else throw .invalid
  | _ => throw .tooShort

/-- Takes a zone: `Z`, or a sign, two digits of hours and two of minutes with colons or blanks between; where
`hoursAlone` holds the minutes may be missing at the end of the text.  The value is in minutes. -/
def zone (hoursAlone : Bool) : Scan Int := do
  match ← get with
  | [] => throw .tooShort
  | c :: rest =>
    if c = 'Z' ∨ c = 'z' then do
      set rest
      return 0
    else if c = '+' ∨ c = '-' ∨ c = '\u2212' then do
      set rest
      let hours ← pair fun _ => true
      modify (·.dropWhile fun x => x == ':' || Text.isBlank x)
      let minutes ← if hoursAlone ∧ (← get) = [] then pure 0 else pair fun x => decide (x ≤ '5')
      return (if c = '+' then 1 else -1) * (hours * 60 + minutes : Nat)
    else throw .invalid

end Scan

/-- The instant that written fields and a zone denote: the date exists, the zone is less than a day away, and the
instant is in range. -/
def Scan.Fields.instant? (f : Scan.Fields) (offset : Int) : Option Instant := do
  let date ← Date.mk? f.year f.month f.day
  if -1440 < offset ∧ offset < 1440 then
    Instant.ofLocal date f.hour f.minute f.second f.nano offset
  else none

end VersionTags.Time
