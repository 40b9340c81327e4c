import VersionTags.Decimal
import VersionTags.Time.Date
import VersionTags.Toml.Text
import VersionTags.Toml.Value
/-!
# Numbers and times in configuration files

A number is an integer, decimal or to the base 16, 8 or 2, or a floating-point number; its digits may have single
underscores between them.  A time is a date, a time of day, or both with a zone or without.  Every function takes its
part from the front of the characters and yields the rest.
-/
namespace VersionTags.Toml.Lexeme

/-! ## Digits -/

/-- Digits that satisfy `isDigit`, the first of them given, with single underscores between them. -/
def moreDigits (isDigit : Char → Bool) : List Char → Option (List Char × List Char)
  | '_' :: c :: rest => if isDigit c then before c (moreDigits isDigit rest) else none
  | c :: rest =>
    if isDigit c then before c (moreDigits isDigit rest)
    else if c = '_' then none else some ([], c :: rest)
  | [] => some ([], [])

/-- At least one digit that satisfies `isDigit`, with single underscores between digits. -/
def digits (isDigit : Char → Bool) : List Char → Option (List Char × List Char)
  | c :: rest => if isDigit c then before c (moreDigits isDigit rest) else none
  | [] => none

/-- Whether a sign stands at the front, and if it is a minus; and what follows it. -/
def sign : List Char → Bool × List Char
  | '-' :: rest => (true, rest)
  | '+' :: rest => (false, rest)
  | cs => (false, cs)

/-- A decimal whole number without leading zeros: its sign and its digits. -/
def whole (cs : List Char) : Option ((Bool × List Char) × List Char) :=
  let (negative, cs') := sign cs
  match cs' with
  | '0' :: rest => some ((negative, ['0']), rest)
  | _ => (digits Char.isDigit cs').map fun p => ((negative, p.1), p.2)

/-! ## Integers -/

/-- The number of digits to a base. -/
def valueInBase (base : Nat) (ds : List Char) : Nat :=
  ds.foldl (fun n c => base * n + (hexDigit c).getD 0) 0

def isDigitInBase (base : Nat) (c : Char) : Bool :=
  match hexDigit c with
  | some d => decide (d < base)
  | none => false

/-- A number to a base, after the letter that says which. -/
def inBase (base : Nat) (cs : List Char) : Option (Int × List Char) := do
  let (ds, rest) ← digits (isDigitInBase base) cs
  let n ← Decimal.int64? (valueInBase base ds)
  return (n, rest)

/-- An integer of 64 bits. -/
def integer : List Char → Option (Int × List Char)
  | '0' :: 'x' :: rest => inBase 16 rest
  | '0' :: 'o' :: rest => inBase 8 rest
  | '0' :: 'b' :: rest => inBase 2 rest
  | cs => do
    let ((negative, ds), rest) ← whole cs
    let n : Int := Decimal.value ds
    return (← Decimal.int64? (if negative then -n else n), rest)

/-! ## Floating-point numbers -/

/-- Whether `digits · 10 ^ power` is too large for a floating-point number of 64 bits, that is at least half a unit
above the greatest of them. -/
def overflows (ds : List Char) (power : Int) : Bool :=
  let ds := ds.dropWhile (· == '0')
  let limit := Nat.pow 2 1024 - Nat.pow 2 970
  let size : Int := ds.length + power
  if ds = [] ∨ size < 309 then false
  else if 310 < size then true
  else if 0 ≤ power then decide (limit ≤ Decimal.value ds * Nat.pow 10 power.toNat)
  else decide (limit * Nat.pow 10 (-power).toNat ≤ Decimal.value ds)

/-- The digits after a point. -/
def fractionDigits : List Char → Option (List Char × List Char)
  | '.' :: rest => digits Char.isDigit rest
  | _ => none

/-- The power of ten after an `e`. -/
def exponent : List Char → Option (Int × List Char)
  | c :: rest =>
    if c = 'e' ∨ c = 'E' then
      let (negative, rest') := sign rest
      (digits Char.isDigit rest').map fun p =>
        let n : Int := Decimal.value p.1
        (if negative then -n else n, p.2)
    else none
  | [] => none

/-- A floating-point number with a fraction, an exponent or both; a positive one has to be in range. -/
def decimalFloat (cs : List Char) : Option (List Char) := do
  let ((negative, ds), rest) ← whole cs
  let (fraction, power, rest') ← match fractionDigits rest with
    | some (ds', rest') =>
      match exponent rest' with
      | some (n, rest'') => some (ds', n, rest'')
      | none => some (ds', 0, rest')
    | none => (exponent rest).map fun p => ([], p.1, p.2)
  if !negative && overflows (ds ++ fraction) (power - fraction.length) then none
  return rest'

/-- Infinity or a value that is no number. -/
def specialFloat (cs : List Char) : Option (List Char) :=
  match (sign cs).2 with
  | 'i' :: 'n' :: 'f' :: rest => some rest
  | 'n' :: 'a' :: 'n' :: rest => some rest
  | _ => none

/-! ## Dates and times -/

/-- A number of exactly `count` digits from `lo` to `hi`. -/
def fixed (count lo hi : Nat) (cs : List Char) : Option (Nat × List Char) := do
  let n ← Decimal.readNat (cs.take count)
  if (cs.take count).length = count ∧ lo ≤ n ∧ n ≤ hi then some (n, cs.drop count) else none

/-- What follows the character at the front. -/
def literal (c : Char) : List Char → Option (List Char)
  | x :: rest => if x = c then some rest else none
  | [] => none

/-- A number of `count` digits as it is written. -/
def fixedText (count n : Nat) : String := String.ofList (Decimal.padded count n)

/-- A day of the calendar, and its text. -/
def fullDate (cs : List Char) : Option (String × List Char) := do
  let (y, rest) ← fixed 4 0 9999 cs
  let (m, rest) ← fixed 2 1 12 (← literal '-' rest)
  let (d, rest) ← fixed 2 1 (Time.daysIn y m) (← literal '-' rest)
  return (fixedText 4 y ++ "-" ++ fixedText 2 m ++ "-" ++ fixedText 2 d, rest)

/-- The fraction of a second as text, to nine digits and without zeros at its end. -/
def secondFraction (cs : List Char) : Option (String × List Char) :=
  match cs with
  | '.' :: rest =>
    let ds := rest.takeWhile Char.isDigit
    if ds = [] then none
    else
      let kept := ((ds.take 9).reverse.dropWhile (· == '0')).reverse
      some (if kept = [] then "" else "." ++ String.ofList kept, rest.dropWhile Char.isDigit)
  | _ => some ("", cs)

/-- A time of day, and its text. -/
def clockTime (cs : List Char) : Option (String × List Char) := do
  let (h, rest) ← fixed 2 0 23 cs
  let (m, rest) ← fixed 2 0 59 (← literal ':' rest)
  let (s, rest) ← fixed 2 0 60 (← literal ':' rest)
  let (fraction, rest) ← match secondFraction rest with
    | some r => some r
    | none => some ("", rest)
  return (fixedText 2 h ++ ":" ++ fixedText 2 m ++ ":" ++ fixedText 2 s ++ fraction, rest)

/-- A zone, and its text.  A distance of zero is written with a plus sign. -/
def zone : List Char → Option (String × List Char)
  | 'Z' :: rest => some ("Z", rest)
  | 'z' :: rest => some ("Z", rest)
  | c :: rest =>
    if c = '+' ∨ c = '-' then do
      let (h, rest) ← fixed 2 0 23 rest
      let (m, rest) ← fixed 2 0 59 (← literal ':' rest)
      return ((if c = '-' ∧ 0 < h + m then "-" else "+") ++ fixedText 2 h ++ ":" ++ fixedText 2 m, rest)
    else none
  | [] => none

/-- A time of day after a date, with the zone it may have. -/
def clockAfterDate : List Char → Option (String × List Char)
  | c :: rest =>
    if c = 'T' ∨ c = 't' ∨ c = ' ' then do
      let (time, rest) ← clockTime rest
      match zone rest with
      | some (z, rest') => return ("T" ++ time ++ z, rest')
      | none => return ("T" ++ time, rest)
    else none
  | [] => none

/-- A date, a time of day, or both, as text in the one form all spellings share. -/
def dateTime (cs : List Char) : Option (String × List Char) :=
  match fullDate cs with
  | some (date, rest) =>
    match clockAfterDate rest with
    | some (time, rest') => some (date ++ time, rest')
    | none => some (date, rest)
  | none => clockTime cs

/-! ## All of them -/

/-- A value that is neither text nor made of others. -/
def scalar (cs : List Char) : Option (Toml × List Char) :=
  match cs with
  | 't' :: 'r' :: 'u' :: 'e' :: rest => some (.boolean true, rest)
  | 'f' :: 'a' :: 'l' :: 's' :: 'e' :: rest => some (.boolean false, rest)
  | _ =>
    match dateTime cs with
    | some (text, rest) => some (.dateTime text, rest)
    | none =>
      match decimalFloat cs with
      | some rest => some (.float, rest)
      | none =>
        match specialFloat cs with
        | some rest => some (.float, rest)
        | none => (integer cs).map fun p => (.integer p.1, p.2)

end VersionTags.Toml.Lexeme
