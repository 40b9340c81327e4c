import VersionTags.Binary
import VersionTags.Decimal
/-!
# Numerals

Which texts read as numbers, and the number each of them denotes.  A numeral is an optional sign, digits with at most
one point among them, and an optional exponent; padding may stand around it.

A numeral without a point and an exponent is exact where it fits 64 bits.  Every other one is worked out in a limited
precision: only as many leading digits count as a 64-bit significand holds, a power of ten is taken into the significand
as far as it fits, and the rest is scaled and rounded to a double.
-/
namespace VersionTags

/-- A text that reads as a number, taken apart. -/
structure Numeral where
  negative : Bool
  whole : List Char
  fraction : List Char
  /-- The exponent, 0 where there is none. -/
  exponent : Int
  /-- It has neither a point nor an exponent. -/
  plain : Bool
  deriving DecidableEq, Repr

namespace Numeral

def isPadding (c : Char) : Bool :=
  c == ' ' || c == '\t' || c == '\n' || c == '\x0b' || c == '\x0c' || c == '\r'

/-- The text without the padding around it. -/
def unpadded (cs : List Char) : List Char := ((cs.dropWhile isPadding).reverse.dropWhile isPadding).reverse

/-- Takes a sign off the front and says whether it was a minus. -/
def splitSign : List Char → Bool × List Char
  | '-' :: cs => (true, cs)
  | '+' :: cs => (false, cs)
  | cs => (false, cs)

/-- One more digit of an exponent.  From 10000 on, where every number is infinite or zero, the digits no longer count.
-/
def exponentStep (e : Nat) (c : Char) : Nat := if e < 10000 then 10 * e + Decimal.digitValue c else 10000

/-- The exponent after the digits: none, or the letter with an optional sign and at least one digit. -/
def readExponent : List Char → Option (Option Int)
  | [] => some none
  | c :: rest =>
    let (negative, ds) := splitSign rest
    if (c = 'e' ∨ c = 'E') ∧ ds ≠ [] ∧ ds.all Char.isDigit then
      let e := ds.foldl exponentStep 0
      some (some (if negative then -(e : Int) else e))
    else none

/-- Takes a text apart, if it is a numeral. -/
def read (s : String) : Option Numeral := do
  let (negative, cs) := splitSign (unpadded s.toList)
  let whole := cs.takeWhile Char.isDigit
  let (pointed, fraction, rest) := match cs.dropWhile Char.isDigit with
    | '.' :: more => (true, more.takeWhile Char.isDigit, more.dropWhile Char.isDigit)
    | rest => (false, [], rest)
  let exponent ← readExponent rest
  if whole = [] ∧ fraction = [] then none
  else some ⟨negative, whole, fraction, exponent.getD 0, !pointed && exponent.isNone⟩

/-- Below this a significand takes one more digit. -/
def digitLimit : Nat := (Nat.pow 2 64 - 1 - 9) / 10

/-- Below this a significand takes one more power of ten. -/
def powerLimit : Nat := (Nat.pow 2 64 - 1) / 10

/-- One more digit before the point.  A digit that does not count still has its place. -/
def takeWhole (acc : Nat × Int) (c : Char) : Nat × Int :=
  if acc.1 < digitLimit then (10 * acc.1 + Decimal.digitValue c, acc.2) else (acc.1, acc.2 + 1)

/-- One more digit after the point. -/
def takeFraction (acc : Nat × Int) (c : Char) : Nat × Int :=
  if acc.1 < digitLimit then (10 * acc.1 + Decimal.digitValue c, acc.2 - 1) else acc

/-- The significand and the power of ten it is to be scaled by. -/
def significand (n : Numeral) : Nat × Int :=
  let (s, e) := n.fraction.foldl takeFraction (n.whole.foldl takeWhole (0, 0))
  (s, e + n.exponent)

/-- Takes up to `fuel` powers of ten into a significand while it has room for them. -/
def absorb : Nat → Nat × Int → Nat × Int
  | 0, p => p
  | fuel + 1, (s, e) => if 0 < e ∧ s < powerLimit then absorb fuel (10 * s, e - 1) else (s, e)

/-- Takes up to `fuel` negative powers of ten into a significand while it ends with zeros. -/
def absorbZeros : Nat → Nat × Int → Nat × Int
  | 0, p => p
  | fuel + 1, (s, e) => if e < 0 ∧ s % 10 = 0 then absorbZeros fuel (s / 10, e + 1) else (s, e)

/-- The number as a double without its sign, unless it is greater than every finite one.  A significand has at most 20
digits, so 20 steps of each kind are enough. -/
def toDouble (n : Numeral) : Option Binary :=
  let (s, e) := n.significand
  if s = 0 then some (Binary.ofNat 0)
  else
    let (s, e) := absorbZeros 20 (absorb 20 (s, e))
    ((Binary.ofNat s).timesTen e).toDouble

/-- The number as an integer, where it is exact and fits 64 bits. -/
def toInt64? (n : Numeral) : Option Int :=
  if n.plain then
    let m : Int := Decimal.value n.whole
    Decimal.int64? (if n.negative then -m else m)
  else none

end Numeral
end VersionTags
