import VersionTags.Storage.Numeral
/-!
# Stored values

A column is weakly typed: it holds whatever was put into it, after a conversion by the column's affinity.  A column of
integer affinity turns a text that reads as a number into that number and keeps every other text.  A column of text
affinity holds texts only.

A number is kept as an integer where it is one and lies strictly between the bounds of 64 bits, so that every integer
can be told from its neighbours.  The lower bound itself is therefore kept in two ways, which `Cell.same` holds equal.
-/
namespace VersionTags

/-- A value in a column of integer affinity. -/
inductive Cell where
  | int (n : Int)
  /-- The number `mantissa · 2 ^ exponent`, with an odd mantissa. -/
  | real (mantissa exponent : Int)
  /-- A number greater than every other, or less than every other. -/
  | infinite (negative : Bool)
  | text (s : String)
  deriving DecidableEq, Hashable, Repr

namespace Cell

/-- A double with a sign as a value. -/
def ofDouble (negative : Bool) (b : Binary) : Cell :=
  let b := b.reduced
  let m : Int := if negative then -b.mantissa else b.mantissa
  let n := m * Int.pow 2 b.exponent.toNat
  if 0 ≤ b.exponent ∧ Decimal.minInt64 < n ∧ n < Decimal.maxInt64 then .int n
  else if m = 0 then .int 0
  else .real m b.exponent

/-- The value of a numeral. -/
def ofNumeral (n : Numeral) : Cell :=
  match n.toInt64? with
  | some i => .int i
  | none =>
    match n.toDouble with
    | some b => ofDouble n.negative b
    | none => .infinite n.negative

/-- A text put into a column of integer affinity. -/
def ofText (s : String) : Cell :=
  match Numeral.read s with
  | some n => ofNumeral n
  | none => .text s

/-- The name of a value's type in messages. -/
def typeName : Cell → String
  | .int _ => "Integer"
  | .real _ _ => "Real"
  | .infinite _ => "Real"
  | .text _ => "Text"

/-- Whether the number `m₁ · 2 ^ e₁` is at most `m₂ · 2 ^ e₂`. -/
def numberLe (m₁ e₁ m₂ e₂ : Int) : Bool :=
  let least := min e₁ e₂
  decide (m₁ * Int.pow 2 (e₁ - least).toNat ≤ m₂ * Int.pow 2 (e₂ - least).toNat)

/-- The order of a sorted column: numbers by value, then texts by code points. -/
def le : Cell → Cell → Bool
  | .text a, .text b => decide (a ≤ b)
  | .text _, _ => false
  | _, .text _ => true
  | .infinite negative, b => negative || b == .infinite false
  | _, .infinite negative => !negative
  | .int a, .int b => decide (a ≤ b)
  | .int a, .real m e => numberLe a 0 m e
  | .real m e, .int b => numberLe m e b 0
  | .real m e, .real m' e' => numberLe m e m' e'

/-- Whether two values are the same in the order, however they are kept. -/
def same (a b : Cell) : Bool := a.le b && b.le a

/-- The integer that a value is, however it is kept. -/
def integer? : Cell → Option Int
  | .int n => some n
  | .real m e => if 0 ≤ e then some (m * Int.pow 2 e.toNat) else none
  | _ => none

/-- The value, kept as an integer if it is one, so that values that are the same become equal. -/
def canonical (c : Cell) : Cell :=
  match c.integer? with
  | some n => .int n
  | none => c

end Cell
end VersionTags
