/-!
# Decimal numbers

Writing a number as decimal digits and reading it back.  `readInt` reads the form a version number may have in a text:
one optional sign and at least one digit, nothing else.  The bounds of the fixed sizes a number is kept in are here
too: ids and versions are 64-bit signed, tenants 32-bit signed, page positions 64-bit unsigned.
-/
namespace VersionTags.Decimal

def digitChar (d : Nat) : Char := Char.ofNat ('0'.toNat + d)

def digitValue (c : Char) : Nat := c.toNat - '0'.toNat

/-- The decimal digits of a number, without leading zeros. -/
def digits (n : Nat) : List Char :=
  if n < 10 then [digitChar n] else digits (n / 10) ++ [digitChar (n % 10)]

/-- The number a list of digits denotes. -/
def value (ds : List Char) : Nat := ds.foldl (fun n c => 10 * n + digitValue c) 0

/-- The digits of `n` with zeros before them up to the width `w`. -/
def padded (w n : Nat) : List Char := List.replicate (w - (digits n).length) '0' ++ digits n

/-- A whole number with its minus sign. -/
def ofInt (n : Int) : List Char := if n < 0 then '-' :: digits n.natAbs else digits n.natAbs

/-- The number written as at least one digit and nothing else. -/
def readNat (cs : List Char) : Option Nat :=
  if cs ≠ [] ∧ cs.all Char.isDigit then some (value cs) else none

/-- The number written as an optional sign and at least one digit. -/
def readInt : List Char → Option Int
  | '-' :: cs => (readNat cs).map fun n => -(n : Int)
  | '+' :: cs => (readNat cs).map fun n => (n : Int)
  | cs => (readNat cs).map fun n => (n : Int)

def maxInt64 : Int := 9223372036854775807

def minInt64 : Int := -9223372036854775808

def maxInt32 : Int := 2147483647

def minInt32 : Int := -2147483648

def maxNat64 : Nat := 18446744073709551615

/-- The number, if it fits 64 bits with a sign. -/
def int64? (n : Int) : Option Int := if minInt64 ≤ n ∧ n ≤ maxInt64 then some n else none

/-- The number, if it fits 32 bits with a sign. -/
def int32? (n : Int) : Option Int := if minInt32 ≤ n ∧ n ≤ maxInt32 then some n else none

/-- The number, if it fits 64 bits without a sign. -/
def nat64? (n : Int) : Option Nat := if 0 ≤ n ∧ n ≤ maxNat64 then some n.toNat else none

/-- The 64-bit number a text denotes. -/
def readInt64 (s : String) : Option Int := readInt s.toList >>= int64?

/-- The 32-bit number a text denotes. -/
def readInt32 (s : String) : Option Int := readInt s.toList >>= int32?

end VersionTags.Decimal
