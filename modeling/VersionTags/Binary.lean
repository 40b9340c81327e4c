/-!
# Binary numbers

A number `mantissa · 2 ^ exponent`, and its rounding to a mantissa of few bits: to the nearest such number, and of two
that are equally near to the one whose mantissa is even.  `timesTen` scales by a power of ten in a precision of 64 bits,
and `toDouble` takes a number to one of double precision.
-/
namespace VersionTags

/-- The number `mantissa · 2 ^ exponent`. -/
structure Binary where
  mantissa : Nat
  exponent : Int
  deriving DecidableEq, Repr

namespace Binary

def ofNat (n : Nat) : Binary := ⟨n, 0⟩

/-- The number of bits of the mantissa, at least one. -/
def bits (b : Binary) : Nat := b.mantissa.log2 + 1

/-- The number without so many low bits of its mantissa, rounded. -/
def dropBits (n : Nat) (b : Binary) : Binary :=
  let unit := Nat.pow 2 n
  let kept := b.mantissa / unit
  let lost := b.mantissa % unit
  let up := unit < 2 * lost ∨ unit = 2 * lost ∧ kept % 2 = 1
  ⟨if up then kept + 1 else kept, b.exponent + n⟩

/-- The number rounded to so many bits. -/
def round (n : Nat) (b : Binary) : Binary := b.dropBits (b.bits - n)

/-- The precision in which numbers are scaled. -/
def workingBits : Nat := 64

def times (a b : Binary) : Binary := round workingBits ⟨a.mantissa * b.mantissa, a.exponent + b.exponent⟩

/-- Multiplies by a factor so many times, and rounds each time. -/
def timesPower (factor : Binary) : Nat → Binary → Binary
  | 0, b => b
  | n + 1, b => timesPower factor n (b.times factor)

/-- One part of `n`, rounded.  No power of ten divides two values that are equally near. -/
def reciprocal (n : Nat) : Binary :=
  let scale := n.log2 + workingBits
  ⟨(Nat.pow 2 (scale + 1) / n + 1) / 2, -scale⟩

/-- The power of ten, or its reciprocal. -/
def tenTo (isReciprocal : Bool) (n : Nat) : Binary :=
  if isReciprocal then reciprocal (Nat.pow 10 n) else round workingBits (ofNat (Nat.pow 10 n))

/-- Scales by a power of ten: by hundreds of powers as long as they fit, then by tens, then by ones. -/
def timesTen (e : Int) (b : Binary) : Binary :=
  let n := e.natAbs
  let step (k : Nat) (b : Binary) := timesPower (tenTo (decide (e < 0)) k) (n % (10 * k) / k) b
  step 1 (step 10 (timesPower (tenTo (decide (e < 0)) 100) (n / 100) b))

/-- Whether a number is greater than every finite double. -/
def isBeyondDouble (b : Binary) : Bool :=
  decide ((Nat.pow 2 53 - 1) * Nat.pow 2 (971 - b.exponent).toNat < b.mantissa * Nat.pow 2 (b.exponent - 971).toNat)

/-- The nearest double, unless the number is greater than every finite one. -/
def toDouble (b : Binary) : Option Binary :=
  if b.isBeyondDouble then none else some (b.dropBits (max (b.bits - 53 : Int) (-1074 - b.exponent)).toNat)

/-- The same number with an odd mantissa, unless it is zero. -/
def reduced (b : Binary) : Binary :=
  if 0 < b.mantissa ∧ b.mantissa % 2 = 0 then reduced ⟨b.mantissa / 2, b.exponent + 1⟩ else b
termination_by b.mantissa
decreasing_by omega

end Binary
end VersionTags
