import VersionTags.Decimal
import VersionTags.Time.Date
/-!
# Instants

An instant is a date and a time of day in universal time, to the nanosecond.  The second 60 is a leap second, which any
minute may have.  `ofLocal` moves a local time by its distance from universal time, a whole number of minutes.

An instant is written with the shortest of 0, 3, 6 or 9 fraction digits that is exact.  Years from 0 to 9999 have four
digits, all others a sign and at least four.
-/
namespace VersionTags.Time

/-- The time of day is one a clock can show, the second 60 included. -/
structure IsClock (h m s n : Nat) : Prop where
  hour_lt : h < 24
  minute_lt : m < 60
  second_le : s ≤ 60
  nano_lt : n < 1000000000

instance (h m s n : Nat) : Decidable (IsClock h m s n) :=
  decidable_of_iff (h < 24 ∧ m < 60 ∧ s ≤ 60 ∧ n < 1000000000)
    ⟨fun ⟨a, b, c, d⟩ => ⟨a, b, c, d⟩, fun ⟨a, b, c, d⟩ => ⟨a, b, c, d⟩⟩

/-- A point in time: date and time of day in universal time. -/
structure Instant where
  date : Date
  hour : Nat
  minute : Nat
  second : Nat
  nano : Nat
  isClock : IsClock hour minute second nano
  deriving DecidableEq

/-- The instant at a date and time of day, if a clock can show that time. -/
def Instant.mk? (x : Date) (h m s n : Nat) : Option Instant :=
  if c : IsClock h m s n then some ⟨x, h, m, s, n, c⟩ else none

/-- The date `days` days later, where `days` is -1, 0 or 1. -/
def Date.shift (x : Date) (days : Int) : Option Date :=
  if days < 0 then x.prev else if 0 < days then x.next else some x

/-- The instant that a local clock `offset` minutes ahead of universal time shows. -/
def Instant.ofLocal (x : Date) (h m s n : Nat) (offset : Int) : Option Instant := do
  let minutes : Int := (h * 60 + m : Nat) - offset
  let x' ← x.shift (minutes.fdiv 1440)
  let rest := (minutes.fmod 1440).toNat
  Instant.mk? x' (rest / 60) (rest % 60) s n

/-! ## Writing -/

def yearText (y : Int) : List Char :=
  if 0 ≤ y ∧ y ≤ 9999 then Decimal.padded 4 y.toNat
  else (if y < 0 then '-' else '+') :: Decimal.padded 4 y.natAbs

def dateText (x : Date) : List Char :=
  yearText x.year ++ '-' :: Decimal.padded 2 x.month ++ '-' :: Decimal.padded 2 x.day

def clockText (t : Instant) : List Char :=
  Decimal.padded 2 t.hour ++ ':' :: Decimal.padded 2 t.minute ++ ':' :: Decimal.padded 2 t.second

/-- The point and the fraction digits, nothing for a whole second. -/
def fractionText (n : Nat) : List Char :=
  if n = 0 then []
  else if n % 1000000 = 0 then '.' :: Decimal.padded 3 (n / 1000000)
  else if n % 1000 = 0 then '.' :: Decimal.padded 6 (n / 1000)
  else '.' :: Decimal.padded 9 n

/-- The form of exchange: `2020-01-02T03:04:05.5Z` with as many fraction digits as are needed. -/
def Instant.zuluText (t : Instant) : String :=
  String.ofList (dateText t.date ++ 'T' :: clockText t ++ fractionText t.nano ++ ['Z'])

/-- The form with a written-out zone: `2020-01-02T03:04:05+00:00`. -/
def Instant.offsetText (t : Instant) : String :=
  String.ofList (dateText t.date ++ 'T' :: clockText t ++ fractionText t.nano ++ "+00:00".toList)

/-- The form of tables: date and time to the second. -/
def Instant.plainText (t : Instant) : String :=
  String.ofList (dateText t.date ++ ' ' :: clockText t)

/-- The form in which the store keeps a time: `2020-01-02 03:04:05+00:00`. -/
def Instant.storedText (t : Instant) : String :=
  String.ofList (dateText t.date ++ ' ' :: clockText t ++ fractionText t.nano ++ "+00:00".toList)

end VersionTags.Time
