/-!
# Calendar dates

Dates of the Gregorian calendar extended to all years from -262143 to 262142, the year 0 included.  A `Date` is always
a day that exists; `next` and `prev` step by a day and end at the two limits.
-/
namespace VersionTags.Time

def isLeapYear (y : Int) : Bool := y % 4 == 0 && (y % 100 != 0 || y % 400 == 0)

def daysIn (y : Int) (m : Nat) : Nat :=
  if m = 2 then (if isLeapYear y then 29 else 28)
  else if m = 4 ∨ m = 6 ∨ m = 9 ∨ m = 11 then 30
  else 31

def firstYear : Int := -262143

def lastYear : Int := 262142

/-- The day exists and its year is in range. -/
structure IsDate (y : Int) (m d : Nat) : Prop where
  year_ge : firstYear ≤ y
  year_le : y ≤ lastYear
  month_pos : 1 ≤ m
  month_le : m ≤ 12
  day_pos : 1 ≤ d
  day_le : d ≤ daysIn y m

instance (y : Int) (m d : Nat) : Decidable (IsDate y m d) :=
  decidable_of_iff (firstYear ≤ y ∧ y ≤ lastYear ∧ 1 ≤ m ∧ m ≤ 12 ∧ 1 ≤ d ∧ d ≤ daysIn y m)
    ⟨fun ⟨a, b, c, e, f, g⟩ => ⟨a, b, c, e, f, g⟩, fun ⟨a, b, c, e, f, g⟩ => ⟨a, b, c, e, f, g⟩⟩

/-- A day of the calendar. -/
structure Date where
  year : Int
  month : Nat
  day : Nat
  isDate : IsDate year month day
  deriving DecidableEq

/-- The date with the given fields, if there is one. -/
def Date.mk? (y : Int) (m d : Nat) : Option Date :=
  if h : IsDate y m d then some ⟨y, m, d, h⟩ else none

/-- The day after. -/
def Date.next (x : Date) : Option Date :=
  if x.day < daysIn x.year x.month then Date.mk? x.year x.month (x.day + 1)
  else if x.month < 12 then Date.mk? x.year (x.month + 1) 1
  else Date.mk? (x.year + 1) 1 1

/-- The day before. -/
def Date.prev (x : Date) : Option Date :=
  if 1 < x.day then Date.mk? x.year x.month (x.day - 1)
  else if 1 < x.month then Date.mk? x.year (x.month - 1) (daysIn x.year (x.month - 1))
  else Date.mk? (x.year - 1) 12 31

theorem Date.mk?_self (x : Date) : Date.mk? x.year x.month x.day = some x := by
  simp [Date.mk?, x.isDate]

end VersionTags.Time
