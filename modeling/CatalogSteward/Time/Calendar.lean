/-!
# Calendar

The proleptic Gregorian calendar as a numbering of days from 1970-01-01.
-/

set_option autoImplicit false

namespace CatalogSteward.Time

/-- A day of the calendar. Year zero is the year before year one. -/
structure Date where
  year : Int
  month : Nat
  day : Nat
  deriving DecidableEq, Repr

def isLeapYear (year : Int) : Bool :=
  year % 4 = 0 && (year % 100 ≠ 0 || year % 400 = 0)

def monthLengths (leap : Bool) : List Nat :=
  [31, if leap then 29 else 28, 31, 30, 31, 30, 31, 31, 30, 31, 30, 31]

def yearStart (year : Int) : Int :=
  365 * (year - 1970) + (year - 1) / 4 - (year - 1) / 100 + (year - 1) / 400 - 477

def yearOf (days : Int) : Int :=
  let guess := 1970 + days * 400 / 146097
  if days < yearStart guess then guess - 1
  else if yearStart (guess + 1) ≤ days then guess + 1
  else guess

def monthOf (month offset : Nat) : List Nat → Nat × Nat
  | [] => (month, offset + 1)
  | length :: rest =>
      if offset < length then (month, offset + 1)
      else monthOf (month + 1) (offset - length) rest

/-- The days in so many of the first months of the given lengths. -/
def daysOfMonths : Nat → List Nat → Nat
  | 0, _ => 0
  | _ + 1, [] => 0
  | count + 1, length :: rest => length + daysOfMonths count rest

namespace Date

def lengths (date : Date) : List Nat :=
  monthLengths (isLeapYear date.year)

def isValid (date : Date) : Bool :=
  1 ≤ date.month && date.month ≤ 12 && 1 ≤ date.day &&
    date.day ≤ date.lengths.getD (date.month - 1) 0

def toDays (date : Date) : Int :=
  yearStart date.year + (daysOfMonths (date.month - 1) date.lengths + (date.day - 1) : Nat)

def ofDays (days : Int) : Date :=
  let year := yearOf days
  let (month, day) := monthOf 1 (days - yearStart year).toNat (monthLengths (isLeapYear year))
  ⟨year, month, day⟩

end Date

end CatalogSteward.Time
