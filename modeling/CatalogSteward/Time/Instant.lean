import CatalogSteward.Time.Calendar

/-!
# Instants

Points on the time line, to the nanosecond. A leap second is the second after
the last one of a minute: it keeps the number of that second and counts its
nanoseconds on from a whole one.
-/

set_option autoImplicit false

namespace CatalogSteward.Time

/-- A point in time: the seconds since 1970-01-01T00:00:00Z, and nanoseconds. -/
structure Instant where
  seconds : Int
  nanoseconds : Nat
  deriving DecidableEq, Repr

namespace Instant

/-- Nanoseconds reach a second only in a leap second. -/
def isValid (instant : Instant) : Bool :=
  instant.nanoseconds < 1000000000 ||
    (instant.nanoseconds < 2000000000 && instant.seconds % 60 = 59)

def microseconds (instant : Instant) : Int :=
  instant.seconds * 1000000 + (instant.nanoseconds / 1000 : Nat)

def ofMicroseconds (microseconds : Int) : Instant :=
  ⟨microseconds / 1000000, (microseconds % 1000000).toNat * 1000⟩

def ofSeconds (seconds : Int) : Instant :=
  ⟨seconds, 0⟩

/-- The first instant of the first year of the time line. -/
def earliest : Instant :=
  ⟨(Date.toDays ⟨-262143, 1, 1⟩) * 86400, 0⟩

def latestSecond : Int :=
  (Date.toDays ⟨262143, 1, 1⟩) * 86400 - 1

def isRepresentable (instant : Instant) : Bool :=
  instant.isValid && earliest.seconds ≤ instant.seconds && instant.seconds ≤ latestSecond

def date (instant : Instant) : Date :=
  Date.ofDays (instant.seconds / 86400)

def secondOfDay (instant : Instant) : Nat :=
  (instant.seconds % 86400).toNat

end Instant

end CatalogSteward.Time
