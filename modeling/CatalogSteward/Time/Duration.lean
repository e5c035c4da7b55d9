/-!
# Durations

Spans of time to the nanosecond, and their counterparts among the doubles, in
seconds. A double becomes the nearest span, and of two the even one.
-/

set_option autoImplicit false

namespace CatalogSteward.Time

structure Duration where
  seconds : Nat
  nanoseconds : Nat
  deriving DecidableEq, Repr

/-- The quotient rounded to the nearest number, and of two to the even one. -/
def roundHalfEven (dividend divisor : Nat) : Nat :=
  let quotient := dividend / divisor
  let rest := dividend % divisor
  if rest * 2 < divisor ∨ (rest * 2 = divisor ∧ quotient % 2 = 0) then quotient
  else quotient + 1

namespace Duration

def ofSeconds (seconds : Nat) : Duration :=
  ⟨seconds, 0⟩

def ofMilliseconds (milliseconds : Nat) : Duration :=
  ⟨milliseconds / 1000, milliseconds % 1000 * 1000000⟩

def ofNanoseconds (nanoseconds : Nat) : Duration :=
  ⟨nanoseconds / 1000000000, nanoseconds % 1000000000⟩

def toFloat (duration : Duration) : Float :=
  duration.seconds.toFloat + duration.nanoseconds.toFloat / 1000000000.0

/-- The span of a number of seconds that is not negative. -/
def ofFloat (seconds : Float) : Duration :=
  let bits := seconds.toBits.toNat
  let exponentField := bits / 4503599627370496 % 2048
  let fraction := bits % 4503599627370496
  let significand := if exponentField = 0 then fraction else fraction + 4503599627370496
  let exponent := max exponentField 1
  ofNanoseconds
    (if 1075 ≤ exponent then significand * Nat.pow 2 (exponent - 1075) * 1000000000
    else roundHalfEven (significand * 1000000000) (Nat.pow 2 (1075 - exponent)))

end Duration

end CatalogSteward.Time
