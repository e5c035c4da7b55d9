/-!
# Shortest decimals

The decimal with the fewest digits that reads back as a given double, the
nearest one where several have that many digits. A double is taken apart into
`mantissa * 2 ^ exponent`; the decimals that read back as it are those in the
interval half-way to its neighbours, ends included when the mantissa is even.
-/

set_option autoImplicit false

namespace CatalogSteward.Decimal

/-- A positive decimal `digits * 10 ^ exponent`. -/
structure Scaled where
  digits : Nat
  exponent : Int
  deriving DecidableEq, Repr

/-- The reals that round to one double, in units of `1 / unit`. -/
structure RoundingInterval where
  low : Nat
  value : Nat
  high : Nat
  unit : Nat
  closed : Bool
  deriving DecidableEq, Repr

def RoundingInterval.ofFields (exponentField fraction : Nat) : RoundingInterval :=
  let mantissa := if exponentField = 0 then fraction else fraction + 4503599627370496
  let below := if fraction = 0 && 1 < exponentField then 1 else 2
  let power : Int := (max exponentField 1 : Nat) - 1077
  let factor := Nat.pow 2 power.toNat
  { low := (4 * mantissa - below) * factor
    value := 4 * mantissa * factor
    high := (4 * mantissa + 2) * factor
    unit := Nat.pow 2 (-power).toNat
    closed := mantissa % 2 = 0 }

namespace RoundingInterval

/-- Whether `count * 10 ^ exponent` lies in the interval. -/
def contains (interval : RoundingInterval) (count : Nat) (exponent : Int) : Bool :=
  let point := count * Nat.pow 10 exponent.toNat * interval.unit
  let scale := Nat.pow 10 (-exponent).toNat
  if interval.closed then
    interval.low * scale ≤ point && point ≤ interval.high * scale
  else
    interval.low * scale < point && point < interval.high * scale

/-- The multiple of `10 ^ exponent` in the interval that is nearest to the value, of the
two next to the value. -/
def onGrid? (interval : RoundingInterval) (exponent : Int) : Option Nat :=
  let numerator := interval.value * Nat.pow 10 (-exponent).toNat
  let denominator := interval.unit * Nat.pow 10 exponent.toNat
  let below := numerator / denominator
  let above := below + 1
  match interval.contains below exponent && below != 0, interval.contains above exponent with
  | true, true =>
      let distanceBelow := numerator - below * denominator
      let distanceAbove := above * denominator - numerator
      if distanceBelow < distanceAbove || (distanceBelow == distanceAbove && below % 2 == 0) then
        some below
      else
        some above
  | true, false => some below
  | false, true => some above
  | false, false => none

/-- The first grid with a point of the interval, from coarse to fine. -/
def firstGrid (interval : RoundingInterval) (top : Int) : Nat → Scaled
  | 0 => ⟨interval.value / interval.unit, 0⟩
  | remaining + 1 =>
      let exponent := top - (17 - remaining : Nat)
      match interval.onGrid? exponent with
      | some digits => ⟨digits, exponent⟩
      | none => interval.firstGrid top remaining

/-- An exponent `k` with the value between `10 ^ (k - 1)` and `10 ^ k`. -/
def magnitude (interval : RoundingInterval) : Int :=
  let whole := interval.value / interval.unit
  if whole = 0 then
    let inverse := interval.unit / interval.value
    1 - ((Nat.toDigits 10 inverse).length : Int)
  else
    (Nat.toDigits 10 whole).length

def shortest (interval : RoundingInterval) : Scaled :=
  interval.firstGrid interval.magnitude 18

end RoundingInterval

def Scaled.normalize (scaled : Scaled) : Nat → Scaled
  | 0 => scaled
  | fuel + 1 =>
      if scaled.digits % 10 = 0 && scaled.digits != 0 then
        Scaled.normalize ⟨scaled.digits / 10, scaled.exponent + 1⟩ fuel
      else
        scaled

/-- How the digits of a decimal are laid out: the exponents, counted from before the first
digit, between which no power of ten is written. -/
structure Layout where
  leastPositional : Int
  greatestPositional : Int
  infinity : String
  undefined : String

def Layout.positive (layout : Layout) (scaled : Scaled) : String :=
  let digits := toString scaled.digits
  let point : Int := digits.length + scaled.exponent
  if 0 ≤ scaled.exponent && point ≤ layout.greatestPositional then
    digits ++ String.ofList (List.replicate scaled.exponent.toNat '0') ++ ".0"
  else if 0 < point && point ≤ layout.greatestPositional then
    String.ofList (digits.toList.take point.toNat) ++ "." ++
      String.ofList (digits.toList.drop point.toNat)
  else if layout.leastPositional < point && point ≤ 0 then
    "0." ++ String.ofList (List.replicate (-point).toNat '0') ++ digits
  else
    match digits.toList with
    | [] => ""
    | [digit] => String.ofList [digit] ++ "e" ++ toString (point - 1)
    | first :: rest =>
        String.ofList [first] ++ "." ++ String.ofList rest ++ "e" ++ toString (point - 1)

def Layout.text (layout : Layout) (value : Float) : String :=
  let bits := value.toBits.toNat
  let sign := if bits / 9223372036854775808 = 1 then "-" else ""
  let exponentField := bits / 4503599627370496 % 2048
  let fraction := bits % 4503599627370496
  if exponentField = 2047 then
    if fraction = 0 then sign ++ layout.infinity else layout.undefined
  else if exponentField = 0 && fraction = 0 then
    sign ++ "0.0"
  else
    sign ++ layout.positive
      ((RoundingInterval.ofFields exponentField fraction).shortest.normalize 400)

end CatalogSteward.Decimal
