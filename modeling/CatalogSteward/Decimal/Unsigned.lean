/-!
# Unsigned numbers

A number without sign, or with a plus before it, in ASCII digits. Leading
zeros are accepted, and a number above the bound is not.
-/

set_option autoImplicit false

namespace CatalogSteward.Decimal

def digitValue? (character : Char) : Option Nat :=
  if '0' ≤ character ∧ character ≤ '9' then some (character.toNat - '0'.toNat) else none

def digitsFrom? (number : Nat) : List Char → Option Nat
  | [] => some number
  | character :: rest =>
      match digitValue? character with
      | none => none
      | some digit => digitsFrom? (number * 10 + digit) rest

def digits? : List Char → Option Nat
  | [] => none
  | characters => digitsFrom? 0 characters

def withoutPlus : List Char → List Char
  | '+' :: rest => rest
  | characters => characters

/-- The number that the characters spell, if it is at most the bound. -/
def unsigned? (bound : Nat) (characters : List Char) : Option Nat :=
  (digits? (withoutPlus characters)).filter fun number => number ≤ bound

def greatest32 : Nat := 4294967295

def greatest64 : Nat := 18446744073709551615

end CatalogSteward.Decimal
