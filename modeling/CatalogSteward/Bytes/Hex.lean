/-!
# Hexadecimal text

Two digits for each byte, in either case when read and in lower case when
written.
-/

set_option autoImplicit false

namespace CatalogSteward.Hex

def digitValue? (character : Char) : Option Nat :=
  if '0' ≤ character ∧ character ≤ '9' then some (character.toNat - '0'.toNat)
  else if 'a' ≤ character ∧ character ≤ 'f' then some (character.toNat - 'a'.toNat + 10)
  else if 'A' ≤ character ∧ character ≤ 'F' then some (character.toNat - 'A'.toNat + 10)
  else none

def decode? : List Char → Option (List UInt8)
  | [] => some []
  | [_] => none
  | high :: low :: rest => do
      let first ← digitValue? high
      let second ← digitValue? low
      let bytes ← decode? rest
      pure ((first * 16 + second).toUInt8 :: bytes)

def encodeByte (byte : UInt8) : List Char :=
  [Nat.digitChar (byte.toNat / 16), Nat.digitChar (byte.toNat % 16)]

def encode (bytes : List UInt8) : List Char :=
  bytes.flatMap encodeByte

end CatalogSteward.Hex
