/-!
# Base 64

The standard alphabet with padding. Each text of bytes has one spelling:
padding is required, and the bits that no byte uses must be zero.
-/

set_option autoImplicit false

namespace CatalogSteward.Base64

def alphabet : List Char :=
  "ABCDEFGHIJKLMNOPQRSTUVWXYZabcdefghijklmnopqrstuvwxyz0123456789+/".toList

def character (value : Nat) : Char :=
  alphabet.getD value '='

def value? (character : Char) : Option Nat :=
  if 'A' ≤ character ∧ character ≤ 'Z' then some (character.toNat - 'A'.toNat)
  else if 'a' ≤ character ∧ character ≤ 'z' then some (character.toNat - 'a'.toNat + 26)
  else if '0' ≤ character ∧ character ≤ '9' then some (character.toNat - '0'.toNat + 52)
  else if character = '+' then some 62
  else if character = '/' then some 63
  else none

def encode : List UInt8 → List Char
  | [] => []
  | [first] =>
      let bits := first.toNat * 16
      [character (bits / 64), character (bits % 64), '=', '=']
  | [first, second] =>
      let bits := (first.toNat * 256 + second.toNat) * 4
      [character (bits / 4096), character (bits / 64 % 64), character (bits % 64), '=']
  | first :: second :: third :: rest =>
      let bits := (first.toNat * 256 + second.toNat) * 256 + third.toNat
      character (bits / 262144) :: character (bits / 4096 % 64) ::
        character (bits / 64 % 64) :: character (bits % 64) :: encode rest

def decodeLast? (first second third fourth : Char) : Option (List UInt8) := do
  let high ← value? first
  let low ← value? second
  let bits := high * 64 + low
  if third = '=' then
    if fourth = '=' ∧ bits % 16 = 0 then pure [(bits / 16).toUInt8] else none
  else
    let next ← value? third
    let bits := bits * 64 + next
    if fourth = '=' then
      if bits % 4 = 0 then pure [(bits / 1024).toUInt8, (bits / 4 % 256).toUInt8] else none
    else
      let last ← value? fourth
      let bits := bits * 64 + last
      pure [(bits / 65536).toUInt8, (bits / 256 % 256).toUInt8, (bits % 256).toUInt8]

def decodeInner? (first second third fourth : Char) : Option (List UInt8) :=
  if fourth = '=' then none else decodeLast? first second third fourth

def decode? : List Char → Option (List UInt8)
  | [] => some []
  | [first, second, third, fourth] => decodeLast? first second third fourth
  | first :: second :: third :: fourth :: rest => do
      let bytes ← decodeInner? first second third fourth
      let more ← decode? rest
      pure (bytes ++ more)
  | _ => none

end CatalogSteward.Base64
