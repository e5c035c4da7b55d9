import CatalogSteward.Bytes.Base64

/-!
# Defects of base 64

Why a text spells no bytes. Of the symbols that others follow in fours, the
first bad one is named; of the last ones, at most four, the padding is looked
at as well. A symbol that stands alone behind the last four is named first.
-/

set_option autoImplicit false

namespace CatalogSteward.Base64

inductive Defect where
  | badSymbol (byte offset : Nat)
  | badLength (length : Nat)
  | badLastSymbol (byte offset : Nat)
  | badPadding
  deriving DecidableEq, Repr

def Defect.message : Defect → String
  | .badSymbol byte offset =>
      "Invalid symbol " ++ toString byte ++ ", offset " ++ toString offset ++ "."
  | .badLength length => "Invalid input length: " ++ toString length
  | .badLastSymbol byte offset =>
      "Invalid last symbol " ++ toString byte ++ ", offset " ++ toString offset ++ "."
  | .badPadding => "Invalid padding"

def padding : UInt8 := 61

def symbolValue? (byte : UInt8) : Option Nat :=
  value? (Char.ofNat byte.toNat)

/-- The first byte of a list that is no symbol, given the offset of the list. -/
def badSymbol? (offset : Nat) : List UInt8 → Option Defect
  | [] => none
  | byte :: rest =>
      match symbolValue? byte with
      | some _ => badSymbol? (offset + 1) rest
      | none => some (.badSymbol byte.toNat offset)

def spareValues : Nat → Nat
  | 2 => 16
  | 3 => 4
  | _ => 1

def endDefect? (offset : Nat) (symbols padded : List UInt8) : Option Defect :=
  match badSymbol? offset symbols with
  | some defect => some defect
  | none =>
      if symbols.length < 2 then
        match padded with
        | [] => if symbols.isEmpty then none else some (.badLength (offset + 1))
        | byte :: _ => some (.badSymbol byte.toNat (offset + symbols.length))
      else if padded.any (· != padding) then
        some (.badSymbol padding.toNat (offset + symbols.length))
      else if (symbols.length + padded.length) % 4 ≠ 0 then some .badPadding
      else
        match symbols.getLast? with
        | some last =>
            if (symbolValue? last).getD 0 % spareValues symbols.length = 0 then none
            else some (.badLastSymbol last.toNat (offset + symbols.length - 1))
        | none => none

/-- The first defect of bytes at an offset, the last ones of which may be padding. -/
def defectFrom? (offset : Nat) : List UInt8 → Option Defect
  | first :: second :: third :: fourth :: fifth :: rest =>
      match badSymbol? offset [first, second, third, fourth] with
      | some defect => some defect
      | none => defectFrom? (offset + 4) (fifth :: rest)
  | bytes =>
      endDefect? offset (bytes.takeWhile (· != padding)) (bytes.dropWhile (· != padding))

/-- The last symbol of a text if it stands alone and is none. -/
def loneDefect? (bytes : List UInt8) : Option Defect :=
  match bytes.getLast? with
  | some last =>
      if bytes.length % 4 = 1 && last != padding && (symbolValue? last).isNone then
        some (.badSymbol last.toNat (bytes.length - 1))
      else
        none
  | none => none

def defect? (text : String) : Option Defect :=
  let bytes := text.toUTF8.toList
  (loneDefect? bytes).or (defectFrom? 0 bytes)

end CatalogSteward.Base64
