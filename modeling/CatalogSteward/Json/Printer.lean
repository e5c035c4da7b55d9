import CatalogSteward.Decimal.Shortest
import CatalogSteward.Json.Value

/-!
# Writing JSON

The compact text of a value, in which control characters are escaped, its size
in bytes, and the same text on one line for those who take other characters for
the end of a line. Members are written in the order that they have.
-/

set_option autoImplicit false

namespace CatalogSteward.Json

/-- Doubles are written with at most 16 digits before the point. -/
def numberLayout : Decimal.Layout :=
  ⟨-5, 16, "null", "null"⟩

def hexEscape (code : Nat) : String :=
  let digits := Nat.toDigits 16 code
  "\\u" ++ String.ofList (List.replicate (4 - digits.length) '0' ++ digits)

def escapeCharacter (character : Char) : String :=
  match character with
  | '"' => "\\\""
  | '\\' => "\\\\"
  | '\n' => "\\n"
  | '\r' => "\\r"
  | '\t' => "\\t"
  | '\x08' => "\\b"
  | '\x0c' => "\\f"
  | _ =>
      let code := character.toNat
      if code < 0x20 then hexEscape code else character.toString

def writeString (text : String) : String :=
  "\"" ++ String.join (text.toList.map escapeCharacter) ++ "\""

def Number.text : Number → String
  | .integer value => toString value
  | .decimal value => numberLayout.text value

mutual

def compact : Json → String
  | .null => "null"
  | .bool value => if value then "true" else "false"
  | .number value => value.text
  | .string value => writeString value
  | .array items => "[" ++ ",".intercalate (itemTexts items) ++ "]"
  | .object members => "\x7b" ++ ",".intercalate (memberTexts members) ++ "\x7d"

def itemTexts : List Json → List String
  | [] => []
  | item :: rest => compact item :: itemTexts rest

def memberTexts : List (String × Json) → List String
  | [] => []
  | member :: rest => memberText member :: memberTexts rest

def memberText : String × Json → String
  | (name, value) => writeString name ++ ":" ++ compact value

end

def isLineSeparator (character : Char) : Bool :=
  let code := character.toNat
  code == 0x85 || code == 0x2028 || code == 0x2029

def text (value : Json) : String :=
  String.join
    (value.compact.toList.map fun character =>
      if isLineSeparator character then hexEscape character.toNat else character.toString)

def size (value : Json) : Nat :=
  value.compact.utf8ByteSize

mutual

/-- The value with the members of every object in the order of their names. -/
def sorted : Json → Json
  | .array items => .array (sortedItems items)
  | .object members =>
      .object ((sortedMembers members).mergeSort fun left right => decide (left.1 ≤ right.1))
  | value => value

def sortedItems : List Json → List Json
  | [] => []
  | item :: rest => sorted item :: sortedItems rest

def sortedMembers : List (String × Json) → List (String × Json)
  | [] => []
  | member :: rest => sortedMember member :: sortedMembers rest

def sortedMember : String × Json → String × Json
  | (name, value) => (name, sorted value)

end

end CatalogSteward.Json
