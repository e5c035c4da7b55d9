import CatalogSteward.Json.Fault
import CatalogSteward.Json.Value

/-!
# Reading JSON

A reader that refuses a text at the first byte that rules it out, be it inside
a character. Of members with one name the last is kept, at most 127 values may
be nested in another, and a whole number outside the 64-bit range is read as a
double. A double is made of the digits that 64 bits hold and of a power of ten,
each rounded on its own.
-/

set_option autoImplicit false

namespace CatalogSteward.Json

/-- What is left of a text, and the place before it. -/
structure Cursor where
  rest : List Char
  position : Position

namespace Cursor

def start (text : List Char) : Cursor :=
  ⟨text, ⟨1, 0⟩⟩

def step (position : Position) (character : Char) : Position :=
  if character = '\n' then ⟨position.line + 1, 0⟩
  else ⟨position.line, position.column + character.utf8Size⟩

def advance (cursor : Cursor) : Cursor :=
  match cursor.rest with
  | [] => cursor
  | character :: rest => ⟨rest, step cursor.position character⟩

def fault {α : Type} (cursor : Cursor) (fault : Fault) : Except LocatedFault α :=
  .error ⟨fault, cursor.position⟩

/-- The place after the first byte of the next character. -/
def peekPosition (cursor : Cursor) : Position :=
  match cursor.rest with
  | [] => cursor.position
  | '\n' :: _ => ⟨cursor.position.line + 1, 0⟩
  | _ :: _ => ⟨cursor.position.line, cursor.position.column + 1⟩

def peekFault {α : Type} (cursor : Cursor) (fault : Fault) : Except LocatedFault α :=
  .error ⟨fault, cursor.peekPosition⟩

/-- The cursor before the next character that is not white space, taken from the rest. -/
def skipSpace (position : Position) : List Char → Cursor
  | [] => ⟨[], position⟩
  | character :: rest =>
      if character = ' ' || character = '\n' || character = '\t' || character = '\r' then
        skipSpace (step position character) rest
      else
        ⟨character :: rest, position⟩

/-- The cursor before the next character that is not white space. -/
def afterSpace (cursor : Cursor) : Cursor :=
  skipSpace cursor.position cursor.rest

end Cursor

abbrev Reader (α : Type) := Cursor → Except LocatedFault (α × Cursor)

def readWord : List Char → Json → Reader Json
  | [], value, cursor => .ok (value, cursor)
  | letter :: letters, value, cursor =>
      match cursor.rest with
      | [] => cursor.fault .endInValue
      | character :: _ =>
          if character = letter then readWord letters value cursor.advance
          else cursor.peekFault .expectedIdentifier

def digit? (character : Char) : Option Nat :=
  if '0' ≤ character && character ≤ '9' then some (character.toNat - '0'.toNat) else none

/-- The greatest number into which digits are gathered. -/
def greatestSignificand : Nat := 18446744073709551615

def greatestPower : Nat := 2147483647

/-- The number that digits spell, how many digits it has and how many were dropped after them. -/
structure Digits where
  number : Nat
  kept : Nat
  dropped : Nat
  cursor : Cursor

def dropDigits (position : Position) (dropped : Nat) : List Char → Nat × Cursor
  | [] => (dropped, ⟨[], position⟩)
  | character :: rest =>
      match digit? character with
      | some _ => dropDigits (Cursor.step position character) (dropped + 1) rest
      | none => (dropped, ⟨character :: rest, position⟩)

/-- Reads digits on to a number, and drops them from the first that makes it too great. -/
def readDigits (position : Position) (number kept : Nat) : List Char → Digits
  | [] => ⟨number, kept, 0, ⟨[], position⟩⟩
  | character :: rest =>
      match digit? character with
      | some digit =>
          if greatestSignificand < 10 * number + digit then
            let (dropped, cursor) := dropDigits (Cursor.step position character) 1 rest
            ⟨number, kept, dropped, cursor⟩
          else
            readDigits (Cursor.step position character) (10 * number + digit) (kept + 1) rest
      | none => ⟨number, kept, 0, ⟨character :: rest, position⟩⟩

/-- Reads digits on to a power of ten, up to the first that makes it too great. -/
def readPower (position : Position) (power : Nat) : List Char → Option Nat × Cursor
  | [] => (some power, ⟨[], position⟩)
  | character :: rest =>
      match digit? character with
      | some digit =>
          let position := Cursor.step position character
          if greatestPower < 10 * power + digit then (none, ⟨rest, position⟩)
          else readPower position (10 * power + digit) rest
      | none => (some power, ⟨character :: rest, position⟩)

def powerOfTen (power : Nat) : Float :=
  Float.ofScientific 1 false power

def divideByPower (value : Float) (power : Nat) : Float :=
  if power ≤ 308 then value / powerOfTen power
  else if value == 0.0 then value
  else divideByPower (value / powerOfTen 308) (power - 308)
termination_by power

def multiplyByPower? (value : Float) (power : Nat) : Option Float :=
  if power ≤ 308 then
    let product := value * powerOfTen power
    if product.isInf then none else some product
  else if value == 0.0 then some value
  else none

def double? (significand : Nat) (exponent : Int) : Option Float :=
  if exponent < 0 then some (divideByPower (Float.ofNat significand) exponent.natAbs)
  else multiplyByPower? (Float.ofNat significand) exponent.toNat

def signed (negative : Bool) (value : Float) : Json :=
  .number (.decimal (if negative then -value else value))

def finishDecimal (negative : Bool) (significand : Nat) (exponent : Int) : Reader Json :=
  fun cursor =>
    match double? significand exponent with
    | some value => .ok (signed negative value, cursor)
    | none => cursor.fault .numberOutOfRange

def readExponent (negative : Bool) (significand : Nat) (exponent : Int) : Reader Json :=
  fun cursor =>
    let (down, cursor) :=
      match cursor.rest with
      | '+' :: _ => (false, cursor.advance)
      | '-' :: _ => (true, cursor.advance)
      | _ => (false, cursor)
    match cursor.rest with
    | [] => cursor.fault .endInValue
    | character :: _ =>
        match digit? character with
        | none => cursor.peekFault .invalidNumber
        | some _ =>
            match readPower cursor.position 0 cursor.rest with
            | (some power, cursor) =>
                finishDecimal negative significand
                  (if down then exponent - power else exponent + power) cursor
            | (none, cursor) =>
                if significand = 0 || down then
                  .ok (signed negative 0.0, (dropDigits cursor.position 0 cursor.rest).2)
                else
                  cursor.fault .numberOutOfRange

def readPowerOrEnd (negative : Bool) (significand : Nat) (exponent : Int) : Reader Json :=
  fun cursor =>
    match cursor.rest with
    | 'e' :: _ => readExponent negative significand exponent cursor.advance
    | 'E' :: _ => readExponent negative significand exponent cursor.advance
    | _ => finishDecimal negative significand exponent cursor

def readFraction (negative : Bool) (significand : Nat) (exponent : Int) : Reader Json :=
  fun cursor =>
    let digits := readDigits cursor.position significand 0 cursor.rest
    if digits.kept = 0 && digits.dropped = 0 then
      match cursor.rest with
      | [] => cursor.peekFault .endInValue
      | _ :: _ => cursor.peekFault .invalidNumber
    else
      readPowerOrEnd negative digits.number (exponent - digits.kept) digits.cursor

def whole (negative : Bool) (significand : Nat) : Json :=
  if !negative then .integer significand
  else if significand = 0 || 9223372036854775808 < significand then
    signed true (Float.ofNat significand)
  else .integer (-(significand : Int))

def readAfterDigits (negative : Bool) (significand dropped : Nat) : Reader Json :=
  fun cursor =>
    match cursor.rest with
    | '.' :: _ => readFraction negative significand dropped cursor.advance
    | 'e' :: _ => readExponent negative significand dropped cursor.advance
    | 'E' :: _ => readExponent negative significand dropped cursor.advance
    | _ =>
        if dropped = 0 then .ok (whole negative significand, cursor)
        else finishDecimal negative significand dropped cursor

def readNumber (negative : Bool) : Reader Json :=
  fun cursor =>
    match cursor.rest with
    | [] => cursor.fault .endInValue
    | character :: _ =>
        match digit? character with
        | none => cursor.peekFault .invalidNumber
        | some 0 =>
            match cursor.advance.rest.head?.bind digit? with
            | some _ => cursor.advance.peekFault .invalidNumber
            | none => readAfterDigits negative 0 0 cursor.advance
        | some _ =>
            let digits := readDigits cursor.position 0 0 cursor.rest
            readAfterDigits negative digits.number digits.dropped digits.cursor

def hexDigit? (character : Char) : Option Nat :=
  if '0' ≤ character && character ≤ '9' then some (character.toNat - '0'.toNat)
  else if 'a' ≤ character && character ≤ 'f' then some (character.toNat - 'a'.toNat + 10)
  else if 'A' ≤ character && character ≤ 'F' then some (character.toNat - 'A'.toNat + 10)
  else none

def Cursor.toEnd (position : Position) : List Char → Cursor
  | [] => ⟨[], position⟩
  | character :: rest => Cursor.toEnd (Cursor.step position character) rest

def Cursor.afterBytes? (position : Position) : Nat → List Char → Option Position
  | 0, _ => some position
  | _ + 1, [] => none
  | count + 1, character :: rest =>
      if character.utf8Size ≤ count + 1 then
        afterBytes? (step position character) (count + 1 - character.utf8Size) rest
      else
        some ⟨position.line, position.column + count + 1⟩

def hexNumber? : List Char → Option (Nat × List Char)
  | a :: b :: c :: d :: rest =>
      match hexDigit? a, hexDigit? b, hexDigit? c, hexDigit? d with
      | some a, some b, some c, some d => some (((a * 16 + b) * 16 + c) * 16 + d, rest)
      | _, _, _, _ => none
  | _ => none

def readHexEscape : Reader Nat :=
  fun cursor =>
    match Cursor.afterBytes? cursor.position 4 cursor.rest with
    | none => (Cursor.toEnd cursor.position cursor.rest).fault .endInString
    | some position =>
        match hexNumber? cursor.rest with
        | some (unit, rest) => .ok (unit, ⟨rest, position⟩)
        | none => .error ⟨.invalidEscape, position⟩

/-- Reads a hexadecimal escape, and the second half of a surrogate pair after its first. -/
def readUnicodeEscape : Reader Char :=
  fun cursor => do
    let (unit, cursor) ← readHexEscape cursor
    if 0xDC00 ≤ unit && unit ≤ 0xDFFF then
      cursor.fault .loneSurrogate
    else if unit < 0xD800 || 0xDBFF < unit then
      .ok (Char.ofNat unit, cursor)
    else
      match cursor.rest with
      | [] => cursor.fault .endInString
      | '\\' :: [] => cursor.advance.fault .endInString
      | '\\' :: 'u' :: _ =>
          let (second, cursor) ← readHexEscape cursor.advance.advance
          if 0xDC00 ≤ second && second ≤ 0xDFFF then
            .ok (Char.ofNat (0x10000 + (unit - 0xD800) * 0x400 + (second - 0xDC00)), cursor)
          else
            cursor.fault .loneSurrogate
      | '\\' :: _ => cursor.advance.peekFault .unfinishedSurrogatePair
      | _ => cursor.peekFault .unfinishedSurrogatePair

def readEscape : Reader Char :=
  fun cursor =>
    match cursor.rest with
    | [] => cursor.fault .endInString
    | character :: _ =>
        match character with
        | '"' => .ok ('"', cursor.advance)
        | '\\' => .ok ('\\', cursor.advance)
        | '/' => .ok ('/', cursor.advance)
        | 'b' => .ok ('\x08', cursor.advance)
        | 'f' => .ok ('\x0c', cursor.advance)
        | 'n' => .ok ('\n', cursor.advance)
        | 'r' => .ok ('\r', cursor.advance)
        | 't' => .ok ('\t', cursor.advance)
        | 'u' => readUnicodeEscape cursor.advance
        | _ => cursor.peekFault .invalidEscape

/-- Reads the rest of a string in at most the given number of characters. -/
def readCharacters (read : List Char) : Nat → Reader String
  | 0, cursor => cursor.fault .endInString
  | fuel + 1, cursor =>
      match cursor.rest with
      | [] => cursor.fault .endInString
      | character :: _ =>
          if character = '"' then
            .ok (String.ofList read.reverse, cursor.advance)
          else if character = '\\' then
            match readEscape cursor.advance with
            | .ok (escaped, cursor) => readCharacters (escaped :: read) fuel cursor
            | .error located => .error located
          else if character.toNat < 0x20 then
            cursor.peekFault .controlCharacter
          else
            readCharacters (character :: read) fuel cursor.advance

/-- Reads a string, the cursor standing after its first quote. -/
def readString : Reader String :=
  fun cursor => readCharacters [] (cursor.rest.length + 1) cursor

/-- Reads the items of an array in at most the given number of rounds. -/
def readItems (item : Reader Json) (first : Bool) (read : List Json) :
    Nat → Reader Json
  | 0, cursor => cursor.fault .endInList
  | fuel + 1, cursor =>
      let cursor := cursor.afterSpace
      let readOn (cursor : Cursor) : Except LocatedFault (Json × Cursor) :=
        match item cursor with
        | .ok (value, cursor) => readItems item false (value :: read) fuel cursor
        | .error located => .error located
      match cursor.rest with
      | [] => cursor.peekFault .endInList
      | ']' :: _ => .ok (.array read.reverse, cursor.advance)
      | character :: _ =>
          if first then
            readOn cursor
          else if character = ',' then
            let cursor := cursor.advance.afterSpace
            match cursor.rest with
            | [] => cursor.peekFault .endInValue
            | ']' :: _ => cursor.peekFault .trailingComma
            | _ :: _ => readOn cursor
          else
            cursor.peekFault .expectedListCommaOrEnd

/-- Reads a member, the cursor standing after the first quote of its name. -/
def readMember (item : Reader Json) : Reader (String × Json) :=
  fun cursor => do
    let (name, cursor) ← readString cursor
    let cursor := cursor.afterSpace
    match cursor.rest with
    | [] => cursor.peekFault .endInObject
    | ':' :: _ =>
        let (value, cursor) ← item cursor.advance
        .ok ((name, value), cursor)
    | _ :: _ => cursor.peekFault .expectedColon

/-- Reads the members of an object in at most the given number of rounds. -/
def readMembers (item : Reader Json) (first : Bool) (read : List (String × Json)) :
    Nat → Reader Json
  | 0, cursor => cursor.fault .endInObject
  | fuel + 1, cursor =>
      let cursor := cursor.afterSpace
      let readOn (cursor : Cursor) : Except LocatedFault (Json × Cursor) :=
        match readMember item cursor.advance with
        | .ok ((name, value), cursor) =>
            readMembers item false (set name value read) fuel cursor
        | .error located => .error located
      match cursor.rest with
      | [] => cursor.peekFault .endInObject
      | '\x7d' :: _ => .ok (.object read, cursor.advance)
      | character :: _ =>
          if first then
            if character = '"' then readOn cursor
            else cursor.peekFault .keyMustBeString
          else if character = ',' then
            let cursor := cursor.advance.afterSpace
            match cursor.rest with
            | [] => cursor.peekFault .endInValue
            | '"' :: _ => readOn cursor
            | '\x7d' :: _ => cursor.peekFault .trailingComma
            | _ :: _ => cursor.peekFault .keyMustBeString
          else
            cursor.peekFault .expectedObjectCommaOrEnd

def readValue : Nat → Reader Json
  | 0, cursor => cursor.peekFault .tooDeep
  | depth + 1, cursor =>
      let cursor := cursor.afterSpace
      match cursor.rest with
      | [] => cursor.peekFault .endInValue
      | character :: rest =>
          match character with
          | 'n' => readWord ['u', 'l', 'l'] .null cursor.advance
          | 't' => readWord ['r', 'u', 'e'] (.bool true) cursor.advance
          | 'f' => readWord ['a', 'l', 's', 'e'] (.bool false) cursor.advance
          | '-' => readNumber true cursor.advance
          | '"' =>
              match readString cursor.advance with
              | .ok (text, cursor) => .ok (.string text, cursor)
              | .error located => .error located
          | '[' =>
              if depth = 0 then cursor.peekFault .tooDeep
              else readItems (readValue depth) true [] (rest.length + 1) cursor.advance
          | '\x7b' =>
              if depth = 0 then cursor.peekFault .tooDeep
              else readMembers (readValue depth) true [] (rest.length + 1) cursor.advance
          | _ =>
              match digit? character with
              | some _ => readNumber false cursor
              | none => cursor.peekFault .expectedValue

/-- The value that a text spells, or the first fault of the text. -/
def parse (text : String) : Except LocatedFault Json :=
  match readValue 128 (Cursor.start text.toList) with
  | .error located => .error located
  | .ok (value, cursor) =>
      let cursor := cursor.afterSpace
      match cursor.rest with
      | [] => .ok value
      | _ :: _ => cursor.peekFault .trailingCharacters

def faultMessage? (text : String) : Option String :=
  match parse text with
  | .ok _ => none
  | .error located => some located.message

end CatalogSteward.Json
