import CatalogSteward.Decimal.Unsigned

/-!
# Socket addresses

An address of version 4 or 6 and a port. Addresses of version 6 stand in
brackets, may leave out one run of zero groups, and may end in an address of
version 4; they are written in lower case with the longest run left out.
-/

set_option autoImplicit false

namespace CatalogSteward.Network

structure Address4 where
  first : Nat
  second : Nat
  third : Nat
  fourth : Nat
  deriving DecidableEq, Repr

/-- An address with a port; an address of version 6 is eight groups and a scope. -/
inductive SocketAddress where
  | version4 (address : Address4) (port : Nat)
  | version6 (groups : List Nat) (scope port : Nat)
  deriving DecidableEq, Repr

abbrev Reader (α : Type) := List Char → Option (α × List Char)

def digit? (base : Nat) (character : Char) : Option Nat :=
  let value? :=
    if '0' ≤ character ∧ character ≤ '9' then some (character.toNat - '0'.toNat)
    else if 'a' ≤ character ∧ character ≤ 'z' then some (character.toNat - 'a'.toNat + 10)
    else if 'A' ≤ character ∧ character ≤ 'Z' then some (character.toNat - 'A'.toNat + 10)
    else none
  value?.filter fun value => value < base

/-- Reads all digits at the front: their value and their count. -/
def readDigits (base value count : Nat) : List Char → Nat × Nat × List Char
  | [] => (value, count, [])
  | character :: rest =>
      match digit? base character with
      | some digit => readDigits base (value * base + digit) (count + 1) rest
      | none => (value, count, character :: rest)

/-- Reads a number of at least one digit that is at most the bound. -/
def readNumber (base bound : Nat) : Reader Nat := fun text =>
  let (value, count, rest) := readDigits base 0 0 text
  if count = 0 ∨ bound < value then none else some (value, rest)

def readMark (mark : Char) : List Char → Option (List Char)
  | [] => none
  | character :: rest => if character = mark then some rest else none

/-- Reads a byte in decimal digits, without a leading zero. -/
def readByte : Reader Nat := fun text =>
  let (value, count, rest) := readDigits 10 0 0 text
  if count = 0 ∨ 3 < count ∨ 255 < value ∨ (text.head? = some '0' ∧ 1 < count) then none
  else some (value, rest)

def readAddress4 : Reader Address4 := fun text => do
  let (first, text) ← readByte text
  let text ← readMark '.' text
  let (second, text) ← readByte text
  let text ← readMark '.' text
  let (third, text) ← readByte text
  let text ← readMark '.' text
  let (fourth, text) ← readByte text
  pure (⟨first, second, third, fourth⟩, text)

def readPort : Reader Nat := fun text => do
  let text ← readMark ':' text
  readNumber 10 65535 text

def readGroup : Reader Nat := fun text =>
  let (value, count, rest) := readDigits 16 0 0 text
  if count = 0 ∨ 4 < count then none else some (value, rest)

/-- Passes over the colon before a group, which the first one does not have. -/
def readSeparator (isFirst : Bool) (text : List Char) : Option (List Char) :=
  if isFirst then some text else readMark ':' text

/-- Reads up to the given number of groups, the last two of which may be written as an address
of version 4; says whether they were. -/
def readGroups (isFirst : Bool) : Nat → List Char → List Nat × Bool × List Char
  | 0, text => ([], false, text)
  | limit + 1, text =>
      let embedded := do
        let inner ← readSeparator isFirst text
        if limit = 0 then none else readAddress4 inner
      match embedded with
      | some (address, rest) =>
          ([address.first * 256 + address.second, address.third * 256 + address.fourth],
            true, rest)
      | none =>
          match readSeparator isFirst text >>= readGroup with
          | none => ([], false, text)
          | some (group, rest) =>
              let (groups, isEmbedded, rest) := readGroups false limit rest
              (group :: groups, isEmbedded, rest)

def readAddress6 : Reader (List Nat) := fun text =>
  let (front, isEmbedded, text) := readGroups true 8 text
  if front.length = 8 then some (front, text)
  else if isEmbedded then none
  else do
    let text ← readMark ':' text
    let text ← readMark ':' text
    let (back, _, text) := readGroups true (7 - front.length) text
    pure (front ++ List.replicate (8 - front.length - back.length) 0 ++ back, text)

/-- Reads the scope after the groups; without one it is zero. -/
def readScope (text : List Char) : Nat × List Char :=
  match readMark '%' text >>= readNumber 10 Decimal.greatest32 with
  | some (scope, rest) => (scope, rest)
  | none => (0, text)

def readSocket4 : Reader SocketAddress := fun text => do
  let (address, text) ← readAddress4 text
  let (port, text) ← readPort text
  pure (.version4 address port, text)

def readSocket6 : Reader SocketAddress := fun text => do
  let text ← readMark '[' text
  let (groups, text) ← readAddress6 text
  let (scope, text) := readScope text
  let text ← readMark ']' text
  let (port, text) ← readPort text
  pure (.version6 groups scope port, text)

def SocketAddress.ofText? (text : String) : Option SocketAddress :=
  match (readSocket4 text.toList).or (readSocket6 text.toList) with
  | some (address, []) => some address
  | _ => none

def Address4.text (address : Address4) : String :=
  ".".intercalate
    ([address.first, address.second, address.third, address.fourth].map toString)

def groupsText (groups : List Nat) : String :=
  ":".intercalate (groups.map fun group => String.ofList (Nat.toDigits 16 group))

def zeroCount (groups : List Nat) : Nat :=
  (groups.takeWhile (· = 0)).length

/-- The place and the length of the longest run of zero groups, the first of several. -/
def longestRun (place : Nat) : List Nat → Nat × Nat
  | [] => (place, 0)
  | group :: rest =>
      let here := zeroCount (group :: rest)
      let later := longestRun (place + 1) rest
      if later.2 ≤ here then (place, here) else later

def address6Text (groups : List Nat) : String :=
  match groups with
  | [0, 0, 0, 0, 0, 65535, high, low] =>
      "::ffff:" ++ Address4.text ⟨high / 256, high % 256, low / 256, low % 256⟩
  | _ =>
      let (place, length) := longestRun 0 groups
      if length < 2 then groupsText groups
      else groupsText (groups.take place) ++ "::" ++ groupsText (groups.drop (place + length))

def SocketAddress.text : SocketAddress → String
  | .version4 address port => address.text ++ ":" ++ toString port
  | .version6 groups scope port =>
      let scopeText := if scope = 0 then "" else "%" ++ toString scope
      "[" ++ address6Text groups ++ scopeText ++ "]:" ++ toString port

end CatalogSteward.Network
