import CatalogSteward.Time.Instant

/-!
# RFC 3339

Reading and writing instants. A text has a year of four digits, any offset
below a day, and any number of fraction digits, of which nine are kept; the
second 60 is a leap second. Instants are written in UTC.
-/

set_option autoImplicit false

namespace CatalogSteward.Time

/-- Why a text is not a date and time. -/
inductive Rfc3339Fault where
  | outOfRange
  | invalid
  | tooShort
  | tooLong
  | impossible
  deriving DecidableEq, Repr

def Rfc3339Fault.message : Rfc3339Fault → String
  | .outOfRange => "input is out of range"
  | .invalid => "input contains invalid characters"
  | .tooShort => "premature end of input"
  | .tooLong => "trailing input"
  | .impossible => "no possible date and time matching input"

namespace Rfc3339

abbrev Reader (α : Type) := List Char → Except Rfc3339Fault (α × List Char)

def digit? (character : Char) : Option Nat :=
  if '0' ≤ character && character ≤ '9' then some (character.toNat - '0'.toNat) else none

def readDigit : Reader Nat
  | [] => .error .tooShort
  | character :: rest =>
      match digit? character with
      | some digit => .ok (digit, rest)
      | none => .error .invalid

def readTwo : Reader Nat := fun text => do
  let (tens, text) ← readDigit text
  let (ones, text) ← readDigit text
  return (10 * tens + ones, text)

def readFour : Reader Nat := fun text => do
  let (hundreds, text) ← readTwo text
  let (ones, text) ← readTwo text
  return (100 * hundreds + ones, text)

def readMark (accept : Char → Bool) : Reader Unit
  | [] => .error .tooShort
  | character :: rest => if accept character then .ok ((), rest) else .error .invalid

def readDate : Reader Date := fun text => do
  let (year, text) ← readFour text
  let (_, text) ← readMark (· == '-') text
  let (month, text) ← readTwo text
  let (_, text) ← readMark (· == '-') text
  let (day, text) ← readTwo text
  let date : Date := ⟨year, month, day⟩
  if date.isValid then .ok (date, text) else .error .outOfRange

/-- Nanoseconds from the digits of a fraction, the first of which counts `weight`. -/
def nanosecondsOf (weight : Nat) : List Char → Nat
  | [] => 0
  | character :: rest => (digit? character).getD 0 * weight + nanosecondsOf (weight / 10) rest

def readFraction : Reader Nat
  | '.' :: text =>
      let digits := text.takeWhile fun character => (digit? character).isSome
      match digits, text with
      | [], [] => .error .tooShort
      | [], _ :: _ => .error .invalid
      | _ :: _, _ =>
          .ok (nanosecondsOf 100000000 digits,
            text.dropWhile fun character => (digit? character).isSome)
  | text => .ok (0, text)

/-- Reads a time of day: its second and the nanoseconds in it. -/
def readTime : Reader (Nat × Nat) := fun text => do
  let (hour, text) ← readTwo text
  let (_, text) ← readMark (· == ':') text
  let (minute, text) ← readTwo text
  let (_, text) ← readMark (· == ':') text
  let (second, text) ← readTwo text
  let (nanoseconds, text) ← readFraction text
  if 24 ≤ hour || 60 ≤ minute || 61 ≤ second then
    .error .outOfRange
  else if second = 60 then
    .ok ((hour * 3600 + minute * 60 + 59, nanoseconds + 1000000000), text)
  else
    .ok ((hour * 3600 + minute * 60 + second, nanoseconds), text)

/-- Reads two digits where two bytes are enough to tell that they are none. -/
def readPair : Reader (Nat × Nat)
  | [] => .error .tooShort
  | [character] => .error (if character.utf8Size < 2 then .tooShort else .invalid)
  | first :: second :: text =>
      match digit? first, digit? second with
      | some tens, some ones => .ok ((tens, ones), text)
      | _, _ => .error .invalid

/-- Reads the hours and minutes of an offset, divided as `divide` says, as seconds. -/
def readOffsetAmount (divide : Reader Unit) : Reader Nat := fun text => do
  let ((hourTens, hourOnes), text) ← readPair text
  let (_, text) ← divide text
  let ((minuteTens, minuteOnes), text) ← readPair text
  if 6 ≤ minuteTens then
    .error .outOfRange
  else
    .ok ((10 * hourTens + hourOnes) * 3600 + (10 * minuteTens + minuteOnes) * 60, text)

def readOffset (divide : Reader Unit) : Reader Int
  | [] => .error .tooShort
  | character :: text => do
      if character = 'Z' || character = 'z' then
        .ok (0, text)
      else if character = '+' then
        let (amount, text) ← readOffsetAmount divide text
        .ok (amount, text)
      else if character = '-' || character = '\u2212' then
        let (amount, text) ← readOffsetAmount divide text
        .ok (-(amount : Int), text)
      else
        .error .invalid

/-- The instant at a second of a day, where the clocks are ahead by an offset below a day. -/
def joined (date : Date) (second nanoseconds : Nat) (offset : Int) :
    Except Rfc3339Fault Instant :=
  if offset.natAbs < 86400 then .ok ⟨date.toDays * 86400 + second - offset, nanoseconds⟩
  else .error .outOfRange

def readInstant (text : List Char) : Except Rfc3339Fault Instant := do
  let (date, text) ← readDate text
  let (_, text) ← readMark (fun mark => mark == 't' || mark == 'T' || mark == ' ') text
  let ((second, nanoseconds), text) ← readTime text
  let (offset, text) ← readOffset (readMark (· == ':')) text
  if text.isEmpty then joined date second nanoseconds offset else .error .tooLong

def leastSize : Nat := 19

end Rfc3339

def parseRfc3339 (text : String) : Except Rfc3339Fault Instant :=
  if text.utf8ByteSize < Rfc3339.leastSize then .error .tooShort
  else Rfc3339.readInstant text.toList

/-- How many digits of a fraction are written. -/
inductive Precision where
  | seconds
  | fewest
  deriving DecidableEq, Repr

def padded (width value : Nat) : String :=
  let digits := Nat.toDigits 10 value
  String.ofList (List.replicate (width - digits.length) '0' ++ digits)

/-- A year in four digits; outside those, with its sign. -/
def yearText (year : Int) : String :=
  if 0 ≤ year && year ≤ 9999 then padded 4 year.toNat
  else (if year < 0 then "-" else "+") ++ padded 4 year.natAbs

/-- A fraction of a second in no, three, six or nine digits, the fewest that lose nothing. -/
def fractionText (nanoseconds : Nat) : String :=
  if nanoseconds = 0 then ""
  else if nanoseconds % 1000000 = 0 then "." ++ padded 3 (nanoseconds / 1000000)
  else if nanoseconds % 1000 = 0 then "." ++ padded 6 (nanoseconds / 1000)
  else "." ++ padded 9 nanoseconds

def Instant.rfc3339 (precision : Precision) (instant : Instant) : String :=
  let date := instant.date
  let second := instant.secondOfDay
  let leap := instant.nanoseconds / 1000000000
  yearText date.year ++ "-" ++ padded 2 date.month ++ "-" ++ padded 2 date.day ++ "T" ++
    padded 2 (second / 3600) ++ ":" ++ padded 2 (second / 60 % 60) ++ ":" ++
    padded 2 (second % 60 + leap) ++
    (match precision with
      | .seconds => ""
      | .fewest => fractionText (instant.nanoseconds % 1000000000)) ++
    "Z"

end CatalogSteward.Time
