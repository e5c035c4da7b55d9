import CatalogSteward.Text.Blank
import CatalogSteward.Time.Rfc3339

/-!
# Relaxed RFC 3339

The form in which the cluster's own times are read. White space may stand
between the parts, numbers may be short, a year with a sign may be long, and
the offset may be the word `UTC` or have no colon.
-/

set_option autoImplicit false

namespace CatalogSteward.Time

namespace Relaxed

open Rfc3339

def afterSpace (text : List Char) : List Char :=
  text.dropWhile Text.isSpace

def numberOf (digits : List Char) : Nat :=
  digits.foldl (fun number character => 10 * number + (digit? character).getD 0) 0

/-- Reads a number of one digit at least, and of so many at most where that is limited. -/
def readNumber (most : Option Nat) : Reader Nat := fun text =>
  let digits := text.takeWhile fun character => (digit? character).isSome
  let digits := (most.map digits.take).getD digits
  match digits, text with
  | [], [] => .error .tooShort
  | [], _ :: _ => .error .invalid
  | _ :: _, _ => .ok (numberOf digits, text.drop digits.length)

def readPart (least greatest : Nat) : Reader Nat := fun text => do
  let (number, text) ← readNumber (some 2) (afterSpace text)
  if least ≤ number && number ≤ greatest then .ok (number, text) else .error .outOfRange

/-- Reads a year: of at most four digits, or of any number of them after a sign. -/
def readYear : Reader Int := fun text => do
  let (year, text) ←
    match afterSpace text with
    | '-' :: text => do
        let (number, text) ← readNumber none text
        pure (-(number : Int), text)
    | '+' :: text => do
        let (number, text) ← readNumber none text
        pure ((number : Int), text)
    | text => do
        let (number, text) ← readNumber (some 4) text
        pure ((number : Int), text)
  if -2147483648 ≤ year && year ≤ 2147483647 then .ok (year, text) else .error .outOfRange

def readDivider (divider : Char) : Reader Unit := fun text =>
  readMark (· == divider) (afterSpace text)

/-- Reads a date, which may be one that does not exist. -/
def readDate : Reader Date := fun text => do
  let (year, text) ← readYear text
  let (_, text) ← readDivider '-' text
  let (month, text) ← readPart 1 12 text
  let (_, text) ← readDivider '-' text
  let (day, text) ← readPart 1 31 text
  return (⟨year, month, day⟩, text)

/-- Reads a time of day: its second and the nanoseconds in it. -/
def readTime : Reader (Nat × Nat) := fun text => do
  let (hour, text) ← readPart 0 23 text
  let (_, text) ← readDivider ':' text
  let (minute, text) ← readPart 0 59 text
  let (_, text) ← readDivider ':' text
  let (second, text) ← readPart 0 60 text
  let (nanoseconds, text) ← readFraction text
  if second = 60 then
    return ((hour * 3600 + minute * 60 + 59, nanoseconds + 1000000000), text)
  else
    return ((hour * 3600 + minute * 60 + second, nanoseconds), text)

def skipDividers : Reader Unit := fun text =>
  .ok ((), text.dropWhile fun character => character == ':' || Text.isSpace character)

def startsWithUtc : List Char → Bool
  | first :: second :: third :: _ =>
      first.toUpper == 'U' && second.toUpper == 'T' && third.toUpper == 'C'
  | _ => false

/-- Reads an offset from UTC in seconds, or the word for none. -/
def readOffset : Reader Int := fun text =>
  if startsWithUtc text then .ok (0, text.drop 3)
  else Rfc3339.readOffset skipDividers text

def readInstant (text : List Char) : Except Rfc3339Fault Instant := do
  let (date, text) ← readDate text
  let (_, text) ← readMark (fun mark => mark == 't' || mark == 'T' || mark == ' ') text
  let ((second, nanoseconds), text) ← readTime text
  let (offset, text) ← readOffset (afterSpace text)
  if (afterSpace text).isEmpty then
    if date.isValid && -262143 ≤ date.year && date.year ≤ 262142 then
      let instant ← joined date second nanoseconds offset
      if instant.isRepresentable then .ok instant else .error .impossible
    else
      .error .outOfRange
  else
    .error .tooLong

end Relaxed

def parseRelaxed (text : String) : Except Rfc3339Fault Instant :=
  Relaxed.readInstant text.toList

end CatalogSteward.Time
