/-!
# Tables of character codes

Ascending ranges of codes, each with values that all its codes share. A table
is written in lines: `41-5a` is a range and `b2=32` a code with its value,
everything in hexadecimal. Looking a code up halves the table at each step.
-/

set_option autoImplicit false

namespace CatalogSteward.Text

/-- A range of codes, both ends included, and the values of each code in it. -/
structure CodeRange where
  first : Nat
  last : Nat
  values : List Nat
  deriving DecidableEq, Repr

abbrev CodeTable := Array CodeRange

namespace CodeTable

/-- The value of a hexadecimal digit in lower case; nothing else counts. -/
def digitValue (character : Char) : Nat :=
  if '0' ≤ character ∧ character ≤ '9' then character.toNat - '0'.toNat
  else if 'a' ≤ character ∧ character ≤ 'f' then character.toNat - 'a'.toNat + 10
  else 0

def codeOf (digits : String) : Nat :=
  digits.foldl (fun number character => number * 16 + digitValue character) 0

def rangeOf (word : String) : CodeRange :=
  match word.splitOn "=" with
  | [] => ⟨0, 0, []⟩
  | codes :: values =>
      let ends := (codes.splitOn "-").map codeOf
      let first := ends.headD 0
      ⟨first, ends.getLastD first, (values.flatMap (·.splitOn "+")).map codeOf⟩

def ofLines (lines : List String) : CodeTable :=
  (lines.flatMap fun line => (line.splitOn " ").map rangeOf).toArray

/-- The values of a code, among the ranges from `low` up to but not including `high`. -/
def findBetween? (table : CodeTable) (code low high : Nat) : Option (List Nat) :=
  if _within : low < high then
    let middle := low + (high - low) / 2
    match table[middle]? with
    | none => none
    | some range =>
        if code < range.first then findBetween? table code low middle
        else if range.last < code then findBetween? table code (middle + 1) high
        else some range.values
  else
    none
termination_by high - low

def find? (table : CodeTable) (code : Nat) : Option (List Nat) :=
  findBetween? table code 0 table.size

def contains (table : CodeTable) (character : Char) : Bool :=
  (find? table character.toNat).isSome

end CodeTable

end CatalogSteward.Text
