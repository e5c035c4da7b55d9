import CatalogSteward.Json.Printer
import CatalogSteward.Json.Record
import CatalogSteward.Text.Quoted

/-!
# Shapes of JSON values

What a value has to look like to be read as one of a type, and the first
complaint about a value that does not. A complaint is placed in the compact
text of the value, in which the members of objects stand in the order of their
names: its column counts the bytes up to where reading stopped.
-/

set_option autoImplicit false

namespace CatalogSteward.Json

/-- Whether a field must be there: in every record, in one that is an array, or in none. -/
inductive Presence where
  | required
  | listed
  | free
  deriving DecidableEq, Repr

/-- What a value is expected to be. A record may be written as the array of its fields; an entry
may not, and none of its fields is required. -/
inductive Shape where
  | anything
  | boolean
  | integer (type : String) (least greatest : Int)
  | string
  | constant (text : String)
  | choice (names : List String)
  | written (form : String) (defect? : String → Option String)
  | optional (shape : Shape)
  | list (item : Shape)
  | map (value : Shape)
  | record (title : String) (fields : List (String × Presence × Shape))
  | entry (title : String) (fields : List (String × Shape))

/-- Why a value is not of a shape. -/
inductive Mismatch where
  | wrongType (found expected : String)
  | outOfRange (found : Int) (expected : String)
  | otherText (found expected : String)
  | unknownName (name : String) (known : List String)
  | missingField (name : String)
  | wrongLength (length : Nat) (expected : String)
  | noName
  | tooManyItems
  | malformed (defect : String)
  deriving DecidableEq, Repr

def marked (name : String) : String :=
  "`" ++ name ++ "`"

def alternatives : List String → String
  | [only] => marked only
  | [first, second] => marked first ++ " or " ++ marked second
  | names => "one of " ++ ", ".intercalate (names.map marked)

def Mismatch.message : Mismatch → String
  | .wrongType found expected => "invalid type: " ++ found ++ ", expected " ++ expected
  | .outOfRange found expected =>
      "invalid value: integer " ++ marked (toString found) ++ ", expected " ++ expected
  | .otherText found expected =>
      "invalid value: string " ++ Text.quoted found ++ ", expected " ++ expected
  | .unknownName name known =>
      "unknown variant " ++ marked name ++ ", expected " ++ alternatives known
  | .missingField name => "missing field " ++ marked name
  | .wrongLength length expected =>
      "invalid length " ++ toString length ++ ", expected " ++ expected
  | .noName => "expected value"
  | .tooManyItems => "trailing characters"
  | .malformed defect => defect

structure Complaint where
  mismatch : Mismatch
  column : Nat
  deriving DecidableEq, Repr

def Complaint.message (complaint : Complaint) : String :=
  complaint.mismatch.message ++ " at line 1 column " ++ toString complaint.column

def described : Json → String
  | .null => "null"
  | .bool value => "boolean " ++ marked (if value then "true" else "false")
  | .number (.integer value) => "integer " ++ marked (toString value)
  | .number (.decimal value) => "floating point " ++ marked (numberLayout.text value)
  | .string value => "string " ++ Text.quoted value
  | .array _ => "sequence"
  | .object _ => "map"

namespace Shape

def present : Shape → Shape
  | .optional shape => shape.present
  | shape => shape

def allowsNull : Shape → Bool
  | .anything => true
  | .optional _ => true
  | _ => false

def expected : Shape → String
  | .anything => "any value"
  | .boolean => "a boolean"
  | .integer type _ _ => type
  | .string => "a string"
  | .constant _ => "a string"
  | .choice names => alternatives names
  | .written form _ => form
  | .optional shape => shape.expected
  | .list _ => "a sequence"
  | .map _ => "a map"
  | .record title _ => "struct " ++ title
  | .entry title _ => title

def wrongType (shape : Shape) (value : Json) : Option Mismatch :=
  some (.wrongType value.described shape.expected)

/-- Why a value that is neither an array nor an object is not of a shape, if it is not. -/
def mismatch? (shape : Shape) (value : Json) : Option Mismatch :=
  match shape, value with
  | .anything, _ => none
  | .boolean, .bool _ => none
  | .integer type least greatest, .number (.integer found) =>
      if least ≤ found && found ≤ greatest then none else some (.outOfRange found type)
  | .string, .string _ => none
  | .constant text, .string found =>
      if found = text then none else some (.otherText found text)
  | .choice names, .string name =>
      if names.contains name then none else some (.unknownName name names)
  | .choice _, _ => some .noName
  | .written _ defect?, .string text => (defect? text).map .malformed
  | shape, value => shape.wrongType value

def simpleComplaint? (shape : Shape) (column : Nat) (value : Json) : Option Complaint :=
  if value.isNull && shape.allowsNull then none
  else
    (shape.present.mismatch? value).map fun mismatch =>
      ⟨mismatch, if mismatch = .noName then column + 1 else column + value.size⟩

def nameComplaint? (names : List String) (column : Nat) :
    List (String × Json) → Option Complaint
  | [] => some ⟨.noName, column + 2⟩
  | (name, value) :: rest =>
      let column := column + 1 + (Json.string name).size
      if names.contains name then
        let column := column + 1
        match value with
        | .null => if rest.isEmpty then none else some ⟨.noName, column + value.size⟩
        | .array _ => some ⟨.wrongType value.described "unit", column⟩
        | .object _ => some ⟨.wrongType value.described "unit", column⟩
        | _ => some ⟨.wrongType value.described "unit", column + value.size⟩
      else
        some ⟨.unknownName name names, column⟩

def lackComplaint? (fields : List (String × Presence × Shape)) (column : Nat)
    (members : List (String × Json)) : Option Complaint :=
  (fields.find? fun field =>
    field.2.1 = .required && (Json.find? field.1 members).isNone).map fun field =>
      ⟨.missingField field.1, column⟩

/-- The complaint about the fields, of which the first is at a place, that an array lacks. -/
def shortComplaint? (title : String) (count column place : Nat) :
    List (String × Presence × Shape) → Option Complaint
  | [] => none
  | (_, presence, _) :: rest =>
      if presence = .free then shortComplaint? title count column (place + 1) rest
      else
        let elements := if count = 1 then " element" else " elements"
        some ⟨.wrongLength place ("struct " ++ title ++ " with " ++ toString count ++ elements),
          column⟩

/-- A complaint about the last member of an object. What a constant says is looked at only when
it has been read, and so has the end of the object then. -/
def atEnd (shape : Shape) (complaint : Complaint) : Complaint :=
  match shape, complaint.mismatch with
  | .constant _, .otherText _ _ => { complaint with column := complaint.column + 1 }
  | _, _ => complaint

mutual

def complaintAt? (shape : Shape) (column : Nat) : Json → Option Complaint
  | .array items =>
      match shape.present with
      | .anything => none
      | .list item => itemComplaint? item (column + 1) items
      | .record title fields =>
          fieldComplaint? title fields.length (column + (Json.array items).size) 0 fields
            (column + 1) items
      | .entry title _ =>
          some ⟨.wrongType "sequence" title, if items.isEmpty then column + 2 else column + 1⟩
      | .choice _ => some ⟨.noName, column + 1⟩
      | shape => some ⟨.wrongType "sequence" shape.expected, column⟩
  | .object members =>
      match shape.present with
      | .anything => none
      | .map item => memberComplaint? (fun _ => item) (column + 1) members
      | .record _ fields =>
          (memberComplaint? (fun name => ((lookup fields name).map Prod.snd).getD .anything)
            (column + 1) members).or
            (lackComplaint? fields (column + (Json.object members).size) members)
      | .entry _ fields =>
          memberComplaint? (fun name => (lookup fields name).getD .anything) (column + 1) members
      | .choice names => nameComplaint? names column members
      | shape => some ⟨.wrongType "map" shape.expected, column⟩
  | value => shape.simpleComplaint? column value

/-- The first complaint about the items of a list, the first of which is at a column. -/
def itemComplaint? (shape : Shape) (column : Nat) : List Json → Option Complaint
  | [] => none
  | item :: rest =>
      (shape.complaintAt? column item).or
        (itemComplaint? shape (column + item.size + 1) rest)

/-- The first complaint about the items of an array as fields, the first of which is at a
column. -/
def fieldComplaint? (title : String) (count stop place : Nat)
    (fields : List (String × Presence × Shape)) (column : Nat) : List Json → Option Complaint
  | [] => shortComplaint? title count stop place fields
  | item :: rest =>
      match fields with
      | [] => some ⟨.tooManyItems, column + 1⟩
      | (_, _, shape) :: others =>
          (shape.complaintAt? column item).or
            (fieldComplaint? title count stop (place + 1) others (column + item.size + 1) rest)

/-- The first complaint about the members of an object, the first of which is at a column. -/
def memberComplaint? (shapeOf : String → Shape) (column : Nat) :
    List (String × Json) → Option Complaint
  | [] => none
  | [member] => (valueComplaint? shapeOf column member).map (shapeOf member.1).atEnd
  | member :: rest =>
      (valueComplaint? shapeOf column member).or
        (memberComplaint? shapeOf
          (column + (Json.string member.1).size + 1 + member.2.size + 1) rest)

def valueComplaint? (shapeOf : String → Shape) (column : Nat) :
    String × Json → Option Complaint
  | (name, value) => (shapeOf name).complaintAt? (column + (Json.string name).size + 1) value

end

def complaint? (shape : Shape) (value : Json) : Option Complaint :=
  shape.complaintAt? 0 value.sorted

end Shape

end CatalogSteward.Json
