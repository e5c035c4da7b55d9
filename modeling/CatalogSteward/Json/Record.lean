import CatalogSteward.Json.Value

/-!
# Records in JSON

A record is written as an object of its fields, and may be read from the array
of its fields in their order as well. Members that are no field are passed
over; an array longer than the record is refused.
-/

set_option autoImplicit false

namespace CatalogSteward.Json

/-- The fields of a record, by name or by place. -/
inductive Record where
  | named (members : List (String × Json))
  | positional (items : List Json)

/-- The record of at most `arity` fields that a value spells. -/
def record? (arity : Nat) : Json → Option Record
  | .object members => some (.named members)
  | .array items => if items.length ≤ arity then some (.positional items) else none
  | _ => none

namespace Record

def field? (record : Record) (place : Nat) (name : String) : Option Json :=
  match record with
  | .named members => find? name members
  | .positional items => items[place]?

def required {α : Type} (decode : Json → Option α) (record : Record) (place : Nat)
    (name : String) : Option α :=
  record.field? place name >>= decode

def optional {α : Type} (decode : Json → Option α) (record : Record) (place : Nat)
    (name : String) : Option (Option α) :=
  match record.field? place name with
  | none => some none
  | some value => option? decode value

/-- A field that may be `null`, and absent only from an object. -/
def nullable {α : Type} (decode : Json → Option α) (record : Record) (place : Nat)
    (name : String) : Option (Option α) :=
  match record.field? place name, record with
  | some value, _ => option? decode value
  | none, .named _ => some none
  | none, .positional _ => none

/-- A field that has a value when it is absent, but may not be `null`. -/
def defaulted {α : Type} (absent : α) (decode : Json → Option α) (record : Record)
    (place : Nat) (name : String) : Option α :=
  match record.field? place name with
  | none => some absent
  | some value => decode value

end Record

def optionalMember {α : Type} (name : String) (encode : α → Json) :
    Option α → List (String × Json)
  | none => []
  | some value => [(name, encode value)]

/-- The members with `null` for a field that none of them is. -/
def orNull (members : List (String × Json)) (name : String) : List (String × Json) :=
  if (find? name members).isSome then members else members ++ [(name, .null)]

/-- The members with `null` for each of the fields that none of them is. -/
def withNulls (names : List String) (members : List (String × Json)) : List (String × Json) :=
  names.foldl orNull members

/-- The member of a list field that is left out when it is empty. -/
def listMember {α : Type} (name : String) (encode : α → Json) :
    List α → List (String × Json)
  | [] => []
  | values => [(name, ofList encode values)]

/-- The value of the first entry whose name is the given one. -/
def lookup {α : Type} (names : List (String × α)) (name : String) : Option α :=
  (names.find? fun entry => entry.1 = name).map Prod.snd

/-- One of several named values: its name, or an object that maps its name to `null`. -/
def variant? {α : Type} (names : List (String × α)) : Json → Option α
  | .string name => lookup names name
  | .object [(name, .null)] => lookup names name
  | _ => none

end CatalogSteward.Json
