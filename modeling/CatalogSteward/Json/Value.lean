/-!
# JSON values

The value type shared by the resource formats, the merge patches and the
requests. An object is its list of members; `set` keeps at most one member of
each name, and `member?` finds it.
-/

set_option autoImplicit false

namespace CatalogSteward

/-- A number is whole when it is written without fraction and exponent. -/
inductive Json.Number where
  | integer (value : Int)
  | decimal (value : Float)

inductive Json where
  | null
  | bool (value : Bool)
  | number (value : Json.Number)
  | string (value : String)
  | array (items : List Json)
  | object (members : List (String × Json))

namespace Json

instance : Inhabited Json := ⟨.null⟩

def integer (value : Int) : Json :=
  .number (.integer value)

def ofOption {α : Type} (encode : α → Json) : Option α → Json
  | none => .null
  | some value => encode value

def ofList {α : Type} (encode : α → Json) (values : List α) : Json :=
  .array (values.map encode)

/-- The members of an object; no other value has any. -/
def members : Json → List (String × Json)
  | .object members => members
  | _ => []

/-- The first member of the given name in a list of members. -/
def find? (name : String) : List (String × Json) → Option Json
  | [] => none
  | (key, value) :: rest => if key = name then some value else find? name rest

/-- The list of members without those of the given name. -/
def erase (name : String) (members : List (String × Json)) : List (String × Json) :=
  members.filter fun member => member.1 ≠ name

/-- The list of members with the given one in place of every other of its name. -/
def set (name : String) (value : Json) (members : List (String × Json)) :
    List (String × Json) :=
  erase name members ++ [(name, value)]

def member? (value : Json) (name : String) : Option Json :=
  find? name value.members

def get (value : Json) (name : String) : Json :=
  (value.member? name).getD .null

def string? : Json → Option String
  | .string value => some value
  | _ => none

def constant? (text : String) (value : Json) : Option String :=
  value.string?.filter fun given => given = text

def bool? : Json → Option Bool
  | .bool value => some value
  | _ => none

def integer? : Json → Option Int
  | .number (.integer value) => some value
  | _ => none

def array? : Json → Option (List Json)
  | .array items => some items
  | _ => none

def object? : Json → Option (List (String × Json))
  | .object members => some members
  | _ => none

def isNull : Json → Bool
  | .null => true
  | _ => false

/-- `null` as no value, every other value as `decode` reads it. -/
def option? {α : Type} (decode : Json → Option α) : Json → Option (Option α)
  | .null => some none
  | value => (decode value).map some

/-- An array whose items `decode` reads, one refused item refusing all. -/
def list? {α : Type} (decode : Json → Option α) (value : Json) : Option (List α) :=
  value.array? >>= fun items => items.mapM decode

/-- A whole number between the given bounds, both included. -/
def integerIn? (least greatest : Int) (value : Json) : Option Int :=
  value.integer?.filter fun number => least ≤ number && number ≤ greatest

end Json

end CatalogSteward
