import CatalogSteward.Privilege

/-!
# Object types

The types of object that privileges are granted on, with the privileges that
are legal for each, and the types that have default privileges.
-/

set_option autoImplicit false

namespace CatalogSteward

def tablePrivileges : List Privilege :=
  [.select, .insert, .update, .delete, .truncate, .references, .trigger, .maintain]

def sequencePrivileges : List Privilege :=
  [.usage, .select, .update]

def schemaPrivileges : List Privilege :=
  [.usage, .create]

inductive ObjectType where
  | database
  | schema
  | table
  | sequence
  deriving DecidableEq, Repr

/-- Where the catalog keeps the objects of a type: the row of the named database, the row of
the named schema, or the relations of some kinds in a schema. -/
inductive CatalogScope where
  | database
  | schema
  | relations (kinds : List String)
  deriving DecidableEq, Repr

namespace ObjectType

def all : List ObjectType :=
  [.database, .schema, .table, .sequence]

def name : ObjectType → String
  | .database => "database"
  | .schema => "schema"
  | .table => "table"
  | .sequence => "sequence"

def keyword : ObjectType → String
  | .database => "DATABASE"
  | .schema => "SCHEMA"
  | .table => "TABLE"
  | .sequence => "SEQUENCE"

/-- The keyword for all objects of a type in a schema, where there is one. -/
def pluralKeyword? : ObjectType → Option String
  | .table => some "TABLES"
  | .sequence => some "SEQUENCES"
  | .database => none
  | .schema => none

def legalPrivileges : ObjectType → List Privilege
  | .database => [.create, .connect, .temporary]
  | .schema => schemaPrivileges
  | .table => tablePrivileges
  | .sequence => sequencePrivileges

def isSchemaQualified : ObjectType → Bool
  | .table => true
  | .sequence => true
  | .database => false
  | .schema => false

/-- Where the catalog keeps the objects of a type. Tables are ordinary and partitioned tables,
views, materialized views and foreign tables. -/
def scope : ObjectType → CatalogScope
  | .database => .database
  | .schema => .schema
  | .table => .relations ["r", "p", "v", "m", "f"]
  | .sequence => .relations ["S"]

def ofJson? : Json → Option ObjectType :=
  Json.variant? (all.map fun objectType => (objectType.name, objectType))

def toJson (objectType : ObjectType) : Json :=
  .string objectType.name

end ObjectType

/-- A type of future object that default privileges are about. -/
inductive FutureObjectType where
  | schema
  | table
  | sequence
  deriving DecidableEq, Repr

namespace FutureObjectType

def all : List FutureObjectType :=
  [.schema, .table, .sequence]

def name : FutureObjectType → String
  | .schema => "schema"
  | .table => "table"
  | .sequence => "sequence"

def keyword : FutureObjectType → String
  | .schema => "SCHEMAS"
  | .table => "TABLES"
  | .sequence => "SEQUENCES"

def catalogCode : FutureObjectType → String
  | .schema => "n"
  | .table => "r"
  | .sequence => "S"

def legalPrivileges : FutureObjectType → List Privilege
  | .schema => schemaPrivileges
  | .table => tablePrivileges
  | .sequence => sequencePrivileges

def isSchemaScoped : FutureObjectType → Bool
  | .schema => false
  | .table => true
  | .sequence => true

def ofJson? : Json → Option FutureObjectType :=
  Json.variant? (all.map fun objectType => (objectType.name, objectType))

def toJson (objectType : FutureObjectType) : Json :=
  .string objectType.name

end FutureObjectType

end CatalogSteward
