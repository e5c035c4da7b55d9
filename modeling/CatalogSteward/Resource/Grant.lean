import CatalogSteward.Resource.Reference
import CatalogSteward.Sql.Command

/-!
# Grants

The privileges of one role on objects that exist, or on those that another
role will create.
-/

set_option autoImplicit false

namespace CatalogSteward

open Sql

/-- The privileges of a role on objects of one type. -/
structure GrantDeclaration where
  cluster : Reference
  database : String
  role : String
  schema : Option String
  objectType : ObjectType
  objects : List String
  privileges : List Privilege
  deriving DecidableEq, Repr

namespace GrantDeclaration

def ofJson? (value : Json) : Option GrantDeclaration := do
  let record ← value.record? 7
  let cluster ← record.required Reference.ofJson? 0 "clusterRef"
  let database ← record.required Json.string? 1 "database"
  let role ← record.required Json.string? 2 "role"
  let schema ← record.optional Json.string? 3 "schema"
  let objectType ← record.required ObjectType.ofJson? 4 "objectType"
  let objects ← record.defaulted [] (Json.list? Json.string?) 5 "objects"
  let privileges ← record.required (Json.list? Privilege.ofJson?) 6 "privileges"
  pure ⟨cluster, database, role, schema, objectType, objects, privileges⟩

def toJson (declaration : GrantDeclaration) : Json :=
  .object
    ([("clusterRef", declaration.cluster.toJson),
        ("database", .string declaration.database),
        ("role", .string declaration.role)] ++
      Json.optionalMember "schema" .string declaration.schema ++
      [("objectType", declaration.objectType.toJson)] ++
      Json.listMember "objects" .string declaration.objects ++
      [("privileges", Json.ofList Privilege.toJson declaration.privileges)])

/-- The schema that holds the objects, empty where none is given. -/
def schemaName (declaration : GrantDeclaration) : String :=
  declaration.schema.getD ""

def targetPhrases (declaration : GrantDeclaration) : List Phrase :=
  match declaration.objectType with
  | .database => words ["DATABASE"] ++ [[.identifier declaration.database]]
  | .schema => words ["SCHEMA"] ++ [[.identifier declaration.schemaName]]
  | objectType =>
      match declaration.objects with
      | [] =>
          words ["ALL", objectType.pluralKeyword?.getD "", "IN", "SCHEMA"] ++
            [[.identifier declaration.schemaName]]
      | objects =>
          words [objectType.keyword] ++
            [commaJoined (objects.map (qualified declaration.schemaName))]

def describe (declaration : GrantDeclaration) : String :=
  spell
    ([privilegeList declaration.privileges] ++ words ["ON"] ++ declaration.targetPhrases ++
      words ["TO"] ++ [[.identifier declaration.role]])

end GrantDeclaration

/-- The privileges of a role on the objects of one type that an owner will create. -/
structure DefaultPrivilegeDeclaration where
  cluster : Reference
  database : String
  role : String
  owner : String
  schema : Option String
  objectType : FutureObjectType
  privileges : List Privilege
  deriving DecidableEq, Repr

namespace DefaultPrivilegeDeclaration

def ofJson? (value : Json) : Option DefaultPrivilegeDeclaration := do
  let record ← value.record? 7
  let cluster ← record.required Reference.ofJson? 0 "clusterRef"
  let database ← record.required Json.string? 1 "database"
  let role ← record.required Json.string? 2 "role"
  let owner ← record.required Json.string? 3 "owner"
  let schema ← record.optional Json.string? 4 "schema"
  let objectType ← record.required FutureObjectType.ofJson? 5 "objectType"
  let privileges ← record.required (Json.list? Privilege.ofJson?) 6 "privileges"
  pure ⟨cluster, database, role, owner, schema, objectType, privileges⟩

def toJson (declaration : DefaultPrivilegeDeclaration) : Json :=
  .object
    ([("clusterRef", declaration.cluster.toJson),
        ("database", .string declaration.database),
        ("role", .string declaration.role),
        ("owner", .string declaration.owner)] ++
      Json.optionalMember "schema" .string declaration.schema ++
      [("objectType", declaration.objectType.toJson),
        ("privileges", Json.ofList Privilege.toJson declaration.privileges)])

/-- The schema that the defaults are kept for; the defaults for schemas are kept for none. -/
def scopedSchema (declaration : DefaultPrivilegeDeclaration) : Option String :=
  if declaration.objectType.isSchemaScoped then declaration.schema else none

def describe (declaration : DefaultPrivilegeDeclaration) : String :=
  spell
    (words ["FOR", "ROLE"] ++ [[.identifier declaration.owner]] ++
      schemaClause declaration.scopedSchema ++ [privilegeList declaration.privileges] ++
      words ["ON", declaration.objectType.keyword, "TO"] ++ [[.identifier declaration.role]])

end DefaultPrivilegeDeclaration

end CatalogSteward
