import CatalogSteward.Resource.Reference

/-!
# Databases and schemas

Both are objects with a name and an owner, and both say what becomes of the
object when the resource goes.
-/

set_option autoImplicit false

namespace CatalogSteward

/-- What becomes of an object on the server when its resource is deleted. -/
inductive ReclaimPolicy where
  | retain
  | delete
  deriving DecidableEq, Repr

namespace ReclaimPolicy

def all : List ReclaimPolicy :=
  [.retain, .delete]

def name : ReclaimPolicy → String
  | .retain => "Retain"
  | .delete => "Delete"

def ofJson? : Json → Option ReclaimPolicy :=
  Json.variant? (all.map fun policy => (policy.name, policy))

def toJson (policy : ReclaimPolicy) : Json :=
  .string policy.name

end ReclaimPolicy

structure DatabaseDeclaration where
  cluster : Reference
  name : String
  owner : Option String
  reclaimPolicy : ReclaimPolicy
  deriving DecidableEq, Repr

namespace DatabaseDeclaration

def ofJson? (value : Json) : Option DatabaseDeclaration := do
  let record ← value.record? 4
  let cluster ← record.required Reference.ofJson? 0 "clusterRef"
  let name ← record.required Json.string? 1 "name"
  let owner ← record.optional Json.string? 2 "owner"
  let reclaimPolicy ← record.defaulted .retain ReclaimPolicy.ofJson? 3 "reclaimPolicy"
  pure ⟨cluster, name, owner, reclaimPolicy⟩

def toJson (declaration : DatabaseDeclaration) : Json :=
  .object
    ([("clusterRef", declaration.cluster.toJson), ("name", .string declaration.name)] ++
      Json.optionalMember "owner" .string declaration.owner ++
      [("reclaimPolicy", declaration.reclaimPolicy.toJson)])

end DatabaseDeclaration

structure SchemaDeclaration where
  cluster : Reference
  database : String
  name : String
  owner : Option String
  reclaimPolicy : ReclaimPolicy
  deriving DecidableEq, Repr

namespace SchemaDeclaration

def ofJson? (value : Json) : Option SchemaDeclaration := do
  let record ← value.record? 5
  let cluster ← record.required Reference.ofJson? 0 "clusterRef"
  let database ← record.required Json.string? 1 "database"
  let name ← record.required Json.string? 2 "name"
  let owner ← record.optional Json.string? 3 "owner"
  let reclaimPolicy ← record.defaulted .retain ReclaimPolicy.ofJson? 4 "reclaimPolicy"
  pure ⟨cluster, database, name, owner, reclaimPolicy⟩

def toJson (declaration : SchemaDeclaration) : Json :=
  .object
    ([("clusterRef", declaration.cluster.toJson),
        ("database", .string declaration.database),
        ("name", .string declaration.name)] ++
      Json.optionalMember "owner" .string declaration.owner ++
      [("reclaimPolicy", declaration.reclaimPolicy.toJson)])

end SchemaDeclaration

end CatalogSteward
