import CatalogSteward.Resource.Metadata
import CatalogSteward.Sql.Command

/-!
# Roles

A role with its attributes and memberships. A role whose password is kept in a
secret can log in.
-/

set_option autoImplicit false

namespace CatalogSteward

/-- The attributes of a role that declares none: it inherits, and its connections are not
limited. -/
def Sql.RoleAttributes.standard : Sql.RoleAttributes :=
  ⟨false, false, false, true, false, false, -1⟩

/-- The attributes and memberships that a role declares. -/
structure RoleFlags where
  attributes : Sql.RoleAttributes
  validUntil : Option String
  inRole : List String
  members : List String
  deriving DecidableEq, Repr

def int32? (value : Json) : Option Int32 :=
  (Json.integerIn? (-2147483648) 2147483647 value).map Int32.ofInt

namespace RoleFlags

def standard : RoleFlags :=
  ⟨.standard, none, [], []⟩

def ofJson? (value : Json) : Option RoleFlags := do
  let record ← value.record? 10
  let superuser ← record.defaulted false Json.bool? 0 "superuser"
  let createdb ← record.defaulted false Json.bool? 1 "createdb"
  let createrole ← record.defaulted false Json.bool? 2 "createrole"
  let inherit ← record.defaulted true Json.bool? 3 "inherit"
  let replication ← record.defaulted false Json.bool? 4 "replication"
  let bypassrls ← record.defaulted false Json.bool? 5 "bypassrls"
  let connectionLimit ← record.defaulted (-1) int32? 6 "connectionLimit"
  let validUntil ← record.optional Json.string? 7 "validUntil"
  let inRole ← record.defaulted [] (Json.list? Json.string?) 8 "inRole"
  let members ← record.defaulted [] (Json.list? Json.string?) 9 "role"
  pure
    ⟨⟨superuser, createdb, createrole, inherit, replication, bypassrls, connectionLimit⟩,
      validUntil, inRole, members⟩

def toJson (flags : RoleFlags) : Json :=
  .object
    ([("superuser", .bool flags.attributes.superuser),
        ("createdb", .bool flags.attributes.createdb),
        ("createrole", .bool flags.attributes.createrole),
        ("inherit", .bool flags.attributes.inherit),
        ("replication", .bool flags.attributes.replication),
        ("bypassrls", .bool flags.attributes.bypassrls),
        ("connectionLimit", .integer flags.attributes.connectionLimit.toInt)] ++
      Json.optionalMember "validUntil" .string flags.validUntil ++
      Json.listMember "inRole" .string flags.inRole ++
      Json.listMember "role" .string flags.members)

end RoleFlags

structure RoleDeclaration where
  name : String
  comment : Option String
  cluster : Reference
  passwordSecret : Option Reference
  flags : RoleFlags
  deriving DecidableEq, Repr

namespace RoleDeclaration

def ofJson? (value : Json) : Option RoleDeclaration := do
  let record ← value.record? 5
  let name ← record.required Json.string? 0 "name"
  let comment ← record.optional Json.string? 1 "comment"
  let cluster ← record.required Reference.ofJson? 2 "clusterRef"
  let passwordSecret ← record.optional Reference.ofJson? 3 "passwordSecretRef"
  let flags ← record.defaulted .standard RoleFlags.ofJson? 4 "flags"
  pure ⟨name, comment, cluster, passwordSecret, flags⟩

def toJson (declaration : RoleDeclaration) : Json :=
  .object
    ([("name", .string declaration.name)] ++
      Json.optionalMember "comment" .string declaration.comment ++
      [("clusterRef", declaration.cluster.toJson)] ++
      Json.optionalMember "passwordSecretRef" Reference.toJson declaration.passwordSecret ++
      [("flags", declaration.flags.toJson)])

def login (declaration : RoleDeclaration) : Bool :=
  declaration.passwordSecret.isSome

end RoleDeclaration

def Resource.usesSecret (role : Resource RoleDeclaration) (name : String)
    (inNamespace : Option String) : Bool :=
  match role.declaration.passwordSecret with
  | none => false
  | some secret =>
      secret.name = name &&
        inNamespace = some (secret.namespaceFrom role.metadata.namespaceOrEmpty)

end CatalogSteward
