import CatalogSteward.Sql.Command

/-!
# Access

What roles may do with the objects of a server, and what commands make of it:
a grant adds the privileges that it names to those of its role on its object, a
revocation takes them away, and a dropped object takes every privilege on it
along.
-/

set_option autoImplicit false

namespace CatalogSteward

open Sql

/-- An object that privileges are held on, with the database and the schema that it is in. -/
inductive Securable where
  | database (name : String)
  | schema (database name : String)
  | table (database schema name : String)
  | sequence (database schema name : String)
  deriving DecidableEq, Repr

/-- The database that an object is, or is in. -/
def Securable.home : Securable → String
  | .database name => name
  | .schema home _ => home
  | .table home _ _ => home
  | .sequence home _ _ => home

def ObjectType.securable (database schema object : String) : ObjectType → Securable
  | .database => .database object
  | .schema => .schema database object
  | .table => .table database schema object
  | .sequence => .sequence database schema object

theorem ObjectType.securable_inj {objectType : ObjectType} {database schema left right : String} :
    objectType.securable database schema left = objectType.securable database schema right ↔
      left = right := by
  cases objectType <;> simp [ObjectType.securable]

/-- The privileges that each role holds on each object. -/
abbrev Access := Securable → String → PrivilegeSet

namespace Access

def alter (access : Access) (target : Securable) (grantee : String)
    (change : PrivilegeSet → PrivilegeSet) : Access := fun securable role =>
  if securable = target ∧ role = grantee then change (access securable role)
  else access securable role

def without (access : Access) (gone : Securable → Bool) : Access := fun securable role =>
  if gone securable then ∅ else access securable role

end Access

/-- What a command of a session in a database makes of an access. -/
def Sql.Command.onAccess (database : String) (command : Command) (access : Access) : Access :=
  match command with
  | .grantOnObject objectType schema object privileges role =>
      access.alter (objectType.securable database schema object) role (· ∪ .ofList privileges)
  | .revokeOnObject objectType schema object privileges role =>
      access.alter (objectType.securable database schema object) role (· \ .ofList privileges)
  | .dropDatabase name => access.without fun securable => securable.home = name
  | .dropSchema name => access.without fun securable => securable = .schema database name
  | _ => access

/-- What commands of a session in a database make of an access, one after the other. -/
def Access.after (database : String) (commands : List Command) (access : Access) : Access :=
  commands.foldl (fun access command => command.onAccess database access) access

namespace Access

variable {access : Access} {database : String}

@[simp] theorem after_nil : access.after database [] = access := rfl

theorem after_cons {command : Command} {rest : List Command} :
    access.after database (command :: rest) =
      (command.onAccess database access).after database rest := rfl

theorem after_append {first second : List Command} :
    access.after database (first ++ second) = (access.after database first).after database second :=
  List.foldl_append

theorem mem_onAccess_grantOnObject {objectType : ObjectType} {schema object role : String}
    {privileges : List Privilege} {securable : Securable} {grantee : String}
    {privilege : Privilege} :
    privilege ∈ (Command.grantOnObject objectType schema object privileges role).onAccess database
        access securable grantee ↔
      privilege ∈ access securable grantee ∨
        (securable = objectType.securable database schema object ∧ grantee = role) ∧
          privilege ∈ privileges := by
  by_cases same : securable = objectType.securable database schema object ∧ grantee = role
  · simp only [Command.onAccess, alter, same, and_self, ↓reduceIte,
      Std.ExtTreeSet.mem_union_iff, Std.ExtTreeSet.mem_ofList, List.contains_iff_mem, true_and]
  · simp only [Command.onAccess, alter, same, ↓reduceIte, false_and, or_false]

theorem mem_onAccess_revokeOnObject {objectType : ObjectType} {schema object role : String}
    {privileges : List Privilege} {securable : Securable} {grantee : String}
    {privilege : Privilege} :
    privilege ∈ (Command.revokeOnObject objectType schema object privileges role).onAccess database
        access securable grantee ↔
      privilege ∈ access securable grantee ∧
        ¬((securable = objectType.securable database schema object ∧ grantee = role) ∧
          privilege ∈ privileges) := by
  by_cases same : securable = objectType.securable database schema object ∧ grantee = role
  · simp only [Command.onAccess, alter, same, and_self, ↓reduceIte,
      Std.ExtTreeSet.mem_diff_iff, Std.ExtTreeSet.mem_ofList, List.contains_iff_mem, true_and]
  · simp only [Command.onAccess, alter, same, ↓reduceIte, false_and, not_false_eq_true, and_true]

end Access

end CatalogSteward
