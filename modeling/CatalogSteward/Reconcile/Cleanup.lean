import CatalogSteward.Plan.Ownership
import CatalogSteward.Reconcile.Transaction

/-!
# Cleaning up

What a resource declared is removed when it goes. Nothing can be held by a role
or in a schema that is gone already, and the catalog is not asked about it, as
it would fail.
-/

set_option autoImplicit false

namespace CatalogSteward

open Sql

def DatabaseDeclaration.cleanup (declaration : DatabaseDeclaration) : Attempt Unit :=
  executeAll [OwnedKind.database.drop declaration.name]

def SchemaDeclaration.cleanup (declaration : SchemaDeclaration) : Attempt Unit :=
  executeAll [OwnedKind.schema.drop declaration.name]

def RoleDeclaration.cleanup (declaration : RoleDeclaration) : Attempt Unit :=
  executeAll [.dropRole declaration.name]

def roleExists (name : String) : Attempt Bool :=
  Option.isSome <$> observeRole name

/-- Whether there is a schema of the name; there is no need for one where none is named. -/
def schemaExists : Option String → Attempt Bool
  | none => pure true
  | some name => Option.isSome <$> observeSchemaOwner name

/-- Whether every attempt finds what it looks for; none is made after one that does not. -/
def allExist : List (Attempt Bool) → Attempt Bool
  | [] => pure true
  | attempt :: rest => do
      if ← attempt then allExist rest else pure false

/-- Revokes in a transaction, unless something that has to exist does not. -/
def revokeWhere (needed : List (Attempt Bool)) (commands : Attempt (List Command)) :
    Attempt Unit :=
  inTransaction do
    if ← allExist needed then
      executeAll (← commands)
      pure (.commit, ())
    else
      pure (.abandon, ())

namespace GrantDeclaration

/-- The schema that holds the objects of the grant, unless they are databases. -/
def schemaOfObjects (declaration : GrantDeclaration) : Option String :=
  match declaration.objectType with
  | .database => none
  | _ => some declaration.schemaName

def cleanup (declaration : GrantDeclaration) : Attempt Unit :=
  revokeWhere [roleExists declaration.role, schemaExists declaration.schemaOfObjects]
    (declaration.revokeAll <$> declaration.observePrivileges)

end GrantDeclaration

/-- Revokes every default privilege that the owner hands to the role. -/
def DefaultPrivilegeDeclaration.cleanup (declaration : DefaultPrivilegeDeclaration) :
    Attempt Unit :=
  revokeWhere
    [roleExists declaration.role, roleExists declaration.owner,
      schemaExists declaration.scopedSchema]
    (declaration.revokeAll <$> declaration.observe)

def Declaration.cleanup : Declaration → Attempt Unit
  | .database declaration => declaration.cleanup
  | .schema declaration => declaration.cleanup
  | .role declaration => declaration.cleanup
  | .grant declaration => declaration.cleanup
  | .defaultPrivilege declaration => declaration.cleanup

end CatalogSteward
