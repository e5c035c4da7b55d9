import CatalogSteward.Plan

/-!
# Plans for databases and schemas

An object that does not exist is created and given its owner; one that exists
changes hands when another owner is declared.
-/

set_option autoImplicit false

namespace CatalogSteward

open Sql

namespace OwnedKind

def create : OwnedKind → String → Command
  | .database, name => .createDatabase name
  | .schema, name => .createSchema name

def alterOwner : OwnedKind → String → String → Command
  | .database, name, owner => .alterDatabaseOwner name owner
  | .schema, name, owner => .alterSchemaOwner name owner

def drop : OwnedKind → String → Command
  | .database, name => .dropDatabase name
  | .schema, name => .dropSchema name

end OwnedKind

/-- The plan for an object whose owner is declared or left open, and that has an owner if it
exists. -/
def planOwnership (kind : OwnedKind) (name : String) (declared current : Option String) : Plan :=
  match current, declared with
  | none, none => ⟨[kind.create name], none⟩
  | none, some owner => ⟨[kind.create name, kind.alterOwner name owner], none⟩
  | some _, none => .nothing
  | some owner, some wanted =>
      if wanted = owner then .nothing
      else ⟨[kind.alterOwner name wanted], some (.ownerChanged kind owner wanted)⟩

end CatalogSteward
