import CatalogSteward.Plan.Privileges
import CatalogSteward.Program

/-!
# Observations

What plans are made from, read from the catalog through an open session.
-/

set_option autoImplicit false

namespace CatalogSteward

def Query.rows (query : Query) : Attempt query.Rows :=
  Attempt.ask (fun fault => .session (.database fault)) (Program.ask (.query query))

/-- The map with the object of a row in it, and the privilege that the row reports among those of
the object, if it is managed. -/
def ObjectPrivileges.addReported (held : ObjectPrivileges) (row : String × String) :
    ObjectPrivileges :=
  let known := held.getD row.1 ∅
  match Privilege.ofAcl? row.2 with
  | some privilege => held.insert row.1 (known.insert privilege)
  | none => held.insert row.1 known

/-- The managed privileges of each object that has any. -/
def collectPrivileges (rows : List (String × String)) : ObjectPrivileges :=
  (rows.foldl ObjectPrivileges.addReported ∅).filter fun _ privileges => !privileges.isEmpty

def observeDatabaseOwner (name : String) : Attempt (Option String) :=
  (Query.databaseOwner name).rows

def observeSchemaOwner (name : String) : Attempt (Option String) :=
  (Query.schemaOwner name).rows

def observeRole (name : String) : Attempt (Option RoleState) := do
  let found : Option RoleRow ← (Query.role name).rows
  match found with
  | none => pure none
  | some row =>
      let inRole ← (Query.rolesAbove name).rows
      let members ← (Query.rolesBelow name).rows
      pure (some (row.state inRole members))

namespace GrantDeclaration

def scope (declaration : GrantDeclaration) : ObjectScope :=
  match declaration.objectType.scope with
  | .database => .database declaration.database
  | .schema => .schema declaration.schemaName
  | .relations kinds => .relations kinds declaration.schemaName

/-- The objects that the question for owners is narrowed to, none for all in the scope. -/
def namedObjects (declaration : GrantDeclaration) : List String :=
  match declaration.objectType with
  | .table => declaration.objects
  | .sequence => declaration.objects
  | .database => []
  | .schema => []

def observeOwnership (declaration : GrantDeclaration) :
    Attempt (Std.ExtTreeMap String Bool) := do
  let rows : List (String × Bool) ←
    (Query.ownership declaration.scope declaration.namedObjects declaration.role).rows
  pure (.ofList rows)

def observePrivileges (declaration : GrantDeclaration) : Attempt ObjectPrivileges :=
  collectPrivileges <$> (Query.privileges declaration.scope declaration.role).rows

def observe (declaration : GrantDeclaration) : Attempt GrantObservation := do
  let ownership ← declaration.observeOwnership
  let current ← declaration.observePrivileges
  pure ⟨ownership, current⟩

end GrantDeclaration

def DefaultPrivilegeDeclaration.observe (declaration : DefaultPrivilegeDeclaration) :
    Attempt PrivilegeSet := do
  let rows : List String ←
    (Query.defaultPrivileges declaration.owner declaration.scopedSchema declaration.objectType
      declaration.role).rows
  pure (.ofList (rows.filterMap Privilege.ofAcl?))

end CatalogSteward
