import CatalogSteward.Difference
import CatalogSteward.Plan
import CatalogSteward.Resource.Grant
import CatalogSteward.Text.Blank
import Std.Data.ExtTreeMap

/-!
# Plans for grants

A grant owns every privilege that its role holds within its scope. On each
object privileges are revoked before others are granted; objects that the role
owns are left alone, and what it holds on objects that are not named any more
is revoked.
-/

set_option autoImplicit false

namespace CatalogSteward

open Sql

abbrev ObjectPrivileges := Std.ExtTreeMap String PrivilegeSet

/-- The objects that exist in the scope of a grant and whether its role owns each of them,
and the privileges that the role holds. -/
structure GrantObservation where
  ownership : Std.ExtTreeMap String Bool
  current : ObjectPrivileges

/-- Rejects privileges that are not legal, each named once and in order. -/
def checkLegalPrivileges (kind resource objectType : String)
    (declared legal : List Privilege) : Except Rejection Unit :=
  let illegal := declared.filter fun privilege => !legal.contains privilege
  if illegal.isEmpty then .ok ()
  else
    .error
      (.illegalPrivileges kind resource objectType (Std.ExtTreeSet.ofList illegal).toList legal)

def newerVersionNeeded? (serverVersion : Nat) (privilege : Privilege) :
    Option (String × Nat) :=
  (privilege.minimumVersion?.filter fun required => serverVersion < required).map
    fun required => (privilege.keyword, required)

/-- Rejects privileges that the server is too old for, each named once and in the order of
their keywords. -/
def checkServerVersion (resource : String) (serverVersion : Nat) (declared : List Privilege) :
    Except Rejection Unit :=
  let needed := declared.filterMap (newerVersionNeeded? serverVersion)
  if needed.isEmpty then .ok ()
  else
    .error
      (.newerServerNeeded resource serverVersion (Std.ExtTreeMap.ofList needed).toList)

/-- Rejects a list without privileges, and a missing schema where one is needed. -/
def checkDeclared (kind resource : String) (schema : Option String) (needsSchema : Bool)
    (objectType : String) (privileges : List Privilege) : Except Rejection Unit :=
  if privileges.isEmpty then .error (.noPrivileges kind resource)
  else if needsSchema && (Text.nonBlank? schema).isNone then
    .error (.noSchema kind objectType resource)
  else .ok ()

namespace GrantDeclaration

def validate (declaration : GrantDeclaration) (resource : String) : Except Rejection Unit := do
  checkDeclared "Grant" resource declaration.schema (declaration.objectType ≠ .database)
    declaration.objectType.name declaration.privileges
  checkLegalPrivileges "Grant" resource declaration.objectType.name declaration.privileges
    declaration.objectType.legalPrivileges

/-- The objects that the grant names, each once and in order; none for all in its schema. -/
def explicitTargets (declaration : GrantDeclaration) : Option (List String) :=
  match declaration.objectType with
  | .database => some [declaration.database]
  | .schema => some [declaration.schemaName]
  | _ =>
      if declaration.objects.isEmpty then none
      else some (Std.ExtTreeSet.ofList declaration.objects : NameSet).toList

def targets (declaration : GrantDeclaration) (observed : GrantObservation) : List String :=
  declaration.explicitTargets.getD observed.ownership.keys

def desired (declaration : GrantDeclaration) : PrivilegeSet :=
  .ofList declaration.privileges

/-- Revokes privileges on an object, unless there are none to revoke. -/
def revokeOn (declaration : GrantDeclaration) (object : String)
    (privileges : List Privilege) : List Command :=
  if privileges.isEmpty then []
  else
    [.revokeOnObject declaration.objectType declaration.schemaName object privileges
      declaration.role]

/-- Grants privileges on an object, unless there are none to grant. -/
def grantOn (declaration : GrantDeclaration) (object : String)
    (privileges : List Privilege) : List Command :=
  if privileges.isEmpty then []
  else
    [.grantOnObject declaration.objectType declaration.schemaName object privileges
      declaration.role]

def adjust (declaration : GrantDeclaration) (current : ObjectPrivileges) (object : String) :
    List Command :=
  let difference := Difference.between (current.getD object ∅) declaration.desired
  declaration.revokeOn object difference.surplus ++
    declaration.grantOn object difference.lacking

def owns (observed : GrantObservation) (object : String) : Bool :=
  observed.ownership.getD object false

def revokeElsewhere (declaration : GrantDeclaration) (targets : List String)
    (current : ObjectPrivileges) : List Command :=
  current.toList.flatMap fun entry =>
    if targets.contains entry.1 then [] else declaration.revokeOn entry.1 entry.2.toList

/-- The plan that gives the role the desired privileges on every target that it does not own,
and none elsewhere. -/
def plan (declaration : GrantDeclaration) (resource : String) (serverVersion : Nat)
    (observed : GrantObservation) : Except Rejection Plan := do
  checkServerVersion resource serverVersion declaration.privileges
  let targets := declaration.targets observed
  let missing := targets.filter fun target => !observed.ownership.contains target
  if missing.isEmpty then
    let (owned, open_) := targets.partition (owns observed)
    pure
      ⟨open_.flatMap (declaration.adjust observed.current) ++
          declaration.revokeElsewhere targets observed.current,
        if owned.isEmpty then none
        else
          some
            (.ownsTargets declaration.objectType resource declaration.schemaName owned)⟩
  else
    .error
      (.missingObjects declaration.objectType resource declaration.schemaName missing)

def revokeAll (declaration : GrantDeclaration) (current : ObjectPrivileges) : List Command :=
  current.toList.flatMap fun entry => declaration.revokeOn entry.1 entry.2.toList

end GrantDeclaration

namespace DefaultPrivilegeDeclaration

def validate (declaration : DefaultPrivilegeDeclaration) (resource : String) :
    Except Rejection Unit := do
  checkDeclared "DefaultPrivilege" resource declaration.schema
    declaration.objectType.isSchemaScoped declaration.objectType.name declaration.privileges
  checkLegalPrivileges "DefaultPrivilege" resource declaration.objectType.name
    declaration.privileges declaration.objectType.legalPrivileges

def desired (declaration : DefaultPrivilegeDeclaration) : PrivilegeSet :=
  .ofList declaration.privileges

/-- Revokes default privileges, unless there are none to revoke. -/
def revoke (declaration : DefaultPrivilegeDeclaration) (privileges : List Privilege) :
    List Command :=
  if privileges.isEmpty then []
  else
    [.revokeDefaultPrivileges declaration.owner declaration.scopedSchema
      declaration.objectType privileges declaration.role]

/-- Grants default privileges, unless there are none to grant. -/
def grant (declaration : DefaultPrivilegeDeclaration) (privileges : List Privilege) :
    List Command :=
  if privileges.isEmpty then []
  else
    [.grantDefaultPrivileges declaration.owner declaration.scopedSchema
      declaration.objectType privileges declaration.role]

def plan (declaration : DefaultPrivilegeDeclaration) (resource : String) (serverVersion : Nat)
    (current : PrivilegeSet) : Except Rejection Plan := do
  checkServerVersion resource serverVersion declaration.privileges
  let difference := Difference.between current declaration.desired
  pure
    ⟨declaration.revoke difference.surplus ++ declaration.grant difference.lacking, none⟩

def revokeAll (declaration : DefaultPrivilegeDeclaration) (current : PrivilegeSet) :
    List Command :=
  declaration.revoke current.toList

end DefaultPrivilegeDeclaration

end CatalogSteward
