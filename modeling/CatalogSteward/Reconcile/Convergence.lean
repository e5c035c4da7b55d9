import CatalogSteward.Plan.Ownership
import CatalogSteward.Plan.Role
import CatalogSteward.Reconcile.Transaction

/-!
# Convergence

Each declaration is carried out the same way: what is there is observed, a plan
is made from it, and the plan is executed. All but databases do so in one
transaction; a database cannot be created in one.
-/

set_option autoImplicit false

namespace CatalogSteward

def planOrFail (plan : Except Rejection Plan) : Attempt Plan :=
  Attempt.ofExcept .ofRejection plan

/-- Gives a database its owner, creating it if it is not there. -/
def DatabaseDeclaration.converge (declaration : DatabaseDeclaration) : Attempt Outcome := do
  let owner ← observeDatabaseOwner declaration.name
  let plan := planOwnership .database declaration.name declaration.owner owner
  executeAll plan.commands
  pure plan.outcome

/-- Gives a schema its owner, creating it if it is not there. -/
def SchemaDeclaration.converge (declaration : SchemaDeclaration) : Attempt Outcome :=
  inTransaction do
    let owner ← observeSchemaOwner declaration.name
    (planOwnership .schema declaration.name declaration.owner owner).settle

def RoleDeclaration.fetchPassword (declaration : RoleDeclaration) (ownNamespace : String) :
    Attempt (Option String) :=
  match declaration.passwordSecret with
  | none => pure none
  | some secret => do
      let credentials ← fetchCredentials .secret secret ownNamespace
      pure (some credentials.password)

/-- Gives a role what it declares, creating it if it is not there. -/
def RoleDeclaration.converge (declaration : RoleDeclaration) (ownNamespace : String) :
    Attempt Outcome := do
  let password ← declaration.fetchPassword ownNamespace
  inTransaction do
    let current ← observeRole declaration.name
    let plan ← planOrFail (declaration.plan password current)
    plan.settle

def GrantDeclaration.converge (declaration : GrantDeclaration) (resource : String)
    (session : Session) : Attempt Outcome :=
  inTransaction do
    let observed ← declaration.observe
    let plan ← planOrFail (declaration.plan resource session.serverVersion observed)
    plan.settle

def DefaultPrivilegeDeclaration.converge (declaration : DefaultPrivilegeDeclaration)
    (resource : String) (session : Session) : Attempt Outcome :=
  inTransaction do
    let current ← declaration.observe
    let plan ← planOrFail (declaration.plan resource session.serverVersion current)
    plan.settle

def ManagedResource.converge (resource : ManagedResource) (session : Session) :
    Attempt Outcome :=
  match resource.declaration with
  | .database declaration => declaration.converge
  | .schema declaration => declaration.converge
  | .role declaration => declaration.converge resource.metadata.namespaceOrEmpty
  | .grant declaration => declaration.converge resource.metadata.qualifiedName session
  | .defaultPrivilege declaration =>
      declaration.converge resource.metadata.qualifiedName session

end CatalogSteward
