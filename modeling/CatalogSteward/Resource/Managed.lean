import CatalogSteward.Plan.Privileges
import CatalogSteward.Resource.Connection
import CatalogSteward.Resource.Database
import CatalogSteward.Resource.Role

/-!
# Managed resources

What the kinds of resource have in common: each declares something on the
server of a connection, has a name to show, and says what its deletion means.
-/

set_option autoImplicit false

namespace CatalogSteward

inductive ManagedKind where
  | database
  | schema
  | role
  | grant
  | defaultPrivilege
  deriving DecidableEq, Repr

namespace ManagedKind

def all : List ManagedKind :=
  [.database, .schema, .role, .grant, .defaultPrivilege]

def name : ManagedKind → String
  | .database => "Database"
  | .schema => "Schema"
  | .role => "Role"
  | .grant => "Grant"
  | .defaultPrivilege => "DefaultPrivilege"

def ofName? (name : String) : Option ManagedKind :=
  all.find? fun kind => kind.name = name

def errorRequeue : ManagedKind → Nat := fun _ => 60

end ManagedKind

inductive Declaration where
  | database (declaration : DatabaseDeclaration)
  | schema (declaration : SchemaDeclaration)
  | role (declaration : RoleDeclaration)
  | grant (declaration : GrantDeclaration)
  | defaultPrivilege (declaration : DefaultPrivilegeDeclaration)
  deriving DecidableEq, Repr

namespace Declaration

def kind : Declaration → ManagedKind
  | .database _ => .database
  | .schema _ => .schema
  | .role _ => .role
  | .grant _ => .grant
  | .defaultPrivilege _ => .defaultPrivilege

def ofJson? (kind : ManagedKind) (value : Json) : Option Declaration :=
  match kind with
  | .database => (DatabaseDeclaration.ofJson? value).map .database
  | .schema => (SchemaDeclaration.ofJson? value).map .schema
  | .role => (RoleDeclaration.ofJson? value).map .role
  | .grant => (GrantDeclaration.ofJson? value).map .grant
  | .defaultPrivilege => (DefaultPrivilegeDeclaration.ofJson? value).map .defaultPrivilege

def cluster : Declaration → Reference
  | .database declaration => declaration.cluster
  | .schema declaration => declaration.cluster
  | .role declaration => declaration.cluster
  | .grant declaration => declaration.cluster
  | .defaultPrivilege declaration => declaration.cluster

def displayName : Declaration → String
  | .database declaration => declaration.name
  | .schema declaration => declaration.name
  | .role declaration => declaration.name
  | .grant declaration => declaration.describe
  | .defaultPrivilege declaration => declaration.describe

/-- The database that a session is opened to, unless it is the one of the connection. -/
def targetDatabase : Declaration → Option String
  | .database _ => none
  | .schema declaration => some declaration.database
  | .role _ => none
  | .grant declaration => some declaration.database
  | .defaultPrivilege declaration => some declaration.database

def dropsOnDelete : Declaration → Bool
  | .database declaration => declaration.reclaimPolicy = .delete
  | .schema declaration => declaration.reclaimPolicy = .delete
  | .role _ => true
  | .grant _ => true
  | .defaultPrivilege _ => true

def preflight (declaration : Declaration) (resource : String) : Except Rejection Unit :=
  match declaration with
  | .grant declaration => declaration.validate resource
  | .defaultPrivilege declaration => declaration.validate resource
  | _ => .ok ()

end Declaration

abbrev ManagedResource := Resource Declaration

def ManagedResource.ofJson? (kind : ManagedKind) (value : Json) : Option ManagedResource :=
  Resource.ofJson? (Declaration.ofJson? kind) value

def notReadyMessage (cluster : Reference) (ownNamespace : String) : String :=
  "The specified ClusterConnection does not exist or is not ready yet [resource=" ++
    qualifiedName (cluster.namespaceFrom ownNamespace) cluster.name ++ "]"

def goneMessage (cluster : Reference) (ownNamespace : String) : String :=
  "The specified ClusterConnection no longer exists or is not ready yet [resource=" ++
    qualifiedName (cluster.namespaceFrom ownNamespace) cluster.name ++ "]"

end CatalogSteward
