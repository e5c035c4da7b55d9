import CatalogSteward.Resource.Managed

/-!
# Definitions of the resources

How the kinds of resource are made known: under which names, and which of
their fields are listed.
-/

set_option autoImplicit false

namespace CatalogSteward

/-- A kind of resource: a connection, or one that is managed through it. -/
inductive ResourceKind where
  | connection
  | managed (kind : ManagedKind)
  deriving DecidableEq, Repr

def apiGroup : String := "postgresql.aboutbits.it"

def apiVersion : String := "v1"

/-- A column of a list of resources: its title, its type, and the path of its field. -/
structure Column where
  title : String
  type : String
  path : String
  deriving DecidableEq, Repr

def Column.name : Column := ⟨"Name", "string", ".status.name"⟩

def Column.phase : Column := ⟨"Phase", "string", ".status.phase"⟩

def Column.message : Column := ⟨"Message", "string", ".status.message"⟩

def Column.since : Column := ⟨"Since", "date", ".status.lastPhaseTransitionTime"⟩

def Column.age : Column := ⟨"Age", "date", ".metadata.creationTimestamp"⟩

namespace ResourceKind

def all : List ResourceKind :=
  .connection :: ManagedKind.all.map .managed

def name : ResourceKind → String
  | .connection => "ClusterConnection"
  | .managed kind => kind.name

def ofName? (name : String) : Option ResourceKind :=
  all.find? fun kind => kind.name = name

def singular : ResourceKind → String
  | .connection => "clusterconnection"
  | .managed .database => "database"
  | .managed .schema => "schema"
  | .managed .role => "role"
  | .managed .grant => "grant"
  | .managed .defaultPrivilege => "defaultprivilege"

def plural (kind : ResourceKind) : String :=
  kind.singular ++ "s"

def shortName : ResourceKind → String
  | .connection => "pgcc"
  | .managed .database => "pgdb"
  | .managed .schema => "pgschema"
  | .managed .role => "pgrole"
  | .managed .grant => "pggrant"
  | .managed .defaultPrivilege => "pgdefpriv"

def columns : ResourceKind → List Column
  | .connection =>
      [⟨"Host", "string", ".spec.host"⟩, ⟨"Port", "integer", ".spec.port"⟩, .phase, .message,
        .age]
  | .managed .database => [.name, .phase, .message, .since, .age]
  | .managed .schema =>
      [⟨"Database", "string", ".spec.database"⟩, .name, .phase, .message, .age]
  | .managed .role => [.name, .phase, .message, .since, .age]
  | .managed .grant =>
      [⟨"Role", "string", ".spec.role"⟩, ⟨"Type", "string", ".spec.objectType"⟩, .phase,
        .message, .since, .age]
  | .managed .defaultPrivilege =>
      [⟨"Owner", "string", ".spec.owner"⟩, ⟨"Role", "string", ".spec.role"⟩, .phase, .message,
        .age]

end ResourceKind

end CatalogSteward
