import CatalogSteward.Catalog.Query
import CatalogSteward.Proofs.Server.Access
import CatalogSteward.Proofs.Server.Role
import Std.Data.ExtTreeMap

/-!
# States of a server

The databases, schemas, relations, roles and privileges that a server keeps, and
what a command of a session makes of them. A command that is not possible cannot
be executed at all.
-/

set_option autoImplicit false

namespace CatalogSteward

open Sql

/-! ## States -/

structure Relation where
  kind : String
  owner : String
  deriving DecidableEq, Repr

def Relation.securable (relation : Relation) (database schema name : String) : Securable :=
  if relation.kind = "S" then .sequence database schema name else .table database schema name

/-- What default privileges are kept for: the future objects of a type, in one schema or in all.
Those for schemas are never kept for one of them. -/
structure DefaultPlace where
  objectType : FutureObjectType
  schema : Option String
  outside : objectType = .schema → schema = none

/-- What a server keeps: its version, the owners of databases and schemas, the relations in each
schema, the roles, the privileges that are held, and those that an owner hands to a role by
default. No role is its own parent or member. -/
structure ServerState where
  version : String
  databases : String → Option String
  schemas : String → String → Option String
  relations : String → String → Std.ExtTreeMap String Relation
  roles : String → Option RoleState
  access : Access
  defaults : String → DefaultPlace → String → String → PrivilegeSet
  apart : ∀ name role, roles name = some role → name ∉ role.inRole ∧ name ∉ role.members

namespace ServerState

/-- The object of a name in a scope, as a session in a database finds it, and its owner. -/
def find? (state : ServerState) (database object : String) :
    ObjectScope → Option (Securable × String)
  | .database name =>
      if object = name then (state.databases object).map (Securable.database object, ·) else none
  | .schema name =>
      if object = name then
        (state.schemas database object).map (Securable.schema database object, ·)
      else none
  | .relations kinds schema =>
      (state.relations database schema)[object]?.bind fun relation =>
        if relation.kind ∈ kinds then
          some (relation.securable database schema object, relation.owner)
        else none

def has (state : ServerState) : Securable → Bool
  | .database name => (state.databases name).isSome
  | .schema database name => (state.schemas database name).isSome
  | .table database schema name =>
      (state.relations database schema)[name]?.any fun relation => relation.kind ≠ "S"
  | .sequence database schema name =>
      (state.relations database schema)[name]?.any fun relation => relation.kind = "S"

def hasSchema (state : ServerState) (database : String) (schema : Option String) : Bool :=
  schema.all fun name => (state.schemas database name).isSome

end ServerState

/-! ## Commands -/

def entered (table : String → Option String) (name : String) (entry : Option String) :
    String → Option String := fun other =>
  if other = name then entry else table other

namespace Sql.Command

/-- Whether a command of a session in a database can be executed: what it creates is not there,
what it names is, and the database of the session is not dropped. What it asks of the roles that
it changes is said where it changes them. -/
def IsPossible (database : String) (state : ServerState) : Command → Prop
  | .createDatabase name => state.databases name = none
  | .alterDatabaseOwner name owner =>
      (state.databases name).isSome ∧ (state.roles owner).isSome
  | .dropDatabase name => name ≠ database
  | .createSchema name => state.schemas database name = none
  | .alterSchemaOwner name owner =>
      (state.schemas database name).isSome ∧ (state.roles owner).isSome
  | .dropSchema name => state.relations database name = ∅
  | .createRole _ _ inRole members => ∀ role ∈ inRole ++ members, (state.roles role).isSome
  | .grantMembership group member | .revokeMembership group member =>
      (state.roles group).isSome ∧ (state.roles member).isSome
  | .grantOnObject objectType schema object _ role
  | .revokeOnObject objectType schema object _ role =>
      state.has (objectType.securable database schema object) ∧ (state.roles role).isSome
  | .grantDefaultPrivileges owner schema objectType _ role
  | .revokeDefaultPrivileges owner schema objectType _ role =>
      (objectType = .schema → schema = none) ∧ state.hasSchema database schema ∧
        (state.roles owner).isSome ∧ (state.roles role).isSome
  | .alterRole _ _ | .dropRole _ | .commentOnRole _ _ => True

def onDatabases (user : String) (databases : String → Option String) :
    Command → String → Option String
  | .createDatabase name => entered databases name (some user)
  | .alterDatabaseOwner name owner => entered databases name (some owner)
  | .dropDatabase name => entered databases name none
  | _ => databases

def onSchemas (database user : String) (schemas : String → String → Option String)
    (command : Command) (home : String) : String → Option String :=
  match command with
  | .createSchema name => if home = database then entered (schemas home) name (some user)
      else schemas home
  | .alterSchemaOwner name owner =>
      if home = database then entered (schemas home) name (some owner) else schemas home
  | .dropSchema name =>
      if home = database then entered (schemas home) name none else schemas home
  | .dropDatabase name => if home = name then fun _ => none else schemas home
  | _ => schemas home

/-- What a command makes of the relations: those of a dropped database are gone, and a schema
that is dropped has none. -/
def onRelations (relations : String → String → Std.ExtTreeMap String Relation)
    (command : Command) (home : String) : String → Std.ExtTreeMap String Relation :=
  match command with
  | .dropDatabase name => if home = name then fun _ => ∅ else relations home
  | _ => relations home

def onDefaults (database : String) (command : Command) (home : String) (place : DefaultPlace)
    (owner role : String) (privileges : PrivilegeSet) : PrivilegeSet :=
  match command with
  | .grantDefaultPrivileges givenOwner schema objectType given grantee =>
      if home = database ∧ place.objectType = objectType ∧ place.schema = schema ∧
          owner = givenOwner ∧ role = grantee then
        privileges ∪ .ofList given
      else privileges
  | .revokeDefaultPrivileges givenOwner schema objectType given grantee =>
      if home = database ∧ place.objectType = objectType ∧ place.schema = schema ∧
          owner = givenOwner ∧ role = grantee then
        privileges \ .ofList given
      else privileges
  | .dropDatabase name => if home = name then ∅ else privileges
  | .dropSchema name =>
      if home = database ∧ place.schema = some name then ∅ else privileges
  | _ => privileges

/-- A command of a session may take one state of the server to another one. -/
structure Executes (database user : String) (command : Command) (before after : ServerState) :
    Prop where
  possible : command.IsPossible database before
  version : after.version = before.version
  databases : after.databases = command.onDatabases user before.databases
  schemas : after.schemas = command.onSchemas database user before.schemas
  relations : after.relations = command.onRelations before.relations
  roles : ∀ name, command.OnRole name (before.roles name) (after.roles name)
  access : after.access = command.onAccess database before.access
  defaults : ∀ home place owner role,
    after.defaults home place owner role =
      command.onDefaults database home place owner role (before.defaults home place owner role)

def isAboutPrivileges : Command → Bool
  | .grantOnObject _ _ _ _ _ | .revokeOnObject _ _ _ _ _ => true
  | .grantDefaultPrivileges _ _ _ _ _ | .revokeDefaultPrivileges _ _ _ _ _ => true
  | _ => false

variable {database user : String} {command : Command} {before after : ServerState}

/-- What a command makes of a state is settled once it is known what it makes of the roles. -/
theorem Executes.eq_of_roles {other : ServerState}
    (executes : command.Executes database user before after)
    (alike : command.Executes database user before other) (roles : other.roles = after.roles) :
    other = after := by
  have defaults : other.defaults = after.defaults := by
    funext home place owner role
    rw [executes.defaults, alike.defaults]
  have version := alike.version.trans executes.version.symm
  have databases := alike.databases.trans executes.databases.symm
  have schemas := alike.schemas.trans executes.schemas.symm
  have relations := alike.relations.trans executes.relations.symm
  have access := alike.access.trans executes.access.symm
  cases other
  cases after
  cases version
  cases databases
  cases schemas
  cases relations
  cases roles
  cases access
  cases defaults
  rfl

/-- The database of a session stays as long as the session does. -/
theorem Executes.home_kept (executes : command.Executes database user before after)
    (home : (before.databases database).isSome) : (after.databases database).isSome := by
  rw [executes.databases]
  have possible := executes.possible
  cases command with
  | createDatabase name | alterDatabaseOwner name owner =>
      simp only [onDatabases, entered]
      split
      · rfl
      · exact home
  | dropDatabase name =>
      have other : database ≠ name := Ne.symm possible
      simp only [onDatabases, entered, other, ↓reduceIte]
      exact home
  | _ => exact home

end Sql.Command

/-- Two states have the same version, objects and roles, whatever privileges are held. -/
structure ServerState.SameObjects (before after : ServerState) : Prop where
  version : after.version = before.version
  databases : after.databases = before.databases
  schemas : after.schemas = before.schemas
  relations : after.relations = before.relations
  roles : after.roles = before.roles

theorem Sql.Command.Executes.sameObjects {database user : String} {command : Command}
    {before after : ServerState} (executes : command.Executes database user before after)
    (privileges : command.isAboutPrivileges = true) : before.SameObjects after := by
  obtain ⟨-, version, databases, schemas, relations, roles, -, -⟩ := executes
  cases command with
  | grantOnObject | revokeOnObject | grantDefaultPrivileges | revokeDefaultPrivileges =>
      exact ⟨version, databases, schemas, relations, funext roles⟩
  | _ => exact absurd privileges Bool.false_ne_true

namespace ServerState.SameObjects

variable {before between after : ServerState}

theorem refl (state : ServerState) : state.SameObjects state :=
  ⟨rfl, rfl, rfl, rfl, rfl⟩

theorem trans (first : before.SameObjects between) (second : between.SameObjects after) :
    before.SameObjects after :=
  ⟨second.version.trans first.version, second.databases.trans first.databases,
    second.schemas.trans first.schemas, second.relations.trans first.relations,
    second.roles.trans first.roles⟩

theorem find?_eq (same : before.SameObjects after) (database object : String)
    (scope : ObjectScope) :
    after.find? database object scope = before.find? database object scope := by
  cases scope with
  | database name => simp only [find?, same.databases]
  | schema name => simp only [find?, same.schemas]
  | relations kinds schema => simp only [find?, same.relations]

theorem hasSchema_eq (same : before.SameObjects after) (database : String)
    (schema : Option String) :
    after.hasSchema database schema = before.hasSchema database schema := by
  simp only [hasSchema, same.schemas]

end ServerState.SameObjects

/-! ## Commands in order -/

namespace InOrder

variable {database user : String} {commands : List Command} {before after : ServerState}

/-- What each command preserves, commands in order do. -/
theorem induct {State : Type} {step : Command → State → State → Prop} {start state : State}
    {commands : List Command} {motive : State → Prop} (run : InOrder step commands start state)
    (first : motive start)
    (preserved : ∀ command ∈ commands, ∀ before after, motive before →
      step command before after → motive after) : motive state := by
  induction run with
  | nil state => exact first
  | cons step others ih =>
      exact ih (preserved _ List.mem_cons_self _ _ first step) fun command member =>
        preserved command (List.mem_cons_of_mem _ member)

theorem version_kept (run : InOrder (Command.Executes database user) commands before after) :
    after.version = before.version :=
  run.induct (motive := fun state => state.version = before.version) rfl
    fun _ _ _ _ same executes => executes.version.trans same

theorem home_kept (run : InOrder (Command.Executes database user) commands before after)
    (home : (before.databases database).isSome) : (after.databases database).isSome :=
  run.induct (motive := fun state => (state.databases database).isSome = true) home
    fun _ _ _ _ there executes => executes.home_kept there

theorem sameObjects (run : InOrder (Command.Executes database user) commands before after)
    (privileges : ∀ command ∈ commands, command.isAboutPrivileges = true) :
    before.SameObjects after :=
  run.induct (motive := before.SameObjects) (.refl before)
    fun _ member _ _ same executes => same.trans (executes.sameObjects (privileges _ member))

theorem onRole (run : InOrder (Command.Executes database user) commands before after)
    (name : String) :
    InOrder (Command.OnRole name) commands (before.roles name) (after.roles name) := by
  induction run with
  | nil state => exact .nil _
  | cons executes others ih => exact .cons (executes.roles name) ih

theorem access_eq (run : InOrder (Command.Executes database user) commands before after) :
    after.access = before.access.after database commands := by
  induction run with
  | nil state => rfl
  | cons executes others ih => rw [ih, executes.access, Access.after_cons]

end InOrder

/-- Commands can be executed in order: each after those before it, whatever the server made of
those. -/
def Runnable (database user : String) (commands : List Command) (state : ServerState) : Prop :=
  ∀ done command rest between, commands = done ++ command :: rest →
    InOrder (Command.Executes database user) done state between →
      ∃ after, command.Executes database user between after

theorem Runnable.singleton {database user : String} {command : Command} {state : ServerState}
    (executable : ∃ after, command.Executes database user state after) :
    Runnable database user [command] state := by
  intro done last rest between order run
  cases done with
  | nil =>
      cases order
      cases run
      exact executable
  | cons first others => exact absurd (List.cons.inj order).2 (by simp)

theorem Runnable.exists_run {database user : String} {commands : List Command}
    {state : ServerState} (runnable : Runnable database user commands state) :
    ∃ after, InOrder (Command.Executes database user) commands state after := by
  induction commands generalizing state with
  | nil => exact ⟨state, .nil state⟩
  | cons command rest ih =>
      obtain ⟨between, executes⟩ := runnable [] command rest state rfl (.nil state)
      have others : Runnable database user rest between := by
        intro done last rest state order run
        exact runnable (command :: done) last rest state (congrArg _ order) (.cons executes run)
      obtain ⟨after, run⟩ := ih others
      exact ⟨after, .cons executes run⟩

end CatalogSteward
