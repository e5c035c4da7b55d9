import CatalogSteward.Proofs.Containers
import CatalogSteward.Proofs.Plan.Role
import CatalogSteward.Proofs.Server.World

/-!
# What observations find

Owners, roles and privileges as the program reads them from a server, given what
the server keeps.
-/

set_option autoImplicit false

namespace CatalogSteward

open Sql

variable {environment : Environment} {database : String}

theorem observes_databaseOwner (name : String) :
    (observeDatabaseOwner name).Observes environment database fun state owner =>
      owner = state.databases name :=
  .rows (.databaseOwner name)

theorem observes_schemaOwner (name : String) :
    (observeSchemaOwner name).Observes environment database fun state owner =>
      owner = state.schemas database name :=
  .rows (.schemaOwner name)

/-! ## Roles -/

theorem RoleRow.isReadAs_state {row : RoleRow} {state : RoleState} {inRole members : List String}
    (alone : row.state [] [] = state.alone) (above : ∀ role, role ∈ inRole ↔ role ∈ state.inRole)
    (below : ∀ role, role ∈ members ↔ role ∈ state.members) :
    state.IsReadAs (row.state inRole members) where
  login := show (row.state [] []).login = state.alone.login by rw [alone]
  attributes := show (row.state [] []).attributes = state.alone.attributes by rw [alone]
  validUntil := show (row.state [] []).validUntil = state.alone.validUntil by rw [alone]
  verifier := show (row.state [] []).verifier = state.alone.verifier by rw [alone]
  comment := show (row.state [] []).comment = state.alone.comment by rw [alone]
  inRole := above
  members := below

/-- The row of a role, from which everything but its memberships is read. -/
def RoleState.row (state : RoleState) : RoleRow where
  login := state.login
  attributes := state.attributes
  validUntil := state.validUntil.map ServerInstant.at
  verifier := state.verifier
  comment := state.comment

theorem RoleState.state_row (state : RoleState) : state.row.state [] [] = state.alone := by
  obtain ⟨login, attributes, validUntil, verifier, comment, inRole, members⟩ := state
  cases validUntil with
  | none => rfl
  | some instant => rfl

theorem exists_listed (state : ServerState) (name : String)
    (listed : RoleState → List String) :
    ∃ rows : List String, ∀ role, role ∈ rows ↔
      ∃ found, state.roles name = some found ∧ role ∈ listed found := by
  cases state.roles name with
  | none => exact ⟨[], by simp only [List.not_mem_nil, reduceCtorEq, false_and, exists_false,
      implies_true]⟩
  | some found => exact ⟨listed found, by simp only [Option.some.injEq, exists_eq_left',
      implies_true]⟩

private theorem observes_memberships (name : String) (row : RoleRow) :
    Attempt.Observes environment database
      (do
        let inRole ← (Query.rolesAbove name).rows
        let members ← (Query.rolesBelow name).rows
        pure (some (row.state inRole members)))
      fun state seen =>
        ∃ inRole, (Query.rolesAbove name).IsAnswered state database inRole ∧
          ∃ members, (Query.rolesBelow name).IsAnswered state database members ∧
            seen = some (row.state inRole members) := by
  apply Attempt.Observes.bind (.rows (.rolesAbove name))
  · intro inRole
    apply Attempt.Observes.bind (.rows (.rolesBelow name))
    · exact fun members => .pure (some (row.state inRole members))
    · exact fun _ _ _ => ⟨_, rfl⟩
  · rintro state inRole other - - ⟨_, members, answered, -⟩
    exact ⟨_, members, answered, rfl⟩

theorem observes_role (name : String) :
    (observeRole name).Observes environment database fun state seen =>
      Option.Rel RoleState.IsReadAs (state.roles name) seen := by
  have looks : (observeRole name).Observes environment database fun state seen =>
      ∃ found : Option RoleRow,
        found.map (fun row => row.state [] []) = (state.roles name).map RoleState.alone ∧
        found.elim (seen = none) fun row =>
          ∃ inRole, (Query.rolesAbove name).IsAnswered state database inRole ∧
            ∃ members, (Query.rolesBelow name).IsAnswered state database members ∧
              seen = some (row.state inRole members) := by
    apply Attempt.Observes.bind (.rows (.role name))
    · intro found
      cases found with
      | none => exact .pure none
      | some row => exact observes_memberships name row
    · intro state found other _ _ _
      cases other with
      | none => exact ⟨none, rfl⟩
      | some row =>
          obtain ⟨inRole, above⟩ := exists_listed state name RoleState.inRole
          obtain ⟨members, below⟩ := exists_listed state name RoleState.members
          exact ⟨_, inRole, above, members, below, rfl⟩
  apply looks.imp
  · rintro state seen ⟨found, rows, read⟩
    cases stored : state.roles name with
    | none =>
        rw [stored, Option.map_none, Option.map_eq_none_iff] at rows
        rw [rows] at read
        rw [show seen = none from read]
        exact .none
    | some role =>
        rw [stored, Option.map_some, Option.map_eq_some_iff] at rows
        obtain ⟨row, rfl, alone⟩ := rows
        obtain ⟨inRole, above, members, below, rfl⟩ := read
        have listed : ∀ rows : List String, ∀ listed : RoleState → List String,
            (∀ name', name' ∈ rows ↔ ∃ found, state.roles name = some found ∧
              name' ∈ listed found) → ∀ name', name' ∈ rows ↔ name' ∈ listed role := by
          intro rows listed same name'
          rw [same, stored]
          simp only [Option.some.injEq, exists_eq_left']
        exact .some (RoleRow.isReadAs_state alone (listed _ RoleState.inRole above)
          (listed _ RoleState.members below))
  · intro state _ _
    cases stored : state.roles name with
    | none => exact ⟨none, none, rfl, rfl⟩
    | some role =>
        obtain ⟨inRole, above⟩ := exists_listed state name RoleState.inRole
        obtain ⟨members, below⟩ := exists_listed state name RoleState.members
        refine ⟨_, some role.row, ?_, inRole, above, members, below, rfl⟩
        exact congrArg some role.state_row

/-! ## Grants -/

/-- An observation shows a state: of each object in the scope of the grant whether its role owns
it, unless the question was narrowed to other objects, and the privileges that the role holds
on it. -/
structure GrantDeclaration.IsShown (declaration : GrantDeclaration) (database : String)
    (state : ServerState) (observed : GrantObservation) : Prop where
  resolves : state.Resolves database declaration.role declaration.scope
  ownership : ∀ object isOwner,
    observed.ownership[object]? = some isOwner ↔
      declaration.scope.Considers declaration.namedObjects object ∧
        ∃ found, state.find? database object declaration.scope = some found ∧
          isOwner = decide (found.2 = declaration.role)
  current : ∀ object privilege,
    privilege ∈ observed.current.getD object ∅ ↔
      ∃ found, state.find? database object declaration.scope = some found ∧
        privilege ∈ state.access found.1 declaration.role

theorem GrantDeclaration.isShown_of_isAnswered {declaration : GrantDeclaration}
    {state : ServerState} {rows : List (String × Bool)} {reported : List (String × String)}
    (owned :
      (Query.ownership declaration.scope declaration.namedObjects declaration.role).IsAnswered
        state database rows)
    (held :
      (Query.privileges declaration.scope declaration.role).IsAnswered state database reported) :
    declaration.IsShown database state ⟨.ofList rows, collectPrivileges reported⟩ := by
  obtain ⟨resolves, owned⟩ := owned
  refine ⟨resolves, ?_, held.mem_collectPrivileges⟩
  intro object isOwner
  rw [getElem?_ofList_eq_some_iff]
  · exact owned object isOwner
  · intro left right isLeft isRight
    obtain ⟨-, found, present, rfl⟩ := (owned object left).mp isLeft
    obtain ⟨-, other, same, rfl⟩ := (owned object right).mp isRight
    rw [Option.some.inj (present.symm.trans same)]

theorem GrantDeclaration.exists_isShown {declaration : GrantDeclaration} {state : ServerState}
    (resolves : state.Resolves database declaration.role declaration.scope) :
    ∃ observed, declaration.IsShown database state observed := by
  obtain ⟨rows, owned⟩ := ServerState.exists_ownership declaration.namedObjects resolves
  obtain ⟨reported, held⟩ := ServerState.exists_privileges resolves
  exact ⟨_, isShown_of_isAnswered owned held⟩

theorem observes_grant (declaration : GrantDeclaration) :
    declaration.observe.Observes environment database
      (declaration.IsShown database) := by
  have looks : declaration.observe.Observes environment database fun state observed =>
      ∃ ownership,
        (∃ rows : List (String × Bool),
          (Query.ownership declaration.scope declaration.namedObjects
              declaration.role).IsAnswered state database rows ∧
            ownership = Std.ExtTreeMap.ofList rows) ∧
          ∃ current,
            (∃ rows : List (String × String),
              (Query.privileges declaration.scope declaration.role).IsAnswered state database
                  rows ∧
                current = collectPrivileges rows) ∧
              observed = ⟨ownership, current⟩ := by
    apply Attempt.Observes.bind
    · apply Attempt.Observes.bind (.rows (.ownership _ _ _))
      · exact fun rows => .pure (Std.ExtTreeMap.ofList rows)
      · exact fun _ _ _ => ⟨_, rfl⟩
    · intro ownership
      apply Attempt.Observes.bind
      · exact .map (.rows (.privileges _ _))
      · exact fun current => .pure (GrantObservation.mk ownership current)
      · exact fun _ _ _ => ⟨_, rfl⟩
    · rintro state ownership other - - ⟨_, current, held, -⟩
      exact ⟨_, current, held, rfl⟩
  apply looks.imp
  · rintro state observed ⟨_, ⟨rows, owned, rfl⟩, _, ⟨reported, held, rfl⟩, rfl⟩
    exact GrantDeclaration.isShown_of_isAnswered owned held
  · rintro state observed ⟨resolves, -, -⟩
    obtain ⟨rows, owned⟩ := ServerState.exists_ownership declaration.namedObjects resolves
    obtain ⟨reported, held⟩ := ServerState.exists_privileges resolves
    exact ⟨_, _, ⟨rows, owned, rfl⟩, _, ⟨reported, held, rfl⟩, rfl⟩

/-! ## Default privileges -/

/-- The privileges that are seen are those that the owner hands to the role in some place that
was asked about. -/
structure DefaultPrivilegeDeclaration.IsShown (declaration : DefaultPrivilegeDeclaration)
    (database : String) (state : ServerState) (current : PrivilegeSet) : Prop where
  resolves : state.hasSchema database declaration.scopedSchema ∧
    (state.roles declaration.owner).isSome ∧ (state.roles declaration.role).isSome
  current : ∀ privilege,
    privilege ∈ current ↔
      ∃ place : DefaultPlace, place.objectType = declaration.objectType ∧
        (declaration.scopedSchema = none ∨ place.schema = declaration.scopedSchema) ∧
          privilege ∈ state.defaults database place declaration.owner declaration.role

/-- The schema that the defaults of a declaration are kept for is asked for, if there is one. -/
theorem DefaultPrivilegeDeclaration.askedSchema_eq (declaration : DefaultPrivilegeDeclaration) :
    Query.askedSchema declaration.scopedSchema declaration.objectType =
      declaration.scopedSchema := by
  rw [Query.askedSchema, scopedSchema]
  cases declaration.objectType with
  | schema => rfl
  | table | sequence => cases declaration.schema <;> rfl

theorem DefaultPrivilegeDeclaration.isShown_of_isAnswered
    {declaration : DefaultPrivilegeDeclaration} {state : ServerState} {rows : List String}
    (answered :
      (Query.defaultPrivileges declaration.owner declaration.scopedSchema
        declaration.objectType declaration.role).IsAnswered state database rows) :
    declaration.IsShown database state (.ofList (rows.filterMap Privilege.ofAcl?)) := by
  obtain ⟨resolves, held⟩ := answered
  rw [declaration.askedSchema_eq] at resolves held
  refine ⟨resolves, fun privilege => ?_⟩
  rw [← held privilege, Std.ExtTreeSet.mem_ofList, List.contains_iff_mem, List.mem_filterMap]
  rfl

theorem DefaultPrivilegeDeclaration.exists_isAnswered
    {declaration : DefaultPrivilegeDeclaration} {state : ServerState}
    (resolves : state.hasSchema database declaration.scopedSchema ∧
      (state.roles declaration.owner).isSome ∧ (state.roles declaration.role).isSome) :
    ∃ rows,
      (Query.defaultPrivileges declaration.owner declaration.scopedSchema
        declaration.objectType declaration.role).IsAnswered state database rows := by
  obtain ⟨rows, held⟩ := exists_reports fun privilege =>
    ∃ place : DefaultPlace, place.objectType = declaration.objectType ∧
      (declaration.scopedSchema = none ∨ place.schema = declaration.scopedSchema) ∧
        privilege ∈ state.defaults database place declaration.owner declaration.role
  rw [← declaration.askedSchema_eq] at resolves held
  exact ⟨rows, resolves, held⟩

theorem observes_defaultPrivilege (declaration : DefaultPrivilegeDeclaration) :
    declaration.observe.Observes environment database
      (declaration.IsShown database) := by
  have looks : declaration.observe.Observes environment database fun state current =>
      ∃ rows : List String,
        (Query.defaultPrivileges declaration.owner declaration.scopedSchema
            declaration.objectType declaration.role).IsAnswered state database rows ∧
          current = Std.ExtTreeSet.ofList (rows.filterMap Privilege.ofAcl?) := by
    apply Attempt.Observes.bind (.rows (.defaultPrivileges _ _ _ _))
    · exact fun rows => .pure (Std.ExtTreeSet.ofList (rows.filterMap Privilege.ofAcl?))
    · exact fun _ _ _ => ⟨_, rfl⟩
  apply looks.imp
  · rintro state current ⟨rows, answered, rfl⟩
    exact DefaultPrivilegeDeclaration.isShown_of_isAnswered answered
  · rintro state current ⟨resolves, -⟩
    obtain ⟨rows, answered⟩ := DefaultPrivilegeDeclaration.exists_isAnswered resolves
    exact ⟨_, rows, answered, rfl⟩

end CatalogSteward
