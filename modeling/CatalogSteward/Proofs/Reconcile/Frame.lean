import CatalogSteward.Proofs.Reconcile.Owned

/-!
# What a grant changes

A grant reads and changes what one role holds on the objects of one type in one
place: its territory. Whatever comes of an attempt to carry it out or to clean it
up, all that is held elsewhere stays as it is.
-/

set_option autoImplicit false

namespace CatalogSteward

open Sql

/-! ## Territories -/

/-- What a grant has to itself: a role, and the objects of a type in a database, in one schema of
it unless the objects are databases. A schema that is not given is the empty name, which a grant
that is valid never has. -/
structure Territory where
  objectType : ObjectType
  database : String
  schema : Option String
  role : String
  deriving DecidableEq, Repr

def GrantDeclaration.territory (declaration : GrantDeclaration) : Territory where
  objectType := declaration.objectType
  database := declaration.database
  schema := if declaration.objectType = .database then none else some declaration.schemaName
  role := declaration.role

/-- The territory that what a role holds on an object belongs to. -/
def Securable.territory (role : String) : Securable → Territory
  | .database name => ⟨.database, name, none, role⟩
  | .schema home name => ⟨.schema, home, some name, role⟩
  | .table home place _ => ⟨.table, home, some place, role⟩
  | .sequence home place _ => ⟨.sequence, home, some place, role⟩

namespace GrantDeclaration

variable {declaration : GrantDeclaration} {database user : String}
  {state before after : ServerState} {observed : GrantObservation}
  {object owner grantee : String} {securable : Securable}
  {command : Command} {commands : List Command} {access : Access}

/-- What the catalog finds in the scope of a grant is in its territory. -/
theorem territory_of_find? {found : Securable × String}
    (present : state.find? declaration.database object declaration.scope = some found) :
    found.1.territory declaration.role = declaration.territory := by
  have named := securable_of_find? present
  rw [scope] at present
  rw [named, securable, territory]
  cases objectType : declaration.objectType with
  | database | schema =>
      rw [objectType] at present
      simp only [ObjectType.scope, ServerState.find?, Option.ite_none_right_eq_some] at present
      simp only [ObjectType.securable, Securable.territory, present.1, reduceCtorEq, if_true,
        if_false]
  | table | sequence => rfl

/-! ## Commands within a territory -/

/-- Each command changes what the role holds on some object that is found in the scope of the
grant. -/
def IsWithin (declaration : GrantDeclaration) (database : String) (state : ServerState)
    (commands : List Command) : Prop :=
  ∀ command ∈ commands, ∃ object found, declaration.Names object command ∧
    state.find? database object declaration.scope = some found

theorem Names.onAccess_eq (names : declaration.Names object command)
    (apart : ¬(securable = declaration.securable database object ∧ grantee = declaration.role)) :
    command.onAccess database access securable grantee = access securable grantee := by
  obtain ⟨privileges, rfl | rfl⟩ := names
  · exact if_neg apart
  · exact if_neg apart

/-- A grant reaches what its role holds on an object that is found in its scope. -/
def Reaches (declaration : GrantDeclaration) (database : String) (state : ServerState)
    (securable : Securable) (grantee : String) : Prop :=
  grantee = declaration.role ∧
    ∃ object owner, state.find? database object declaration.scope = some (securable, owner)

/-- What a grant reaches is in its territory. -/
theorem Reaches.territory
    (reaches : declaration.Reaches declaration.database state securable grantee) :
    securable.territory grantee = declaration.territory := by
  obtain ⟨rfl, object, owner, present⟩ := reaches
  exact territory_of_find? present

theorem IsWithin.access_eq (within : declaration.IsWithin database state commands)
    (apart : ¬declaration.Reaches database state securable grantee) :
    access.after database commands securable grantee = access securable grantee := by
  induction commands generalizing access with
  | nil => rfl
  | cons command rest ih =>
      obtain ⟨object, found, names, present⟩ := within command List.mem_cons_self
      rw [Access.after_cons, ih fun other member => within other (List.mem_cons_of_mem _ member)]
      apply names.onAccess_eq
      intro same
      obtain ⟨rfl, granted⟩ := same
      rw [← securable_of_find? present] at apart
      exact apart ⟨granted, object, found.2, present⟩

theorem IsWithin.access_elsewhere
    (within : declaration.IsWithin declaration.database state commands)
    (elsewhere : securable.territory grantee ≠ declaration.territory) :
    access.after declaration.database commands securable grantee = access securable grantee :=
  within.access_eq fun reaches => elsewhere reaches.territory

theorem has_of_find? {found : Securable × String}
    (present : state.find? database object declaration.scope = some found) :
    state.has found.1 = true := by
  rw [scope] at present
  cases objectType : declaration.objectType with
  | database | schema =>
      rw [objectType] at present
      simp only [ObjectType.scope, ServerState.find?, Option.ite_none_right_eq_some,
        Option.map_eq_some_iff] at present
      obtain ⟨-, owner, stored, rfl⟩ := present
      exact Option.isSome_of_eq_some stored
  | table | sequence =>
      rw [objectType] at present
      simp only [ObjectType.scope, ServerState.find?, Option.bind_eq_some_iff,
        Option.ite_none_right_eq_some, Option.some.injEq] at present
      obtain ⟨relation, stored, -, rfl⟩ := present
      rw [Relation.securable]
      split
      · next kind => simp only [ServerState.has, stored, Option.any_some, kind, decide_true]
      · next kind =>
          simp only [ServerState.has, stored, Option.any_some, ne_eq, kind, not_false_eq_true,
            decide_true]

/-- A command within a territory can be executed, and changes nothing but what is held. -/
theorem Names.executes_iff (names : declaration.Names object command) {found : Securable × String}
    (present : before.find? database object declaration.scope = some found)
    (known : (before.roles declaration.role).isSome = true) :
    command.Executes database user before after ↔
      after = { before with access := command.onAccess database before.access } := by
  have has : before.has (declaration.securable database object) = true :=
    securable_of_find? present ▸ has_of_find? present
  have executable : command.Executes database user before
      { before with access := command.onAccess database before.access } := by
    obtain ⟨privileges, rfl | rfl⟩ := names
    · exact ⟨⟨has, known⟩, rfl, rfl, rfl, rfl, fun _ => rfl, rfl, fun _ _ _ _ => rfl⟩
    · exact ⟨⟨has, known⟩, rfl, rfl, rfl, rfl, fun _ => rfl, rfl, fun _ _ _ _ => rfl⟩
  constructor
  · intro executes
    apply executable.eq_of_roles executes
    obtain ⟨privileges, rfl | rfl⟩ := names
    · exact funext executes.roles
    · exact funext executes.roles
  · intro same
    subst same
    exact executable

/-- Commands within a territory can be executed, and change nothing but what is held. -/
theorem IsWithin.inOrder_iff (within : declaration.IsWithin database before commands)
    (known : (before.roles declaration.role).isSome = true) :
    InOrder (Command.Executes database user) commands before after ↔
      after = { before with access := before.access.after database commands } := by
  induction commands generalizing before with
  | nil => exact InOrder.nil_iff
  | cons command rest ih =>
      obtain ⟨object, found, names, present⟩ := within command List.mem_cons_self
      have others : declaration.IsWithin database
          { before with access := command.onAccess database before.access } rest :=
        fun other member => within other (List.mem_cons_of_mem _ member)
      simp only [InOrder.cons_iff, names.executes_iff present known, exists_eq_left]
      exact ih others known

/-! ## Observations -/

/-- What is revoked is revoked on objects that are found, where the observation is right about
those. -/
theorem exists_found_of_mem_revokeOn {current : ObjectPrivileges} {privileges : PrivilegeSet}
    (seen : ∀ object privilege, privilege ∈ current.getD object ∅ →
      ∃ found, state.find? database object declaration.scope = some found ∧
        privilege ∈ state.access found.1 declaration.role)
    (entry : (object, privileges) ∈ current.toList)
    (member : command ∈ declaration.revokeOn object privileges.toList) :
    ∃ object found, declaration.Names object command ∧
      state.find? database object declaration.scope = some found := by
  obtain ⟨some_, rfl⟩ := mem_revokeOn_iff.mp member
  obtain ⟨privilege, given⟩ := List.exists_mem_of_ne_nil _ some_
  obtain ⟨found, present, -⟩ := seen object privilege (mem_getD_of_entry entry given)
  exact ⟨object, found, ⟨_, .inr rfl⟩, present⟩

theorem IsShown.isWithin_commands (shown : declaration.IsShown database state observed)
    (targets : ∀ object, declaration.IsTarget observed object → object ∈ observed.ownership) :
    declaration.IsWithin database state (declaration.commands observed) := by
  intro command member
  cases List.mem_append.mp member with
  | inl adjusted =>
      obtain ⟨object, target, adjusted⟩ := List.mem_flatMap.mp adjusted
      have target := mem_targets_iff.mp (List.mem_filter.mp target).1
      obtain ⟨found, present⟩ := shown.exists_of_mem_ownership (targets object target)
      refine ⟨object, found, ?_, present⟩
      cases List.mem_append.mp adjusted with
      | inl surplus => exact ⟨_, .inr (mem_revokeOn_iff.mp surplus).2⟩
      | inr lacking => exact ⟨_, .inl (mem_grantOn_iff.mp lacking).2⟩
  | inr elsewhere =>
      obtain ⟨⟨object, privileges⟩, entry, elsewhere⟩ := List.mem_flatMap.mp elsewhere
      split at elsewhere
      · exact absurd elsewhere List.not_mem_nil
      · exact exists_found_of_mem_revokeOn (fun object privilege held =>
          (shown.current object privilege).mp held) entry elsewhere

theorem isWithin_revokeAll {rows : List (String × String)}
    (answered : (Query.privileges declaration.scope declaration.role).IsAnswered state database
      rows) :
    declaration.IsWithin database state (declaration.revokeAll (collectPrivileges rows)) := by
  intro command member
  obtain ⟨⟨object, privileges⟩, entry, member⟩ := List.mem_flatMap.mp member
  exact exists_found_of_mem_revokeOn (fun object privilege held =>
    (answered.mem_collectPrivileges object privilege).mp held) entry member

theorem role_of_resolves
    (resolves : state.Resolves database declaration.role declaration.scope) :
    (state.roles declaration.role).isSome = true := by
  cases scope : declaration.scope with
  | database | schema =>
      rw [scope] at resolves
      exact resolves
  | relations =>
      rw [scope] at resolves
      exact resolves.2

end GrantDeclaration

/-! ## Attempts -/

section Attempts

variable {environment : Environment} {world middle after : World} {database user : String}
  {interactions : List Interaction}

/-- The work of a cleanup fails and changes nothing that the server keeps, or it finds nothing to
clean up, or it executes revocations that are made of what is there to see. -/
theorem revocations_of_work {needed : List (Attempt Bool)} {exist : ServerState → Bool → Prop}
    {revocations : Attempt (List Command)} {sees : ServerState → List Command → Prop}
    {result : Except Failure (Leave × Unit)}
    (checks : (allExist needed).Observes environment database exist)
    (asksChecks : (allExist needed).Asks fun request => request.isLook = true)
    (looks : revocations.Observes environment database sees)
    (asks : revocations.Asks fun request => request.isLook = true)
    (path : Attempt.Path
      (do
        if ← allExist needed then
          executeAll (← revocations)
          pure (.commit, ())
        else
          pure (.abandon, ())) interactions result)
    (along : Along (Request.IsAttempted environment) (world.working database user world.server)
      interactions middle) :
    (∃ failure, result = .error failure ∧ middle.server = world.server) ∨
      (result = .ok (.abandon, ()) ∧ middle = world.working database user world.server) ∨
        ∃ commands state, result = .ok (.commit, ()) ∧ sees world.server commands ∧
          InOrder (Command.Executes database user) commands world.server state ∧
            middle = world.working database user state := by
  cases Attempt.path_bind_iff.mp path with
  | inl failed =>
      obtain ⟨failure, checked, rfl⟩ := failed
      have kept := server_of_looks along (asksChecks _ _ checked)
      exact .inl ⟨failure, rfl, kept⟩
  | inr succeeded =>
      obtain ⟨checking, others, found, rfl, checked, following⟩ := succeeded
      obtain ⟨_, answered, along⟩ := Along.append_iff.mp along
      obtain ⟨-, rfl⟩ := checks.of_path checked answered rfl rfl
      cases found with
      | false =>
          obtain ⟨rfl, rfl⟩ := Attempt.path_pure_iff.mp following
          exact .inr (.inl ⟨rfl, Along.nil_iff.mp along⟩)
      | true =>
          cases Attempt.path_bind_iff.mp following with
          | inl failed =>
              obtain ⟨failure, looked, rfl⟩ := failed
              have kept := server_of_looks along (asks _ _ looked)
              exact .inl ⟨failure, rfl, kept⟩
          | inr succeeded =>
              obtain ⟨looking, executing, commands, rfl, looked, executed⟩ := succeeded
              obtain ⟨_, saw, along⟩ := Along.append_iff.mp along
              obtain ⟨isSeen, rfl⟩ := looks.of_path looked saw rfl rfl
              cases path_executeAll_then executed with
              | inl all =>
                  obtain ⟨rfl, rfl⟩ := all
                  obtain ⟨state, run, rfl⟩ := working_of_execution along
                  exact .inr (.inr ⟨commands, state, rfl, isSeen, run, rfl⟩)
              | inr stopped =>
                  obtain ⟨done, refused, rest, fault, -, rfl, rfl⟩ := stopped
                  exact .inl ⟨_, rfl, server_of_interruption along⟩

/-- A cleanup leaves the server as it was, or what revocations make of it that are made of what is
there to see. -/
theorem server_of_revokeWhere {needed : List (Attempt Bool)} {exist : ServerState → Bool → Prop}
    {revocations : Attempt (List Command)} {sees : ServerState → List Command → Prop}
    {result : Except Failure Unit}
    (checks : (allExist needed).Observes environment database exist)
    (asksChecks : (allExist needed).Asks fun request => request.isLook = true)
    (looks : revocations.Observes environment database sees)
    (asks : revocations.Asks fun request => request.isLook = true)
    (path : (revokeWhere needed revocations).Path interactions result)
    (along : Along (Request.IsAttempted environment) (world.connected database user) interactions
      after) :
    after.server = world.server ∨
      ∃ commands, sees world.server commands ∧
        InOrder (Command.Executes database user) commands world.server after.server := by
  cases transactionCourse_of_path path with
  | unbegun fault => exact .inl (server_of_unbegun along)
  | abandoned worked =>
      obtain ⟨_, began, others⟩ := Along.cons_iff.mp along
      cases working_of_begin began
      obtain ⟨_, during, last⟩ := Along.append_iff.mp others
      rw [server_of_abandon (Along.singleton_iff.mp last)]
      obtain failed | found | cleared :=
        revocations_of_work checks asksChecks looks asks worked during
      · obtain ⟨_, -, kept⟩ := failed
        exact .inl kept
      · exact nomatch found.1
      · obtain ⟨_, _, impossible, -⟩ := cleared
        exact nomatch impossible
  | left worked carriedOut =>
      obtain ⟨_, began, others⟩ := Along.cons_iff.mp along
      cases working_of_begin began
      obtain ⟨_, during, last⟩ := Along.append_iff.mp others
      obtain failed | found | cleared :=
        revocations_of_work checks asksChecks looks asks worked during
      · obtain ⟨_, impossible, -⟩ := failed
        exact nomatch impossible
      · obtain ⟨same, rfl⟩ := found
        cases same
        obtain ⟨-, left⟩ := server_of_carryOut carriedOut last
        exact .inl (left.elim And.right fun failed => failed.choose_spec.2)
      · obtain ⟨commands, state, same, isSeen, run, rfl⟩ := cleared
        cases same
        obtain ⟨-, left⟩ := server_of_carryOut carriedOut last
        cases left with
        | inl ended => exact .inr ⟨commands, isSeen, ended.2 ▸ run⟩
        | inr failed => exact .inl failed.choose_spec.2

end Attempts

namespace GrantDeclaration

variable {declaration : GrantDeclaration} {environment : Environment} {world after : World}
  {database user resource : String} {session : Session} {interactions : List Interaction}

/-- An attempt to carry out a grant fails and leaves the server as it was, or the commands of a
plan change what is held, and nothing else, that is made of what is there to see. -/
theorem server_of_converge {result : Except Failure Outcome}
    (path : (declaration.converge resource session).Path interactions result)
    (along : Along (Request.IsAttempted environment) (world.connected database user) interactions
      after) :
    ((∃ failure, result = .error failure) ∧ after.server = world.server) ∨
      ∃ observed plan, declaration.IsShown database world.server observed ∧
        declaration.plan resource session.serverVersion observed = .ok plan ∧
          after.server =
            { world.server with access := world.server.access.after database plan.commands } := by
  have truthful := truthful_of_transaction (observes_grant declaration)
    (declaration.observe_asks id) path along
  have changes : ∀ {observed plan}, declaration.IsShown database world.server observed →
      declaration.plan resource session.serverVersion observed = .ok plan →
        InOrder (Command.Executes database user) plan.commands world.server after.server →
          after.server =
            { world.server with access := world.server.access.after database plan.commands } := by
    intro observed plan shown planned run
    obtain ⟨-, targets, rfl⟩ := plan_eq_ok_iff.mp planned
    exact ((shown.isWithin_commands targets).inOrder_iff (role_of_resolves shown.resolves)).mp run
  cases truthful with
  | applied planned _ _ run =>
      obtain ⟨observed, shown, planned⟩ := planned
      exact .inr ⟨observed, _, shown, planned, changes shown planned run⟩
  | converged planned needless _ same =>
      obtain ⟨observed, shown, planned⟩ := planned
      refine .inr ⟨observed, _, shown, planned, changes shown planned ?_⟩
      exact needless ▸ InOrder.nil_iff.mpr same
  | failed failure kept => exact .inl ⟨⟨failure, rfl⟩, kept⟩

/-- A cleanup of a grant changes nothing, or what is held by commands within the territory. -/
theorem server_of_cleanup {result : Except Failure Unit}
    (path : declaration.cleanup.Path interactions result)
    (along : Along (Request.IsAttempted environment) (world.connected database user) interactions
      after) :
    after.server = world.server ∨
      ∃ commands, declaration.IsWithin database world.server commands ∧
        after.server =
          { world.server with access := world.server.access.after database commands } := by
  cases server_of_revokeWhere (observes_needed declaration)
    (allExist_asks (declaration.needed_asks id)) (observes_revocations declaration)
    (declaration.observePrivileges_asks id).map path along with
  | inl same => exact .inl same
  | inr cleared =>
      obtain ⟨_, ⟨rows, answered, rfl⟩, run⟩ := cleared
      have within := isWithin_revokeAll answered
      exact .inr ⟨_, within, (within.inOrder_iff (role_of_resolves answered.1)).mp run⟩

/-- What is held elsewhere stays as it is, whatever comes of an attempt to carry out a grant. -/
theorem access_of_converge {result : Except Failure Outcome} {securable : Securable}
    {grantee : String}
    (path : (declaration.converge resource session).Path interactions result)
    (along : Along (Request.IsAttempted environment) (world.connected declaration.database user)
      interactions after)
    (elsewhere : securable.territory grantee ≠ declaration.territory) :
    after.server.access securable grantee = world.server.access securable grantee := by
  cases server_of_converge path along with
  | inl failed => rw [failed.2]
  | inr changed =>
      obtain ⟨observed, plan, shown, planned, same⟩ := changed
      obtain ⟨-, targets, rfl⟩ := plan_eq_ok_iff.mp planned
      rw [same]
      exact (shown.isWithin_commands targets).access_elsewhere elsewhere

/-- What is held elsewhere stays as it is, whatever comes of an attempt to clean up a grant. -/
theorem access_of_cleanup {result : Except Failure Unit} {securable : Securable} {grantee : String}
    (path : declaration.cleanup.Path interactions result)
    (along : Along (Request.IsAttempted environment) (world.connected declaration.database user)
      interactions after)
    (elsewhere : securable.territory grantee ≠ declaration.territory) :
    after.server.access securable grantee = world.server.access securable grantee := by
  cases server_of_cleanup path along with
  | inl same => rw [same]
  | inr cleared =>
      obtain ⟨commands, within, same⟩ := cleared
      rw [same]
      exact within.access_elsewhere elsewhere

end GrantDeclaration

end CatalogSteward
