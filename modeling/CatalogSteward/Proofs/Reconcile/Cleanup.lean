import CatalogSteward.Proofs.Catalog.DefaultPrivilege
import CatalogSteward.Proofs.Reconcile.Frame

/-!
# Cleanups are complete and repeatable

Where what was declared may be dropped, a cleanup succeeds, also if it is gone
already: the catalog is asked about privileges only where the roles and the
schema are there that the question casts. Nothing that was declared is left, and
another cleanup changes nothing.
-/

set_option autoImplicit false

namespace CatalogSteward

open Sql

/-! ## Drops -/

/-- What is left of the role of a name when something is dropped. -/
def Sql.Command.keptRole (command : Command) (name : String) (role : Option RoleState) :
    Option RoleState :=
  match command with
  | .dropRole dropped => if dropped = name then none else role.map (RoleState.forget dropped)
  | _ => role

/-- What a drop leaves of a state. -/
def ServerState.dropped (database user : String) (command : Command) (state : ServerState) :
    ServerState where
  version := state.version
  databases := command.onDatabases user state.databases
  schemas := command.onSchemas database user state.schemas
  relations := command.onRelations state.relations
  roles := fun name => command.keptRole name (state.roles name)
  access := command.onAccess database state.access
  defaults := fun home place owner role =>
    command.onDefaults database home place owner role (state.defaults home place owner role)
  apart := by
    intro name role kept
    cases command with
    | dropRole dropped =>
        simp only [Command.keptRole, Option.ite_none_left_eq_some, Option.map_eq_some_iff] at kept
        obtain ⟨-, former, known, rfl⟩ := kept
        obtain ⟨inRole, members⟩ := state.apart name former known
        exact ⟨fun member => inRole (List.mem_filter.mp member).1,
          fun member => members (List.mem_filter.mp member).1⟩
    | _ => exact state.apart name role kept

section Drops

variable {name database user : String} {command : Command}
  {state before after : ServerState}

theorem ite_again {α : Type} {condition : Prop} [Decidable condition] {first second : α} :
    (if condition then first else if condition then first else second) =
      if condition then first else second := by
  split
  · rfl
  · rfl

theorem RoleState.forget_forget {role : RoleState} :
    (role.forget name).forget name = role.forget name := by
  simp only [forget, List.filter_filter, Bool.and_self]

theorem Sql.Command.onRole_iff_of_isDrop {first second : Option RoleState}
    (drop : command.isDrop = true) :
    command.OnRole name first second ↔ second = command.keptRole name first := by
  cases command with
  | dropDatabase | dropSchema => exact Iff.rfl
  | dropRole dropped =>
      simp only [OnRole, keptRole]
      split
      · exact Iff.rfl
      · exact Iff.rfl
  | _ => exact absurd drop Bool.false_ne_true

theorem Sql.Command.executes_iff_of_isDrop (drop : command.isDrop = true) :
    command.Executes database user before after ↔
      command.IsPossible database before ∧ after = before.dropped database user command := by
  have dropping (possible : command.IsPossible database before) :
      command.Executes database user before (before.dropped database user command) :=
    ⟨possible, rfl, rfl, rfl, rfl, fun _ => (onRole_iff_of_isDrop drop).mpr rfl, rfl,
      fun _ _ _ _ => rfl⟩
  constructor
  · intro executes
    refine ⟨executes.possible, (dropping executes.possible).eq_of_roles executes ?_⟩
    exact funext fun name => (onRole_iff_of_isDrop drop).mp (executes.roles name)
  · intro both
    obtain ⟨possible, rfl⟩ := both
    exact dropping possible

/-- What is gone stays gone when it is dropped again, and nothing else changes. -/
theorem ServerState.dropped_dropped (drop : command.isDrop = true) :
    (state.dropped database user command).dropped database user command =
      state.dropped database user command := by
  simp only [dropped, mk.injEq, true_and]
  cases command with
  | dropDatabase gone =>
      refine ⟨?_, ?_, ?_, rfl, ?_, ?_⟩
      · exact funext fun _ => ite_again
      · exact funext fun _ => ite_again
      · exact funext fun _ => ite_again
      · exact funext fun _ => funext fun _ => ite_again
      · exact funext fun _ => funext fun _ => funext fun _ => funext fun _ => ite_again
  | dropSchema gone =>
      refine ⟨rfl, ?_, rfl, rfl, ?_, ?_⟩
      · funext home
        simp only [Command.onSchemas]
        split
        · exact funext fun _ => ite_again
        · rfl
      · exact funext fun _ => funext fun _ => ite_again
      · exact funext fun _ => funext fun _ => funext fun _ => funext fun _ => ite_again
  | dropRole gone =>
      refine ⟨rfl, rfl, rfl, ?_, rfl, rfl⟩
      funext name
      simp only [Command.keptRole]
      split
      · rfl
      · simp only [Option.map_map, Function.comp_def, RoleState.forget_forget]
  | _ => exact absurd drop Bool.false_ne_true

/-- What was dropped may be dropped again, and nothing more is lost. -/
theorem Sql.Command.executes_dropped_iff (drop : command.isDrop = true)
    (possible : command.IsPossible database before) :
    command.Executes database user (before.dropped database user command) after ↔
      after = before.dropped database user command := by
  have still : command.IsPossible database (before.dropped database user command) := by
    cases command with
    | dropDatabase | dropSchema | dropRole => exact possible
    | _ => exact absurd drop Bool.false_ne_true
  rw [executes_iff_of_isDrop drop, ServerState.dropped_dropped drop]
  exact and_iff_right still

end Drops

/-! ## Attempts that succeed -/

/-- An attempt can be made with every request served. In a world that refuses what it cannot serve
it never fails, and it ends as `post` says. -/
structure Attempt.Succeeds {α : Type} (environment : Environment) (attempt : Attempt α)
    (world : World) (post : α → World → Prop) : Prop where
  possible : ∃ requests value after,
    attempt.run.Runs (Request.IsServed environment) world requests (.ok value) after
  meets : attempt.Meets environment.exact world post

theorem Attempt.Succeeds.imp {α : Type} {environment : Environment} {attempt : Attempt α}
    {world : World} {post weaker : α → World → Prop}
    (succeeds : attempt.Succeeds environment world post)
    (implied : ∀ value after, post value after → weaker value after) :
    attempt.Succeeds environment world weaker :=
  ⟨succeeds.possible, succeeds.meets.imp implied⟩

theorem Attempt.Meets.succeeds {α : Type} {environment : Environment} {attempt : Attempt α}
    {world : World} {post : α → World → Prop} (meets : attempt.Meets environment.able world post) :
    attempt.Succeeds environment world post where
  possible := by
    obtain ⟨requests, result, after, run⟩ := Program.Meets.exists_run meets fun _ _ => id
    have allowed := Program.Meets.of_runs meets run
    cases result with
    | ok value => exact ⟨requests, value, after, run⟩
    | error failure => exact allowed.elim
  meets := meets.covered environment.able_covers_exact

/-- An attempt in a session just opened makes only requests that can be served, and turns the
state of the server into one as `post` says. -/
def Attempt.Makes (environment : Environment) (database user : String) (attempt : Attempt Unit)
    (state : ServerState) (post : ServerState → Prop) : Prop :=
  ∀ world : World, world.server = state →
    attempt.Meets environment.able (world.connected database user) fun _ after =>
      ∃ next, post next ∧ after = { world with server := next }.connected database user

section Attempts

variable {environment : Environment} {database user : String} {state : ServerState}
  {post : ServerState → Prop} {commands : List Command}

theorem executeAll_meets {world : World} {session : ServerSession}
    {post : Unit → World → Prop} (opened : world.session = some session)
    (runnable : Runnable session.database session.user commands world.state)
    (holds : ∀ after,
      InOrder (Command.Executes session.database session.user) commands world.state after →
        post () (world.withState after)) :
    (executeAll commands).Meets environment.able world post := by
  apply Attempt.Meets.executeAll environment.able_serves opened
  · intro done command rest between order run
    obtain ⟨after, executes⟩ := runnable done command rest between order run
    obtain ⟨next, opened', database, user⟩ := @World.session_withState _ between _ opened
    refine ⟨Except.ok (), _, next, after, opened', ?_, rfl, rfl⟩
    rw [World.state_withState, database, user]
    exact executes
  · exact holds

theorem executeAll_makes (runnable : Runnable database user commands state)
    (leaves : ∀ after, InOrder (Command.Executes database user) commands state after →
      post after) :
    (executeAll commands).Makes environment database user state post := by
  intro world same
  subst same
  apply @executeAll_meets _ _ (world.connected database user) _ _ rfl runnable
  intro after run
  exact ⟨after, leaves after run, rfl⟩

/-- A cleanup leaves the server alone where something is missing that it needs. Otherwise there
has to be something to make its revocations of, and these have to be runnable. -/
theorem revokeWhere_makes {needed : List (Attempt Bool)} {exist : ServerState → Bool}
    {revocations : Attempt (List Command)} {sees : ServerState → List Command → Prop}
    (checks : (allExist needed).Observes environment database fun state found =>
      found = exist state)
    (looks : revocations.Observes environment database sees)
    (absent : exist state = false → post state)
    (visible : exist state = true → ∃ commands, sees state commands)
    (present : exist state = true → ∀ commands, sees state commands →
      Runnable database user commands state ∧
        ∀ after, InOrder (Command.Executes database user) commands state after → post after) :
    (revokeWhere needed revocations).Makes environment database user state post := by
  intro world same
  subst same
  apply Attempt.Meets.inTransaction environment.able_serves
  apply Attempt.Meets.bind
  apply checks.able rfl rfl ⟨_, rfl⟩
  intro found isFound
  rw [World.state_working] at isFound
  cases found with
  | false =>
      apply Attempt.Meets.pure
      exact ⟨world.server, rfl, world.server, absent isFound.symm, rfl⟩
  | true =>
      apply Attempt.Meets.bind
      apply looks.able rfl rfl
      · exact visible isFound.symm
      intro commands seen
      rw [World.state_working] at seen
      obtain ⟨runnable, leaves⟩ := present isFound.symm commands seen
      apply Attempt.Meets.bind
      apply executeAll_meets rfl
      · exact runnable
      intro after run
      apply Attempt.Meets.pure
      exact ⟨after, rfl, after, leaves after run, rfl⟩

/-- An attempt turns the state of the server into one as `post` says, and changes nothing when it
is made again. -/
def Attempt.Tidies (environment : Environment) (database user : String) (attempt : Attempt Unit)
    (state : ServerState) (post : ServerState → Prop) : Prop :=
  attempt.Makes environment database user state fun next =>
    post next ∧ attempt.Makes environment database user next (· = next)

theorem executeAll_drop_tidies {command : Command} (drop : command.isDrop = true)
    (possible : command.IsPossible database state)
    (leaves : post (state.dropped database user command)) :
    (executeAll [command]).Tidies environment database user state post := by
  apply executeAll_makes
  · exact .singleton ⟨_, (Command.executes_iff_of_isDrop drop).mpr ⟨possible, rfl⟩⟩
  · intro after run
    obtain ⟨-, rfl⟩ := (Command.executes_iff_of_isDrop drop).mp (InOrder.singleton_iff.mp run)
    refine ⟨leaves, ?_⟩
    apply executeAll_makes
    · exact .singleton ⟨_, (Command.executes_dropped_iff drop possible).mpr rfl⟩
    · intro last again
      exact (Command.executes_dropped_iff drop possible).mp (InOrder.singleton_iff.mp again)

/-- Where what is needed is there, there is something to make revocations of; they can be
executed, they leave nothing to be revoked, and where that is so already they change nothing. -/
structure Revokes (database user : String) (sees : ServerState → List Command → Prop)
    (needs cleared : ServerState → Prop) : Prop where
  visible : ∀ {state : ServerState}, needs state → ∃ commands, sees state commands
  runnable : ∀ {state : ServerState} {commands : List Command}, needs state →
    sees state commands → Runnable database user commands state
  clears : ∀ {before after : ServerState} {commands : List Command}, needs before →
    sees before commands → InOrder (Command.Executes database user) commands before after →
      cleared after
  keeps : ∀ {before after : ServerState} {commands : List Command}, cleared before →
    sees before commands → InOrder (Command.Executes database user) commands before after →
      after = before

/-- A cleanup revokes what there is to revoke, unless something is missing that it needs: then it
leaves the server alone. -/
theorem revokeWhere_tidies {needed : List (Attempt Bool)} {exist : ServerState → Bool}
    {revocations : Attempt (List Command)} {sees : ServerState → List Command → Prop}
    {needs cleared : ServerState → Prop}
    (checks : (allExist needed).Observes environment database fun state found =>
      found = exist state)
    (exist_iff : ∀ state, exist state = true ↔ needs state)
    (looks : revocations.Observes environment database sees)
    (revokes : Revokes database user sees needs cleared) :
    (revokeWhere needed revocations).Tidies environment database user state fun next =>
      (needs next → cleared next) ∧ (¬needs state → next = state) := by
  have missing {state : ServerState} (absent : exist state = false) : ¬needs state := by
    rw [← exist_iff, absent]
    exact Bool.false_ne_true
  -- The second cleanup begins with what the first one left, whether that revoked anything or not.
  have keeps {next : ServerState} (nothing : needs next → cleared next) :
      (revokeWhere needed revocations).Makes environment database user next (· = next) := by
    apply revokeWhere_makes checks looks
    · exact fun _ => rfl
    · exact fun there => revokes.visible ((exist_iff next).mp there)
    · intro there commands seen
      have has := (exist_iff next).mp there
      exact ⟨revokes.runnable has seen, fun _ run => revokes.keeps (nothing has) seen run⟩
  apply revokeWhere_makes checks looks
  · intro absent
    have lacking := missing absent
    exact ⟨⟨fun has => absurd has lacking, fun _ => rfl⟩, keeps fun has => absurd has lacking⟩
  · exact fun there => revokes.visible ((exist_iff state).mp there)
  · intro there commands seen
    have has := (exist_iff state).mp there
    refine ⟨revokes.runnable has seen, ?_⟩
    intro after run
    have nothing := revokes.clears has seen run
    exact ⟨⟨fun _ => nothing, fun lacking => absurd has lacking⟩, keeps fun _ => nothing⟩

end Attempts

/-! ## Grants -/

namespace GrantDeclaration

/-- The role of a grant is there, and so is the schema of its objects, unless these are
databases. -/
def HasNeeded (declaration : GrantDeclaration) (database : String) (state : ServerState) : Prop :=
  (state.roles declaration.role).isSome = true ∧
    state.hasSchema database declaration.schemaOfObjects = true

/-- The role of a grant holds no privilege on any object that is found in the scope of the grant,
whoever owns the object. -/
def HoldsNothing (declaration : GrantDeclaration) (database : String) (state : ServerState) :
    Prop :=
  ∀ object found, state.find? database object declaration.scope = some found →
    state.access found.1 declaration.role = ∅

variable {declaration : GrantDeclaration} {environment : Environment} {database user : String}
  {state : ServerState} {commands : List Command} {rows : List (String × String)}

/-- What is checked before a cleanup is everything that the question about privileges casts. -/
theorem HasNeeded.resolves (has : declaration.HasNeeded database state) :
    state.Resolves database declaration.role declaration.scope := by
  obtain ⟨role, schema⟩ := has
  rw [schemaOfObjects] at schema
  rw [scope]
  cases objectType : declaration.objectType with
  | database | schema => exact role
  | table | sequence =>
      rw [objectType] at schema
      exact ⟨schema, role⟩

theorem IsWithin.runnable (within : declaration.IsWithin database state commands)
    (known : (state.roles declaration.role).isSome = true) :
    Runnable database user commands state := by
  intro done command rest between order run
  subst order
  have former : declaration.IsWithin database state done :=
    fun other member => within other (List.mem_append_left _ member)
  obtain ⟨object, found, names, present⟩ :=
    within command (List.mem_append_right _ List.mem_cons_self)
  have between := (former.inOrder_iff known).mp run
  subst between
  have still : ServerState.find? { state with access := state.access.after database done }
      database object declaration.scope = some found := present
  exact ⟨_, (names.executes_iff still known).mpr rfl⟩

theorem holdsNothing_after_revokeAll
    (answered :
      (Query.privileges declaration.scope declaration.role).IsAnswered state database rows) :
    declaration.HoldsNothing database
      { state with
        access :=
          state.access.after database (declaration.revokeAll (collectPrivileges rows)) } := by
  intro object found present
  have shown : declaration.held database state.access object =
      (collectPrivileges rows).getD object ∅ :=
    held_eq_of_find? present (answered.mem_collectPrivileges object)
  have revoked := @held_after_revokeElsewhere declaration database state.access []
    (collectPrivileges rows) object fun _ => shown
  rw [if_neg List.not_mem_nil, held, ← securable_of_find? present] at revoked
  exact revoked

theorem revokeAll_eq_nil (nothing : declaration.HoldsNothing database state)
    (answered :
      (Query.privileges declaration.scope declaration.role).IsAnswered state database rows) :
    declaration.revokeAll (collectPrivileges rows) = [] := by
  have unheld : declaration.revokeElsewhere [] (collectPrivileges rows) = [] := by
    apply revokeElsewhere_eq_nil_iff.mpr
    intro object _
    apply Std.ExtTreeSet.ext_mem
    intro privilege
    rw [answered.mem_collectPrivileges]
    constructor
    · intro held
      obtain ⟨found, present, holds⟩ := held
      rw [nothing object found present] at holds
      exact holds
    · exact fun impossible => absurd impossible Std.ExtTreeSet.not_mem_empty
  exact unheld

theorem revokes :
    Revokes database user
      (fun state commands =>
        ∃ rows, (Query.privileges declaration.scope declaration.role).IsAnswered state database
            rows ∧ commands = declaration.revokeAll (collectPrivileges rows))
      (declaration.HasNeeded database) (declaration.HoldsNothing database) where
  visible := by
    intro state has
    obtain ⟨rows, answered⟩ := ServerState.exists_privileges has.resolves
    exact ⟨_, rows, answered, rfl⟩
  runnable := by
    intro state commands has seen
    obtain ⟨rows, answered, rfl⟩ := seen
    exact (isWithin_revokeAll answered).runnable has.1
  clears := by
    intro before after commands has seen run
    obtain ⟨rows, answered, rfl⟩ := seen
    rw [((isWithin_revokeAll answered).inOrder_iff has.1).mp run]
    exact holdsNothing_after_revokeAll answered
  keeps := by
    intro before after commands nothing seen run
    obtain ⟨rows, answered, rfl⟩ := seen
    rw [revokeAll_eq_nil nothing answered] at run
    exact InOrder.nil_iff.mp run

theorem cleanup_tidies :
    declaration.cleanup.Tidies environment database user state fun next =>
      (declaration.HasNeeded database next → declaration.HoldsNothing database next) ∧
        (¬declaration.HasNeeded database state → next = state) := by
  apply revokeWhere_tidies (observes_needed declaration) _ (observes_revocations declaration)
    revokes
  intro state
  simp only [List.all_cons, List.all_nil, Bool.and_true, Bool.and_eq_true, HasNeeded]

end GrantDeclaration

/-! ## Default privileges -/

namespace DefaultPrivilegeDeclaration

/-- The role and the owner are there, and so is the schema, if the defaults are kept for one. -/
def HasNeeded (declaration : DefaultPrivilegeDeclaration) (database : String)
    (state : ServerState) : Prop :=
  state.hasSchema database declaration.scopedSchema = true ∧
    (state.roles declaration.owner).isSome = true ∧ (state.roles declaration.role).isSome = true

variable {declaration : DefaultPrivilegeDeclaration} {environment : Environment}
  {database user : String} {state after : ServerState} {privileges : List Privilege}

/-- Where nothing is handed over, a revocation changes nothing. There may be one: the question
about relations without a schema sees what is handed over in every schema. -/
theorem eq_of_revoke (nothing : declaration.handed database state = ∅)
    (run : InOrder (Command.Executes database user) (declaration.revoke privileges) state
      after) : after = state := by
  cases privileges with
  | nil => exact InOrder.nil_iff.mp run
  | cons first rest =>
      have executes := InOrder.singleton_iff.mp run
      have idle : (Command.revokeDefaultPrivileges declaration.owner declaration.scopedSchema
          declaration.objectType (first :: rest) declaration.role).Executes database user state
            state := by
        refine ⟨executes.possible, rfl, rfl, rfl, rfl, fun _ => rfl, rfl, ?_⟩
        intro home place owner role
        by_cases concerns : declaration.Concerns database home place owner role
        · rw [concerns.home, concerns.place_eq, concerns.owner, concerns.role]
          have unheld : state.defaults database declaration.place declaration.owner
              declaration.role = ∅ := nothing
          rw [unheld, Command.onDefaults, if_pos ⟨rfl, rfl, rfl, rfl, rfl⟩]
          apply Std.ExtTreeSet.ext_mem
          intro privilege
          simp only [Std.ExtTreeSet.mem_diff_iff, Std.ExtTreeSet.not_mem_empty, false_and]
        · have about : declaration.IsAbout _ := ⟨first :: rest, .inr rfl⟩
          exact (about.onDefaults_eq concerns).symm
      exact idle.eq_of_roles executes (funext executes.roles)

theorem revokes :
    Revokes database user
      (fun state commands =>
        ∃ current, declaration.IsShown database state current ∧
          commands = declaration.revokeAll current)
      (declaration.HasNeeded database)
      (fun state => declaration.handed database state = ∅) where
  visible := by
    intro state has
    obtain ⟨rows, answered⟩ := exists_isAnswered has
    exact ⟨_, _, isShown_of_isAnswered answered, rfl⟩
  runnable := by
    intro state commands has seen
    obtain ⟨current, shown, rfl⟩ := seen
    exact runnable_of_isAbout (fun command => isAbout_of_mem_revoke) has
  clears := by
    intro before after commands has seen run
    obtain ⟨current, shown, rfl⟩ := seen
    apply handed_after_revoke_eq_empty _ run
    intro privilege held
    exact Std.ExtTreeSet.mem_toList.mpr
      ((shown.current privilege).mpr ⟨declaration.place, rfl, .inr rfl, held⟩)
  keeps := by
    intro before after commands nothing seen run
    obtain ⟨current, shown, rfl⟩ := seen
    exact eq_of_revoke nothing run

theorem cleanup_tidies :
    declaration.cleanup.Tidies environment database user state fun next =>
      (declaration.HasNeeded database next → declaration.handed database next = ∅) ∧
        (¬declaration.HasNeeded database state → next = state) := by
  have checks := @observes_allExist environment database _ _
    (.cons (observes_roleExists declaration.role)
      (.cons (observes_roleExists declaration.owner)
        (.cons (observes_schemaExists declaration.scopedSchema) .nil)))
  apply revokeWhere_tidies checks _ (observes_defaultPrivilege declaration).map revokes
  intro state
  simp only [List.all_cons, List.all_nil, Bool.and_true, Bool.and_eq_true, HasNeeded]
  grind

end DefaultPrivilegeDeclaration

/-! ## All kinds -/

namespace Declaration

/-- What a declaration asks to be dropped may be dropped. Privileges may always be revoked. -/
def IsUnhindered (declaration : Declaration) (database : String) (state : ServerState) : Prop :=
  match declaration with
  | .database declaration => (Command.dropDatabase declaration.name).IsPossible database state
  | .schema declaration => (Command.dropSchema declaration.name).IsPossible database state
  | .role declaration => (Command.dropRole declaration.name).IsPossible database state
  | .grant _ | .defaultPrivilege _ => True

/-- The roles and the schema are there without which the privileges of a declaration cannot be
held. -/
def HasNeeded (declaration : Declaration) (database : String) (state : ServerState) : Prop :=
  match declaration with
  | .database _ | .schema _ | .role _ => True
  | .grant declaration => declaration.HasNeeded database state
  | .defaultPrivilege declaration => declaration.HasNeeded database state

/-- What was declared is not there: no database, schema or role of the name, and no privilege in
the scope of a grant or under the key of a default privilege, which a role that is gone itself
cannot hold. -/
def IsCleared (declaration : Declaration) (database : String) (state : ServerState) : Prop :=
  match declaration with
  | .database declaration => state.databases declaration.name = none
  | .schema declaration => state.schemas database declaration.name = none
  | .role declaration => state.roles declaration.name = none
  | .grant declaration =>
      declaration.HasNeeded database state → declaration.HoldsNothing database state
  | .defaultPrivilege declaration =>
      declaration.HasNeeded database state → declaration.handed database state = ∅

variable {declaration : Declaration} {environment : Environment} {world : World}
  {database user : String} {state : ServerState}

theorem cleanup_tidies (unhindered : declaration.IsUnhindered database state) :
    declaration.cleanup.Tidies environment database user state fun next =>
      declaration.IsCleared database next ∧
        (¬declaration.HasNeeded database state → next = state) := by
  cases declaration with
  | database declaration =>
      have possible : (Command.dropDatabase declaration.name).IsPossible database state :=
        unhindered
      apply executeAll_drop_tidies rfl possible
      exact ⟨if_pos rfl, fun missing => absurd trivial missing⟩
  | schema declaration =>
      have possible : (Command.dropSchema declaration.name).IsPossible database state :=
        unhindered
      apply executeAll_drop_tidies rfl possible
      refine ⟨?_, fun missing => absurd trivial missing⟩
      simp only [IsCleared, ServerState.dropped, Command.onSchemas, entered, if_true]
  | role declaration =>
      have possible : (Command.dropRole declaration.name).IsPossible database state := unhindered
      apply executeAll_drop_tidies rfl possible
      exact ⟨if_pos rfl, fun missing => absurd trivial missing⟩
  | grant declaration => exact declaration.cleanup_tidies
  | defaultPrivilege declaration => exact declaration.cleanup_tidies

end Declaration

/-- A cleanup is complete, repeatable and tolerant of what is already gone. Where what it has to
drop may be dropped, it succeeds, even if the server refuses every question that casts the name of
a role or a schema that is not there: it asks none. What was declared is gone afterwards, nothing
has changed where a role or the schema was missing, and another cleanup succeeds and changes
nothing at all. -/
theorem cleanups_are_complete_and_repeatable {declaration : Declaration}
    {environment : Environment} {world : World} {database user : String}
    (unhindered : declaration.IsUnhindered database world.server) :
    declaration.cleanup.Succeeds environment (world.connected database user) fun _ after =>
      declaration.IsCleared database after.server ∧
        (¬declaration.HasNeeded database world.server → after = world.connected database user) ∧
          ∀ again : World, again.server = after.server →
            declaration.cleanup.Succeeds environment (again.connected database user)
              fun _ last => last = again.connected database user := by
  apply Attempt.Meets.succeeds
  apply (declaration.cleanup_tidies unhindered world rfl).imp
  intro _ after left
  obtain ⟨next, ⟨⟨cleared, missing⟩, keeps⟩, rfl⟩ := left
  refine ⟨cleared, ?_, ?_⟩
  · intro lacking
    rw [missing lacking]
  · intro again same
    apply Attempt.Meets.succeeds
    apply (keeps again same).imp
    intro _ last kept
    obtain ⟨final, unchanged, rfl⟩ := kept
    have stored : final = again.server := unchanged.trans same.symm
    rw [stored]

/-! A schema that is empty is dropped, and a grant is cleaned up whose role is gone. -/

private def archive : Declaration :=
  .schema ⟨⟨"main", none⟩, "app", "archive", none, .delete⟩

private def retired : Declaration :=
  .grant ⟨⟨"main", none⟩, "app", "retiree", some "archive", .table, [], [.select]⟩

private def archivist : RoleState :=
  ⟨true, .standard, none, none, none, [], []⟩

private def attic : World where
  statuses := fun _ => none
  server :=
    { version := "170000"
      databases := fun _ => some "admin"
      schemas := fun _ _ => some "admin"
      relations := fun _ _ => ∅
      roles := fun name => if name = "archivist" then some archivist else none
      access := fun _ _ => ∅
      defaults := fun _ _ _ _ => ∅
      apart := by
        intro _ role known
        obtain ⟨-, same⟩ := Option.ite_none_right_eq_some.mp known
        cases same
        exact ⟨List.not_mem_nil, List.not_mem_nil⟩ }
  session := none

private def emptyHanded : Environment :=
  ⟨fun _ _ => none, fun _ _ => none, fun _ => .error ""⟩

theorem cleanups_are_complete_and_repeatable_in_attic :
    (archive.IsUnhindered "app" attic.server ∧
        archive.cleanup.Succeeds emptyHanded (attic.connected "app" "admin") fun _ after =>
          after.server.schemas "app" "archive" = none) ∧
      (retired.IsUnhindered "app" attic.server ∧ ¬retired.HasNeeded "app" attic.server) ∧
        retired.cleanup.Succeeds emptyHanded (attic.connected "app" "admin") fun _ after =>
          after = attic.connected "app" "admin" := by
  have empty : archive.IsUnhindered "app" attic.server := rfl
  have missing : ¬retired.HasNeeded "app" attic.server := by
    intro has
    cases has.1
  refine ⟨⟨empty, ?_⟩, ⟨trivial, missing⟩, ?_⟩
  · apply (cleanups_are_complete_and_repeatable empty).imp
    exact fun _ _ left => left.1
  · apply (@cleanups_are_complete_and_repeatable retired _ attic _ _ trivial).imp
    exact fun _ _ left => left.2.1 missing

end CatalogSteward
