import CatalogSteward.Proofs.Catalog.DefaultPrivilege
import CatalogSteward.Proofs.Plan.Grant
import CatalogSteward.Proofs.Plan.Ownership
import CatalogSteward.Proofs.Reconcile.Session
import CatalogSteward.Proofs.Reconcile.Transaction

/-!
# Convergence is repeatable

For each kind of declaration, what is planned once settles the matter: what is
seen after its commands leaves nothing to plan.
-/

set_option autoImplicit false

namespace CatalogSteward

open Sql

variable {environment : Environment} {database user resource : String} {serverVersion : Nat}

/-! ## Databases and schemas -/

theorem planOrFail_ok (plan : Plan) : planOrFail (.ok plan) = pure plan := rfl

theorem ownership_settles (kind : OwnedKind) (name : String) (declared : Option String) :
    Settles database user (fun state owner => owner = kind.owner? database name state)
      fun owner => .ok (planOwnership kind name declared owner) := by
  rintro before after _ _ rfl made run
  cases made
  refine ⟨⟨_, rfl⟩, ?_⟩
  rintro _ rfl
  refine ⟨_, rfl, ?_⟩
  rw [planOwnership_after run]
  exact ⟨rfl, .inl rfl⟩

/-- A plan for a schema is always made; said so, it is made as the others are. -/
theorem SchemaDeclaration.converge_eq (declaration : SchemaDeclaration) :
    declaration.converge =
      inTransaction (do
        let owner ← observeSchemaOwner declaration.name
        let plan ←
          planOrFail (.ok (planOwnership .schema declaration.name declaration.owner owner))
        plan.settle) := by
  simp only [planOrFail_ok, pure_bind]
  rfl

theorem SchemaDeclaration.converge_repeats (declaration : SchemaDeclaration) :
    declaration.converge.Repeats environment database user := by
  rw [converge_eq]
  exact (observes_schemaOwner declaration.name).inTransaction_repeats
    (ownership_settles .schema declaration.name declaration.owner)

theorem DatabaseDeclaration.converge_repeats (declaration : DatabaseDeclaration) :
    declaration.converge.Repeats environment database user := by
  have looks := @observes_databaseOwner environment database declaration.name
  have settles := @ownership_settles database user .database declaration.name declaration.owner
  intro world
  apply Attempt.Meets.bind
  apply looks.unreliable rfl rfl
  intro owner isOwner
  apply Attempt.Meets.bind
  apply Attempt.Meets.executeAll environment.unreliable_serves rfl fun _ _ _ _ _ _ => trivial
  intro after run
  obtain ⟨visible, repeated⟩ := settles isOwner rfl run
  apply Attempt.Meets.pure
  refine ⟨rfl, run.version_kept, run.home_kept, Plan.message _, Plan.outcome_agrees _, ?_⟩
  intro again same
  have kept : again.server = after := same
  apply Attempt.Meets.bind
  apply looks.reliable rfl rfl
  · rw [World.state_connected, kept]
    exact visible
  intro seen isSeen
  rw [World.state_connected, kept] at isSeen
  obtain ⟨_, made, confirms⟩ := repeated seen isSeen
  cases made
  apply Attempt.Meets.bind
  rw [confirms.1]
  exact Attempt.Meets.pure ⟨confirms.outcome, rfl⟩

/-! ## Roles -/

theorem RoleDeclaration.settles {declaration : RoleDeclaration} {password : Option String}
    (given : password.isSome = declaration.login) :
    Settles database user
      (fun state seen => Option.Rel RoleState.IsReadAs (state.roles declaration.name) seen)
      (declaration.plan password) := by
  intro before after seen plan read planned run
  obtain ⟨role, stored, agrees⟩ := agrees_after_plan given read (before.apart declaration.name)
    planned (run.onRole declaration.name)
  refine ⟨⟨some role, stored ▸ .some role.isReadAs_self⟩, ?_⟩
  intro again readAgain
  rw [stored] at readAgain
  cases readAgain with
  | some readAgain =>
      exact ⟨_, plan_of_agrees given (agrees.of_isReadAs readAgain), rfl, .inl rfl⟩

theorem RoleDeclaration.converge_repeats (declaration : RoleDeclaration) (ownNamespace : String) :
    (declaration.converge ownNamespace).Repeats environment database user := by
  intro world
  apply Attempt.Meets.bind
  apply (declaration.fetchPassword_meets ownNamespace (world.connected database user)).imp
  rintro password _ ⟨given, rfl, samePassword⟩
  have looks := @observes_role environment database declaration.name
  have settles := @settles database user declaration password given
  apply (looks.inTransaction_repeats settles world).imp
  rintro outcome after ⟨statuses, version, home, message, agrees, repeated⟩
  refine ⟨statuses, version, home, message, agrees, fun again same => ?_⟩
  apply Attempt.Meets.bind
  apply (samePassword _).imp
  rintro _ _ ⟨rfl, rfl⟩
  exact repeated again same

/-! ## Default privileges -/

theorem DefaultPrivilegeDeclaration.settles {declaration : DefaultPrivilegeDeclaration}
    (valid : declaration.validate resource = .ok ()) :
    Settles database user (declaration.IsShown database)
      (declaration.plan resource serverVersion) := by
  intro before after current plan shown planned run
  obtain ⟨version, rfl⟩ := plan_eq_ok_iff.mp planned
  have same := run.sameObjects fun _ => isAboutPrivileges_of_mem_commands
  rw [shown.eq_handed valid] at run
  have handed := handed_after_commands run
  constructor
  · have resolves := shown.resolves
    rw [← same.hasSchema_eq, ← same.roles] at resolves
    obtain ⟨rows, answered⟩ := exists_isAnswered resolves
    exact ⟨_, isShown_of_isAnswered answered⟩
  · intro again shownAgain
    refine ⟨_, plan_eq_ok_iff.mpr ⟨version, rfl⟩, ?_, .inl rfl⟩
    rw [shownAgain.eq_handed valid, handed]
    exact commands_desired

theorem DefaultPrivilegeDeclaration.converge_repeats (declaration : DefaultPrivilegeDeclaration)
    (session : Session) (valid : declaration.validate resource = .ok ()) :
    (declaration.converge resource session).Repeats environment database user :=
  (observes_defaultPrivilege declaration).inTransaction_repeats (settles valid)

/-! ## Grants -/

namespace GrantDeclaration

variable {declaration : GrantDeclaration} {state before after : ServerState}
  {observed again : GrantObservation}

theorem securable_of_find? {object : String} {found : Securable × String}
    (present : state.find? database object declaration.scope = some found) :
    found.1 = declaration.securable database object := by
  rw [scope] at present
  rw [securable]
  cases objectType : declaration.objectType with
  | database | schema =>
      rw [objectType] at present
      simp only [ObjectType.scope, ServerState.find?, Option.ite_none_right_eq_some,
        Option.map_eq_some_iff] at present
      obtain ⟨-, owner, -, rfl⟩ := present
      rfl
  | table | sequence =>
      rw [objectType] at present
      simp only [ObjectType.scope, ServerState.find?, Option.bind_eq_some_iff,
        Option.ite_none_right_eq_some, Option.some.injEq] at present
      obtain ⟨relation, -, kind, rfl⟩ := present
      simp only [Relation.securable, ObjectType.securable]
      grind

theorem isAboutPrivileges_of_isAbout {command : Command} (about : declaration.IsAbout command) :
    command.isAboutPrivileges = true := by
  obtain ⟨object, privileges, rfl | rfl⟩ := about
  · rfl
  · rfl

theorem IsShown.ownership_eq (shown : declaration.IsShown database before observed)
    (same : before.SameObjects after) (shownAgain : declaration.IsShown database after again) :
    again.ownership = observed.ownership := by
  apply Std.ExtTreeMap.ext_getElem?
  intro object
  apply Option.ext
  intro isOwner
  rw [shownAgain.ownership, shown.ownership, same.find?_eq]

theorem held_eq_of_find? {object : String} {found : Securable × String} {current : PrivilegeSet}
    (present : state.find? database object declaration.scope = some found)
    (shows : ∀ privilege, privilege ∈ current ↔
      ∃ found, state.find? database object declaration.scope = some found ∧
        privilege ∈ state.access found.1 declaration.role) :
    declaration.held database state.access object = current := by
  apply Std.ExtTreeSet.ext_mem
  intro privilege
  rw [shows, present, held, ← securable_of_find? present]
  simp only [Option.some.injEq, exists_eq_left']

theorem IsShown.held_eq (shown : declaration.IsShown database state observed) {object : String}
    {found : Securable × String}
    (present : state.find? database object declaration.scope = some found) :
    declaration.held database state.access object = observed.current.getD object ∅ :=
  held_eq_of_find? present (shown.current object)

theorem IsShown.exists_of_mem_ownership (shown : declaration.IsShown database state observed)
    {object : String} (listed : object ∈ observed.ownership) :
    ∃ found, state.find? database object declaration.scope = some found := by
  obtain ⟨isOwner, entry⟩ :=
    Option.isSome_iff_exists.mp (Std.ExtTreeMap.mem_iff_isSome_getElem?.mp listed)
  obtain ⟨-, found, present, -⟩ := (shown.ownership object isOwner).mp entry
  exact ⟨found, present⟩

theorem IsShown.current_eq_empty (shown : declaration.IsShown database state observed)
    {object : String} (absent : state.find? database object declaration.scope = none) :
    observed.current.getD object ∅ = ∅ := by
  apply Std.ExtTreeSet.ext_mem
  intro privilege
  rw [shown.current, absent]
  simp only [reduceCtorEq, false_and, exists_false, Std.ExtTreeSet.not_mem_empty]

theorem isTarget_congr (same : again.ownership = observed.ownership) {object : String} :
    declaration.IsTarget again object ↔ declaration.IsTarget observed object := by
  rw [IsTarget, IsTarget, same]

theorem IsShown.holds_after (shown : declaration.IsShown database before observed)
    (targets : ∀ object, declaration.IsTarget observed object → object ∈ observed.ownership)
    (run : InOrder (Command.Executes database user) (declaration.commands observed) before after)
    (same : before.SameObjects after) (shownAgain : declaration.IsShown database after again) :
    declaration.Holds again fun object => again.current.getD object ∅ := by
  have owners := shown.ownership_eq same shownAgain
  -- The observation is known to be right about objects that exist, and about no others.
  have left : ∀ object found,
      before.find? database object declaration.scope = some found →
        again.current.getD object ∅ =
          if object ∈ declaration.targets observed then
            if owns observed object then declaration.held database before.access object
            else declaration.desired
          else ∅ := by
    intro object found present
    rw [← shownAgain.held_eq (same.find?_eq database object _ ▸ present), run.access_eq]
    apply held_after_commands
    rintro other (target | rfl)
    · obtain ⟨_, presentOther⟩ := shown.exists_of_mem_ownership (targets other target)
      exact shown.held_eq presentOther
    · exact shown.held_eq present
  constructor
  · intro object target notOwned
    rw [isTarget_congr owners] at target
    rw [owners] at notOwned
    obtain ⟨found, present⟩ := shown.exists_of_mem_ownership (targets object target)
    rw [left object found present, if_pos (mem_targets_iff.mpr target), owns, notOwned]
    rfl
  · intro object elsewhere
    rw [isTarget_congr owners, ← mem_targets_iff] at elsewhere
    cases present : before.find? database object declaration.scope with
    | none => exact shownAgain.current_eq_empty (same.find?_eq database object _ ▸ present)
    | some found => rw [left object found present, if_neg elsewhere]

theorem remark_congr (same : again.ownership = observed.ownership) :
    declaration.remark resource again = declaration.remark resource observed := by
  have targets : declaration.targets again = declaration.targets observed := by
    rw [GrantDeclaration.targets, GrantDeclaration.targets, same]
  have owned : owns again = owns observed := by
    funext object
    rw [owns, owns, same]
  rw [remark, remark, targets, owned]

theorem settles : Settles database user (declaration.IsShown database)
    (declaration.plan resource serverVersion) := by
  intro before after observed plan shown planned run
  obtain ⟨version, targets, rfl⟩ := plan_eq_ok_iff.mp planned
  have same := run.sameObjects fun _ member =>
    isAboutPrivileges_of_isAbout (isAbout_of_mem_commands member)
  refine ⟨exists_isShown (shown.resolves.of_sameObjects same), ?_⟩
  intro again shownAgain
  have owners := shown.ownership_eq same shownAgain
  have stillTargets : ∀ object, declaration.IsTarget again object → object ∈ again.ownership := by
    intro object target
    rw [owners]
    exact targets object ((isTarget_congr owners).mp target)
  refine ⟨_, plan_eq_ok_iff.mpr ⟨version, stillTargets, rfl⟩, ?_, .inr (remark_congr owners)⟩
  exact commands_eq_nil_iff.mpr (shown.holds_after targets run same shownAgain)

theorem converge_repeats (declaration : GrantDeclaration) (session : Session) :
    (declaration.converge resource session).Repeats environment database user :=
  (observes_grant declaration).inTransaction_repeats settles

end GrantDeclaration

/-! ## All kinds -/

/-- Whatever a resource declares, making the server agree with it is repeatable, if the resource
passed the checks that need no server. -/
theorem ManagedResource.converge_repeats (resource : ManagedResource) (session : Session)
    (valid : resource.declaration.preflight resource.metadata.qualifiedName = .ok ()) :
    (resource.converge session).Repeats environment database user := by
  rw [converge]
  cases declared : resource.declaration with
  | database declaration => exact declaration.converge_repeats
  | schema declaration => exact declaration.converge_repeats
  | role declaration => exact declaration.converge_repeats _
  | grant declaration => exact declaration.converge_repeats session
  | defaultPrivilege declaration =>
      rw [declared] at valid
      exact declaration.converge_repeats session valid

end CatalogSteward
