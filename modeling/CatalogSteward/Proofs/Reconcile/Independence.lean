import CatalogSteward.Proofs.Reconcile.Frame

/-!
# Grants that are independent

Grants of different territories do not get in each other's way. Carried out one
after the other, in either order, they leave the same server, on which neither has
anything to do any more.
-/

set_option autoImplicit false

namespace CatalogSteward

open Sql

/-! ## What a grant makes of a server -/

namespace GrantDeclaration

variable {declaration left right : GrantDeclaration}
  {state before middle other after last : ServerState} {observed : GrantObservation}
  {object : String} {found : Securable × String} {securable : Securable} {grantee : String}

instance (declaration : GrantDeclaration) (object : String) :
    Decidable (declaration.Covers object) :=
  match objectType : declaration.objectType with
  | .database =>
      decidable_of_iff (object = declaration.database) (by rw [Covers, objectType])
  | .schema =>
      decidable_of_iff (object = declaration.schemaName) (by rw [Covers, objectType])
  | .table | .sequence =>
      decidable_of_iff (declaration.objects = [] ∨ object ∈ declaration.objects)
        (by rw [Covers, objectType])

/-- What the role of a grant is to hold on an object of its scope that exists, given what it holds
there: what is declared on those that the grant is about, unless it owns them, and nothing on
others. -/
def share (declaration : GrantDeclaration) (object owner : String) (held : PrivilegeSet) :
    PrivilegeSet :=
  if declaration.Covers object then
    if owner = declaration.role then held else declaration.desired
  else ∅

theorem share_share {owner : String} {held : PrivilegeSet} :
    declaration.share object owner (declaration.share object owner held) =
      declaration.share object owner held := by
  rw [share, share]
  split
  · split <;> rfl
  · rfl

/-- The role of a grant holds its share of every object that is found in the scope of the grant. -/
def IsSettledIn (declaration : GrantDeclaration) (state : ServerState) : Prop :=
  ∀ object found, state.find? declaration.database object declaration.scope = some found →
    state.access found.1 declaration.role =
      declaration.share object found.2 (state.access found.1 declaration.role)

/-- A state is what another one comes to when a grant is carried out: the role holds its share of
every object that is found, and nothing else is different. -/
structure IsCarriedOut (declaration : GrantDeclaration) (before after : ServerState) : Prop where
  apartFromAccess : after = { before with access := after.access }
  shared : ∀ object found,
    before.find? declaration.database object declaration.scope = some found →
      after.access found.1 declaration.role =
        declaration.share object found.2 (before.access found.1 declaration.role)
  elsewhere : ∀ securable grantee,
    ¬declaration.Reaches declaration.database before securable grantee →
      after.access securable grantee = before.access securable grantee

theorem IsShown.isTarget_iff_covers {database : String}
    (shown : declaration.IsShown database state observed)
    (present : state.find? database object declaration.scope = some found) :
    declaration.IsTarget observed object ↔ declaration.Covers object :=
  ⟨covers_of_isTarget, shown.isTarget_of_covers present⟩

/-- The commands of a plan carry a grant out. -/
theorem IsShown.isCarriedOut (shown : declaration.IsShown declaration.database state observed)
    (targets : ∀ object, declaration.IsTarget observed object → object ∈ observed.ownership) :
    declaration.IsCarriedOut state
      { state with
        access := state.access.after declaration.database (declaration.commands observed) } where
  apartFromAccess := rfl
  shared := by
    intro object found present
    have seen : ∀ other, declaration.IsTarget observed other ∨ other = object →
        declaration.held declaration.database state.access other =
          observed.current.getD other ∅ := by
      rintro other (target | rfl)
      · obtain ⟨_, presentOther⟩ := shown.exists_of_mem_ownership (targets other target)
        exact shown.held_eq presentOther
      · exact shown.held_eq present
    have result := held_after_commands seen
    rw [held, held, ← securable_of_find? present] at result
    rw [share]
    by_cases covers : declaration.Covers object
    · have target := mem_targets_iff.mpr ((shown.isTarget_iff_covers present).mpr covers)
      rw [if_pos target, shown.owns_eq present covers] at result
      simpa only [if_pos covers, decide_eq_true_eq] using result
    · have noTarget : object ∉ declaration.targets observed := fun target =>
        covers ((shown.isTarget_iff_covers present).mp (mem_targets_iff.mp target))
      rw [if_neg noTarget] at result
      rw [if_neg covers]
      exact result
  elsewhere := fun _ _ apart => (shown.isWithin_commands targets).access_eq apart

/-- On a server where a grant is settled, its plan has no commands. -/
theorem IsSettledIn.commands_eq_nil (settled : declaration.IsSettledIn state)
    (shown : declaration.IsShown declaration.database state observed)
    (targets : ∀ object, declaration.IsTarget observed object → object ∈ observed.ownership) :
    declaration.commands observed = [] := by
  have seen : ∀ object found,
      state.find? declaration.database object declaration.scope = some found →
        observed.current.getD object ∅ =
          declaration.share object found.2 (observed.current.getD object ∅) := by
    intro object found present
    rw [← shown.held_eq present, held, ← securable_of_find? present]
    exact settled object found present
  refine commands_eq_nil_iff.mpr ⟨fun object target notOwned => ?_, fun object noTarget => ?_⟩
  · obtain ⟨found, present⟩ := shown.exists_of_mem_ownership (targets object target)
    have covers := covers_of_isTarget target
    rw [← owns, shown.owns_eq present covers, decide_eq_false_iff_not] at notOwned
    have same := seen object found present
    rw [share, if_pos covers, if_neg notOwned] at same
    exact same
  · cases present : state.find? declaration.database object declaration.scope with
    | none => exact shown.current_eq_empty present
    | some found =>
        have same := seen object found present
        rw [share, if_neg fun covers => noTarget (shown.isTarget_of_covers present covers)] at same
        exact same

namespace IsCarriedOut

theorem sameObjects (carriedOut : declaration.IsCarriedOut before after) :
    before.SameObjects after := by
  rw [carriedOut.apartFromAccess]
  exact ⟨rfl, rfl, rfl, rfl, rfl⟩

theorem isSettledIn (carriedOut : declaration.IsCarriedOut before after) :
    declaration.IsSettledIn after := by
  intro object found present
  rw [carriedOut.sameObjects.find?_eq] at present
  rw [carriedOut.shared object found present, share_share]

/-- What another grant holds its share of, it still does after a grant of a different territory was
carried out. -/
theorem keeps_isSettledIn (carriedOut : left.IsCarriedOut before after)
    (different : left.territory ≠ right.territory) (settled : right.IsSettledIn before) :
    right.IsSettledIn after := by
  intro object found present
  rw [carriedOut.sameObjects.find?_eq] at present
  have apart : ¬left.Reaches left.database before found.1 right.role := fun reaches =>
    different (reaches.territory.symm.trans (territory_of_find? present))
  rw [carriedOut.elsewhere _ _ apart]
  exact settled object found present

/-- What becomes of what a role holds on an object depends on nothing else that is held. -/
theorem access_congr (carriedOut : declaration.IsCarriedOut before after)
    (again : declaration.IsCarriedOut middle last) (same : before.SameObjects middle)
    (agree : middle.access securable grantee = before.access securable grantee) :
    last.access securable grantee = after.access securable grantee := by
  by_cases reaches : declaration.Reaches declaration.database before securable grantee
  · obtain ⟨rfl, object, owner, present⟩ := reaches
    rw [again.shared object (securable, owner) (same.find?_eq _ _ _ ▸ present),
      carriedOut.shared object (securable, owner) present, agree]
  · have reachesNot : ¬declaration.Reaches declaration.database middle securable grantee := by
      rw [Reaches] at reaches ⊢
      simp only [same.find?_eq]
      exact reaches
    rw [again.elsewhere _ _ reachesNot, carriedOut.elsewhere _ _ reaches, agree]

theorem access_elsewhere (carriedOut : declaration.IsCarriedOut before after)
    (elsewhere : securable.territory grantee ≠ declaration.territory) :
    after.access securable grantee = before.access securable grantee :=
  carriedOut.elsewhere _ _ fun reaches => elsewhere reaches.territory

/-- Grants of different territories make the same of a server in either order. -/
theorem comm (leftFirst : left.IsCarriedOut before middle)
    (different : left.territory ≠ right.territory) (rightLast : right.IsCarriedOut middle after)
    (rightFirst : right.IsCarriedOut before other) (leftLast : left.IsCarriedOut other last) :
    after = last := by
  have sameAccess : after.access = last.access := by
    funext securable grantee
    by_cases inRight : securable.territory grantee = right.territory
    · have notLeft : securable.territory grantee ≠ left.territory := fun inLeft =>
        different (inLeft.symm.trans inRight)
      rw [leftLast.access_elsewhere notLeft]
      exact rightFirst.access_congr rightLast leftFirst.sameObjects
        (leftFirst.access_elsewhere notLeft)
    · rw [rightLast.access_elsewhere inRight]
      exact (leftFirst.access_congr leftLast rightFirst.sameObjects
        (rightFirst.access_elsewhere inRight)).symm
  rw [rightLast.apartFromAccess, leftFirst.apartFromAccess, leftLast.apartFromAccess,
    rightFirst.apartFromAccess, sameAccess]

end IsCarriedOut

end GrantDeclaration

/-! ## Runs -/

theorem GrantDeclaration.observe_path (declaration : GrantDeclaration)
    (rows : List (String × Bool)) (reported : List (String × String)) :
    declaration.observe.Path
      [⟨.query (.ownership declaration.scope declaration.namedObjects declaration.role),
          Except.ok rows⟩,
        ⟨.query (.privileges declaration.scope declaration.role), Except.ok reported⟩]
      (.ok ⟨.ofList rows, collectPrivileges reported⟩) :=
  .call (.call (.done _))

/-- A transaction can be left in each way. -/
theorem Leave.exists_carryOut (environment : Environment) (leave : Leave) :
    ∃ leaving, leave.carryOut.Path leaving (.ok ()) ∧
      ∀ (world : World) (database user : String) (state : ServerState),
        Along (Request.IsServed environment) (world.working database user state) leaving
          ({ world with server := leave.result world.server state }.connected database user) := by
  cases leave with
  | commit =>
      exact ⟨[⟨.commit, Except.ok ()⟩], .call (.done _), fun _ _ _ _ => .cons ⟨rfl, rfl⟩ (.nil _)⟩
  | rollback =>
      exact ⟨[⟨.rollback, Except.ok ()⟩], .call (.done _), fun _ _ _ _ => .cons ⟨rfl, rfl⟩ (.nil _)⟩
  | abandon => exact ⟨[⟨.abandon, ()⟩], .call (.done _), fun _ _ _ _ => .cons rfl (.nil _)⟩

theorem along_inTransaction {environment : Environment} {world middle after : World}
    {database user : String} {during leaving : List Interaction}
    (worked : Along (Request.IsServed environment) (world.working database user world.server)
      during middle)
    (left : Along (Request.IsServed environment) middle leaving after) :
    Along (Request.IsServed environment) (world.connected database user)
      (⟨.begin, Except.ok ()⟩ :: (during ++ leaving)) after :=
  .cons ⟨rfl, rfl⟩ (Along.append_iff.mpr ⟨middle, worked, left⟩)

/-- An attempt in a session of its own may take a server from one state to another with some
result, whatever is refused on the way. -/
def Attempt.Takes {α : Type} (attempt : Attempt α) (environment : Environment) (database : String)
    (before : ServerState) (result : Except Failure α) (after : ServerState) : Prop :=
  ∃ (user : String) (world last : World) (interactions : List Interaction),
    world.server = before ∧ last.server = after ∧ attempt.Path interactions result ∧
      Along (Request.IsAttempted environment) (world.connected database user) interactions last

/-- A grant as it is carried out: what it declares, the name of its resource, and the session that
is opened for it. -/
structure GrantRun where
  declaration : GrantDeclaration
  resource : String
  session : Session

namespace GrantRun

/-- From what is there to see, a plan is made. -/
def IsAccepted (run : GrantRun) (state : ServerState) : Prop :=
  ∃ observed plan, run.declaration.IsShown run.declaration.database state observed ∧
    run.declaration.plan run.resource run.session.serverVersion observed = .ok plan

/-- There is something to see, and whatever of it is seen, a plan without commands is made. -/
def PlansNothing (run : GrantRun) (state : ServerState) : Prop :=
  (∃ observed, run.declaration.IsShown run.declaration.database state observed) ∧
    ∀ observed, run.declaration.IsShown run.declaration.database state observed →
      ∃ plan,
        run.declaration.plan run.resource run.session.serverVersion observed = .ok plan ∧
          plan.commands = []

/-- The grant is observed, planned and applied without a failure. -/
def CarriesOut (run : GrantRun) (environment : Environment) (before after : ServerState) : Prop :=
  ∃ outcome, (run.declaration.converge run.resource run.session).Takes environment
    run.declaration.database before (.ok outcome) after

/-- Whatever comes of an attempt to carry out the grant or to clean it up, nothing changes that is
held outside of its territory. -/
def IsConfined (run : GrantRun) (environment : Environment) : Prop :=
  ∀ before after,
    ((∃ result, (run.declaration.converge run.resource run.session).Takes environment
        run.declaration.database before result after) ∨
      ∃ result, run.declaration.cleanup.Takes environment run.declaration.database before result
        after) →
      ∀ securable grantee, securable.territory grantee ≠ run.declaration.territory →
        after.access securable grantee = before.access securable grantee

variable {run left right : GrantRun} {environment : Environment}
  {before middle after : ServerState}

theorem isConfined (run : GrantRun) (environment : Environment) : run.IsConfined environment := by
  intro before after taken securable grantee elsewhere
  cases taken with
  | inl carriedOut =>
      obtain ⟨result, user, world, last, interactions, rfl, rfl, path, along⟩ := carriedOut
      exact GrantDeclaration.access_of_converge path along elsewhere
  | inr cleanedUp =>
      obtain ⟨result, user, world, last, interactions, rfl, rfl, path, along⟩ := cleanedUp
      exact GrantDeclaration.access_of_cleanup path along elsewhere

theorem CarriesOut.isCarriedOut (carriesOut : run.CarriesOut environment before after) :
    run.declaration.IsCarriedOut before after := by
  obtain ⟨outcome, user, world, last, interactions, rfl, rfl, path, along⟩ := carriesOut
  cases GrantDeclaration.server_of_converge path along with
  | inl failed =>
      obtain ⟨⟨failure, impossible⟩, -⟩ := failed
      exact nomatch impossible
  | inr changed =>
      obtain ⟨observed, plan, shown, planned, same⟩ := changed
      obtain ⟨-, targets, rfl⟩ := GrantDeclaration.plan_eq_ok_iff.mp planned
      rw [same]
      exact shown.isCarriedOut targets

/-- Whether a plan is made depends on what exists, and on whatever of it is seen. -/
theorem IsAccepted.plan_eq (accepted : run.IsAccepted before) (same : before.SameObjects after)
    {observed : GrantObservation}
    (shown : run.declaration.IsShown run.declaration.database after observed) :
    ∃ plan, run.declaration.plan run.resource run.session.serverVersion observed = .ok plan ∧
      plan.commands = run.declaration.commands observed ∧
        ∀ object, run.declaration.IsTarget observed object → object ∈ observed.ownership := by
  obtain ⟨seen, plan, shownBefore, planned⟩ := accepted
  obtain ⟨version, targets, rfl⟩ := GrantDeclaration.plan_eq_ok_iff.mp planned
  have owners := shownBefore.ownership_eq same shown
  have stillTargets : ∀ object, run.declaration.IsTarget observed object →
      object ∈ observed.ownership := by
    intro object target
    rw [owners]
    exact targets object ((GrantDeclaration.isTarget_congr owners).mp target)
  exact ⟨_, GrantDeclaration.plan_eq_ok_iff.mpr ⟨version, stillTargets, rfl⟩, rfl, stillTargets⟩

theorem IsAccepted.exists_isShown (accepted : run.IsAccepted before)
    (same : before.SameObjects after) :
    ∃ observed, run.declaration.IsShown run.declaration.database after observed := by
  obtain ⟨observed, plan, shown, -⟩ := accepted
  exact GrantDeclaration.exists_isShown (shown.resolves.of_sameObjects same)

theorem IsAccepted.plansNothing (accepted : run.IsAccepted before)
    (same : before.SameObjects after) (settled : run.declaration.IsSettledIn after) :
    run.PlansNothing after := by
  refine ⟨accepted.exists_isShown same, fun observed shown => ?_⟩
  obtain ⟨plan, planned, commands, targets⟩ := accepted.plan_eq same shown
  exact ⟨plan, planned, commands.trans (settled.commands_eq_nil shown targets)⟩

/-- A grant that is accepted can be carried out, if nothing is refused. -/
theorem IsAccepted.exists_carriesOut (accepted : run.IsAccepted before)
    (environment : Environment) : ∃ after, run.CarriesOut environment before after := by
  obtain ⟨_, _, seen, -⟩ := id accepted
  obtain ⟨rows, owned⟩ :=
    ServerState.exists_ownership run.declaration.namedObjects seen.resolves
  obtain ⟨reported, held⟩ := ServerState.exists_privileges seen.resolves
  have shown := GrantDeclaration.isShown_of_isAnswered owned held
  obtain ⟨plan, planned, commands, targets⟩ := accepted.plan_eq (.refl before) shown
  obtain ⟨leaving, left, leaves⟩ :=
    Leave.exists_carryOut environment (if plan.isConverged then .rollback else .commit)
  let database := run.declaration.database
  let state := { before with access := before.access.after database plan.commands }
  let world : World := ⟨fun _ => none, before, none⟩
  have looked : Along (Request.IsServed environment) (world.working database "" before)
      [⟨.query (.ownership run.declaration.scope run.declaration.namedObjects
          run.declaration.role), Except.ok rows⟩,
        ⟨.query (.privileges run.declaration.scope run.declaration.role), Except.ok reported⟩]
      (world.working database "" before) :=
    .cons ⟨_, _, rfl, owned, rfl, rfl⟩ (.cons ⟨_, _, rfl, held, rfl, rfl⟩ (.nil _))
  have executed : Along (Request.IsServed environment) (world.working database "" before)
      (plan.commands.map execution) (world.working database "" state) := by
    have known := GrantDeclaration.role_of_resolves seen.resolves
    have within := shown.isWithin_commands targets
    rw [← commands] at within
    exact (along_execution_iff rfl).mpr ⟨state, (within.inOrder_iff known).mpr rfl, rfl⟩
  have along := along_inTransaction (Along.append_iff.mpr ⟨_, looked, executed⟩)
    (leaves world database "" state)
  exact ⟨_, plan.outcome, "", world, _, _, rfl, rfl,
    settle_path (run.declaration.observe_path rows reported) planned left, along.imp .inl⟩

/-! ## Two grants -/

/-- Two grants are carried out one after the other. -/
def InTurn (environment : Environment) (first second : GrantRun) (before after : ServerState) :
    Prop :=
  ∃ middle, first.CarriesOut environment before middle ∧
    second.CarriesOut environment middle after

theorem IsAccepted.of_sameObjects (accepted : run.IsAccepted before)
    (same : before.SameObjects after) : run.IsAccepted after := by
  obtain ⟨observed, shown⟩ := accepted.exists_isShown same
  obtain ⟨plan, planned, -⟩ := accepted.plan_eq same shown
  exact ⟨observed, plan, shown, planned⟩

theorem exists_inTurn (acceptedLeft : left.IsAccepted before)
    (acceptedRight : right.IsAccepted before) (environment : Environment) :
    ∃ after, InTurn environment left right before after := by
  obtain ⟨middle, first⟩ := acceptedLeft.exists_carriesOut environment
  have still := acceptedRight.of_sameObjects first.isCarriedOut.sameObjects
  obtain ⟨after, second⟩ := still.exists_carriesOut environment
  exact ⟨after, middle, first, second⟩

theorem InTurn.plansNothing (inTurn : InTurn environment left right before after)
    (different : left.declaration.territory ≠ right.declaration.territory)
    (acceptedLeft : left.IsAccepted before) (acceptedRight : right.IsAccepted before) :
    left.PlansNothing after ∧ right.PlansNothing after := by
  obtain ⟨middle, first, second⟩ := inTurn
  have same := first.isCarriedOut.sameObjects.trans second.isCarriedOut.sameObjects
  have kept := second.isCarriedOut.keeps_isSettledIn different.symm first.isCarriedOut.isSettledIn
  exact ⟨acceptedLeft.plansNothing same kept,
    acceptedRight.plansNothing same second.isCarriedOut.isSettledIn⟩

/-- Grants of different territories are independent, whatever the server keeps. If a plan is made
for each of them, both can be carried out, in either order, and the same is left on the server
then; neither of them has anything to do there any more. And whatever comes of an attempt to carry
one of them out, or to clean it up, nothing changes that is held outside of its territory. -/
theorem independent_of_territory_ne {start : ServerState} (environment : Environment)
    (different : left.declaration.territory ≠ right.declaration.territory)
    (acceptedLeft : left.IsAccepted start) (acceptedRight : right.IsAccepted start) :
    ((∃ last, InTurn environment left right start last) ∧
        ∃ last, InTurn environment right left start last) ∧
      (∀ last other, InTurn environment left right start last →
        InTurn environment right left start other →
          last = other ∧ left.PlansNothing last ∧ right.PlansNothing last) ∧
        left.IsConfined environment ∧ right.IsConfined environment := by
  refine ⟨⟨exists_inTurn acceptedLeft acceptedRight environment,
      exists_inTurn acceptedRight acceptedLeft environment⟩, ?_,
    left.isConfined environment, right.isConfined environment⟩
  intro last other leftFirst rightFirst
  have idle := leftFirst.plansNothing different acceptedLeft acceptedRight
  obtain ⟨_, first, second⟩ := leftFirst
  obtain ⟨_, firstOther, secondOther⟩ := rightFirst
  exact ⟨first.isCarriedOut.comm different second.isCarriedOut firstOther.isCarriedOut
    secondOther.isCarriedOut, idle⟩

/-! A role is to connect to a database and to use a schema of it, where it may do other things. -/

private def connecting : GrantRun where
  declaration := ⟨⟨"main", none⟩, "app", "reader", none, .database, [], [.connect]⟩
  resource := "shop/connecting"
  session := ⟨17⟩

private def visiting : GrantRun where
  declaration := ⟨⟨"main", none⟩, "app", "reader", some "public", .schema, [], [.usage]⟩
  resource := "shop/visiting"
  session := ⟨17⟩

private def creative : ServerState where
  version := "170000"
  databases := fun _ => some "admin"
  schemas := fun _ _ => some "admin"
  relations := fun _ _ => ∅
  roles := fun _ => some ⟨true, .standard, none, none, none, [], []⟩
  access := fun _ _ => .ofList [Privilege.create]
  defaults := fun _ _ _ _ => ∅
  apart := by
    intro _ role known
    cases known
    exact ⟨List.not_mem_nil, List.not_mem_nil⟩

/-- A grant on a single object that is there is accepted by a server that knows its privileges. -/
private theorem isAccepted_of_find? {state : ServerState} {object : String}
    {found : Securable × String}
    (supported : checkServerVersion run.resource run.session.serverVersion
      run.declaration.privileges = .ok ())
    (single : ∀ observed other, run.declaration.IsTarget observed other → other = object)
    (considers : run.declaration.scope.Considers run.declaration.namedObjects object)
    (resolves : state.Resolves run.declaration.database run.declaration.role run.declaration.scope)
    (present : state.find? run.declaration.database object run.declaration.scope = some found) :
    run.IsAccepted state := by
  obtain ⟨observed, shown⟩ := GrantDeclaration.exists_isShown resolves
  refine ⟨observed, _, shown, GrantDeclaration.plan_eq_ok_iff.mpr ⟨supported, ?_, rfl⟩⟩
  intro other target
  rw [single observed other target]
  exact shown.mem_ownership present considers

private theorem isAccepted_connecting : connecting.IsAccepted creative :=
  isAccepted_of_find? rfl (fun _ _ same => same) trivial rfl rfl

private theorem isAccepted_visiting : visiting.IsAccepted creative :=
  isAccepted_of_find? rfl (fun _ _ same => same) trivial rfl rfl

theorem independent_of_territory_ne_for_reader :
    (connecting.declaration.territory ≠ visiting.declaration.territory ∧
        connecting.IsAccepted creative ∧ visiting.IsAccepted creative) ∧
      ∀ environment, ∃ last, InTurn environment connecting visiting creative last ∧
        InTurn environment visiting connecting creative last := by
  have different : connecting.declaration.territory ≠ visiting.declaration.territory := by decide
  refine ⟨⟨different, isAccepted_connecting, isAccepted_visiting⟩, fun environment => ?_⟩
  obtain ⟨⟨⟨last, first⟩, other, second⟩, same, -⟩ :=
    independent_of_territory_ne environment different isAccepted_connecting isAccepted_visiting
  obtain ⟨rfl, -⟩ := same last other first second
  exact ⟨last, first, second⟩

end GrantRun

end CatalogSteward
