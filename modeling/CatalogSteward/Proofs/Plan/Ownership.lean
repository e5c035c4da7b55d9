import CatalogSteward.Plan.Ownership
import CatalogSteward.Proofs.Server.State

/-!
# Plans for databases and schemas

After the commands of a plan an object is there, with the declared owner where
one is declared, and nothing is left to plan.
-/

set_option autoImplicit false

namespace CatalogSteward

open Sql

/-- The owner of an object of a kind, as a session in a database finds it. -/
def OwnedKind.owner? (kind : OwnedKind) (database name : String) (state : ServerState) :
    Option String :=
  match kind with
  | .database => state.databases name
  | .schema => state.schemas database name

variable {kind : OwnedKind} {database user name : String} {before after : ServerState}

theorem OwnedKind.owner?_create
    (executes : (kind.create name).Executes database user before after) :
    kind.owner? database name after = some user := by
  cases kind with
  | database =>
      rw [owner?, executes.databases]
      exact if_pos rfl
  | schema =>
      rw [owner?, executes.schemas, create, Command.onSchemas, if_pos rfl]
      exact if_pos rfl

theorem OwnedKind.owner?_alterOwner {owner : String}
    (executes : (kind.alterOwner name owner).Executes database user before after) :
    kind.owner? database name after = some owner := by
  cases kind with
  | database =>
      rw [owner?, executes.databases]
      exact if_pos rfl
  | schema =>
      rw [owner?, executes.schemas, alterOwner, Command.onSchemas, if_pos rfl]
      exact if_pos rfl

theorem planOwnership_of_owner {declared : Option String} {owner : String}
    (agrees : ∀ wanted, declared = some wanted → wanted = owner) :
    planOwnership kind name declared (some owner) = .nothing := by
  cases declared with
  | none => rfl
  | some wanted => exact if_pos (agrees wanted rfl)

/-- Where nothing is left to plan, the object is there and has the owner that is declared. -/
theorem exists_owner_of_planOwnership {declared current : Option String}
    (nothing : planOwnership kind name declared current = .nothing) :
    ∃ owner, current = some owner ∧ ∀ wanted, declared = some wanted → owner = wanted := by
  cases current with
  | none =>
      cases declared with
      | none => exact nomatch nothing
      | some wanted => exact nomatch nothing
  | some owner =>
      refine ⟨owner, rfl, ?_⟩
      intro wanted same
      subst same
      by_cases agrees : wanted = owner
      · exact agrees.symm
      · rw [planOwnership, if_neg agrees] at nothing
        exact nomatch nothing

/-- After the commands of a plan nothing is left to plan. -/
theorem planOwnership_after {declared : Option String}
    (run : InOrder (Command.Executes database user)
      (planOwnership kind name declared (kind.owner? database name before)).commands before
      after) :
    planOwnership kind name declared (kind.owner? database name after) = .nothing := by
  cases found : kind.owner? database name before with
  | none =>
      rw [found] at run
      cases declared with
      | none =>
          rw [OwnedKind.owner?_create (InOrder.singleton_iff.mp run)]
          rfl
      | some wanted =>
          obtain ⟨between, -, altered⟩ := InOrder.cons_iff.mp run
          rw [OwnedKind.owner?_alterOwner (InOrder.singleton_iff.mp altered)]
          exact planOwnership_of_owner fun _ same => (Option.some.inj same).symm
  | some owner =>
      rw [found] at run
      cases declared with
      | none =>
          rw [InOrder.nil_iff.mp run, found]
          rfl
      | some wanted =>
          by_cases agrees : wanted = owner
          · rw [planOwnership, if_pos agrees] at run
            rw [InOrder.nil_iff.mp run, found, planOwnership, if_pos agrees]
          · rw [planOwnership, if_neg agrees] at run
            rw [OwnedKind.owner?_alterOwner (InOrder.singleton_iff.mp run)]
            exact planOwnership_of_owner fun _ same => (Option.some.inj same).symm

/-! ## Databases -/

def ServerState.withDatabase (state : ServerState) (name owner : String) : ServerState :=
  { state with databases := entered state.databases name (some owner) }

theorem ServerState.databases_withDatabase {state : ServerState} {owner : String} :
    (state.withDatabase name owner).databases name = some owner :=
  if_pos rfl

theorem executes_createDatabase (absent : before.databases name = none) :
    (Command.createDatabase name).Executes database user before (before.withDatabase name user) where
  possible := absent
  version := rfl
  databases := rfl
  schemas := rfl
  relations := rfl
  roles := fun _ => rfl
  access := rfl
  defaults := fun _ _ _ _ => rfl

theorem executes_alterDatabaseOwner {owner : String} (present : (before.databases name).isSome)
    (role : (before.roles owner).isSome) :
    (Command.alterDatabaseOwner name owner).Executes database user before
      (before.withDatabase name owner) where
  possible := ⟨present, role⟩
  version := rfl
  databases := rfl
  schemas := rfl
  relations := rfl
  roles := fun _ => rfl
  access := rfl
  defaults := fun _ _ _ _ => rfl

/-- The commands for a database can be executed where its owner, if one is declared, is a role. -/
theorem exists_run_planOwnership {declared : Option String}
    (roles : ∀ owner, declared = some owner → (before.roles owner).isSome) :
    ∃ after,
      InOrder (Command.Executes database user)
        (planOwnership .database name declared (before.databases name)).commands before after := by
  cases found : before.databases name with
  | none =>
      have created := @executes_createDatabase database user name before found
      cases declared with
      | none => exact ⟨_, .cons created (.nil _)⟩
      | some owner =>
          have present : ((before.withDatabase name user).databases name).isSome := by
            rw [ServerState.databases_withDatabase]
            rfl
          have altered := @executes_alterDatabaseOwner database user name
            (before.withDatabase name user) owner present (roles owner rfl)
          exact ⟨_, .cons created (.cons altered (.nil _))⟩
  | some current =>
      cases declared with
      | none => exact ⟨before, .nil before⟩
      | some owner =>
          have altered := @executes_alterDatabaseOwner database user name before owner
            (found ▸ rfl) (roles owner rfl)
          rw [planOwnership]
          split
          · exact ⟨before, .nil before⟩
          · exact ⟨_, .cons altered (.nil _)⟩

end CatalogSteward
