import CatalogSteward.Proofs.Plan.Gradual
import CatalogSteward.Proofs.Reconcile.Gate

/-!
# What is granted

The checks of privileges are made in two places: those that need no server
before a pass goes to one, and those that depend on its version when a plan is
made. Between them nothing gets through: whatever a pass grants is legal for the
type of the objects and known to the server that the pass is in session with.
-/

set_option autoImplicit false

namespace CatalogSteward

open Sql

/-- A command grants no privileges but such as are legal for the type of the objects and known to
a server of a major version. -/
def Sql.Command.GrantsSuitably (serverVersion : Nat) : Command → Prop
  | .grantOnObject objectType _ _ privileges _ =>
      ∀ privilege ∈ privileges,
        privilege ∈ objectType.legalPrivileges ∧ privilege.IsKnown serverVersion
  | .grantDefaultPrivileges _ _ objectType privileges _ =>
      ∀ privilege ∈ privileges,
        privilege ∈ objectType.legalPrivileges ∧ privilege.IsKnown serverVersion
  | _ => True

section Plans

variable {resource : String} {serverVersion : Nat} {plan : Plan} {command : Command}

theorem GrantDeclaration.grantsSuitably_of_mem_plan {declaration : GrantDeclaration}
    {observed : GrantObservation} (valid : declaration.validate resource = .ok ())
    (planned : declaration.plan resource serverVersion observed = .ok plan)
    (member : command ∈ plan.commands) : command.GrantsSuitably serverVersion := by
  obtain ⟨known, -, rfl⟩ := plan_eq_ok_iff.mp planned
  have admissible : (declaration.request resource).IsAdmissible serverVersion :=
    PrivilegeRequest.isAdmissible_iff.mpr ⟨valid, known⟩
  have moderate : command.IsModerate "" (declaration.Declares "" observed) :=
    isModerate_of_mem_commands member
  obtain ⟨object, privileges, rfl | rfl⟩ := isAbout_of_mem_commands member
  · intro privilege listed
    have declared := moderate.grants rfl _ ⟨privilege, listed, rfl⟩
    exact ⟨admissible.legal _ declared.2.1, admissible.known _ declared.2.1⟩
  · trivial

theorem DefaultPrivilegeDeclaration.grantsSuitably_of_mem_plan
    {declaration : DefaultPrivilegeDeclaration} {current : PrivilegeSet}
    (valid : declaration.validate resource = .ok ())
    (planned : declaration.plan resource serverVersion current = .ok plan)
    (member : command ∈ plan.commands) : command.GrantsSuitably serverVersion := by
  obtain ⟨known, rfl⟩ := plan_eq_ok_iff.mp planned
  have admissible : (declaration.request resource).IsAdmissible serverVersion :=
    PrivilegeRequest.isAdmissible_iff.mpr ⟨validate_eq.symm.trans valid, known⟩
  rcases List.mem_append.mp member with surplus | lacking
  · obtain ⟨-, rfl⟩ := mem_revoke_iff.mp surplus
    trivial
  · obtain ⟨-, rfl⟩ := mem_grant_iff.mp lacking
    intro privilege listed
    have declared := mem_desired.mp (Difference.mem_lacking_between.mp listed).1
    exact ⟨admissible.legal _ declared, admissible.known _ declared⟩

/-- What is planned for a declaration that passed the checks without a server grants suitably. -/
theorem Declaration.IsPlanned.grantsSuitably {declaration : Declaration} {session : Session}
    (accepted : declaration.preflight resource = .ok ())
    (planned : declaration.IsPlanned resource session command) :
    command.GrantsSuitably session.serverVersion := by
  cases declaration with
  | database | schema =>
      obtain ⟨_, member⟩ := planned
      obtain rfl | ⟨_, rfl⟩ := eq_of_mem_planOwnership member
      · trivial
      · trivial
  | role =>
      obtain ⟨_, _, _, planned, member⟩ := planned
      have about := RoleDeclaration.isAboutRole_of_mem_plan planned member
      cases command with
      | grantOnObject | grantDefaultPrivileges => exact nomatch about
      | _ => trivial
  | grant =>
      obtain ⟨_, _, planned, member⟩ := planned
      exact GrantDeclaration.grantsSuitably_of_mem_plan accepted planned member
  | defaultPrivilege =>
      obtain ⟨_, _, planned, member⟩ := planned
      exact DefaultPrivilegeDeclaration.grantsSuitably_of_mem_plan accepted planned member

end Plans

/-! ## Sessions -/

/-- The last question for a session is for the version of the server, and the answer is read. -/
theorem ClusterConnection.asksVersion_of_openSession (connection : ClusterConnection)
    {database : Option String} {opening : List Interaction} {session : Session}
    (opened : (connection.openSession database).Path opening (.ok session)) :
    ∃ before number, opening = before ++ [⟨.query .versionNumber, Except.ok number⟩] ∧
      majorVersion? number = some session.serverVersion := by
  rw [openSession] at opened
  obtain ⟨first, _, credentials, rfl, -, opened⟩ := Attempt.path_bind_ok_iff.mp opened
  obtain ⟨second, _, settings, rfl, -, opened⟩ := Attempt.path_bind_ok_iff.mp opened
  obtain ⟨third, _, anchors, rfl, -, opened⟩ := Attempt.path_bind_ok_iff.mp opened
  obtain ⟨fourth, _, _, rfl, -, opened⟩ := Attempt.path_bind_ok_iff.mp opened
  obtain ⟨_, rest, rfl, ways⟩ := Attempt.path_ask_bind opened
  rcases ways with ⟨_, -, -, impossible⟩ | ⟨number, rfl, read⟩
  · cases impossible
  cases major : majorVersion? number with
  | none =>
      rw [major] at read
      cases (Attempt.path_throw_iff.mp read).2
  | some version =>
      rw [major] at read
      obtain ⟨rfl, same⟩ := Attempt.path_pure_iff.mp read
      cases same
      refine ⟨first ++ (second ++ (third ++ fourth)), number, ?_, major⟩
      simp only [List.append_assoc]
      rfl

namespace ManagedResource

variable {resource : ManagedResource} {interactions : List Interaction}

/-- What is executed to make a server agree with a resource follows the answer that says in which
version it is, and grants suitably. -/
theorem grantsSuitably_of_execute {result : Except Failure Requeue} {command : Command}
    {answer : Except DatabaseFault Unit} (path : resource.reconcile.Path interactions result)
    (staying : resource.metadata.isDeleting = false)
    (executed : (⟨.execute command, answer⟩ : Interaction) ∈ interactions) :
    ∃ before number after serverVersion,
      interactions = before ++ ⟨.query .versionNumber, Except.ok number⟩ :: after ∧
        (⟨.execute command, answer⟩ : Interaction) ∈ after ∧
          majorVersion? number = some serverVersion ∧ command.GrantsSuitably serverVersion := by
  cases quiet_or_gate path with
  | inl quiet => exact nomatch quiet _ executed
  | inr gated =>
      obtain ⟨inNamespace, -, -, gate⟩ := gated
      cases gate with
      | cleaning leaving =>
          rw [staying] at leaving
          cases leaving
      | converging _ accepted one =>
          obtain ⟨connection, session, before, _, during, after, _, rfl, opened, worked, member⟩ :=
            one.exists_work executed
          obtain ⟨asking, number, rfl, major⟩ := connection.asksVersion_of_openSession opened
          have planned := resource.converge_asks_planned session _ _ worked _ member
          refine ⟨before ++ asking, number, during ++ after, _, ?_,
            List.mem_append_left _ member, major, planned.grantsSuitably accepted⟩
          simp only [List.append_assoc, List.singleton_append]

end ManagedResource

/-- Privileges are checked exactly. A grant leads to a plan where what it asks for is admissible and
everything that it names exists, and is refused for its first fault otherwise; a default leads to a
plan where what it asks for is admissible, and is refused for its first fault otherwise. So what
is executed to make a server agree with a resource grants nothing but privileges that are legal for
the type of the objects and known to a server of the version that the session began with. -/
theorem privileges_are_checked_exactly :
    (∀ (declaration : GrantDeclaration) (resource : String) (serverVersion : Nat)
        (observed : GrantObservation),
      ((∃ plan, declaration.checkedPlan resource serverVersion observed = .ok plan) ↔
          (declaration.request resource).IsAdmissible serverVersion ∧
            ∀ object, declaration.IsNamed object → object ∈ observed.ownership) ∧
        ∀ rejection,
          declaration.checkedPlan resource serverVersion observed = .error rejection ↔
            declaration.IsRefused resource serverVersion observed rejection) ∧
      (∀ (declaration : DefaultPrivilegeDeclaration) (resource : String) (serverVersion : Nat)
          (current : PrivilegeSet),
        ((∃ plan, declaration.checkedPlan resource serverVersion current = .ok plan) ↔
            (declaration.request resource).IsAdmissible serverVersion) ∧
          ∀ rejection,
            declaration.checkedPlan resource serverVersion current = .error rejection ↔
              (declaration.request resource).IsRefused serverVersion rejection) ∧
        ∀ (resource : ManagedResource) (interactions : List Interaction)
          (result : Except Failure Requeue) (command : Command)
          (answer : Except DatabaseFault Unit),
          resource.reconcile.Path interactions result → resource.metadata.isDeleting = false →
            (⟨.execute command, answer⟩ : Interaction) ∈ interactions →
              ∃ before number after serverVersion,
                interactions = before ++ ⟨.query .versionNumber, Except.ok number⟩ :: after ∧
                  (⟨.execute command, answer⟩ : Interaction) ∈ after ∧
                    majorVersion? number = some serverVersion ∧
                      command.GrantsSuitably serverVersion := by
  refine ⟨?grants, ?defaults, ?passes⟩
  case grants =>
    intro declaration resource serverVersion observed
    exact ⟨GrantDeclaration.exists_checkedPlan_iff,
      fun _ => GrantDeclaration.checkedPlan_eq_error_iff⟩
  case defaults =>
    intro declaration resource serverVersion current
    exact ⟨DefaultPrivilegeDeclaration.exists_checkedPlan_iff,
      fun _ => DefaultPrivilegeDeclaration.checkedPlan_eq_error_iff⟩
  case passes =>
    intro resource interactions result command answer path staying executed
    exact ManagedResource.grantsSuitably_of_execute path staying executed

/-! A default for the tables of a schema, which is carried out for the first time. -/

private def previews : DefaultPrivilegeDeclaration :=
  ⟨⟨"main", none⟩, "shop", "critic", "author", some "drafts", .table, [.select, .select]⟩

private def previewing : ManagedResource where
  metadata :=
    ⟨some "previews", none, some "shop", some 1, some "4", [CatalogSteward.finalizer], none⟩
  declaration := .defaultPrivilege previews
  status := none

/-- Answers of a server on which nothing was granted yet. -/
private def bare : (request : Request) → request.Answer
  | .query (.defaultPrivileges _ _ _ _) => Except.ok []
  | request => ManagedResource.obliging request

private def unveiling : List Interaction × Except Failure Requeue :=
  previewing.reconcile.run.follow bare

private def unveiled : Command :=
  .grantDefaultPrivileges "author" (some "drafts") .table [.select] "critic"

theorem privileges_are_checked_exactly_for_critic :
    (previewing.reconcile.Path unveiling.1 unveiling.2 ∧
        previewing.metadata.isDeleting = false ∧
          (⟨.execute unveiled, .ok ()⟩ : Interaction) ∈ unveiling.1) ∧
      ∃ before number after serverVersion,
        unveiling.1 = before ++ ⟨.query .versionNumber, Except.ok number⟩ :: after ∧
          (⟨.execute unveiled, .ok ()⟩ : Interaction) ∈ after ∧
            majorVersion? number = some serverVersion ∧
              unveiled.GrantsSuitably serverVersion := by
  have path : previewing.reconcile.Path unveiling.1 unveiling.2 := Program.path_follow bare _
  have executed : (⟨.execute unveiled, .ok ()⟩ : Interaction) ∈ unveiling.1 :=
    .tail _ (.tail _ (.tail _ (.tail _ (.tail _ (.tail _ (.tail _ (.head _)))))))
  exact ⟨⟨path, rfl, executed⟩,
    privileges_are_checked_exactly.2.2 _ _ _ _ _ path rfl executed⟩

end CatalogSteward
