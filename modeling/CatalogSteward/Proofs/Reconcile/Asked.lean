import CatalogSteward.Proofs.Plan.DefaultPrivilege
import CatalogSteward.Proofs.Plan.Grant
import CatalogSteward.Proofs.Plan.Role
import CatalogSteward.Proofs.Reconcile.Course

/-!
# What is asked in a session

Work on a server looks up secrets, reads files and talks to that server. It
leaves every resource alone, and making a server agree with a declaration drops
nothing.
-/

set_option autoImplicit false

namespace CatalogSteward

open Sql

/-- Whether a request goes to a server, in a session or to open one. -/
def Request.isForServer : Request → Bool
  | .connect _ _ | .query _ | .execute _ | .begin | .commit | .rollback | .abandon => true
  | _ => false

/-- Whether a request changes what the cluster keeps of a resource. -/
def Request.isRecord : Request → Bool
  | .writeStatus _ _ | .writeFinalizers _ _ _ => true
  | _ => false

/-- Whether a request is a chore of every pass, whatever it is for: to look at the clock, to
write down what came of it, and to count it. -/
def Request.isChore : Request → Bool
  | .now | .writeStatus _ _ | .writeFinalizers _ _ _ | .count _ _ => true
  | _ => false

theorem Request.isRecord_of_isChore {request : Request} (work : request.isChore = false) :
    request.isRecord = false := by
  cases request with
  | writeStatus | writeFinalizers => exact work
  | _ => rfl

/-- The requests of work on a server, where commands are as told. -/
def Request.IsWork (commands : Command → Prop) : Request → Prop
  | .execute command => commands command
  | .now | .findConnection _ _ | .writeStatus _ _ | .writeFinalizers _ _ _ | .count _ _ => False
  | .findSecret _ _ | .readFile _ | .connect _ _ | .query _ | .begin | .commit | .rollback
  | .abandon => True

theorem Request.IsWork.imp {commands weaker : Command → Prop} {request : Request}
    (work : request.IsWork commands)
    (implied : ∀ {command : Command}, commands command → weaker command) :
    request.IsWork weaker := by
  cases request with
  | execute command => exact implied work
  | _ => exact work

theorem Request.IsWork.isChore {commands : Command → Prop} {request : Request}
    (work : request.IsWork commands) : request.isChore = false := by
  cases request with
  | now | writeStatus | writeFinalizers | count => exact work.elim
  | _ => rfl

def Sql.Command.isDrop : Command → Bool
  | .dropDatabase _ | .dropSchema _ | .dropRole _ => true
  | _ => false

/-! ## Attempts -/

/-- Whatever the answers are, an attempt makes none but allowed requests. -/
def Attempt.Asks {α : Type} (allowed : Request → Prop) (attempt : Attempt α) : Prop :=
  ∀ (interactions : List Interaction) (result : Except Failure α),
    attempt.Path interactions result → ∀ interaction ∈ interactions, allowed interaction.request

namespace Attempt.Asks

variable {α β Fault : Type} {allowed : Request → Prop} {attempt : Attempt α}

theorem imp {weaker : Request → Prop} (asks : attempt.Asks allowed)
    (implied : ∀ {request : Request}, allowed request → weaker request) :
    attempt.Asks weaker :=
  fun interactions result path interaction member =>
    implied (asks interactions result path interaction member)

theorem pure (value : α) : Asks allowed (Pure.pure value : Attempt α) := by
  intro interactions result path interaction member
  obtain ⟨rfl, -⟩ := Attempt.path_pure_iff.mp path
  exact absurd member List.not_mem_nil

theorem throw (failure : Failure) : Asks allowed (MonadExcept.throw failure : Attempt α) := by
  intro interactions result path interaction member
  obtain ⟨rfl, -⟩ := Attempt.path_throw_iff.mp path
  exact absurd member List.not_mem_nil

theorem ofExcept {blame : Fault → Failure} (given : Except Fault α) :
    Asks allowed (Attempt.ofExcept blame given) := by
  intro interactions result path interaction member
  obtain ⟨rfl, -⟩ := Attempt.path_ofExcept_iff.mp path
  exact absurd member List.not_mem_nil

theorem ask {blame : Fault → Failure} (request : Request)
    (read : request.Answer → Except Fault α) (isAllowed : allowed request) :
    Asks allowed
      (ExceptT.mk ((fun answer => (read answer).mapError blame) <$> Program.ask request)) := by
  intro interactions result path interaction member
  obtain ⟨answer, rfl, -⟩ := Attempt.path_ask_iff.mp path
  rw [List.mem_singleton.mp member]
  exact isAllowed

theorem lift {program : Program α}
    (asks : ∀ {interactions : List Interaction} {value : α}, program.Path interactions value →
      ∀ interaction ∈ interactions, allowed interaction.request) :
    Asks allowed (ExceptT.lift program) := by
  intro interactions result path
  obtain ⟨value, path, -⟩ := Attempt.path_lift_iff.mp path
  exact asks path

theorem bind {next : α → Attempt β} (asks : attempt.Asks allowed)
    (asksNext : ∀ value, (next value).Asks allowed) : (attempt >>= next).Asks allowed := by
  intro interactions result path interaction member
  cases Attempt.path_bind_iff.mp path with
  | inl failed =>
      obtain ⟨failure, path, -⟩ := failed
      exact asks _ _ path interaction member
  | inr succeeded =>
      obtain ⟨first, rest, value, rfl, path, others⟩ := succeeded
      cases List.mem_append.mp member with
      | inl member => exact asks _ _ path interaction member
      | inr member => exact asksNext value _ _ others interaction member

theorem map {change : α → β} (asks : attempt.Asks allowed) : (change <$> attempt).Asks allowed := by
  intro interactions result path
  obtain ⟨given, path, -⟩ := Attempt.path_map_iff.mp path
  exact asks _ _ path

theorem orAbandon (asks : attempt.Asks allowed) (isAllowed : allowed .abandon) :
    (orAbandon attempt).Asks allowed := by
  intro interactions result path interaction member
  cases Attempt.path_orAbandon_iff.mp path with
  | inl ended =>
      obtain ⟨value, path, -⟩ := ended
      exact asks _ _ path interaction member
  | inr failed =>
      obtain ⟨failure, first, rfl, path, -⟩ := failed
      cases List.mem_append.mp member with
      | inl member => exact asks _ _ path interaction member
      | inr member =>
          rw [List.mem_singleton.mp member]
          exact isAllowed

/-- Looking at the clock before is no write either. -/
theorem noRecord {work : List Interaction} {now : Time.Instant} {result : Except Failure α}
    (asks : attempt.Asks fun request => request.isRecord = false)
    (path : attempt.Path work result) :
    ∀ interaction ∈ (⟨.now, now⟩ : Interaction) :: work, interaction.request.isRecord = false :=
  List.forall_mem_cons.mpr ⟨rfl, asks work result path⟩

theorem planOrFail {planned : Except Rejection Plan} {next : Plan → Attempt α}
    (asks : ∀ plan, planned = .ok plan → (next plan).Asks allowed) :
    (planOrFail planned >>= next).Asks allowed := by
  cases planned with
  | error rejection => exact throw (.ofRejection rejection)
  | ok plan => exact asks plan rfl

end Attempt.Asks

/-! ## Looking -/

/-- Whether a request only looks, at a secret or at what the server keeps. -/
def Request.isLook : Request → Bool
  | .findSecret _ _ | .query _ => true
  | _ => false

section Looking

variable {allowed : Request → Prop} (looks : ∀ {request : Request}, request.isLook = true →
  allowed request)

include looks

theorem Query.rows_asks (query : Query) : query.rows.Asks allowed :=
  .ask (.query query) (fun answer => answer) (looks rfl)

theorem fetchCredentials_asks (blame : SecretFault → Failure) (secret : Reference)
    (ownNamespace : String) : (fetchCredentials blame secret ownNamespace).Asks allowed := by
  apply Attempt.Asks.bind
  · exact .ask (.findSecret _ _) (fun answer => answer) (looks rfl)
  · intro found
    cases found with
    | none => exact .throw _
    | some secret => exact .ofExcept _

theorem RoleDeclaration.fetchPassword_asks (declaration : RoleDeclaration)
    (ownNamespace : String) : (declaration.fetchPassword ownNamespace).Asks allowed := by
  rw [fetchPassword]
  cases declaration.passwordSecret with
  | none => exact .pure none
  | some secret =>
      apply (fetchCredentials_asks looks _ _ _).bind
      exact fun credentials => .pure _

theorem observeRole_asks (name : String) : (observeRole name).Asks allowed := by
  apply (Query.rows_asks looks _).bind
  intro found
  cases found with
  | none => exact .pure none
  | some row =>
      apply (Query.rows_asks looks _).bind
      intro inRole
      apply (Query.rows_asks looks _).bind
      exact fun members => .pure _

theorem GrantDeclaration.observePrivileges_asks (declaration : GrantDeclaration) :
    declaration.observePrivileges.Asks allowed :=
  (Query.rows_asks looks _).map

theorem GrantDeclaration.observe_asks (declaration : GrantDeclaration) :
    declaration.observe.Asks allowed := by
  apply Attempt.Asks.bind
  · apply (Query.rows_asks looks _).bind
    exact fun rows => .pure _
  · intro ownership
    apply (declaration.observePrivileges_asks looks).bind
    exact fun current => .pure _

theorem DefaultPrivilegeDeclaration.observe_asks (declaration : DefaultPrivilegeDeclaration) :
    declaration.observe.Asks allowed := by
  apply (Query.rows_asks looks _).bind
  exact fun rows => .pure _

theorem roleExists_asks (name : String) : (roleExists name).Asks allowed :=
  (observeRole_asks looks name).map

theorem schemaExists_asks (schema : Option String) : (schemaExists schema).Asks allowed := by
  cases schema with
  | none => exact .pure true
  | some name => exact (Query.rows_asks looks _).map

theorem GrantDeclaration.needed_asks (declaration : GrantDeclaration) :
    ∀ attempt ∈ [roleExists declaration.role, schemaExists declaration.schemaOfObjects],
      attempt.Asks allowed :=
  List.forall_mem_cons.mpr ⟨roleExists_asks looks _,
    List.forall_mem_singleton.mpr (schemaExists_asks looks _)⟩

end Looking

/-! ## Opening sessions -/

/-- Whether a request may be made to open a session. -/
def Request.isOpening : Request → Bool
  | .findSecret _ _ | .readFile _ | .connect _ _ | .query _ => true
  | _ => false

theorem Request.isOpening_of_isLook {request : Request} (look : request.isLook = true) :
    request.isOpening = true := by
  cases request with
  | findSecret | query => rfl
  | _ => exact nomatch look

theorem Request.isChore_of_isOpening {request : Request} (opens : request.isOpening = true) :
    request.isChore = false := by
  cases request with
  | now | writeStatus | writeFinalizers | count => exact nomatch opens
  | _ => rfl

theorem fetchAnchors_opens (trust : Trust) :
    (fetchAnchors trust).Asks fun request => request.isOpening = true := by
  cases trust with
  | plain | unverified => exact .pure []
  | verified path =>
      apply Attempt.Asks.bind
      · exact .ask (.readFile path) (fun answer => answer) rfl
      · exact fun text => .ofExcept _

theorem ClusterConnection.openSession_opens (connection : ClusterConnection)
    (database : Option String) :
    (connection.openSession database).Asks fun request => request.isOpening = true := by
  apply (fetchCredentials_asks Request.isOpening_of_isLook _ _ _).bind
  intro credentials
  apply Attempt.Asks.bind
  · exact .ofExcept _
  intro settings
  apply (fetchAnchors_opens settings.trust).bind
  intro anchors
  apply Attempt.Asks.bind
  · exact .ask (.connect settings anchors) (fun answer => answer) rfl
  intro _
  apply (Query.rows_asks Request.isOpening_of_isLook _).bind
  intro number
  cases majorVersion? number with
  | none => exact .throw _
  | some version => exact .pure _

/-! ## Sessions and transactions -/

section Work

variable {α : Type} {commands : Command → Prop}

theorem Request.isWork_of_isOpening {request : Request} (opens : request.isOpening = true) :
    request.IsWork commands := by
  cases request with
  | findSecret | readFile | connect | query => trivial
  | _ => exact nomatch opens

theorem Request.isWork_of_isLook {request : Request} (look : request.isLook = true) :
    request.IsWork commands :=
  isWork_of_isOpening (isOpening_of_isLook look)

theorem ClusterConnection.openSession_asks (connection : ClusterConnection)
    (database : Option String) :
    (connection.openSession database).Asks (Request.IsWork commands) :=
  (connection.openSession_opens database).imp Request.isWork_of_isOpening

theorem executeAll_asks {given : List Command} (meant : ∀ command ∈ given, commands command) :
    (executeAll given).Asks (Request.IsWork commands) := by
  induction given with
  | nil => exact .pure ()
  | cons command rest ih =>
      apply Attempt.Asks.bind
      · exact .ask (.execute command) (fun answer => answer) (meant command List.mem_cons_self)
      · exact fun _ => ih fun other member => meant other (List.mem_cons_of_mem _ member)

theorem Leave.carryOut_asks (leave : Leave) : leave.carryOut.Asks (Request.IsWork commands) := by
  cases leave with
  | commit => exact .ask .commit (fun answer => answer) trivial
  | rollback => exact .ask .rollback (fun answer => answer) trivial
  | abandon =>
      apply Attempt.Asks.lift
      intro interactions value path interaction member
      rw [Program.path_ask_iff.mp path] at member
      rw [List.mem_singleton.mp member]
      trivial

theorem inTransaction_asks {work : Attempt (Leave × α)}
    (asks : work.Asks (Request.IsWork commands)) :
    (inTransaction work).Asks (Request.IsWork commands) := by
  apply Attempt.Asks.bind
  · apply Attempt.Asks.orAbandon
    · apply Attempt.Asks.bind
      · exact .ask .begin (fun answer => answer) trivial
      · exact fun _ => asks
    · trivial
  · intro ended
    apply ended.1.carryOut_asks.bind
    exact fun _ => .pure ended.2

theorem Plan.settle_asks {plan : Plan} (meant : ∀ command ∈ plan.commands, commands command) :
    plan.settle.Asks (Request.IsWork commands) := by
  apply (executeAll_asks meant).bind
  exact fun _ => .pure _

/-! ## Cleaning up -/

theorem allExist_asks {allowed : Request → Prop} {needed : List (Attempt Bool)}
    (asks : ∀ attempt ∈ needed, attempt.Asks allowed) : (allExist needed).Asks allowed := by
  induction needed with
  | nil => exact .pure true
  | cons attempt rest ih =>
      apply (asks attempt List.mem_cons_self).bind
      intro exist
      cases exist with
      | true => exact ih fun other member => asks other (List.mem_cons_of_mem _ member)
      | false => exact .pure false

theorem revokeWhere_asks {needed : List (Attempt Bool)} {given : Attempt (List Command)}
    (asks : ∀ attempt ∈ needed, attempt.Asks (Request.IsWork fun _ => True))
    (asksGiven : given.Asks (Request.IsWork fun _ => True)) :
    (revokeWhere needed given).Asks (Request.IsWork fun _ => True) := by
  apply inTransaction_asks
  apply (allExist_asks asks).bind
  intro exist
  cases exist with
  | false => exact .pure _
  | true =>
      apply asksGiven.bind
      intro revocations
      apply (executeAll_asks fun _ _ => trivial).bind
      exact fun _ => .pure _

theorem Declaration.cleanup_asks (declaration : Declaration) :
    declaration.cleanup.Asks (Request.IsWork fun _ => True) := by
  cases declaration with
  | database | schema | role => exact executeAll_asks fun _ _ => trivial
  | grant declaration =>
      apply revokeWhere_asks
      · exact declaration.needed_asks Request.isWork_of_isLook
      · exact (declaration.observePrivileges_asks Request.isWork_of_isLook).map
  | defaultPrivilege declaration =>
      apply revokeWhere_asks
      · intro attempt member
        simp only [List.mem_cons, List.not_mem_nil, or_false] at member
        obtain same | same | same := member
        · exact same ▸ roleExists_asks Request.isWork_of_isLook _
        · exact same ▸ roleExists_asks Request.isWork_of_isLook _
        · exact same ▸ schemaExists_asks Request.isWork_of_isLook _
      · exact (declaration.observe_asks Request.isWork_of_isLook).map

end Work

/-! ## Plans -/

/-- A command of a plan that is made for a declaration in a session, whatever is found there. -/
def Declaration.IsPlanned (resource : String) (session : Session) (command : Command) :
    Declaration → Prop
  | .database declaration =>
      ∃ owner,
        command ∈ (planOwnership .database declaration.name declaration.owner owner).commands
  | .schema declaration =>
      ∃ owner,
        command ∈ (planOwnership .schema declaration.name declaration.owner owner).commands
  | .role declaration =>
      ∃ password current plan,
        declaration.plan password current = .ok plan ∧ command ∈ plan.commands
  | .grant declaration =>
      ∃ observed plan,
        declaration.plan resource session.serverVersion observed = .ok plan ∧
          command ∈ plan.commands
  | .defaultPrivilege declaration =>
      ∃ current plan,
        declaration.plan resource session.serverVersion current = .ok plan ∧
          command ∈ plan.commands

def Sql.Command.isAboutRole : Command → Bool
  | .createRole _ _ _ _ | .alterRole _ _ | .commentOnRole _ _ | .grantMembership _ _
  | .revokeMembership _ _ => true
  | _ => false

section Plans

variable {plan : Plan} {command : Command}

/-- To settle who owns something, it is created or given an owner. -/
theorem eq_of_mem_planOwnership {kind : OwnedKind} {name : String}
    {declared current : Option String}
    (member : command ∈ (planOwnership kind name declared current).commands) :
    command = kind.create name ∨ ∃ owner, command = kind.alterOwner name owner := by
  unfold planOwnership at member
  split at member
  · exact .inl (List.mem_singleton.mp member)
  · next owner =>
      cases List.mem_cons.mp member with
      | inl same => exact .inl same
      | inr same => exact .inr ⟨owner, List.mem_singleton.mp same⟩
  · exact absurd member List.not_mem_nil
  · next wanted =>
      split at member
      · exact absurd member List.not_mem_nil
      · exact .inr ⟨wanted, List.mem_singleton.mp member⟩

theorem RoleDeclaration.isAboutRole_of_mem_membershipCommands {declaration : RoleDeclaration}
    {current : RoleState} (member : command ∈ declaration.membershipCommands current) :
    command.isAboutRole = true := by
  simp only [membershipCommands, List.mem_append, List.mem_map] at member
  obtain ((made | made) | made) | made := member
  all_goals
    obtain ⟨_, -, rfl⟩ := made
    rfl

theorem RoleDeclaration.isAboutRole_of_mem_plan {declaration : RoleDeclaration}
    {password : Option String} {found : Option RoleState}
    (planned : declaration.plan password found = .ok plan) (member : command ∈ plan.commands) :
    command.isAboutRole = true := by
  obtain ⟨validUntil, -, rfl⟩ := plan_eq_ok_iff.mp planned
  cases found with
  | none =>
      rw [commands_creation, firstComment] at member
      cases List.mem_cons.mp member with
      | inl same => exact same ▸ rfl
      | inr commented =>
          cases text : declaration.declaredComment with
          | none =>
              rw [text] at commented
              exact absurd commented List.not_mem_nil
          | some comment =>
              rw [text] at commented
              exact List.mem_singleton.mp commented ▸ rfl
  | some current =>
      rw [commands_repair, List.mem_append, List.mem_append] at member
      obtain (altered | membership) | commented := member
      · rw [alteration, List.mem_ite_nil_left] at altered
        exact List.mem_singleton.mp altered.2 ▸ rfl
      · exact isAboutRole_of_mem_membershipCommands membership
      · rw [commenting, List.mem_ite_nil_left] at commented
        exact List.mem_singleton.mp commented.2 ▸ rfl

/-- No plan drops anything. -/
theorem Declaration.IsPlanned.isDrop {declaration : Declaration} {resource : String}
    {session : Session} (planned : declaration.IsPlanned resource session command) :
    command.isDrop = false := by
  cases declaration with
  | database | schema =>
      obtain ⟨_, member⟩ := planned
      obtain rfl | ⟨_, rfl⟩ := eq_of_mem_planOwnership member
      · rfl
      · rfl
  | role =>
      obtain ⟨_, _, _, planned, member⟩ := planned
      have about := RoleDeclaration.isAboutRole_of_mem_plan planned member
      cases command with
      | dropDatabase | dropSchema | dropRole => exact nomatch about
      | _ => rfl
  | grant =>
      obtain ⟨_, _, planned, member⟩ := planned
      obtain ⟨-, -, rfl⟩ := GrantDeclaration.plan_eq_ok_iff.mp planned
      obtain ⟨_, _, rfl | rfl⟩ := GrantDeclaration.isAbout_of_mem_commands member
      · rfl
      · rfl
  | defaultPrivilege =>
      obtain ⟨_, _, planned, member⟩ := planned
      obtain ⟨-, rfl⟩ := DefaultPrivilegeDeclaration.plan_eq_ok_iff.mp planned
      obtain ⟨_, rfl | rfl⟩ := DefaultPrivilegeDeclaration.isAbout_of_mem_commands member
      · rfl
      · rfl

end Plans

/-! ## Convergence -/

/-- Making a server agree with a declaration takes commands of plans for it, and no others. -/
theorem ManagedResource.converge_asks_planned (resource : ManagedResource) (session : Session) :
    (resource.converge session).Asks
      (Request.IsWork fun command =>
        resource.declaration.IsPlanned resource.metadata.qualifiedName session command) := by
  rw [converge]
  cases resource.declaration with
  | database declaration =>
      apply (Query.rows_asks Request.isWork_of_isLook _).bind
      intro owner
      apply (executeAll_asks fun command member => ⟨owner, member⟩).bind
      exact fun _ => .pure _
  | schema declaration =>
      apply inTransaction_asks
      apply (Query.rows_asks Request.isWork_of_isLook _).bind
      exact fun owner => Plan.settle_asks fun command member => ⟨owner, member⟩
  | role declaration =>
      apply (declaration.fetchPassword_asks Request.isWork_of_isLook _).bind
      intro password
      apply inTransaction_asks
      apply (observeRole_asks Request.isWork_of_isLook _).bind
      intro current
      apply Attempt.Asks.planOrFail
      exact fun plan planned =>
        plan.settle_asks fun command member => ⟨password, current, plan, planned, member⟩
  | grant declaration =>
      apply inTransaction_asks
      apply (declaration.observe_asks Request.isWork_of_isLook).bind
      intro observed
      apply Attempt.Asks.planOrFail
      exact fun plan planned =>
        plan.settle_asks fun command member => ⟨observed, plan, planned, member⟩
  | defaultPrivilege declaration =>
      apply inTransaction_asks
      apply (declaration.observe_asks Request.isWork_of_isLook).bind
      intro current
      apply Attempt.Asks.planOrFail
      exact fun plan planned =>
        plan.settle_asks fun command member => ⟨current, plan, planned, member⟩

/-- Making a server agree with a declaration drops nothing. -/
theorem ManagedResource.converge_asks (resource : ManagedResource) (session : Session) :
    (resource.converge session).Asks (Request.IsWork fun command => command.isDrop = false) :=
  (resource.converge_asks_planned session).imp fun work =>
    work.imp Declaration.IsPlanned.isDrop

/-! ## Passes -/

namespace ManagedResource

variable (resource : ManagedResource) (inNamespace : String)

theorem attemptConvergence_eq :
    resource.attemptConvergence inNamespace =
      Attempt.ofExcept .ofRejection
          (resource.declaration.preflight resource.metadata.qualifiedName) >>= fun _ =>
        resource.throughSession inNamespace
          (.pending (notReadyMessage resource.declaration.cluster inNamespace))
          resource.converge :=
  rfl

theorem attemptCleanup_eq :
    resource.attemptCleanup inNamespace =
      resource.throughSession inNamespace
        (some (goneMessage resource.declaration.cluster inNamespace))
        fun _ => resource.declaration.cleanup >>= fun _ => pure none :=
  rfl

variable {resource inNamespace}

theorem throughSession_asks {α : Type} {absent : α} {work : Session → Attempt α}
    (asks : ∀ session, (work session).Asks fun request => request.isChore = false) :
    (resource.throughSession inNamespace absent work).Asks
      fun request => request.isChore = false := by
  apply Attempt.Asks.bind
  · apply Attempt.Asks.bind
    · exact .ask (.findConnection _ _) (fun answer => answer) rfl
    · exact fun found => .pure _
  · intro ready
    cases ready with
    | none => exact .pure absent
    | some connection =>
        apply Attempt.Asks.bind
        · exact (connection.openSession_asks _).imp (@Request.IsWork.isChore fun _ => True)
        · exact asks

variable (resource inNamespace)

/-- No chore is done before an attempt to converge has come to an end. -/
theorem attemptConvergence_leavesChores :
    (resource.attemptConvergence inNamespace).Asks fun request => request.isChore = false := by
  rw [attemptConvergence_eq]
  apply Attempt.Asks.bind
  · exact .ofExcept _
  · intro _
    apply throughSession_asks
    exact fun session => (resource.converge_asks session).imp Request.IsWork.isChore

theorem attemptConvergence_asks :
    (resource.attemptConvergence inNamespace).Asks fun request => request.isRecord = false :=
  (resource.attemptConvergence_leavesChores inNamespace).imp Request.isRecord_of_isChore

theorem attemptCleanup_leavesChores :
    (resource.attemptCleanup inNamespace).Asks fun request => request.isChore = false := by
  rw [attemptCleanup_eq]
  apply throughSession_asks
  intro _
  apply Attempt.Asks.bind
  · exact resource.declaration.cleanup_asks.imp Request.IsWork.isChore
  · exact fun _ => .pure none

theorem attemptCleanup_asks :
    (resource.attemptCleanup inNamespace).Asks fun request => request.isRecord = false :=
  (resource.attemptCleanup_leavesChores inNamespace).imp Request.isRecord_of_isChore

end ManagedResource

end CatalogSteward
