import CatalogSteward.Proofs.Reconcile.Convergence
import CatalogSteward.Proofs.Reconcile.Execution

/-!
# Outcomes are true

Whatever is refused on the way, an attempt to make a server agree reports what
it did: it applied the whole plan, or there was nothing to apply. One that fails
leaves the server as it was, except for databases: theirs are not changed in a
transaction, and the next attempt takes up where the last one stopped.
-/

set_option autoImplicit false

namespace CatalogSteward

open Sql

/-- What comes of an attempt to carry out a plan says what was made of the server: all commands
were executed in order, or there were none, or the attempt failed and left it `broken`. -/
inductive Truthful (database user : String) (plans : Plan → Prop) (broken : Prop)
    (interactions : List Interaction) (before after : ServerState) :
    Except Failure Outcome → Prop where
  | applied {plan : Plan} (planned : plans plan) (needed : plan.commands ≠ [])
      (all : executed interactions = plan.commands)
      (run : InOrder (Command.Executes database user) plan.commands before after) :
      Truthful database user plans broken interactions before after (.ok (.applied plan.message))
  | converged {plan : Plan} (planned : plans plan) (needless : plan.commands = [])
      (idle : Idle interactions) (same : after = before) :
      Truthful database user plans broken interactions before after
        (.ok (.converged plan.message))
  | failed (failure : Failure) (left : broken) :
      Truthful database user plans broken interactions before after (.error failure)

namespace Truthful

variable {database user : String} {plans others : Plan → Prop} {broken : Prop}
  {interactions looking : List Interaction} {before after : ServerState}
  {result : Except Failure Outcome}

theorem imp (truthful : Truthful database user plans broken interactions before after result)
    (implied : ∀ plan, plans plan → others plan) :
    Truthful database user others broken interactions before after result := by
  cases truthful with
  | applied planned needed all run => exact .applied (implied _ planned) needed all run
  | converged planned needless idle same => exact .converged (implied _ planned) needless idle same
  | failed failure left => exact .failed failure left

/-- Looking around before does not change what was done. -/
theorem prepend (truthful : Truthful database user plans broken interactions before after result)
    (idle : Idle looking) :
    Truthful database user plans broken (looking ++ interactions) before after result := by
  cases truthful with
  | applied planned needed all run =>
      refine .applied planned needed ?_ run
      rw [executed_append, executed_of_idle idle, List.nil_append, all]
  | converged planned needless others same =>
      exact .converged planned needless (idle.append others) same
  | failed failure left => exact .failed failure left

/-- An attempt that executed its plan, and tried no other command, reports that. -/
theorem of_run {plan : Plan} (planned : plans plan) (all : executed interactions = plan.commands)
    (idle : plan.commands = [] → Idle interactions)
    (run : InOrder (Command.Executes database user) plan.commands before after) :
    Truthful database user plans broken interactions before after (.ok plan.outcome) := by
  rw [Plan.outcome, Plan.isConverged]
  cases commands : plan.commands with
  | nil =>
      rw [commands] at run
      exact .converged planned commands (idle commands) (InOrder.nil_iff.mp run)
  | cons command rest =>
      have needed : plan.commands ≠ [] := commands ▸ List.cons_ne_nil command rest
      exact .applied planned needed all run

end Truthful

/-! ## Transactions -/

section Transactions

variable {environment : Environment} {world middle after : World} {database user : String}
  {interactions : List Interaction}

theorem server_of_abandon {answer : Request.Answer .abandon}
    (attempted : Request.IsAttempted environment middle .abandon answer after) :
    after.server = middle.server := by
  cases attempted with
  | inl served => exact served ▸ rfl
  | inr refused => exact refused.2

/-- A transaction that was not begun is abandoned, and changed nothing. -/
theorem server_of_unbegun {fault : DatabaseFault}
    (along : Along (Request.IsAttempted environment) (world.connected database user)
      [⟨.begin, Except.error fault⟩, ⟨.abandon, ()⟩] after) : after.server = world.server := by
  obtain ⟨_, began, others⟩ := Along.cons_iff.mp along
  rw [server_of_abandon (Along.singleton_iff.mp others)]
  cases began with
  | inl served => exact nomatch served.1
  | inr refused => exact refused.2

theorem working_of_begin
    (attempted : Request.IsAttempted environment (world.connected database user) .begin
      (Except.ok ()) middle) :
    middle = world.working database user world.server := by
  cases attempted with
  | inl served => exact served.2
  | inr refused => exact refused.1.elim

variable {α : Type} {observe : Attempt α} {sees : ServerState → α → Prop}
  {make : α → Except Rejection Plan}

/-- Commands of a transaction change its work alone. -/
theorem working_of_execution {commands : List Command}
    (along : Along (Request.IsAttempted environment) (world.working database user world.server)
      (commands.map execution) middle) :
    ∃ state, InOrder (Command.Executes database user) commands world.server state ∧
      middle = world.working database user state :=
  exists_inOrder_of_attempted rfl along

theorem server_of_refusal {command : Command} {fault : DatabaseFault}
    (attempted : Request.IsAttempted environment middle (.execute command) (Except.error fault)
      after) : after.server = middle.server := by
  cases attempted with
  | inl served =>
      obtain ⟨_, _, -, -, impossible, -⟩ := served
      exact nomatch impossible
  | inr refused => exact refused.2

/-- Commands of which one was refused changed nothing that the server keeps. -/
theorem server_of_interruption {done : List Command} {refused : Command} {fault : DatabaseFault}
    (along : Along (Request.IsAttempted environment) (world.working database user world.server)
      (done.map execution ++ [⟨.execute refused, Except.error fault⟩]) middle) :
    middle.server = world.server := by
  obtain ⟨_, executed, last⟩ := Along.append_iff.mp along
  obtain ⟨state, -, rfl⟩ := working_of_execution executed
  have kept := server_of_refusal (Along.singleton_iff.mp last)
  exact kept

/-- The work of a transaction that fails changed nothing that the server keeps. -/
theorem server_of_failedWork {failure : Failure}
    (looks : observe.Observes environment database sees)
    (asks : observe.Asks fun request => request.isLook = true)
    (course : PlanCourse observe make interactions (.error failure))
    (along : Along (Request.IsAttempted environment) (world.working database user world.server)
      interactions middle) : middle.server = world.server := by
  cases course with
  | unseen looked =>
      have kept := server_of_looks along (asks _ _ looked)
      exact kept
  | rejected looked made =>
      obtain ⟨-, rfl⟩ := looks.of_path looked along rfl rfl
      rfl
  | interrupted looked made parts =>
      obtain ⟨_, looking, executing⟩ := Along.append_iff.mp along
      obtain ⟨-, rfl⟩ := looks.of_path looked looking rfl rfl
      exact server_of_interruption executing

/-- A transaction leaves the server what its work came to, as it is told to, or it fails and
leaves the server as it was. -/
theorem server_of_carryOut {state : ServerState} {leave : Leave} {ended : Except Failure Unit}
    (path : leave.carryOut.Path interactions ended)
    (along : Along (Request.IsAttempted environment) (world.working database user state)
      interactions after) :
    Idle interactions ∧
      ((ended = .ok () ∧ after.server = leave.result world.server state) ∨
        ∃ failure, ended = .error failure ∧ after.server = world.server) := by
  cases leave with
  | abandon =>
      obtain ⟨_, asked, rfl⟩ := Attempt.path_lift_iff.mp path
      rw [Program.path_ask_iff.mp asked] at along ⊢
      have kept := server_of_abandon (Along.singleton_iff.mp along)
      exact ⟨.cons (fun _ impossible => nomatch impossible) .nil, .inl ⟨rfl, kept⟩⟩
  | commit | rollback =>
      obtain ⟨answer, rfl, rfl⟩ := Attempt.path_ask_iff.mp path
      refine ⟨.cons (fun _ impossible => nomatch impossible) .nil, ?_⟩
      cases answer with
      | ok _ =>
          cases Along.singleton_iff.mp along with
          | inl served => exact .inl ⟨rfl, served.2 ▸ rfl⟩
          | inr refused => exact refused.1.elim
      | error fault =>
          cases Along.singleton_iff.mp along with
          | inl served => exact nomatch served.1
          | inr refused => exact .inr ⟨_, rfl, refused.2⟩

/-- A transaction that carries out a plan is truthful, and leaves the server as it was if it
fails. -/
theorem truthful_of_transaction {result : Except Failure Outcome}
    (looks : observe.Observes environment database sees)
    (asks : observe.Asks fun request => request.isLook = true)
    (path : Attempt.Path
      (inTransaction do
        let seen ← observe
        let plan ← planOrFail (make seen)
        plan.settle) interactions result)
    (along : Along (Request.IsAttempted environment) (world.connected database user) interactions
      after) :
    Truthful database user (fun plan => ∃ seen, sees world.server seen ∧ make seen = .ok plan)
      (after.server = world.server) interactions world.server after.server result := by
  cases transactionCourse_of_path path with
  | unbegun fault =>
      exact .failed _ (server_of_unbegun along)
  | abandoned worked =>
      apply Truthful.failed
      obtain ⟨_, began, others⟩ := Along.cons_iff.mp along
      cases working_of_begin began
      obtain ⟨_, during, last⟩ := Along.append_iff.mp others
      rw [server_of_abandon (Along.singleton_iff.mp last)]
      exact server_of_failedWork looks asks (planCourse_of_path worked) during
  | left worked carriedOut =>
      obtain ⟨_, began, others⟩ := Along.cons_iff.mp along
      cases working_of_begin began
      obtain ⟨_, during, last⟩ := Along.append_iff.mp others
      cases planCourse_of_path worked with
      | @settled looking seen plan looked made =>
          obtain ⟨_, saw, executing⟩ := Along.append_iff.mp during
          obtain ⟨isSeen, rfl⟩ := looks.of_path looked saw rfl rfl
          obtain ⟨state, run, rfl⟩ := working_of_execution executing
          obtain ⟨idle, left⟩ := server_of_carryOut carriedOut last
          cases left with
          | inr failed =>
              obtain ⟨failure, rfl, kept⟩ := failed
              exact .failed failure kept
          | inl ended =>
              -- A plan without commands is rolled back, which keeps what its run comes to.
              obtain ⟨rfl, kept⟩ := ended
              rw [plan.result_leave run] at kept
              have started : Idle (⟨.begin, Except.ok ()⟩ :: looking) :=
                .cons (fun _ impossible => nomatch impossible) (idle_of_looks (asks _ _ looked))
              rw [List.append_assoc, ← List.cons_append]
              apply Truthful.prepend _ started
              apply Truthful.of_run ⟨seen, isSeen, made⟩
              · rw [executed_append, executed_execution, executed_of_idle idle, List.append_nil]
              · intro none
                rw [none]
                exact idle
              · exact kept ▸ run

end Transactions

/-! ## Databases -/

namespace DatabaseDeclaration

/-- The plan for a database whose owner, if it exists, is the one that a server keeps. -/
def planFrom (declaration : DatabaseDeclaration) (state : ServerState) : Plan :=
  planOwnership .database declaration.name declaration.owner (state.databases declaration.name)

/-- What is left of a database whose commands were interrupted: those that were executed are the
first ones of the plan. -/
def Interrupted (declaration : DatabaseDeclaration) (database user : String)
    (interactions : List Interaction) (before after : ServerState) : Prop :=
  executed interactions <+: (declaration.planFrom before).commands ∧
    InOrder (Command.Executes database user) (executed interactions) before after

variable {declaration : DatabaseDeclaration} {environment : Environment} {world after : World}
  {database user : String} {interactions : List Interaction} {state : ServerState}

/-- How a database is made to agree: its owner is not seen, a command is refused, or all of them
are executed. -/
theorem path_converge {result : Except Failure Outcome}
    (path : declaration.converge.Path interactions result) :
    (∃ failure, (observeDatabaseOwner declaration.name).Path interactions (.error failure) ∧
        result = .error failure) ∨
      ∃ looking executing owner, interactions = looking ++ executing ∧
        (observeDatabaseOwner declaration.name).Path looking (.ok owner) ∧
          let plan := planOwnership .database declaration.name declaration.owner owner
          (executing = plan.commands.map execution ∧ result = .ok plan.outcome) ∨
            ∃ done refused rest fault, plan.commands = done ++ refused :: rest ∧
              executing = done.map execution ++ [⟨.execute refused, Except.error fault⟩] ∧
                result = .error (.ofDatabase fault) := by
  rw [converge] at path
  cases Attempt.path_bind_iff.mp path with
  | inl failed => exact .inl failed
  | inr succeeded =>
      obtain ⟨looking, _, owner, rfl, looked, others⟩ := succeeded
      exact .inr ⟨looking, _, owner, rfl, looked, path_executeAll_then others⟩

theorem truthful {result : Except Failure Outcome}
    (path : declaration.converge.Path interactions result)
    (along : Along (Request.IsAttempted environment) (world.connected database user) interactions
      after) :
    Truthful database user (fun plan => plan = declaration.planFrom world.server)
      (declaration.Interrupted database user interactions world.server after.server)
      interactions world.server after.server result := by
  have asks : (observeDatabaseOwner declaration.name).Asks fun request => request.isLook = true :=
    Query.rows_asks id _
  cases path_converge path with
  | inl unseen =>
      obtain ⟨failure, looked, rfl⟩ := unseen
      have looks := asks _ _ looked
      have kept := server_of_looks along looks
      apply Truthful.failed
      rw [Interrupted, executed_of_idle (idle_of_looks looks), show after.server = _ from kept]
      exact ⟨List.nil_prefix, .nil _⟩
  | inr seen =>
      obtain ⟨looking, executing, owner, rfl, looked, ways⟩ := seen
      have idle := idle_of_looks (asks _ _ looked)
      obtain ⟨_, saw, others⟩ := Along.append_iff.mp along
      obtain ⟨rfl, rfl⟩ := (observes_databaseOwner declaration.name).of_path looked saw rfl rfl
      cases ways with
      | inl all =>
          obtain ⟨rfl, rfl⟩ := all
          obtain ⟨state, run, rfl⟩ := exists_inOrder_of_attempted rfl others
          apply Truthful.prepend _ idle
          apply Truthful.of_run
          · exact rfl
          · exact executed_execution
          · intro none
            rw [none]
            exact .nil
          · exact run
      | inr stopped =>
          obtain ⟨done, refused, rest, fault, parts, rfl, rfl⟩ := stopped
          obtain ⟨_, ran, last⟩ := Along.append_iff.mp others
          obtain ⟨state, run, rfl⟩ := exists_inOrder_of_attempted rfl ran
          have kept : after.server = state := server_of_refusal (Along.singleton_iff.mp last)
          have first : executed (looking ++ (done.map execution ++
              [⟨.execute refused, Except.error fault⟩])) = done := by
            rw [executed_append, executed_append, executed_of_idle idle, executed_execution]
            exact List.append_nil done
          apply Truthful.failed
          rw [Interrupted, first, kept]
          have plan : (declaration.planFrom world.server).commands = done ++ refused :: rest := parts
          exact ⟨plan ▸ List.prefix_append done (refused :: rest), run⟩

/-- From a state of a server, in whatever session, an attempt that is refused nothing comes to an
end with the database there, and owned as declared where an owner is; and there is such an attempt
where that owner is a role. -/
structure Recovers (declaration : DatabaseDeclaration) (environment : Environment)
    (state : ServerState) : Prop where
  ends : ∀ (again last : World) (home agent : String) (interactions : List Interaction)
      (result : Except Failure Outcome), again.server = state →
    declaration.converge.Path interactions result →
      Along (Request.IsServed environment) (again.connected home agent) interactions last →
        (∃ outcome, result = .ok outcome) ∧
          ∃ owner, last.server.databases declaration.name = some owner ∧
            ∀ wanted, declaration.owner = some wanted → owner = wanted
  possible : ∀ (again : World) (home agent : String), again.server = state →
    (∀ owner, declaration.owner = some owner → (state.roles owner).isSome = true) →
      ∃ interactions result last, declaration.converge.Path interactions result ∧
        Along (Request.IsServed environment) (again.connected home agent) interactions last

/-- The path of an attempt that sees an owner and executes its whole plan. -/
theorem converge_path (declaration : DatabaseDeclaration) (owner : Option String) :
    let plan := planOwnership .database declaration.name declaration.owner owner
    declaration.converge.Path
      (⟨.query (.databaseOwner declaration.name), Except.ok owner⟩ :: plan.commands.map execution)
      (.ok plan.outcome) := by
  intro plan
  rw [converge]
  apply Attempt.path_bind_iff.mpr
  refine .inr ⟨[_], _, owner, rfl, .call (.done _), ?_⟩
  apply Attempt.path_bind_iff.mpr
  exact .inr ⟨_, [], (), (List.append_nil _).symm, executeAll_path plan.commands, .done _⟩

theorem recovers (declaration : DatabaseDeclaration) (environment : Environment)
    (state : ServerState) : declaration.Recovers environment state where
  ends := by
    intro again last home agent interactions result same path along
    cases path_converge path with
    | inl unseen =>
        obtain ⟨failure, looked, -⟩ := unseen
        obtain ⟨answer, rfl, blamed⟩ := Attempt.path_ask_iff.mp looked
        obtain ⟨_, _, -, -, rfl, -⟩ := Along.singleton_iff.mp along
        exact nomatch blamed
    | inr seen =>
        -- The plan is made anew from the owner that is there, whatever the last one came to.
        obtain ⟨looking, executing, owner, rfl, looked, ways⟩ := seen
        obtain ⟨_, saw, others⟩ := Along.append_iff.mp along
        obtain ⟨rfl, rfl⟩ :=
          (observes_databaseOwner declaration.name).of_path looked (saw.imp .inl) rfl rfl
        cases ways with
        | inl all =>
            obtain ⟨rfl, rfl⟩ := all
            refine ⟨⟨_, rfl⟩, ?_⟩
            obtain ⟨after, run, rfl⟩ := (along_execution_iff rfl).mp others
            exact exists_owner_of_planOwnership (planOwnership_after run)
        | inr stopped =>
            obtain ⟨done, refused, rest, fault, -, rfl, -⟩ := stopped
            obtain ⟨_, -, last⟩ := Along.append_iff.mp others
            obtain ⟨_, _, -, -, impossible, -⟩ := Along.singleton_iff.mp last
            exact nomatch impossible
  possible := by
    intro again home agent same roles
    rw [← same] at roles
    obtain ⟨after, run⟩ :=
      @exists_run_planOwnership home agent declaration.name again.server declaration.owner roles
    have ran : Along (Request.IsServed environment) (again.connected home agent) _ _ :=
      (along_execution_iff rfl).mpr ⟨after, run, rfl⟩
    exact ⟨_, _, _, declaration.converge_path _, .cons ⟨_, _, rfl, rfl, rfl, rfl⟩ ran⟩

end DatabaseDeclaration

/-! ## Passwords -/

/-- The password that a role is given: that of its secret, if it declares one. -/
def RoleDeclaration.IsGiven (declaration : RoleDeclaration) (environment : Environment)
    (ownNamespace : String) (password : Option String) : Prop :=
  match declaration.passwordSecret with
  | none => password = none
  | some secret =>
      ∃ found credentials,
        environment.secret (secret.namespaceFrom ownNamespace) secret.name = some found ∧
          found.credentialsOrFault = .ok credentials ∧ password = some credentials.password

theorem credentials_of_path {environment : Environment} {blame : SecretFault → Failure}
    {secret : Reference} {ownNamespace : String} {interactions : List Interaction}
    {credentials : Credentials} {world after : World}
    (path : (fetchCredentials blame secret ownNamespace).Path interactions (.ok credentials))
    (along : Along (Request.IsAttempted environment) world interactions after) :
    (∃ found, environment.secret (secret.namespaceFrom ownNamespace) secret.name = some found ∧
        found.credentialsOrFault = .ok credentials) ∧ after = world := by
  rw [fetchCredentials] at path
  obtain ⟨answer, _, rfl, ways⟩ := Attempt.path_ask_bind path
  cases ways with
  | inl failed =>
      obtain ⟨_, -, -, impossible⟩ := failed
      cases impossible
  | inr succeeded =>
      obtain ⟨given, answered, others⟩ := succeeded
      cases answered
      obtain ⟨_, attempted, following⟩ := Along.cons_iff.mp along
      obtain ⟨same, rfl⟩ := attempted.resolve_right fun refused => refused.1
      cases given with
      | none =>
          obtain ⟨-, impossible⟩ := Attempt.path_throw_iff.mp others
          cases impossible
      | some found =>
          obtain ⟨rfl, read⟩ := Attempt.path_ofExcept_iff.mp others
          refine ⟨⟨found, (Except.ok.inj same).symm, ?_⟩, Along.nil_iff.mp following⟩
          cases reading : found.credentialsOrFault with
          | error fault =>
              rw [reading] at read
              cases read
          | ok _ =>
              rw [reading] at read
              exact congrArg Except.ok (Except.ok.inj read).symm

theorem RoleDeclaration.isGiven_of_path {declaration : RoleDeclaration}
    {environment : Environment} {ownNamespace : String} {interactions : List Interaction}
    {password : Option String} {world after : World}
    (path : (declaration.fetchPassword ownNamespace).Path interactions (.ok password))
    (along : Along (Request.IsAttempted environment) world interactions after) :
    declaration.IsGiven environment ownNamespace password ∧ after = world := by
  rw [fetchPassword] at path
  rw [IsGiven]
  cases declared : declaration.passwordSecret with
  | none =>
      rw [declared] at path
      obtain ⟨rfl, same⟩ := Attempt.path_pure_iff.mp path
      exact ⟨Except.ok.inj same, Along.nil_iff.mp along⟩
  | some secret =>
      rw [declared] at path
      obtain ⟨fetched, fetching, same⟩ := Attempt.path_bind_pure_iff.mp path
      cases fetched with
      | error failure => cases same
      | ok credentials =>
          obtain ⟨⟨found, kept, read⟩, rfl⟩ := credentials_of_path fetching along
          exact ⟨⟨found, credentials, kept, read, Except.ok.inj same⟩, rfl⟩

/-! ## All kinds -/

namespace ManagedResource

/-- A plan is one that is made for a resource from what a session in a database can see of a state
of the server. -/
def Plans (resource : ManagedResource) (environment : Environment) (session : Session)
    (database : String) (state : ServerState) (plan : Plan) : Prop :=
  match resource.declaration with
  | .database declaration => plan = declaration.planFrom state
  | .schema declaration =>
      plan = planOwnership .schema declaration.name declaration.owner
        (state.schemas database declaration.name)
  | .role declaration =>
      ∃ password seen,
        declaration.IsGiven environment resource.metadata.namespaceOrEmpty password ∧
          Option.Rel RoleState.IsReadAs (state.roles declaration.name) seen ∧
            declaration.plan password seen = .ok plan
  | .grant declaration =>
      ∃ observed, declaration.IsShown database state observed ∧
        declaration.plan resource.metadata.qualifiedName session.serverVersion observed = .ok plan
  | .defaultPrivilege declaration =>
      ∃ current, declaration.IsShown database state current ∧
        declaration.plan resource.metadata.qualifiedName session.serverVersion current = .ok plan

/-- What an attempt that fails leaves: a database whose commands were interrupted, and the server
as it was for every other kind. -/
def Leaves (resource : ManagedResource) (database user : String) (interactions : List Interaction)
    (before after : ServerState) : Prop :=
  match resource.declaration with
  | .database declaration => declaration.Interrupted database user interactions before after
  | .schema _ | .role _ | .grant _ | .defaultPrivilege _ => after = before

variable {resource : ManagedResource} {environment : Environment} {session : Session}
  {world after : World} {database user : String} {interactions : List Interaction}

theorem truthful_of_path {result : Except Failure Outcome}
    (path : (resource.converge session).Path interactions result)
    (along : Along (Request.IsAttempted environment) (world.connected database user) interactions
      after) :
    Truthful database user (resource.Plans environment session database world.server)
      (resource.Leaves database user interactions world.server after.server)
      interactions world.server after.server result := by
  unfold Plans Leaves
  rw [converge] at path
  cases declared : resource.declaration with
  | database declaration =>
      rw [declared] at path
      exact declaration.truthful path along
  | schema declaration =>
      rw [declared] at path
      have planning : declaration.converge.Path interactions result := path
      rw [declaration.converge_eq] at planning
      apply (truthful_of_transaction (observes_schemaOwner declaration.name)
        (Query.rows_asks id _) planning along).imp
      intro plan planned
      obtain ⟨_, rfl, made⟩ := planned
      exact (Except.ok.inj made).symm
  | role declaration =>
      rw [declared] at path
      have asks := declaration.fetchPassword_asks id resource.metadata.namespaceOrEmpty
      cases Attempt.path_bind_iff.mp path with
      | inl failed =>
          obtain ⟨failure, fetching, rfl⟩ := failed
          have kept := server_of_looks along (asks _ _ fetching)
          exact .failed failure kept
      | inr fetched =>
          obtain ⟨first, rest, password, rfl, fetching, planning⟩ := fetched
          obtain ⟨_, fetchedAlong, others⟩ := Along.append_iff.mp along
          obtain ⟨given, rfl⟩ := RoleDeclaration.isGiven_of_path fetching fetchedAlong
          apply Truthful.prepend _ (idle_of_looks (asks _ _ fetching))
          apply (truthful_of_transaction (observes_role declaration.name) (observeRole_asks id _)
            planning others).imp
          intro plan planned
          obtain ⟨seen, isSeen, made⟩ := planned
          exact ⟨password, seen, given, isSeen, made⟩
  | grant declaration =>
      rw [declared] at path
      exact truthful_of_transaction (observes_grant declaration) (declaration.observe_asks id) path
        along
  | defaultPrivilege declaration =>
      rw [declared] at path
      exact truthful_of_transaction (observes_defaultPrivilege declaration)
        (declaration.observe_asks id) path along

/-- Whatever a resource declares, whatever a server keeps, and whatever is refused on the way, be
it once or again and again: an attempt to make the server agree that says that it applied something
executed a whole plan in order, and the server keeps what its commands made; one that says that the
server agreed already executed nothing; and one that fails left the server as it was, except for a
database, of whose plan the first commands were executed. From there the next attempt that is
refused nothing still ends with the database there and owned as declared. -/
theorem converge_truthful {result : Except Failure Outcome}
    (path : (resource.converge session).Path interactions result)
    (along : Along (Request.IsAttempted environment) (world.connected database user) interactions
      after) :
    (∀ outcome, result = .ok outcome →
        ∃ message, outcome = .applied message ∨ outcome = .converged message) ∧
      (∀ message, result = .ok (.applied message) →
        ∃ plan, resource.Plans environment session database world.server plan ∧
          plan.commands ≠ [] ∧ message = plan.message ∧ executed interactions = plan.commands ∧
            InOrder (Command.Executes database user) plan.commands world.server after.server) ∧
      (∀ message, result = .ok (.converged message) →
        Idle interactions ∧ after.server = world.server ∧
          ∃ plan, resource.Plans environment session database world.server plan ∧
            plan.commands = [] ∧ message = plan.message) ∧
      ∀ failure, result = .error failure →
        (∀ declaration, resource.declaration = .database declaration →
          executed interactions <+: (declaration.planFrom world.server).commands ∧
            InOrder (Command.Executes database user) (executed interactions) world.server
                after.server ∧
              declaration.Recovers environment after.server) ∧
          ((∀ declaration, resource.declaration ≠ .database declaration) →
            after.server = world.server) := by
  have truthful := truthful_of_path path along
  refine ⟨?_, ?_, ?_, ?_⟩
  · intro outcome same
    cases truthful with
    | applied => exact ⟨_, .inl (Except.ok.inj same).symm⟩
    | converged => exact ⟨_, .inr (Except.ok.inj same).symm⟩
    | failed => exact nomatch same
  · intro message same
    cases truthful with
    | applied planned needed all run =>
        cases same
        exact ⟨_, planned, needed, rfl, all, run⟩
    | converged => exact nomatch same
    | failed => exact nomatch same
  · intro message same
    cases truthful with
    | applied => exact nomatch same
    | converged planned needless idle kept =>
        cases same
        exact ⟨idle, kept, _, planned, needless, rfl⟩
    | failed => exact nomatch same
  · intro failure same
    cases truthful with
    | applied => exact nomatch same
    | converged => exact nomatch same
    | failed _ left =>
        rw [Leaves] at left
        constructor
        · intro declaration declared
          rw [declared] at left
          exact ⟨left.1, left.2, declaration.recovers environment after.server⟩
        · intro other
          cases declared : resource.declaration with
          | database declaration => exact absurd declared (other declaration)
          | schema | role | grant | defaultPrivilege =>
              rw [declared] at left
              exact left

/-! A database whose owner is not a role yet: it is created, and left to the user of the session
until there is one. -/

private def ledger : ManagedResource where
  metadata :=
    ⟨some "ledger", none, some "shop", some 1, some "7", [CatalogSteward.finalizer], none⟩
  declaration := .database ⟨⟨"main", none⟩, "ledger", some "keeper", .retain⟩
  status := none

private def vacant : ServerState where
  version := "170000"
  databases := fun name => if name = "postgres" then some "postgres" else none
  schemas := fun _ _ => none
  relations := fun _ _ => ∅
  roles := fun name =>
    if name = "admin" then
      some (.created ⟨true, .keep, ⟨true, true, true, true, false, false, -1⟩, none⟩ none)
    else none
  access := fun _ _ => ∅
  defaults := fun _ _ _ _ => ∅
  apart := by
    intro _ role known
    obtain ⟨-, same⟩ := Option.ite_none_right_eq_some.mp known
    cases same
    exact ⟨List.not_mem_nil, List.not_mem_nil⟩

private def nowhere : Environment :=
  ⟨fun _ _ => none, fun _ _ => none, fun _ => .error ""⟩

private def untouched : World :=
  ⟨fun _ => none, vacant, none⟩

private def halfway : World :=
  (untouched.connected "postgres" "admin").withState (vacant.withDatabase "ledger" "admin")

private def creating : List Interaction :=
  [⟨.query (.databaseOwner "ledger"), Except.ok none⟩, execution (.createDatabase "ledger"),
    ⟨.execute (.alterDatabaseOwner "ledger" "keeper"), Except.error .unreachable⟩]

theorem converge_truthful_ledger :
    ((ledger.converge ⟨17⟩).Path creating (.error (.ofDatabase .unreachable)) ∧
        Along (Request.IsAttempted nowhere) (untouched.connected "postgres" "admin") creating
          halfway) ∧
      InOrder (Command.Executes "postgres" "admin") [.createDatabase "ledger"] vacant
          halfway.server ∧
        DatabaseDeclaration.Recovers ⟨⟨"main", none⟩, "ledger", some "keeper", .retain⟩ nowhere
          halfway.server := by
  have path : (ledger.converge ⟨17⟩).Path creating (.error (.ofDatabase .unreachable)) :=
    .call (.call (.call (.done _)))
  have created := @executes_createDatabase "postgres" "admin" "ledger" vacant rfl
  have along : Along (Request.IsAttempted nowhere) (untouched.connected "postgres" "admin") creating
      halfway :=
    .cons (.inl ⟨_, _, rfl, rfl, rfl, rfl⟩) (.cons (.inl ⟨_, _, rfl, created, rfl, rfl⟩)
      (.cons (.inr ⟨trivial, rfl⟩) (.nil halfway)))
  obtain ⟨-, -, -, failed⟩ := converge_truthful path along
  obtain ⟨-, run, recovers⟩ := (failed _ rfl).1 _ rfl
  exact ⟨⟨path, along⟩, run, recovers⟩

end ManagedResource

end CatalogSteward
