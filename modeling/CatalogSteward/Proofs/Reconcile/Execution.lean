import CatalogSteward.Proofs.Reconcile.Asked
import CatalogSteward.Proofs.Reconcile.Transaction

/-!
# Executions that may fail

A server may refuse whatever it is asked, and keeps then what it kept. What the
commands of a plan make of it is what those that were not refused do in order,
and in a transaction nothing at all unless it is committed.
-/

set_option autoImplicit false

namespace CatalogSteward

open Sql

/-! ## Requests that may be refused -/

/-- A request is served, or it is refused and the server keeps what it kept, whatever becomes of
the session. -/
def Request.IsAttempted (environment : Environment) (before : World) (request : Request)
    (answer : request.Answer) (after : World) : Prop :=
  request.IsServed environment before answer after ∨
    request.IsRefused answer ∧ after.server = before.server

section Attempted

variable {environment : Environment} {before after : World} {interactions : List Interaction}

theorem Along.unreliable (along : Along (Request.IsAttempted environment) before interactions after) :
    Along environment.unreliable.answers before interactions after :=
  along.imp fun attempted => attempted.imp_right And.left

/-- Whoever only looks changes nothing on the server. -/
theorem server_of_looks (along : Along (Request.IsAttempted environment) before interactions after)
    (looks : ∀ interaction ∈ interactions, interaction.request.isLook = true) :
    after.server = before.server := by
  apply along.induct
  · rfl
  · intro interaction member current next same attempted
    cases attempted with
    | inr refused => exact refused.2.trans same
    | inl served =>
        have look := looks interaction member
        obtain ⟨request, answer⟩ := interaction
        cases request with
        | findSecret inNamespace name => exact served.2 ▸ same
        | query question =>
            obtain ⟨_, _, -, -, -, rfl⟩ := served
            exact same
        | _ => exact nomatch look

/-- What is found in a world where requests may be refused is there to see. -/
theorem Attempt.Observes.of_path {α : Type} {attempt : Attempt α} {database : String}
    {session : ServerSession} {sees : ServerState → α → Prop} {seen : α}
    (looks : attempt.Observes environment database sees)
    (path : attempt.Path interactions (.ok seen))
    (along : Along (Request.IsAttempted environment) before interactions after)
    (opened : before.session = some session) (here : session.database = database) :
    sees before.state seen ∧ after = before := by
  have meets : attempt.Meets environment.unreliable before fun seen after =>
      sees before.state seen ∧ after = before :=
    looks.unreliable opened here fun seen isSeen => ⟨isSeen, rfl⟩
  exact meets.of_path path along.unreliable

end Attempted

/-! ## Commands -/

/-- The execution of a command that was not refused. -/
def execution (command : Command) : Interaction :=
  ⟨.execute command, Except.ok ()⟩

/-- The command that an interaction executes, if it was not refused. -/
def Interaction.executed? : Interaction → Option Command
  | ⟨.execute command, .ok _⟩ => some command
  | _ => none

/-- The commands that were executed, in order. -/
def executed (interactions : List Interaction) : List Command :=
  interactions.filterMap Interaction.executed?

/-- No command was tried. -/
def Idle (interactions : List Interaction) : Prop :=
  ∀ interaction ∈ interactions, ∀ command, interaction.request ≠ .execute command

section Commands

variable {first second : List Interaction} {interaction : Interaction} {commands : List Command}

theorem executed_append : executed (first ++ second) = executed first ++ executed second :=
  List.filterMap_append

theorem executed_execution : executed (commands.map execution) = commands := by
  rw [executed, List.filterMap_map]
  exact List.filterMap_some

theorem executed_of_idle (idle : Idle first) : executed first = [] := by
  apply List.filterMap_eq_nil_iff.mpr
  intro interaction member
  have other := idle interaction member
  obtain ⟨request, answer⟩ := interaction
  cases request with
  | execute command => exact absurd rfl (other command)
  | _ => rfl

theorem Idle.nil : Idle [] :=
  List.forall_mem_nil _

theorem Idle.cons (here : ∀ command, interaction.request ≠ .execute command) (others : Idle first) :
    Idle (interaction :: first) :=
  List.forall_mem_cons.mpr ⟨here, others⟩

theorem Idle.append (idle : Idle first) (others : Idle second) : Idle (first ++ second) :=
  List.forall_mem_append.mpr ⟨idle, others⟩

theorem idle_of_looks (looks : ∀ interaction ∈ first, interaction.request.isLook = true) :
    Idle first := by
  intro interaction member command same
  have look := looks interaction member
  rw [same] at look
  exact nomatch look

end Commands

/-- Commands are all executed, if none is refused. -/
theorem executeAll_path (commands : List Command) :
    (executeAll commands).Path (commands.map execution) (.ok ()) := by
  induction commands with
  | nil => exact .done _
  | cons command rest ih => exact .call ih

/-- Commands are executed in order, all of them or up to the first that is refused. -/
theorem path_executeAll {commands : List Command} {interactions : List Interaction}
    {result : Except Failure Unit} (path : (executeAll commands).Path interactions result) :
    (interactions = commands.map execution ∧ result = .ok ()) ∨
      ∃ (done : List Command) (refused : Command) (rest : List Command) (fault : DatabaseFault),
        commands = done ++ refused :: rest ∧
          interactions = done.map execution ++ [⟨.execute refused, Except.error fault⟩] ∧
            result = .error (.ofDatabase fault) := by
  induction commands generalizing interactions with
  | nil =>
      obtain ⟨rfl, rfl⟩ := Attempt.path_pure_iff.mp path
      exact .inl ⟨rfl, rfl⟩
  | cons command rest ih =>
      rw [executeAll] at path
      obtain ⟨answer, _, rfl, ways⟩ := Attempt.path_ask_bind path
      cases ways with
      | inl refused =>
          obtain ⟨fault, answered, rfl, rfl⟩ := refused
          cases answered
          exact .inr ⟨[], command, rest, fault, rfl, rfl, rfl⟩
      | inr executed =>
          obtain ⟨_, answered, following⟩ := executed
          cases answered
          cases ih following with
          | inl all =>
              obtain ⟨rfl, rfl⟩ := all
              exact .inl ⟨rfl, rfl⟩
          | inr stopped =>
              obtain ⟨done, refused, last, fault, rfl, rfl, rfl⟩ := stopped
              exact .inr ⟨command :: done, refused, last, fault, rfl, rfl, rfl⟩

/-- Whoever executes commands and then ends, ends as they do. -/
theorem path_executeAll_then {α : Type} {value : α} {commands : List Command}
    {interactions : List Interaction} {result : Except Failure α}
    (path : Attempt.Path (executeAll commands >>= fun _ => pure value) interactions result) :
    (interactions = commands.map execution ∧ result = .ok value) ∨
      ∃ (done : List Command) (refused : Command) (rest : List Command) (fault : DatabaseFault),
        commands = done ++ refused :: rest ∧
          interactions = done.map execution ++ [⟨.execute refused, Except.error fault⟩] ∧
            result = .error (.ofDatabase fault) := by
  obtain ⟨_, executing, rfl⟩ := Attempt.path_bind_pure_iff.mp path
  cases path_executeAll executing with
  | inl all =>
      obtain ⟨rfl, rfl⟩ := all
      exact .inl ⟨rfl, rfl⟩
  | inr stopped =>
      obtain ⟨done, refused, rest, fault, parts, rfl, rfl⟩ := stopped
      exact .inr ⟨done, refused, rest, fault, parts, rfl, rfl⟩

/-- Commands that are not refused make of what the session sees what they make in order. -/
theorem along_execution_iff {environment : Environment} {world after : World}
    {session : ServerSession} {commands : List Command} (opened : world.session = some session) :
    Along (Request.IsServed environment) world (commands.map execution) after ↔
      ∃ state, InOrder (Command.Executes session.database session.user) commands world.state state ∧
        after = world.withState state := by
  induction commands generalizing world session with
  | nil =>
      rw [List.map_nil, Along.nil_iff]
      simp only [InOrder.nil_iff, exists_eq_left, World.withState_self]
  | cons command rest ih =>
      constructor
      · intro along
        obtain ⟨_, ⟨at_, between, same, executes, -, rfl⟩, others⟩ := Along.cons_iff.mp along
        cases opened.symm.trans same
        obtain ⟨next, openedNext, database, user⟩ := @World.session_withState _ between _ opened
        obtain ⟨state, run, rfl⟩ := (ih openedNext).mp others
        rw [World.state_withState, database, user] at run
        exact ⟨state, .cons executes run, World.withState_withState⟩
      · intro ran
        obtain ⟨state, run, rfl⟩ := ran
        obtain ⟨between, executes, run⟩ := InOrder.cons_iff.mp run
        obtain ⟨next, openedNext, database, user⟩ := @World.session_withState _ between _ opened
        refine .cons ⟨session, between, opened, executes, rfl, rfl⟩ ?_
        refine (ih openedNext).mpr ⟨state, ?_, World.withState_withState.symm⟩
        rw [World.state_withState, database, user]
        exact run

/-- An execution that may be refused and was not is served. -/
theorem along_execution_of_attempted {environment : Environment} {world after : World}
    {commands : List Command}
    (along : Along (Request.IsAttempted environment) world (commands.map execution) after) :
    Along (Request.IsServed environment) world (commands.map execution) after := by
  induction commands generalizing world with
  | nil => exact Along.nil_iff.mpr (Along.nil_iff.mp along)
  | cons command rest ih =>
      obtain ⟨between, attempted, others⟩ := Along.cons_iff.mp along
      exact .cons (attempted.resolve_right fun refused => refused.1) (ih others)

theorem exists_inOrder_of_attempted {environment : Environment} {world after : World}
    {session : ServerSession} {commands : List Command} (opened : world.session = some session)
    (along : Along (Request.IsAttempted environment) world (commands.map execution) after) :
    ∃ state, InOrder (Command.Executes session.database session.user) commands world.state state ∧
      after = world.withState state :=
  (along_execution_iff opened).mp (along_execution_of_attempted along)

/-! ## Transactions -/

/-- How a transaction goes: it is not begun, its work fails and it is abandoned, or it is left as
the work says. -/
inductive TransactionCourse {α : Type} (work : Attempt (Leave × α)) :
    List Interaction → Except Failure α → Prop where
  | unbegun (fault : DatabaseFault) :
      TransactionCourse work [⟨.begin, Except.error fault⟩, ⟨.abandon, ()⟩]
        (.error (.ofDatabase fault))
  | abandoned {during : List Interaction} {failure : Failure}
      (worked : work.Path during (.error failure)) :
      TransactionCourse work (⟨.begin, Except.ok ()⟩ :: (during ++ [⟨.abandon, ()⟩]))
        (.error failure)
  | left {during leaving : List Interaction} {leave : Leave} {value : α}
      {ended : Except Failure Unit} (worked : work.Path during (.ok (leave, value)))
      (carriedOut : leave.carryOut.Path leaving ended) :
      TransactionCourse work (⟨.begin, Except.ok ()⟩ :: (during ++ leaving))
        (ended.map fun _ => value)

private theorem path_begin {α : Type} {work : Attempt α} {interactions : List Interaction}
    {result : Except Failure α}
    (path : Attempt.Path (Attempt.ask Failure.ofDatabase (Program.ask .begin) >>= fun _ => work)
      interactions result) :
    (∃ fault, interactions = [⟨.begin, Except.error fault⟩] ∧
        result = .error (.ofDatabase fault)) ∨
      ∃ during, interactions = ⟨.begin, Except.ok ()⟩ :: during ∧ work.Path during result := by
  obtain ⟨answer, during, rfl, ways⟩ := Attempt.path_ask_bind path
  cases ways with
  | inl refused =>
      obtain ⟨fault, answered, rfl, rfl⟩ := refused
      cases answered
      exact .inl ⟨fault, rfl, rfl⟩
  | inr begun =>
      obtain ⟨_, answered, worked⟩ := begun
      cases answered
      exact .inr ⟨during, rfl, worked⟩

theorem transactionCourse_of_path {α : Type} {work : Attempt (Leave × α)}
    {interactions : List Interaction} {result : Except Failure α}
    (path : (inTransaction work).Path interactions result) :
    TransactionCourse work interactions result := by
  rw [inTransaction] at path
  cases Attempt.path_bind_iff.mp path with
  | inl failed =>
      obtain ⟨failure, tried, rfl⟩ := failed
      cases Attempt.path_orAbandon_iff.mp tried with
      | inl ended =>
          obtain ⟨_, -, impossible⟩ := ended
          exact nomatch impossible
      | inr abandoned =>
          obtain ⟨_, first, rfl, begun, same⟩ := abandoned
          cases same
          cases path_begin begun with
          | inl unbegun =>
              obtain ⟨fault, rfl, same⟩ := unbegun
              cases same
              exact .unbegun fault
          | inr begun =>
              obtain ⟨during, rfl, worked⟩ := begun
              exact .abandoned worked
  | inr succeeded =>
      obtain ⟨first, rest, ⟨leave, value⟩, rfl, tried, leaving⟩ := succeeded
      cases Attempt.path_orAbandon_iff.mp tried with
      | inr abandoned =>
          obtain ⟨_, _, -, -, impossible⟩ := abandoned
          exact nomatch impossible
      | inl ended =>
          obtain ⟨_, begun, same⟩ := ended
          cases same
          cases path_begin begun with
          | inl unbegun =>
              obtain ⟨_, -, impossible⟩ := unbegun
              exact nomatch impossible
          | inr begun =>
              obtain ⟨during, rfl, worked⟩ := begun
              obtain ⟨_, carriedOut, rfl⟩ := Attempt.path_bind_pure_iff.mp leaving
              exact .left worked carriedOut

/-- How the work of a transaction goes that carries out a plan: nothing to plan from is seen, no
plan is made, a command is refused, or all of them are executed. -/
inductive PlanCourse {α : Type} (observe : Attempt α) (make : α → Except Rejection Plan) :
    List Interaction → Except Failure (Leave × Outcome) → Prop where
  | unseen {looking : List Interaction} {failure : Failure}
      (looked : observe.Path looking (.error failure)) :
      PlanCourse observe make looking (.error failure)
  | rejected {looking : List Interaction} {seen : α} {rejection : Rejection}
      (looked : observe.Path looking (.ok seen)) (made : make seen = .error rejection) :
      PlanCourse observe make looking (.error (.ofRejection rejection))
  | interrupted {looking : List Interaction} {seen : α} {plan : Plan} {done rest : List Command}
      {refused : Command} {fault : DatabaseFault} (looked : observe.Path looking (.ok seen))
      (made : make seen = .ok plan) (parts : plan.commands = done ++ refused :: rest) :
      PlanCourse observe make
        (looking ++ (done.map execution ++ [⟨.execute refused, Except.error fault⟩]))
        (.error (.ofDatabase fault))
  | settled {looking : List Interaction} {seen : α} {plan : Plan}
      (looked : observe.Path looking (.ok seen)) (made : make seen = .ok plan) :
      PlanCourse observe make (looking ++ plan.commands.map execution)
        (.ok (if plan.isConverged then .rollback else .commit, plan.outcome))

theorem planCourse_of_path {α : Type} {observe : Attempt α} {make : α → Except Rejection Plan}
    {interactions : List Interaction} {result : Except Failure (Leave × Outcome)}
    (path : Attempt.Path
      (do
        let seen ← observe
        let plan ← planOrFail (make seen)
        plan.settle) interactions result) :
    PlanCourse observe make interactions result := by
  cases Attempt.path_bind_iff.mp path with
  | inl failed =>
      obtain ⟨failure, looked, rfl⟩ := failed
      exact .unseen looked
  | inr succeeded =>
      obtain ⟨looking, rest, seen, rfl, looked, planned⟩ := succeeded
      cases made : make seen with
      | error rejection =>
          rw [made] at planned
          obtain ⟨rfl, rfl⟩ := Attempt.path_throw_iff.mp planned
          rw [List.append_nil]
          exact .rejected looked made
      | ok plan =>
          rw [made] at planned
          have settling : plan.settle.Path rest result := planned
          cases path_executeAll_then settling with
          | inl all =>
              obtain ⟨rfl, rfl⟩ := all
              exact .settled looked made
          | inr stopped =>
              obtain ⟨done, refused, rest, fault, parts, rfl, rfl⟩ := stopped
              exact .interrupted looked made parts

end CatalogSteward
