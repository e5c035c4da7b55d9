import CatalogSteward.Proofs.Reconcile.Outcome
import CatalogSteward.Proofs.Server.World
import CatalogSteward.Reconcile.Convergence

/-!
# Transactions

What a transaction leaves on the server is what its work made of the state that
it began with, if it is committed, and nothing otherwise. A plan that is carried
out leaves a state that its commands lead to.
-/

set_option autoImplicit false

namespace CatalogSteward

open Sql

def Leave.result (leave : Leave) (before work : ServerState) : ServerState :=
  match leave with
  | .commit => work
  | .rollback | .abandon => before

section Transactions

variable {environment : Environment} {regime : Regime World} {world : World}
  {database user : String} {state : ServerState} {α : Type}

theorem Attempt.Meets.ask_unit {blame : DatabaseFault → Failure} {post : Unit → World → Prop}
    (serves : regime.Serves environment) (request : Request)
    (read : request.Answer → Except DatabaseFault Unit) (next : World)
    (noWrite : request.isWrite = false)
    (refused : ∀ answer, request.IsRefused answer → ∃ fault, read answer = .error fault)
    (served : ∀ answer after,
      request.IsServed environment world answer after ↔ read answer = .ok () ∧ after = next)
    (answer : request.Answer) (fine : read answer = .ok ()) (holds : post () next) :
    Attempt.Meets regime
      (ExceptT.mk ((fun answer => (read answer).mapError blame) <$> Program.ask request))
      world post := by
  apply Attempt.Meets.ask_served serves request read
  · exact serves.admits noWrite ⟨answer, next, (served answer next).mpr ⟨fine, rfl⟩⟩
  · exact refused
  · intro given after isServed
    obtain ⟨result, rfl⟩ := (served given after).mp isServed
    rw [result]
    exact holds

theorem Attempt.Meets.carryOut (serves : regime.Serves environment) (leave : Leave)
    {post : Unit → World → Prop}
    (holds : post ()
      ({ world with server := leave.result world.server state }.connected database user)) :
    leave.carryOut.Meets regime (world.working database user state) post := by
  cases leave with
  | commit =>
      apply Attempt.Meets.ask_unit serves .commit (fun answer => answer) _ rfl
      · exact Request.exists_fault fun _ => id
      · exact fun _ _ => Iff.rfl
      · rfl
      · exact holds
  | rollback =>
      apply Attempt.Meets.ask_unit serves .rollback (fun answer => answer) _ rfl
      · exact Request.exists_fault fun _ => id
      · exact fun _ _ => Iff.rfl
      · rfl
      · exact holds
  | abandon =>
      apply Attempt.Meets.lift
      refine ⟨serves.admits rfl ⟨(), _, rfl⟩, ?_⟩
      intro answer after answered
      rcases serves.answers answered with rfl | ⟨isRefused, -⟩
      · exact holds
      · exact isRefused.elim

/-- A transaction is seen to by its work, which begins with what the server keeps. -/
theorem Attempt.Meets.inTransaction (serves : regime.Serves environment)
    {work : Attempt (Leave × α)} {post : α → World → Prop}
    (meets : work.Meets regime (world.working database user world.server) fun result after =>
      ∃ state, after = world.working database user state ∧
        post result.2
          ({ world with server := result.1.result world.server state }.connected database
            user)) :
    (inTransaction work).Meets regime (world.connected database user) post := by
  apply Attempt.Meets.bind
  apply Attempt.Meets.orAbandon
  · apply Attempt.Meets.bind
    apply Attempt.Meets.ask_unit serves .begin (fun answer => answer) _ rfl
    · exact Request.exists_fault fun _ => id
    · exact fun _ _ => Iff.rfl
    · rfl
    · apply meets.imp
      rintro ⟨leave, value⟩ after ⟨state, rfl, holds⟩
      apply Attempt.Meets.bind
      apply Attempt.Meets.carryOut serves
      exact holds
  · exact fun _ world => serves.admits rfl ⟨(), world.withWork none, rfl⟩

/-- Commands are executed one after the other, where each of them is admitted after those before
it, whatever the server made of those. -/
theorem Attempt.Meets.executeAll (serves : regime.Serves environment) {session : ServerSession}
    {commands : List Command} {post : Unit → World → Prop} (opened : world.session = some session)
    (admitted : ∀ done command rest between, commands = done ++ command :: rest →
      InOrder (Command.Executes session.database session.user) done world.state between →
        regime.admits (world.withState between) (.execute command))
    (holds : ∀ after,
      InOrder (Command.Executes session.database session.user) commands world.state after →
        post () (world.withState after)) :
    (executeAll commands).Meets regime world post := by
  induction commands generalizing world session with
  | nil =>
      have kept := holds world.state (.nil _)
      rw [World.withState_self] at kept
      exact kept
  | cons command rest ih =>
      apply Attempt.Meets.bind
      apply Attempt.Meets.ask_served serves (.execute command) fun answer => answer
      · have first := admitted [] command rest world.state rfl (.nil _)
        rw [World.withState_self] at first
        exact first
      · exact Request.exists_fault fun _ => id
      · rintro answer after ⟨at_, between, same, executes, rfl, rfl⟩
        cases opened.symm.trans same
        obtain ⟨next, opened', database, user⟩ := @World.session_withState _ between _ opened
        apply ih opened'
        · intro done last rest state order run
          rw [World.state_withState, database, user] at run
          rw [World.withState_withState]
          exact admitted (command :: done) last rest state (congrArg _ order) (.cons executes run)
        · intro after others
          rw [World.withState_withState]
          rw [World.state_withState, database, user] at others
          exact holds after (.cons executes others)

end Transactions

/-! ## Passes that are repeated -/

def Plan.Confirms (next plan : Plan) : Prop :=
  next.commands = [] ∧ (next.remark = none ∨ next.remark = plan.remark)

theorem Plan.outcome_agrees (plan : Plan) :
    plan.outcome.Agrees plan.message := by
  rw [Plan.outcome]
  split
  · exact .inl rfl
  · exact .inr rfl

theorem Plan.Confirms.outcome {next plan : Plan} (confirms : next.Confirms plan) :
    next.outcome.Confirms plan.message := by
  obtain ⟨nothing, remark⟩ := confirms
  have converged : next.outcome = .converged next.message := by
    rw [Plan.outcome, isConverged, nothing]
    rfl
  rw [Outcome.Confirms, converged]
  rcases remark with none | same
  · rw [message, none]
    exact .inl rfl
  · rw [message, message, same]
    exact .inr rfl

/-- However the transaction of a plan is left, the server keeps what its commands made. -/
theorem Plan.result_leave (plan : Plan) {database user : String} {before after : ServerState}
    (run : InOrder (Command.Executes database user) plan.commands before after) :
    Leave.result (if plan.isConverged then .rollback else .commit) before after = after := by
  rw [isConverged]
  cases commands : plan.commands with
  | nil =>
      rw [commands] at run
      exact (InOrder.nil_iff.mp run).symm
  | cons command rest => rfl

theorem Plan.Confirms.settle {World : Type} {regime : Regime World} {world : World}
    {next plan : Plan} {post : Leave × Outcome → World → Prop} (confirms : next.Confirms plan)
    (holds : post (.rollback, next.outcome) world) : next.settle.Meets regime world post := by
  rw [Plan.settle, confirms.1, isConverged, confirms.1]
  exact holds

/-- What is planned once settles the matter: after its commands were executed there is something
to see, and whatever is seen, the next plan has nothing to do. -/
def Settles {α : Type} (database user : String) (sees : ServerState → α → Prop)
    (make : α → Except Rejection Plan) : Prop :=
  ∀ {before after : ServerState} {seen : α} {plan : Plan}, sees before seen →
    make seen = .ok plan →
      InOrder (Command.Executes database user) plan.commands before after →
        (∃ again, sees after again) ∧
          ∀ again, sees after again → ∃ next, make again = .ok next ∧ next.Confirms plan

/-- Where an attempt comes to an end, it says that the server agreed or agrees now; and made once
more in a session just opened, it finds in a reliable world that there is nothing to do. -/
def Attempt.Repeats (environment : Environment) (database user : String)
    (attempt : Attempt Outcome) : Prop :=
  ∀ world : World,
    attempt.Meets environment.unreliable (world.connected database user) fun outcome after =>
      after.statuses = world.statuses ∧ after.server.version = world.server.version ∧
        ((world.server.databases database).isSome → (after.server.databases database).isSome) ∧
          ∃ message, outcome.Agrees message ∧
            ∀ again : World, again.server = after.server →
              attempt.Meets environment.reliable (again.connected database user) fun next last =>
                next.Confirms message ∧ last = again.connected database user

section Repeating

variable {environment : Environment} {database user : String} {α : Type}
  {observe : Attempt α} {sees : ServerState → α → Prop} {make : α → Except Rejection Plan}

theorem Attempt.Observes.inTransaction_repeats
    (looks : observe.Observes environment database sees)
    (settles : Settles database user sees make) :
    Attempt.Repeats environment database user
      (inTransaction do
        let seen ← observe
        let plan ← planOrFail (make seen)
        plan.settle) := by
  intro world
  apply Attempt.Meets.inTransaction environment.unreliable_serves
  apply Attempt.Meets.bind
  apply looks.unreliable rfl rfl
  intro seen isSeen
  apply Attempt.Meets.bind
  apply Attempt.Meets.ofExcept
  cases made : make seen with
  | error rejection => exact trivial
  | ok plan =>
      apply Attempt.Meets.bind
      apply Attempt.Meets.executeAll environment.unreliable_serves rfl fun _ _ _ _ _ _ => trivial
      intro after run
      apply Attempt.Meets.pure
      rw [World.state_working] at run isSeen
      refine ⟨after, rfl, ?_⟩
      rw [plan.result_leave run]
      refine ⟨rfl, run.version_kept, run.home_kept, plan.message, plan.outcome_agrees, ?_⟩
      obtain ⟨visible, repeated⟩ := settles isSeen made run
      intro again same
      apply Attempt.Meets.inTransaction environment.reliable_serves
      apply Attempt.Meets.bind
      have kept : again.server = after := same
      apply looks.reliable rfl rfl
      · rw [World.state_working, kept]
        exact visible
      intro seen isSeen
      rw [World.state_working, kept] at isSeen
      obtain ⟨next, madeAgain, confirms⟩ := repeated seen isSeen
      apply Attempt.Meets.bind
      apply Attempt.Meets.ofExcept
      rw [madeAgain]
      apply confirms.settle
      exact ⟨again.server, rfl, confirms.outcome, rfl⟩

end Repeating

end CatalogSteward
