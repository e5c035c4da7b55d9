import CatalogSteward.Proofs.Reconcile.Atomicity
import Mathlib.Data.List.Forall2

/-!
# Commands that are tried

Whatever fails on the way, a transaction tries no command but those that are
made of what was seen when it began: those of the plan for a declaration that is
carried out, and the revocations for one that is cleaned up.
-/

set_option autoImplicit false

namespace CatalogSteward

open Sql

/-- A command was tried, whatever came of it. -/
def Tries (interactions : List Interaction) (command : Command) : Prop :=
  ∃ interaction ∈ interactions, interaction.request = .execute command

section Tries

variable {first second : List Interaction} {interaction : Interaction} {commands : List Command}
  {command : Command}

theorem Idle.not_tries (idle : Idle first) : ¬Tries first command := by
  intro tried
  obtain ⟨interaction, member, same⟩ := tried
  exact idle interaction member command same

theorem tries_append_iff :
    Tries (first ++ second) command ↔ Tries first command ∨ Tries second command := by
  simp only [Tries, List.mem_append, or_and_right, exists_or]

theorem tries_cons_iff :
    Tries (interaction :: first) command ↔
      interaction.request = .execute command ∨ Tries first command := by
  simp only [Tries, List.mem_cons, exists_eq_or_imp]

theorem tries_execution_iff : Tries (commands.map execution) command ↔ command ∈ commands := by
  constructor
  · intro tried
    obtain ⟨_, member, same⟩ := tried
    obtain ⟨executed, given, rfl⟩ := List.mem_map.mp member
    cases same
    exact given
  · intro member
    exact ⟨execution command, List.mem_map_of_mem member, rfl⟩

/-- Commands of which one was refused were tried up to that one. -/
theorem mem_of_tries_interrupted {done rest : List Command} {refused : Command}
    {answer : Request.Answer (.execute refused)}
    (tried : Tries (done.map execution ++ [⟨.execute refused, answer⟩]) command) :
    command ∈ done ++ refused :: rest := by
  cases tries_append_iff.mp tried with
  | inl executed => exact List.mem_append_left _ (tries_execution_iff.mp executed)
  | inr last =>
      cases tries_cons_iff.mp last with
      | inl same =>
          cases same
          exact List.mem_append_right _ List.mem_cons_self
      | inr impossible => exact absurd impossible Idle.nil.not_tries

/-- Whoever asks for no command tries none. -/
theorem Attempt.Asks.idle {α : Type} {attempt : Attempt α} {result : Except Failure α}
    (asks : attempt.Asks (Request.IsWork fun _ => False)) (path : attempt.Path first result) :
    Idle first := by
  intro interaction member command same
  have work := asks first result path interaction member
  rw [same] at work
  exact work

/-- What is tried after a look is tried with what was seen. -/
theorem tries_after_look {α β : Type} {look : Attempt α} {next : α → Attempt β}
    {interactions : List Interaction} {result : Except Failure β}
    (asks : look.Asks (Request.IsWork fun _ => False))
    (path : Attempt.Path (look >>= next) interactions result)
    (tried : Tries interactions command) :
    ∃ looking others seen, interactions = looking ++ others ∧ look.Path looking (.ok seen) ∧
      (next seen).Path others result ∧ Tries others command := by
  cases Attempt.path_bind_iff.mp path with
  | inl failed =>
      obtain ⟨failure, looked, -⟩ := failed
      exact absurd tried (asks.idle looked).not_tries
  | inr succeeded =>
      obtain ⟨looking, others, seen, rfl, looked, following⟩ := succeeded
      exact ⟨looking, others, seen, rfl, looked, following,
        (tries_append_iff.mp tried).resolve_left (asks.idle looked).not_tries⟩

/-- Whoever executes commands in order tries only those. -/
theorem mem_of_tries_executeAll {α : Type} {value : α} {result : Except Failure α}
    (path : Attempt.Path (executeAll commands >>= fun _ => pure value) first result)
    (tried : Tries first command) : command ∈ commands := by
  cases path_executeAll_then path with
  | inl all =>
      obtain ⟨rfl, -⟩ := all
      exact tries_execution_iff.mp tried
  | inr stopped =>
      obtain ⟨done, refused, rest, fault, rfl, rfl, -⟩ := stopped
      exact mem_of_tries_interrupted tried

/-- Between the beginning and an end that executes nothing, what is tried is tried by the work. -/
theorem tries_during {answer : Request.Answer .begin} (idle : Idle second)
    (tried : Tries (⟨.begin, answer⟩ :: (first ++ second)) command) : Tries first command := by
  cases tries_cons_iff.mp tried with
  | inl impossible => cases impossible
  | inr later => exact (tries_append_iff.mp later).resolve_right idle.not_tries

end Tries

/-! ## Transactions -/

section Transactions

variable {α : Type} {environment : Environment} {world after : World} {database user : String}
  {interactions : List Interaction} {command : Command}

/-- A command of a transaction is tried by its work, which begins with what the server keeps. -/
theorem exists_work_of_tries {work : Attempt (Leave × α)} {result : Except Failure α}
    (path : (inTransaction work).Path interactions result)
    (along : Along (Request.IsAttempted environment) (world.connected database user) interactions
      after)
    (tried : Tries interactions command) :
    ∃ during ended middle, work.Path during ended ∧
      Along (Request.IsAttempted environment) (world.working database user world.server) during
        middle ∧ Tries during command := by
  have abandoning : Idle [⟨.abandon, ()⟩] := .cons (fun _ impossible => nomatch impossible) .nil
  cases transactionCourse_of_path path with
  | unbegun fault => exact absurd (@tries_during [] _ _ _ abandoning tried) Idle.nil.not_tries
  | @abandoned during failure worked =>
      obtain ⟨_, began, others⟩ := Along.cons_iff.mp along
      cases working_of_begin began
      obtain ⟨middle, answered, -⟩ := Along.append_iff.mp others
      exact ⟨during, _, middle, worked, answered, tries_during abandoning tried⟩
  | @left during leaving leave value ended worked carriedOut =>
      obtain ⟨_, began, others⟩ := Along.cons_iff.mp along
      cases working_of_begin began
      obtain ⟨middle, answered, -⟩ := Along.append_iff.mp others
      exact ⟨during, _, middle, worked, answered,
        tries_during (leave.carryOut_asks.idle carriedOut) tried⟩

/-- A command that is tried to carry out a plan is one of a plan that is made of what is there to
see. -/
theorem exists_plan_of_tries {observe : Attempt α} {sees : ServerState → α → Prop}
    {make : α → Except Rejection Plan} {result : Except Failure Outcome}
    (looks : observe.Observes environment database sees)
    (asks : observe.Asks (Request.IsWork fun _ => False))
    (path : Attempt.Path
      (inTransaction do
        let seen ← observe
        let plan ← planOrFail (make seen)
        plan.settle) interactions result)
    (along : Along (Request.IsAttempted environment) (world.connected database user) interactions
      after)
    (tried : Tries interactions command) :
    ∃ seen plan, sees world.server seen ∧ make seen = .ok plan ∧ command ∈ plan.commands := by
  obtain ⟨during, ended, middle, worked, along, tried⟩ := exists_work_of_tries path along tried
  obtain ⟨looking, others, seen, rfl, looked, planned, tried⟩ := tries_after_look asks worked tried
  obtain ⟨_, saw, -⟩ := Along.append_iff.mp along
  obtain ⟨isSeen, -⟩ := looks.of_path looked saw rfl rfl
  cases made : make seen with
  | error rejection =>
      rw [made] at planned
      obtain ⟨rfl, -⟩ := Attempt.path_throw_iff.mp planned
      exact absurd tried Idle.nil.not_tries
  | ok plan =>
      rw [made] at planned
      have settling : plan.settle.Path others ended := planned
      exact ⟨seen, plan, isSeen, made, mem_of_tries_executeAll settling tried⟩

end Transactions

/-! ## What has to exist -/

section Existence

variable {environment : Environment} {database : String}

theorem observes_roleExists (name : String) :
    (roleExists name).Observes environment database fun state found =>
      found = (state.roles name).isSome := by
  apply (observes_role name).map.imp
  · intro state found looked
    obtain ⟨seen, read, rfl⟩ := looked
    generalize state.roles name = stored at read ⊢
    cases read with
    | none => rfl
    | some => rfl
  · intro state found _
    cases stored : state.roles name with
    | none => exact ⟨false, none, .none, rfl⟩
    | some role => exact ⟨true, some role, .some role.isReadAs_self, rfl⟩

theorem observes_schemaExists (schema : Option String) :
    (schemaExists schema).Observes environment database fun state found =>
      found = state.hasSchema database schema := by
  cases schema with
  | none => exact .pure true
  | some name =>
      apply (observes_schemaOwner name).map.imp
      · intro state found looked
        obtain ⟨owner, rfl, rfl⟩ := looked
        rfl
      · exact fun _ => ⟨_, _, rfl, rfl⟩

/-- Everything that is needed is found to exist exactly where each of it does. -/
theorem observes_allExist {needed : List (Attempt Bool)} {exist : List (ServerState → Bool)}
    (looks : List.Forall₂
      (fun attempt there => attempt.Observes environment database fun state found =>
        found = there state) needed exist) :
    (allExist needed).Observes environment database fun state found =>
      found = exist.all fun there => there state := by
  induction looks with
  | nil => exact .pure true
  | @cons attempt there needed exist first others ih =>
      have step : (allExist (attempt :: needed)).Observes environment database fun state found =>
          ∃ here, here = there state ∧
            found = (here && exist.all fun there => there state) := by
        apply Attempt.Observes.bind first
        · intro here
          cases here with
          | true => exact ih
          | false => exact .pure false
        · exact fun _ _ _ => ⟨_, rfl⟩
      apply step.imp
      · intro state found looked
        obtain ⟨_, rfl, rfl⟩ := looked
        rfl
      · exact fun _ => ⟨_, _, rfl, rfl⟩

end Existence

/-! ## Revocations -/

/-- A command that is tried to clean up is one of the revocations that are made of what is there to
see. -/
theorem exists_revocations_of_tries {environment : Environment} {database user : String}
    {world after : World} {needed : List (Attempt Bool)} {exist : ServerState → Bool → Prop}
    {revocations : Attempt (List Command)} {sees : ServerState → List Command → Prop}
    {interactions : List Interaction} {result : Except Failure Unit} {command : Command}
    (checks : (allExist needed).Observes environment database exist)
    (asksChecks : (allExist needed).Asks (Request.IsWork fun _ => False))
    (looks : revocations.Observes environment database sees)
    (asks : revocations.Asks (Request.IsWork fun _ => False))
    (path : (revokeWhere needed revocations).Path interactions result)
    (along : Along (Request.IsAttempted environment) (world.connected database user) interactions
      after)
    (tried : Tries interactions command) :
    ∃ commands, sees world.server commands ∧ command ∈ commands := by
  obtain ⟨during, ended, middle, worked, along, tried⟩ := exists_work_of_tries path along tried
  obtain ⟨checking, others, found, rfl, checked, following, tried⟩ :=
    tries_after_look asksChecks worked tried
  obtain ⟨_, answered, along⟩ := Along.append_iff.mp along
  obtain ⟨-, rfl⟩ := checks.of_path checked answered rfl rfl
  cases found with
  | false =>
      obtain ⟨rfl, -⟩ := Attempt.path_pure_iff.mp following
      exact absurd tried Idle.nil.not_tries
  | true =>
      obtain ⟨looking, executing, commands, rfl, looked, executed, tried⟩ :=
        tries_after_look asks following tried
      obtain ⟨_, saw, -⟩ := Along.append_iff.mp along
      obtain ⟨isSeen, -⟩ := looks.of_path looked saw rfl rfl
      exact ⟨commands, isSeen, mem_of_tries_executeAll executed tried⟩

/-! ## Runs without a failure -/

theorem inTransaction_path {α : Type} {work : Attempt (Leave × α)}
    {during leaving : List Interaction} {leave : Leave} {value : α}
    (worked : work.Path during (.ok (leave, value)))
    (carriedOut : leave.carryOut.Path leaving (.ok ())) :
    (inTransaction work).Path (⟨.begin, Except.ok ()⟩ :: (during ++ leaving)) (.ok value) := by
  have begun : Attempt.Path (do Attempt.ask Failure.ofDatabase (Program.ask .begin); work)
      (⟨.begin, Except.ok ()⟩ :: during) (.ok (leave, value)) := .call worked
  exact Attempt.path_bind_iff.mpr (.inr ⟨_, leaving, _, rfl,
    Attempt.path_orAbandon_iff.mpr (.inl ⟨_, begun, rfl⟩),
    Attempt.path_bind_pure_iff.mpr ⟨_, carriedOut, rfl⟩⟩)

/-- A plan that is made of what is seen is carried out, and committed unless there is nothing to
do. -/
theorem settle_path {α : Type} {observe : Attempt α} {make : α → Except Rejection Plan}
    {looking leaving : List Interaction} {seen : α} {plan : Plan}
    (looked : observe.Path looking (.ok seen)) (made : make seen = .ok plan)
    (carriedOut : Leave.carryOut (if plan.isConverged then .rollback else .commit) |>.Path leaving
      (.ok ())) :
    Attempt.Path
      (inTransaction do
        let seen ← observe
        let plan ← planOrFail (make seen)
        plan.settle)
      (⟨.begin, Except.ok ()⟩ :: (looking ++ plan.commands.map execution ++ leaving))
      (.ok plan.outcome) := by
  refine inTransaction_path ?_ carriedOut
  refine Attempt.path_bind_iff.mpr (.inr ⟨looking, _, seen, rfl, looked, ?_⟩)
  rw [made]
  exact Attempt.path_bind_pure_iff.mpr ⟨_, executeAll_path plan.commands, rfl⟩

theorem revokeWhere_path {needed : List (Attempt Bool)} {revocations : Attempt (List Command)}
    {checking looking : List Interaction} {commands : List Command}
    (checked : (allExist needed).Path checking (.ok true))
    (looked : revocations.Path looking (.ok commands)) :
    (revokeWhere needed revocations).Path
      (⟨.begin, Except.ok ()⟩ ::
        (checking ++ (looking ++ commands.map execution) ++ [⟨.commit, Except.ok ()⟩]))
      (.ok ()) := by
  have committed : Leave.commit.carryOut.Path [⟨.commit, Except.ok ()⟩] (.ok ()) :=
    .call (.done _)
  refine inTransaction_path ?_ committed
  refine Attempt.path_bind_iff.mpr (.inr ⟨checking, _, true, rfl, checked, ?_⟩)
  refine Attempt.path_bind_iff.mpr (.inr ⟨looking, _, commands, rfl, looked, ?_⟩)
  exact Attempt.path_bind_pure_iff.mpr ⟨_, executeAll_path commands, rfl⟩

end CatalogSteward
