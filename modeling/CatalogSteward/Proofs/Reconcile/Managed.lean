import CatalogSteward.Proofs.Reconcile.Convergence
import CatalogSteward.Proofs.Reconcile.Outcome

/-!
# Reconciling once more

A pass over a resource that ends with the server agreeing reaches a fixed point:
the next one, over the resource with the status that is stored then, executes
nothing and writes nothing.
-/

set_option autoImplicit false

namespace CatalogSteward

open Sql Time

variable {environment : Environment}

namespace ManagedResource

/-! ## Nothing left to do -/

/-- What a pass over a resource that agreed comes to, made once more in a world whose server is
the same: it finds nothing to do. -/
theorem attemptConvergence_meets (resource : ManagedResource) (inNamespace : String)
    (world : World) :
    (resource.attemptConvergence inNamespace).Meets environment.unreliable world
      fun outcome after =>
        ∀ message, outcome.Agrees message →
          after.statuses = world.statuses ∧
            ∀ again : World, again.server = after.server →
              (resource.attemptConvergence inNamespace).Meets environment.reliable again
                fun next last =>
                  next.Confirms message ∧ last.server = again.server ∧
                    last.statuses = again.statuses := by
  unfold attemptConvergence
  apply Attempt.Meets.bind
  apply Attempt.Meets.ofExcept
  cases valid : resource.declaration.preflight resource.metadata.qualifiedName with
  | error rejection => exact trivial
  | ok _ =>
      apply Attempt.Meets.bind
      apply (findReadyConnection_isFixed resource.declaration.cluster inNamespace world).imp
      rintro found _ ⟨rfl, sameConnection⟩
      cases found with
      | none =>
          apply Attempt.Meets.pure
          rintro message (agrees | agrees) <;> cases agrees
      | some connection =>
          apply Attempt.Meets.bind
          apply (connection.openSession_meets resource.declaration.targetDatabase _).imp
          rintro session _ ⟨home, user, rfl, there, sameSession⟩
          apply (resource.converge_repeats session valid _).imp
          rintro outcome after ⟨statuses, version, kept, message, agrees, repeated⟩
          intro same agreesSame
          cases agrees.unique agreesSame
          refine ⟨statuses, fun again unchanged => ?_⟩
          apply Attempt.Meets.bind
          apply Attempt.Meets.ofExcept
          rw [valid]
          apply Attempt.Meets.bind
          apply (sameConnection again).imp
          rintro _ again ⟨rfl, rfl⟩
          apply Attempt.Meets.bind
          rw [← unchanged] at version kept
          apply (sameSession again version (kept there)).imp
          rintro _ _ ⟨rfl, rfl⟩
          apply (repeated again unchanged).imp
          rintro next _ ⟨confirms, rfl⟩
          exact ⟨confirms, rfl, rfl⟩

/-- Nothing is left to do for a resource that agreed, in any world with such a server. -/
def FindsNothing (resource : ManagedResource) (environment : Environment) (inNamespace : String)
    (message : Option String) (server : ServerState) : Prop :=
  ∀ again : World, again.server = server →
    (resource.evaluate inNamespace).Meets environment.reliable again fun next last =>
      next.Confirms message ∧ last.server = again.server ∧ last.statuses = again.statuses

theorem evaluate_meets (resource : ManagedResource) (inNamespace : String) (world : World) :
    (resource.evaluate inNamespace).Meets environment.unreliable world fun outcome after =>
      ∀ message, outcome.Agrees message →
        after.statuses = world.statuses ∧
          resource.FindsNothing environment inNamespace message after.server := by
  apply Program.Meets.bind
  apply Program.Meets.imp (resource.attemptConvergence_meets inNamespace world)
  intro result after holds
  cases result with
  | error failure =>
      rintro message (agrees | agrees)
      · exact nomatch agrees
      · exact nomatch agrees
  | ok outcome =>
      intro message agrees
      obtain ⟨statuses, repeated⟩ := holds message agrees
      refine ⟨statuses, fun again unchanged => ?_⟩
      apply Program.Meets.bind
      apply Program.Meets.imp (repeated again unchanged)
      intro result last holds
      cases result with
      | ok next => exact holds
      | error failure => exact holds.elim

/-! ## The status that is stored -/

def withStored (resource : ManagedResource) (status : Option Status)
    (resourceVersion : Option String) : ManagedResource :=
  { resource with
    status := status
    metadata := { resource.metadata with resourceVersion := resourceVersion } }

/-- A pass over the resource with the status that is stored in a world, in whatever version, is
to be repeated after the regular interval, and changes neither the server nor a status. -/
def IsSettled (resource : ManagedResource) (environment : Environment) (inNamespace : String)
    (after : World) : Prop :=
  ∀ resourceVersion, ∀ again : World, again.server = after.server →
    ((resource.withStored (after.statuses (resource.target inNamespace))
        resourceVersion).keep inNamespace).Meets environment.reliable again fun next last =>
      next.requeue = .after resyncInterval ∧ last.server = again.server ∧
        last.statuses = again.statuses

theorem errorRequeue_ne_resyncInterval (kind : ManagedKind) :
    kind.errorRequeue ≠ resyncInterval := by
  cases kind <;> decide

/-- A pass that finds nothing to do and says nothing new about the resource writes nothing. -/
theorem keep_of_quiet {resource : ManagedResource} {inNamespace : String}
    {message : Option String} {again : World}
    (finalizer : resource.metadata.hasFinalizer = true)
    (quiet : ∀ next later, next.Confirms message →
      (transition resource.status (resource.probed later) next
        resource.declaration.kind.errorRequeue later).status = none)
    (repeated : (resource.evaluate inNamespace).Meets environment.reliable again fun next last =>
      next.Confirms message ∧ last.server = again.server ∧ last.statuses = again.statuses) :
    (resource.keep inNamespace).Meets environment.reliable again fun next last =>
      next.requeue = .after resyncInterval ∧ last.server = again.server ∧
        last.statuses = again.statuses := by
  rw [keep, if_pos finalizer]
  apply Attempt.Meets.bind
  apply Attempt.Meets.lift
  apply Program.Meets.ask
  · exact ⟨rfl, .ofSeconds 0, again, rfl⟩
  rintro later again rfl
  apply Attempt.Meets.bind
  apply Attempt.Meets.lift
  apply Program.Meets.imp repeated
  rintro next last ⟨confirms, server, statuses⟩
  dsimp only
  rw [quiet next later confirms]
  refine Attempt.Meets.pure ⟨?_, server, statuses⟩
  rcases confirms with rfl | rfl
  · rfl
  · rfl

/-- A resource that agreed is settled once the status of that outcome is stored. -/
theorem isSettled_of_agrees {resource : ManagedResource} {inNamespace : String}
    {outcome : Outcome} {message : Option String} {now : Instant} {after : World}
    (finalizer : resource.metadata.hasFinalizer = true) (agrees : outcome.Agrees message)
    (repeated : resource.FindsNothing environment inNamespace message after.server)
    (status : after.statuses (resource.target inNamespace) =
      (transition resource.status (resource.probed now) outcome
        resource.declaration.kind.errorRequeue now).stored resource.status) :
    resource.IsSettled environment inNamespace after := by
  intro resourceVersion again unchanged
  rw [status]
  apply keep_of_quiet
  · exact finalizer
  · exact fun next later confirms => status_transition_again agrees confirms
  · exact repeated again unchanged

/-- A pass that is to be repeated after the regular interval settles the resource. -/
theorem keep_meets (resource : ManagedResource) (inNamespace : String) (world : World)
    (finalizer : resource.metadata.hasFinalizer = true)
    (stored : world.statuses (resource.target inNamespace) = resource.status) :
    (resource.keep inNamespace).Meets environment.unreliable world fun pass after =>
      pass.requeue = .after resyncInterval →
        resource.IsSettled environment inNamespace after := by
  rw [keep, if_pos finalizer]
  apply Attempt.Meets.bind
  apply Attempt.Meets.lift
  apply Program.Meets.ask trivial
  rintro now world (rfl | isRefused)
  · apply Attempt.Meets.bind
    apply Attempt.Meets.lift
    apply Program.Meets.imp (resource.evaluate_meets inNamespace world)
    intro outcome between holds
    -- Whether a status was written or not, what is stored then is that of the outcome.
    have settled : ∀ after : World, after.server = between.server →
        (∀ message, outcome.Agrees message →
          after.statuses (resource.target inNamespace) =
            (transition resource.status (resource.probed now) outcome
              resource.declaration.kind.errorRequeue now).stored resource.status) →
          Requeue.after (outcome.requeueAfter resource.declaration.kind.errorRequeue) =
              .after resyncInterval →
            resource.IsSettled environment inNamespace after := by
      intro after server status regular
      obtain ⟨message, agrees⟩ :=
        (Outcome.requeueAfter_eq_resyncInterval_iff (errorRequeue_ne_resyncInterval _)).mp
          (Requeue.after.inj regular)
      have repeated := (holds message agrees).2
      rw [← server] at repeated
      exact isSettled_of_agrees finalizer agrees repeated (status message agrees)
    dsimp only
    cases written : (transition resource.status (resource.probed now) outcome
        resource.declaration.kind.errorRequeue now).status with
    | none =>
        apply Attempt.Meets.pure
        apply settled between rfl
        intro message agrees
        rw [Transition.stored, written, Option.none_or, (holds message agrees).1]
        exact stored
    | some status =>
        apply Attempt.Meets.bind
        apply Attempt.Meets.ask_served environment.unreliable_serves
          (.writeStatus (resource.target inNamespace) status) fun answer => answer
        · trivial
        · exact Request.exists_fault fun _ => id
        · rintro answer after ⟨rfl, rfl⟩
          apply Attempt.Meets.pure
          apply settled (between.withStatus (resource.target inNamespace) status) rfl
          intro message agrees
          rw [Transition.stored, written, Option.some_or]
          exact if_pos rfl
  · exact isRefused.elim

/-! ## Passes that are counted -/

theorem run_reconcile {resource : ManagedResource} {inNamespace : String}
    (named : resource.metadata.inNamespace = some inNamespace)
    (staying : resource.metadata.isDeleting = false) :
    resource.reconcile.run = (do
      let result ← (resource.keep inNamespace).run
      Program.ask (.count (resource.labels inNamespace) (countsAsFailed result))
      pure (result.map Pass.requeue)) := by
  have kept : resource.pass inNamespace = resource.keep inNamespace := by
    rw [pass, staying]
    rfl
  rw [reconcile, named, ← kept]
  rfl

theorem reconcile_meets (resource : ManagedResource) {inNamespace : String} (world : World)
    (named : resource.metadata.inNamespace = some inNamespace)
    (finalizer : resource.metadata.hasFinalizer = true)
    (staying : resource.metadata.isDeleting = false)
    (stored : world.statuses (resource.target inNamespace) = resource.status) :
    resource.reconcile.run.Meets environment.unreliable world fun result after =>
      result = .ok (.after resyncInterval) →
        ∀ resourceVersion, ∀ again : World, again.server = after.server →
          (resource.withStored (after.statuses (resource.target inNamespace))
              resourceVersion).reconcile.run.Meets environment.reliable again
            fun next last =>
              next = .ok (.after resyncInterval) ∧ last.server = again.server ∧
                last.statuses = again.statuses := by
  rw [run_reconcile named staying]
  apply Program.Meets.bind
  apply Program.Meets.imp (resource.keep_meets inNamespace world finalizer stored)
  intro result after holds
  apply Program.Meets.bind
  apply Program.Meets.ask trivial
  rintro _ after (rfl | isRefused)
  · cases result with
    | error failure => exact fun regular => nomatch regular
    | ok pass =>
        intro regular resourceVersion again unchanged
        have repeated := holds (Except.ok.inj regular) resourceVersion again unchanged
        rw [run_reconcile (by exact named) (by exact staying)]
        apply Program.Meets.bind
        apply Program.Meets.imp repeated
        intro result last holds
        apply Program.Meets.bind
        apply Program.Meets.ask
        · exact ⟨rfl, (), last, rfl⟩
        rintro _ last rfl
        cases result with
        | error failure => exact holds.elim
        | ok next => exact ⟨congrArg Except.ok holds.1, holds.2⟩
  · exact isRefused.elim

/-! ## Fixed points -/

/-- One pass that ends with the server agreeing reaches a fixed point. Of a resource that has the
finalizer and is to stay, whatever it declares, whatever its status and the state of the server,
and whatever was refused on the way: if a pass over it is to be repeated after the regular
interval, as only one is that found or made the server agree, then the next pass, over the
resource with the status that is stored, at any time and in any session, comes to an end,
executes nothing, writes nothing, and is to be repeated after the regular interval again. -/
theorem reconcile_settles {resource : ManagedResource} {inNamespace : String}
    {before after later : World} {requests : List Request}
    (named : resource.metadata.inNamespace = some inNamespace)
    (finalizer : resource.metadata.hasFinalizer = true)
    (staying : resource.metadata.isDeleting = false)
    (stored : before.statuses (resource.target inNamespace) = resource.status)
    (run : resource.reconcile.run.Runs environment.unreliable.answers before requests
      (.ok (.after resyncInterval)) after)
    (sameServer : later.server = after.server)
    (sameStatus : later.statuses (resource.target inNamespace) =
      after.statuses (resource.target inNamespace))
    (resourceVersion : Option String) :
    let next := resource.withStored (later.statuses (resource.target inNamespace)) resourceVersion
    (∃ requests result last,
        next.reconcile.run.Runs environment.reliable.answers later requests result last) ∧
      ∀ requests result last,
        next.reconcile.run.Runs environment.reliable.answers later requests result last →
          result = .ok (.after resyncInterval) ∧
            (∀ request ∈ requests, request.isWrite = false) ∧
              last.server = later.server ∧ last.statuses = later.statuses := by
  intro next
  have meets : next.reconcile.run.Meets environment.reliable later fun result last =>
      result = .ok (.after resyncInterval) ∧ last.server = later.server ∧
        last.statuses = later.statuses := by
    have settled := (resource.reconcile_meets before named finalizer staying stored).of_runs run
    rw [show next = resource.withStored (after.statuses (resource.target inNamespace))
      resourceVersion from sameStatus ▸ rfl]
    exact settled rfl resourceVersion later sameServer
  refine ⟨meets.exists_run fun _ _ admitted => admitted.2, ?_⟩
  intro requests result last again
  obtain ⟨regular, server, statuses⟩ := meets.of_runs again
  refine ⟨regular, fun request made => ?_, server, statuses⟩
  obtain ⟨_, admitted⟩ := meets.admits_of_runs again made
  exact admitted.1

private def inventory : ManagedResource where
  metadata :=
    ⟨some "inventory", none, some "shop", some 1, some "7", [CatalogSteward.finalizer], none⟩
  declaration := .database ⟨⟨"main", none⟩, "inventory", none, .retain⟩
  status := none

private def shop : Environment where
  connection := fun _ _ => some
    ⟨⟨some "main", none, some "shop", none, none, [], none⟩,
      ⟨"db", 5432, "postgres", ⟨"admin", none⟩, []⟩,
      some ⟨"", .ready, none, none, none, none⟩⟩
  secret := fun _ _ => some
    ⟨⟨some "admin", none, some "shop", none, none, [], none⟩, some basicAuthType,
      some [("password", [])]⟩
  file := fun _ => .error ""

private def fresh : ServerState where
  version := "170000"
  databases := fun name => if name = "postgres" then some "postgres" else none
  schemas := fun _ _ => none
  relations := fun _ _ => ∅
  roles := fun _ => none
  access := fun _ _ => ∅
  defaults := fun _ _ _ _ => ∅
  apart := fun _ _ none => nomatch none

private def stocked : ServerState :=
  { fresh with databases := entered fresh.databases "inventory" (some "postgres") }

private def opening : World := ⟨fun _ => none, fresh, none⟩

private theorem executes_create :
    (Command.createDatabase "inventory").Executes "postgres" "postgres" fresh stocked where
  possible := rfl
  version := rfl
  databases := rfl
  schemas := rfl
  relations := rfl
  roles := fun _ => rfl
  access := rfl
  defaults := fun _ _ _ _ => rfl

private theorem exists_run_call
    {answers : World → (request : Request) → request.Answer → World → Prop} {α : Type}
    {before : World} {request : Request} {next : request.Answer → Program α} {value : α}
    (answer : request.Answer) (between : World) (answered : answers before request answer between)
    (others : ∃ requests after, (next answer).Runs answers between requests value after) :
    ∃ requests after, Program.Runs answers before (.call request next) requests value after := by
  obtain ⟨requests, after, run⟩ := others
  exact ⟨_, _, .call answered run⟩

private theorem exists_run_inventory :
    ∃ requests after,
      inventory.reconcile.run.Runs shop.unreliable.answers opening requests
        (.ok (.after resyncInterval)) after := by
  apply exists_run_call (show Request.now.Answer from Instant.ofSeconds 0) _ (.inl rfl)
  apply exists_run_call _ _ (.inl ⟨rfl, rfl⟩)
  apply exists_run_call _ _ (.inl ⟨rfl, rfl⟩)
  apply exists_run_call _ _ (.inl ⟨rfl, rfl, rfl⟩)
  apply exists_run_call _ _ (.inl ⟨_, _, rfl, rfl, rfl, rfl⟩)
  apply exists_run_call _ _ (.inl ⟨_, _, rfl, rfl, rfl, rfl⟩)
  apply exists_run_call _ _ (.inl ⟨_, _, rfl, executes_create, rfl, rfl⟩)
  apply exists_run_call _ _ (.inl ⟨rfl, rfl⟩)
  refine exists_run_call ?_ _ (.inl rfl) ⟨_, _, .done _ _⟩
  exact ()

theorem reconcile_settles_inventory :
    ∃ requests after,
      (inventory.metadata.inNamespace = some "shop" ∧
          inventory.metadata.hasFinalizer = true ∧ inventory.metadata.isDeleting = false ∧
            opening.statuses (inventory.target "shop") = inventory.status ∧
              inventory.reconcile.run.Runs shop.unreliable.answers opening requests
                (.ok (.after resyncInterval)) after) ∧
        ∀ resourceVersion requests result last,
          (inventory.withStored (after.statuses (inventory.target "shop"))
                resourceVersion).reconcile.run.Runs shop.reliable.answers after requests result
              last →
            ∀ request ∈ requests, request.isWrite = false := by
  obtain ⟨requests, after, run⟩ := exists_run_inventory
  refine ⟨requests, after, ⟨rfl, by decide, rfl, rfl, run⟩, ?_⟩
  intro resourceVersion again result last runAgain
  exact ((reconcile_settles rfl (by decide) rfl rfl run rfl rfl resourceVersion).2 again result
    last runAgain).2.1

end ManagedResource

end CatalogSteward
