import CatalogSteward.Proofs.Reconcile.Bookkeeping
import CatalogSteward.Proofs.Reconcile.History

/-!
# Statuses that say the same again

Every status that is written is seen by whoever watches the resource and leads to
another pass. A step that comes to what the step before it came to therefore writes
none: what is stored reports it already, whether that step wrote it or found it.
-/

set_option autoImplicit false

namespace CatalogSteward

open Time

namespace StatusStep

/-! ## Repeated steps -/

/-- A step says again what an earlier one said about the same name and generation: it has the same
outcome, it finds nothing to do where the server agreed, or a cleanup fails with the same message.
When that is, and how long the resource is left alone then, does not matter. -/
inductive Repeats : StatusStep → StatusStep → Prop where
  | outcome (name : String) (generation : Option Int64) (now later : Instant) (outcome : Outcome)
      (delay laterDelay : Nat) :
      Repeats (.reconciled name generation later outcome laterDelay)
        (.reconciled name generation now outcome delay)
  | agreement {outcome : Outcome} {message : Option String} (agrees : outcome.Agrees message)
      (name : String) (generation : Option Int64) (now later : Instant)
      (delay laterDelay : Nat) :
      Repeats (.reconciled name generation later (.converged none) laterDelay)
        (.reconciled name generation now outcome delay)
  | obstacle (name : String) (generation : Option Int64) (now later : Instant)
      (message : String) :
      Repeats (.cleanupFailed name generation later message)
        (.cleanupFailed name generation now message)

/-- The statuses that are written along steps, where only news are. -/
def writes (stored : Option Status) : List StatusStep → List Status
  | [] => []
  | step :: rest => (step.written stored).toList ++ writes (storeNews stored step) rest

variable {step later : StatusStep} {steps : List StatusStep} {stored : Option Status}
  {status : Status}

theorem report_computed (step : StatusStep) (stored : Option Status) :
    (step.computed stored).report =
      (step.phase, step.message stored, step.name,
        Status.latestGeneration (stored.bind Status.observedGeneration) step.generation) := by
  rw [computed_eq]
  simp only [Status.report, Status.setMessage, Status.setPhase_phase, Status.setPhase_name,
    Status.setPhase_observedGeneration]
  cases stored with
  | none => rfl
  | some status => rfl

/-- After a step some status is stored that reports what the step came to, whether the step wrote
it or it was there before. -/
theorem exists_storeNews (stored : Option Status) (step : StatusStep) :
    ∃ status, storeNews stored step = some status ∧
      status.report = (step.computed stored).report := by
  rcases storeNews_eq stored step with written | ⟨unchanged, kept⟩
  · exact ⟨_, written, rfl⟩
  · cases stored with
    | none => cases unchanged
    | some status => exact ⟨status, kept, Status.isUnchanged_some_iff.mp unchanged⟩

namespace Repeats

theorem phase_eq (repeats : later.Repeats step) : later.phase = step.phase := by
  cases repeats with
  | outcome name generation now later outcome => cases outcome <;> rfl
  | agreement agrees => rcases agrees with rfl | rfl <;> rfl
  | obstacle => rfl

theorem name_eq (repeats : later.Repeats step) : later.name = step.name := by
  cases repeats <;> rfl

theorem generation_eq (repeats : later.Repeats step) : later.generation = step.generation := by
  cases repeats <;> rfl

/-- A repeated step has the message that the earlier one left, or it has none of its own and keeps
what is stored. -/
theorem message_eq (repeats : later.Repeats step) (phase : status.phase = step.phase)
    (message : status.message = step.message stored) :
    later.message (some status) = status.message := by
  -- Only a pass that finds nothing to do keeps a message, and only of a resource that is ready.
  have kept : status.phase = .ready →
      (if (some status).map Status.phase = some .ready then (some status).bind Status.message
        else none) = status.message := by
    intro ready
    simp [ready]
  cases repeats with
  | outcome name generation now later outcome delay laterDelay =>
      cases outcome with
      | converged own =>
          cases own with
          | none => exact kept phase
          | some text => exact message.symm
      | applied own | pending own | failed own => exact message.symm
  | agreement agrees =>
      rcases agrees with rfl | rfl
      · exact kept phase
      · exact kept phase
  | obstacle => exact message.symm

theorem isUnchanged (repeats : later.Repeats step) (stored : Option Status) :
    Status.isUnchanged (storeNews stored step) (later.computed (storeNews stored step)) =
      true := by
  obtain ⟨status, same, reported⟩ := exists_storeNews stored step
  rw [report_computed] at reported
  have told := reported
  simp only [Status.report, Prod.mk.injEq] at told
  obtain ⟨phase, message, name, generation⟩ := told
  rw [same, Status.isUnchanged_some_iff, report_computed, repeats.phase_eq, repeats.name_eq,
    repeats.generation_eq, repeats.message_eq phase message, reported, message, Option.bind_some,
    generation, Status.latestGeneration_latestGeneration]

theorem written_eq_none (repeats : later.Repeats step) (stored : Option Status) :
    later.written (storeNews stored step) = none := by
  have unchanged := repeats.isUnchanged stored
  cases repeats with
  | outcome | agreement | obstacle => exact if_pos unchanged

end Repeats

/-- Nothing more is written along steps that all repeat the first one. -/
theorem writes_of_repeats (repeats : ∀ later ∈ steps, later.Repeats step) :
    writes stored (step :: steps) = (step.written stored).toList := by
  have silent : writes (storeNews stored step) steps = [] := by
    induction steps with
    | nil => rfl
    | cons later rest ih =>
        have nothing := (repeats later List.mem_cons_self).written_eq_none stored
        have same : storeNews (storeNews stored step) later = storeNews stored step :=
          congrArg (Option.or · _) nothing
        rw [writes, nothing, same]
        exact ih fun other member => repeats other (List.mem_cons_of_mem _ member)
  rw [writes, silent, List.append_nil]

end StatusStep

/-! ## Repeated obstacles -/

namespace ManagedResource

variable {resource kept : ManagedResource} {inNamespace message : String} {now : Instant}
  {interactions : List Interaction} {pass : Pass}

/-- After a cleanup that failed was reported, what is stored is what that step stores. -/
theorem status_of_reportObstacle
    (path : (resource.reportObstacle inNamespace now message).Path interactions (.ok pass))
    (stored : Along Keeps resource interactions kept) :
    kept.status =
      StatusStep.storeNews resource.status
        (.cleanupFailed resource.declaration.displayName resource.metadata.generation now
          message) := by
  obtain ⟨written, write, ended⟩ := path_reportObstacle path
  show kept.status =
    (if Status.isUnchanged resource.status (resource.obstructedStatus message now) then none
      else some (resource.obstructedStatus message now)).or resource.status
  split at write
  · next unchanged =>
      cases write
      rw [Along.nil_iff.mp stored, if_pos unchanged, Option.none_or]
  · next changed =>
      rw [if_neg changed]
      cases write with
      | made status answer =>
          rcases Along.singleton_iff.mp stored with made | ⟨⟨fault, refused⟩, -⟩
          · rw [made]
            rfl
          · subst refused
            cases ended

/-- Whatever a resource is reported as, its status is written at most once along passes that come
to the same, at any times: a second pass with the same outcome, or one that finds nothing to do
after the server agreed, writes none; and neither does the report of a cleanup that failed with the
message, name and generation that were reported before. -/
theorem repetition_is_written_once :
    (∀ (stored : Option Status) (step : StatusStep) (steps : List StatusStep),
        (∀ later ∈ steps, later.Repeats step) →
          StatusStep.writes stored (step :: steps) = (step.written stored).toList) ∧
      (∀ (previous : Option Status) (name : String) (generation : Option Int64)
        (outcome : Outcome) (delay laterDelay : Nat) (now later : Instant),
        let stored :=
          (transition previous (.probe previous name generation now) outcome delay now).stored
            previous
        (transition stored (.probe stored name generation later) outcome laterDelay later).status =
            none ∧
          ((∃ text, outcome.Agrees text) →
            (transition stored (.probe stored name generation later) (.converged none) laterDelay
              later).status = none)) ∧
      ∀ (resource kept again : ManagedResource) (inNamespace message : String)
        (now later : Instant) (interactions : List Interaction) (pass : Pass),
        (resource.reportObstacle inNamespace now message).Path interactions (.ok pass) →
          Along Keeps resource interactions kept →
            again.status = kept.status →
              again.declaration.displayName = resource.declaration.displayName →
                again.metadata.generation = resource.metadata.generation →
                  again.reportObstacle inNamespace later message =
                    pure ⟨.after cleanupInterval, true⟩ := by
  refine ⟨fun stored step steps repeats => StatusStep.writes_of_repeats repeats, ?_, ?_⟩
  · intro previous name generation outcome delay laterDelay now later stored
    refine ⟨?_, ?_⟩
    · exact (StatusStep.Repeats.outcome name generation now later outcome delay
        laterDelay).written_eq_none previous
    · rintro ⟨text, agrees⟩
      exact (StatusStep.Repeats.agreement agrees name generation now later delay
        laterDelay).written_eq_none previous
  · intro resource kept again inNamespace message now later interactions pass path along stored
      name generation
    have unchanged := (StatusStep.Repeats.obstacle resource.declaration.displayName
      resource.metadata.generation now later message).isUnchanged resource.status
    rw [← status_of_reportObstacle path along, ← stored, ← name, ← generation] at unchanged
    exact if_pos unchanged

/-! A role whose cleanup is refused twice with the same message, a minute apart. -/

private def dealer : ManagedResource where
  metadata :=
    ⟨some "dealer", none, some "shop", some 3, some "7", [CatalogSteward.finalizer],
      some (.ofSeconds 0)⟩
  declaration := .role ⟨"dealer", none, ⟨"main", none⟩, none, .standard⟩
  status := some ⟨"dealer", .deleting, some "Role deletion in progress", none, none, some 2⟩

private def dealerRefused : String := "Deletion failed: role \"dealer\" cannot be dropped"

private def dealerStaying : ManagedResource :=
  { dealer with status := some (dealer.obstructedStatus dealerRefused (.ofSeconds 60)) }

theorem repetition_is_written_once_of_dealer :
    ((dealer.reportObstacle "shop" (.ofSeconds 60) dealerRefused).Path
          [⟨.writeStatus (dealer.target "shop")
              (dealer.obstructedStatus dealerRefused (.ofSeconds 60)), Except.ok ()⟩]
          (.ok ⟨.after cleanupInterval, true⟩) ∧
        Along Keeps dealer
          [⟨.writeStatus (dealer.target "shop")
              (dealer.obstructedStatus dealerRefused (.ofSeconds 60)), Except.ok ()⟩]
          dealerStaying ∧
        ∃ text, (Outcome.applied (some "Role updated")).Agrees text) ∧
      dealerStaying.reportObstacle "shop" (.ofSeconds 120) dealerRefused =
        pure ⟨.after cleanupInterval, true⟩ := by
  have path : (dealer.reportObstacle "shop" (.ofSeconds 60) dealerRefused).Path
      [⟨.writeStatus (dealer.target "shop")
          (dealer.obstructedStatus dealerRefused (.ofSeconds 60)), Except.ok ()⟩]
      (.ok ⟨.after cleanupInterval, true⟩) := .call (.done _)
  have along : Along Keeps dealer
      [⟨.writeStatus (dealer.target "shop")
          (dealer.obstructedStatus dealerRefused (.ofSeconds 60)), Except.ok ()⟩]
      dealerStaying := Along.singleton_iff.mpr (.inl rfl)
  refine ⟨⟨path, along, ⟨_, .inr rfl⟩⟩, ?_⟩
  exact repetition_is_written_once.2.2 dealer dealerStaying dealerStaying "shop" dealerRefused
    (.ofSeconds 60) (.ofSeconds 120) _ _ path along rfl rfl rfl

end ManagedResource

end CatalogSteward
