import CatalogSteward.Proofs.Reconcile.Asked
import CatalogSteward.Proofs.Reconcile.Outcome

/-!
# Statuses that are not written

A status that reports nothing new is not written, and later steps read what is
stored back. A resource whose every status is written is reported in the same
way all the time: only when it was last looked at differs.
-/

set_option autoImplicit false

namespace CatalogSteward

open Time

/-! ## Steps -/

/-- What happens to the status of a resource: it is reconciled, its deletion is noted, or a
cleanup fails. -/
inductive StatusStep where
  | reconciled (name : String) (generation : Option Int64) (now : Instant) (outcome : Outcome)
      (errorRequeue : Nat)
  | deletionNoted (name : String) (generation : Option Int64) (now : Instant) (kind : String)
      (drops : Bool)
  | cleanupFailed (name : String) (generation : Option Int64) (now : Instant) (message : String)
  deriving DecidableEq, Repr

namespace StatusStep

def name : StatusStep → String
  | .reconciled name .. | .deletionNoted name .. | .cleanupFailed name .. => name

def generation : StatusStep → Option Int64
  | .reconciled _ generation .. | .deletionNoted _ generation .. |
    .cleanupFailed _ generation .. => generation

/-- When the step is taken. -/
def moment : StatusStep → Instant
  | .reconciled _ _ now .. | .deletionNoted _ _ now .. | .cleanupFailed _ _ now _ => now

/-- The phase that a step comes to. -/
def phase : StatusStep → Phase
  | .reconciled _ _ _ (.converged _) _ | .reconciled _ _ _ (.applied _) _ => .ready
  | .reconciled _ _ _ (.pending _) _ => .pending
  | .reconciled _ _ _ (.failed _) _ => .error
  | .deletionNoted .. | .cleanupFailed .. => .deleting

/-- The message that a step comes to. If it has none of its own, that of the stored status stays
where the resource was ready already, or where its deletion is noted. -/
def message (stored : Option Status) : StatusStep → Option String
  | .reconciled _ _ _ (.converged (some message)) _ => some message
  | .reconciled _ _ _ (.converged none) _ =>
      if stored.map Status.phase = some .ready then stored.bind Status.message else none
  | .reconciled _ _ _ (.applied message) _ => message
  | .reconciled _ _ _ (.pending message) _ | .reconciled _ _ _ (.failed message) _ => some message
  | .deletionNoted _ _ _ kind true => some (kind ++ " deletion in progress")
  | .deletionNoted _ _ _ _ false => stored.bind Status.message
  | .cleanupFailed _ _ _ message => some message

/-- The status that is computed from the stored one. -/
def computed (stored : Option Status) : StatusStep → Status
  | .reconciled name generation now outcome _ =>
      outcome.statusAfter (.probe stored name generation now) now
  | .deletionNoted name generation now kind drops =>
      markDeleting (.probe stored name generation now) kind drops now
  | .cleanupFailed name generation now message =>
      ((Status.probe stored name generation now).setPhase .deleting now).setMessage (some message)

/-- The status that is written, if any: that of a deletion that is noted always is. -/
def written (stored : Option Status) : StatusStep → Option Status
  | .reconciled name generation now outcome errorRequeue =>
      (transition stored (.probe stored name generation now) outcome errorRequeue now).status
  | .deletionNoted name generation now kind drops =>
      some (markDeleting (.probe stored name generation now) kind drops now)
  | .cleanupFailed name generation now message =>
      let status :=
        ((Status.probe stored name generation now).setPhase .deleting now).setMessage (some message)
      if Status.isUnchanged stored status then none else some status

/-- Seconds until the resource is looked at again. -/
def requeue (stored : Option Status) : StatusStep → Nat
  | .reconciled name generation now outcome errorRequeue =>
      (transition stored (.probe stored name generation now) outcome errorRequeue now).requeue
  | .deletionNoted _ _ _ _ _ => followUpInterval
  | .cleanupFailed _ _ _ _ => cleanupInterval

/-- What is stored after a step that writes a status only if it reports something new. -/
def storeNews (stored : Option Status) (step : StatusStep) : Option Status :=
  (step.written stored).or stored

/-- What is stored after a step that writes every status. -/
def storeAlways (stored : Option Status) (step : StatusStep) : Option Status :=
  some (step.computed stored)

/-- What is stored after each of the steps, and the seconds until the next one. -/
def course (store : Option Status → StatusStep → Option Status) (stored : Option Status) :
    List StatusStep → List (Option Status × Nat)
  | [] => []
  | step :: rest =>
      (store stored step, step.requeue stored) :: course store (store stored step) rest

end StatusStep

/-! ## Passes are steps -/

section Passes

variable {resource : ManagedResource} {inNamespace : String}

private theorem ne_writeStatus_of_isRecord {request : Request} (noRecord : request.isRecord = false)
    (target : Target) (status : Status) : request ≠ .writeStatus target status := by
  intro same
  rw [same] at noRecord
  exact nomatch noRecord

/-- Every pass either leaves the status alone, or takes one step: it ends by writing the status of
that step, if there is one to write, and is repeated when the step says. -/
theorem ManagedResource.Course.statusStep {interactions : List Interaction}
    {passed : Except Failure Pass} (course : resource.Course inNamespace interactions passed) :
    (∀ interaction ∈ interactions, ∀ target status,
        interaction.request ≠ .writeStatus target status) ∨
      ∃ (step : StatusStep) (before writes : List Interaction) (written : Except Failure Unit)
          (failed : Bool),
        interactions = before ++ writes ∧
          (∀ interaction ∈ before, interaction.request.isRecord = false) ∧
            StatusWrite (resource.target inNamespace) (step.written resource.status) writes
                written ∧
              passed =
                Pass.afterWrite ⟨.after (step.requeue resource.status), failed⟩ written := by
  let name := resource.declaration.displayName
  let generation := resource.metadata.generation
  let kind := resource.declaration.kind
  cases course with
  | enrolled =>
      left
      intro interaction member target status same
      rw [List.mem_singleton.mp member] at same
      exact nomatch same
  | ignored =>
      left
      intro interaction member
      exact absurd member List.not_mem_nil
  | released =>
      left
      intro interaction member target status same
      cases List.mem_cons.mp member with
      | inl clock =>
          rw [clock] at same
          exact nomatch same
      | inr last =>
          rw [List.mem_singleton.mp last] at same
          exact nomatch same
  | dropped leaving finalizer step now attempt =>
      left
      intro interaction member target status same
      rw [← List.cons_append] at member
      cases List.mem_append.mp member with
      | inl before =>
          exact ne_writeStatus_of_isRecord
            ((resource.attemptCleanup_asks _).noRecord attempt _ before) target status same
      | inr last =>
          rw [List.mem_singleton.mp last] at same
          exact nomatch same
  | @kept staying finalizer now work writes attempted written attempt write =>
      exact .inr ⟨.reconciled name generation now (outcomeOf attempted) kind.errorRequeue,
        ⟨.now, now⟩ :: work, writes, written, (outcomeOf attempted).isFailure, rfl,
        (resource.attemptConvergence_asks _).noRecord attempt, write, rfl⟩
  | @noted leaving finalizer step now writes written write =>
      refine .inr ⟨.deletionNoted name generation now kind.name resource.declaration.dropsOnDelete,
        [⟨.now, now⟩], writes, written, false, rfl, ?_, write, rfl⟩
      intro interaction member
      exact List.mem_singleton.mp member ▸ rfl
  | @obstructed leaving finalizer step now work writes attempted message written attempt obstacle
      write =>
      exact .inr ⟨.cleanupFailed name generation now message, ⟨.now, now⟩ :: work, writes, written,
        true, rfl, (resource.attemptCleanup_asks _).noRecord attempt, write, rfl⟩

end Passes

/-! ## Statuses apart from the last look -/

namespace Status

/-- All of a status but when the resource was last looked at. -/
def apartFromProbe (status : Status) : Status :=
  { status with lastProbeTime := none }

variable {status : Status} {phase : Phase} {now : Instant}

theorem apartFromProbe_setPhase :
    (status.setPhase phase now).apartFromProbe = status.apartFromProbe.setPhase phase now := by
  rw [setPhase, setPhase]
  split
  · next moved => exact (if_pos moved).symm
  · next kept => exact (if_neg kept).symm

theorem setPhase_timed (timed : status.lastPhaseTransitionTime.isSome = true) :
    (status.setPhase phase now).lastPhaseTransitionTime.isSome = true := by
  rw [setPhase]
  split
  · rfl
  · exact timed

/-- The transition time stays where the phase does, unless there was none. -/
theorem setPhase_time (timed : status.lastPhaseTransitionTime.isSome = true)
    (same : phase = status.phase) :
    (status.setPhase phase now).lastPhaseTransitionTime = status.lastPhaseTransitionTime := by
  rw [setPhase, if_neg]
  intro moved
  cases moved with
  | inl other => exact other same.symm
  | inr none =>
      rw [none] at timed
      cases timed

end Status

theorem Outcome.apartFromProbe_statusAfter {outcome : Outcome} {probed : Status} {now : Instant} :
    (outcome.statusAfter probed now).apartFromProbe =
      outcome.statusAfter probed.apartFromProbe now := by
  cases outcome with
  | converged message =>
      cases message with
      | none => exact congrArg (Status.setMessage · _) Status.apartFromProbe_setPhase
      | some text => exact congrArg (Status.setMessage · _) Status.apartFromProbe_setPhase
  | applied message | pending message | failed message =>
      exact congrArg (Status.setMessage · _) Status.apartFromProbe_setPhase

theorem apartFromProbe_markDeleting {status : Status} {kind : String} {drops : Bool}
    {now : Instant} :
    (markDeleting status kind drops now).apartFromProbe =
      markDeleting status.apartFromProbe kind drops now := by
  cases drops with
  | true => exact congrArg (Status.setMessage · _) Status.apartFromProbe_setPhase
  | false => exact Status.apartFromProbe_setPhase

namespace StatusStep

variable {step : StatusStep} {status : Status} {stored news always : Option Status}

/-- What is computed does not depend on when the resource was last looked at before. -/
theorem apartFromProbe_computed :
    (step.computed (some status)).apartFromProbe =
      (step.computed (some status.apartFromProbe)).apartFromProbe := by
  cases step with
  | reconciled name generation now outcome errorRequeue =>
      rw [computed, computed, Outcome.apartFromProbe_statusAfter,
        Outcome.apartFromProbe_statusAfter]
      rfl
  | deletionNoted name generation now kind drops =>
      rw [computed, computed, apartFromProbe_markDeleting, apartFromProbe_markDeleting]
      rfl
  | cleanupFailed name generation now message =>
      have same : ∀ before : Status,
          ((before.setPhase .deleting now).setMessage (some message)).apartFromProbe =
            (before.apartFromProbe.setPhase .deleting now).setMessage (some message) :=
        fun _ => congrArg (Status.setMessage · _) Status.apartFromProbe_setPhase
      rw [computed, computed, same, same]
      rfl

/-- Every step sets its phase and its message of the status that was stored, after it was
probed. -/
theorem computed_eq (step : StatusStep) (stored : Option Status) :
    step.computed stored =
      ((Status.probe stored step.name step.generation step.moment).setPhase step.phase
        step.moment).setMessage (step.message stored) := by
  cases step with
  | reconciled name generation now outcome errorRequeue =>
      cases outcome with
      | converged message =>
          cases message with
          | some text => rfl
          | none =>
              cases stored with
              | none => rfl
              | some status =>
                  simp only [computed, Outcome.statusAfter, message, Option.map_some,
                    Option.some.injEq, Option.bind_some]
                  rfl
      | applied message | pending message | failed message => rfl
  | deletionNoted name generation now kind drops =>
      cases drops with
      | true => rfl
      | false =>
          have kept : ∀ (status : Status) (phase : Phase),
              status.setPhase phase now =
                (status.setPhase phase now).setMessage status.message := by
            intro status phase
            rw [Status.setPhase]
            split <;> rfl
          cases stored with
          | none => exact kept (.probe none name generation now) .deleting
          | some status => exact kept (.probe (some status) name generation now) .deleting
  | cleanupFailed name generation now message => rfl

theorem computed_timed
    (timed : ∀ status, stored = some status → status.lastPhaseTransitionTime.isSome = true) :
    (step.computed stored).lastPhaseTransitionTime.isSome = true := by
  rw [computed_eq]
  apply Status.setPhase_timed
  cases stored with
  | none => rfl
  | some status => exact timed status rfl

/-- What would report nothing new is what is stored, apart from the last look. -/
theorem apartFromProbe_of_isUnchanged (timed : status.lastPhaseTransitionTime.isSome = true)
    (unchanged : Status.isUnchanged (some status) (step.computed (some status)) = true) :
    status.apartFromProbe = (step.computed (some status)).apartFromProbe := by
  rw [Status.isUnchanged_some_iff] at unchanged
  rw [computed_eq] at unchanged ⊢
  simp only [Status.report, Status.setMessage, Status.setPhase_phase, Status.setPhase_name,
    Status.setPhase_observedGeneration, Prod.mk.injEq] at unchanged
  obtain ⟨samePhase, sameMessage, sameName, sameGeneration⟩ := unchanged
  have sameTime :
      ((Status.probe (some status) step.name step.generation step.moment).setPhase step.phase
          step.moment).lastPhaseTransitionTime =
        status.lastPhaseTransitionTime := Status.setPhase_time timed samePhase.symm
  simp only [Status.apartFromProbe, Status.setMessage, Status.mk.injEq, Status.setPhase_phase,
    Status.setPhase_name, Status.setPhase_observedGeneration, true_and]
  exact ⟨sameName, samePhase, sameMessage, sameTime.symm, sameGeneration⟩

/-! ## Two ways of storing -/

theorem storeNews_eq (stored : Option Status) (step : StatusStep) :
    storeNews stored step = some (step.computed stored) ∨
      Status.isUnchanged stored (step.computed stored) = true ∧ storeNews stored step = stored := by
  have skipping : ∀ next : Status,
      (if Status.isUnchanged stored next then none else some next).or stored = some next ∨
        Status.isUnchanged stored next = true ∧
          (if Status.isUnchanged stored next then none else some next).or stored = stored := by
    intro next
    cases unchanged : Status.isUnchanged stored next with
    | true => exact .inr ⟨rfl, rfl⟩
    | false => exact .inl rfl
  cases step with
  | reconciled => exact skipping _
  | deletionNoted => exact .inl rfl
  | cleanupFailed => exact skipping _

/-- The status that is stored if only news are written, and the one that is stored if every status
is: they say the same, apart from the last look, and the first has a transition time. -/
structure Agree (news always : Option Status) : Prop where
  same : news.map Status.apartFromProbe = always.map Status.apartFromProbe
  timed : ∀ status, news = some status → status.lastPhaseTransitionTime.isSome = true

theorem Agree.computed (agree : Agree news always) (step : StatusStep) :
    (step.computed news).apartFromProbe = (step.computed always).apartFromProbe := by
  have same := agree.same
  cases news with
  | none =>
      cases always with
      | none => rfl
      | some status => exact nomatch same
  | some status =>
      cases always with
      | none => exact nomatch same
      | some other =>
          rw [apartFromProbe_computed, Option.some.inj same, ← apartFromProbe_computed]

/-- After one more step, the two ways of storing a status still agree. -/
theorem Agree.next (agree : Agree news always) (step : StatusStep) :
    Agree (storeNews news step) (storeAlways always step) := by
  cases storeNews_eq news step with
  | inl written =>
      rw [written]
      refine ⟨congrArg some (agree.computed step), fun status same => ?_⟩
      cases same
      exact computed_timed agree.timed
  | inr skipped =>
      obtain ⟨unchanged, kept⟩ := skipped
      cases stored : news with
      | none =>
          rw [stored] at unchanged
          exact nomatch unchanged
      | some status =>
          rw [stored] at unchanged kept agree
          -- What is kept has a transition time, so the step that was skipped did not move it.
          rw [kept]
          refine ⟨?_, agree.timed⟩
          have same := apartFromProbe_of_isUnchanged (agree.timed status rfl) unchanged
          exact congrArg some (same.trans (agree.computed step))

theorem requeue_eq (step : StatusStep) (stored other : Option Status) :
    step.requeue stored = step.requeue other := by
  cases step with
  | reconciled | deletionNoted | cleanupFailed => rfl

/-- All that can be told from what is stored after a step but when the resource was last looked
at, and the seconds until the next step. -/
def told (entry : Option Status × Nat) : Option Status × Nat :=
  (entry.1.map Status.apartFromProbe, entry.2)

theorem Agree.course (agree : Agree news always) (steps : List StatusStep) :
    (course storeNews news steps).map told = (course storeAlways always steps).map told := by
  induction steps generalizing news always with
  | nil => rfl
  | cons step rest ih =>
      have next := agree.next step
      simp only [StatusStep.course, List.map_cons, told, next.same, step.requeue_eq news always,
        ih next]

/-- A resource that starts without a status is reported in the same way after each step, whether
only news are written or every status is: phase, message, name, generation and transition time
agree, and so do the seconds until the next step. -/
theorem skipping_loses_nothing (steps : List StatusStep) :
    (course storeNews none steps).map told = (course storeAlways none steps).map told := by
  have start : Agree none none := ⟨rfl, fun _ impossible => nomatch impossible⟩
  exact start.course steps

/-! A resource that agrees twice: the second look is not stored. -/

private def looks : List StatusStep :=
  [.reconciled "app" none (.ofSeconds 0) (.converged none) 60,
    .reconciled "app" none (.ofSeconds 300) (.converged none) 60]

example : course storeNews none looks ≠ course storeAlways none looks := by decide +kernel

end StatusStep

end CatalogSteward
