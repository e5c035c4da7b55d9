import CatalogSteward.Reconcile.Outcome

/-!
# Statuses after an outcome

A resource that agreed is reported as ready, and a later pass over it that finds
nothing to do reports the same: no status is written.
-/

set_option autoImplicit false

namespace CatalogSteward

open Time

namespace Status

/-- What watchers of a resource are told: all of its status but the times. -/
def report (status : Status) : Phase × Option String × String × Option Int64 :=
  (status.phase, status.message, status.name, status.observedGeneration)

theorem isUnchanged_some_iff {status next : Status} :
    isUnchanged (some status) next = true ↔ status.report = next.report := by
  simp only [isUnchanged, report, Bool.and_eq_true, beq_iff_eq, Prod.mk.injEq, and_assoc]

variable {status : Status} {phase : Phase} {now : Instant}

@[simp] theorem setPhase_phase : (status.setPhase phase now).phase = phase := by
  rw [setPhase]
  split
  · rfl
  · next same =>
      simp only [not_or, ne_eq, Decidable.not_not] at same
      exact same.1

@[simp] theorem setPhase_name : (status.setPhase phase now).name = status.name := by
  rw [setPhase]
  split <;> rfl

@[simp] theorem setPhase_observedGeneration :
    (status.setPhase phase now).observedGeneration = status.observedGeneration := by
  rw [setPhase]
  split <;> rfl

theorem latestGeneration_latestGeneration (observed current : Option Int64) :
    latestGeneration (latestGeneration observed current) current =
      latestGeneration observed current := by
  cases observed with
  | none =>
      cases current with
      | none => rfl
      | some current => simp only [latestGeneration, ite_self]
  | some observed =>
      cases current with
      | none => rfl
      | some current =>
          by_cases less : observed < current
          · simp only [latestGeneration, less, ↓reduceIte, ite_self]
          · simp only [latestGeneration, less, ↓reduceIte]

end Status

/-! ## Outcomes -/

def Outcome.Agrees (outcome : Outcome) (message : Option String) : Prop :=
  outcome = .converged message ∨ outcome = .applied message

theorem Outcome.Agrees.unique {outcome : Outcome} {left right : Option String}
    (agrees : outcome.Agrees left) (same : outcome.Agrees right) : left = right := by
  rcases agrees with rfl | rfl <;> rcases same with same | same <;> cases same <;> rfl

/-- The outcome says that there was nothing to do, with a given message or none. -/
def Outcome.Confirms (outcome : Outcome) (message : Option String) : Prop :=
  outcome = .converged none ∨ outcome = .converged message

/-- The message of a status after an outcome that says that the server agrees. -/
def Outcome.messageAfter (outcome : Outcome) (probed : Status) : Option String :=
  match outcome with
  | .converged none => if probed.phase = .ready then probed.message else none
  | .converged message | .applied message => message
  | .pending message | .failed message => some message

variable {outcome next : Outcome} {message : Option String} {probed : Status}
  {now later : Instant}

theorem Outcome.report_statusAfter (agrees : outcome.Agrees message) :
    (outcome.statusAfter probed now).report =
      (.ready, outcome.messageAfter probed, probed.name, probed.observedGeneration) := by
  rcases agrees with rfl | rfl
  · cases message with
    | none => simp only [statusAfter, Status.report, Status.setMessage, messageAfter,
        Status.setPhase_phase, Status.setPhase_name, Status.setPhase_observedGeneration]
    | some text => simp only [statusAfter, Status.report, Status.setMessage, messageAfter,
        Status.setPhase_phase, Status.setPhase_name, Status.setPhase_observedGeneration]
  · simp only [statusAfter, Status.report, Status.setMessage, messageAfter,
      Status.setPhase_phase, Status.setPhase_name, Status.setPhase_observedGeneration]

theorem Outcome.messageAfter_of_some {text : String} (agrees : outcome.Agrees (some text)) :
    outcome.messageAfter probed = some text := by
  rcases agrees with rfl | rfl
  · rfl
  · rfl

theorem Outcome.requeueAfter_eq_resyncInterval_iff {errorRequeue : Nat}
    (other : errorRequeue ≠ resyncInterval) :
    outcome.requeueAfter errorRequeue = resyncInterval ↔ ∃ message, outcome.Agrees message := by
  cases outcome with
  | converged message => exact ⟨fun _ => ⟨message, .inl rfl⟩, fun _ => rfl⟩
  | applied message => exact ⟨fun _ => ⟨message, .inr rfl⟩, fun _ => rfl⟩
  | pending message =>
      simp only [requeueAfter, pendingInterval, resyncInterval, Agrees, reduceCtorEq, or_self,
        exists_false, Nat.reduceEqDiff]
  | failed message =>
      simp only [requeueAfter, other, Agrees, reduceCtorEq, or_self, exists_false]

def Transition.stored (transition : Transition) (previous : Option Status) : Option Status :=
  transition.status.or previous

/-- After a transition to a status of the server agreeing, some status is stored that reports
it, whether it was written or was there before. -/
theorem exists_stored {previous : Option Status} {errorRequeue : Nat} :
    ∃ status, (transition previous probed outcome errorRequeue now).stored previous =
        some status ∧
      status.report = (outcome.statusAfter probed now).report := by
  cases unchanged : Status.isUnchanged previous (outcome.statusAfter probed now) with
  | false => exact ⟨_, by simp only [transition, Transition.stored, unchanged,
      Bool.false_eq_true, ↓reduceIte, Option.some_or], rfl⟩
  | true =>
      cases previous with
      | none => exact absurd unchanged Bool.false_ne_true
      | some status =>
          exact ⟨status, by simp only [transition, Transition.stored, unchanged, ↓reduceIte,
            Option.none_or], Status.isUnchanged_some_iff.mp unchanged⟩

theorem Outcome.messageAfter_of_confirms (confirms : next.Confirms message)
    (ready : probed.phase = .ready)
    (kept : ∀ text, message = some text → probed.message = some text) :
    next.messageAfter probed = probed.message := by
  have silent : Outcome.messageAfter (.converged none) probed = probed.message := if_pos ready
  rcases confirms with rfl | rfl
  · exact silent
  · cases message with
    | none => exact silent
    | some text => exact (kept text rfl).symm

/-- Once the server agreed, a pass that finds nothing to do writes no status, at any time and
whatever the status was before. -/
theorem status_transition_again {previous : Option Status} {name : String}
    {generation : Option Int64} {errorRequeue : Nat} (agrees : outcome.Agrees message)
    (confirms : next.Confirms message) :
    let stored := (transition previous (.probe previous name generation now) outcome errorRequeue
      now).stored previous
    (transition stored (.probe stored name generation later) next errorRequeue later).status =
      none := by
  intro stored
  obtain ⟨status, same, reported⟩ := exists_stored
  rw [show stored = some status from same]
  rw [Outcome.report_statusAfter agrees] at reported
  simp only [Status.report, Prod.mk.injEq] at reported
  obtain ⟨phase, told, named, generations⟩ := reported
  have agreesAgain : ∃ message, next.Agrees message := by
    rcases confirms with same | same
    · exact ⟨none, .inl same⟩
    · exact ⟨message, .inl same⟩
  obtain ⟨_, agreesAgain⟩ := agreesAgain
  have kept : next.messageAfter (.probe (some status) name generation later) = status.message := by
    apply Outcome.messageAfter_of_confirms confirms
    · exact phase
    · rintro text rfl
      exact told.trans (Outcome.messageAfter_of_some agrees)
  have unchanged : Status.isUnchanged (some status)
      (next.statusAfter (.probe (some status) name generation later) later) = true := by
    rw [Status.isUnchanged_some_iff, Outcome.report_statusAfter agreesAgain, kept]
    simp only [Status.report, phase, named, generations, Status.probe, Option.getD_some,
      Status.latestGeneration_latestGeneration]
  rw [transition, unchanged, if_pos rfl]

end CatalogSteward
