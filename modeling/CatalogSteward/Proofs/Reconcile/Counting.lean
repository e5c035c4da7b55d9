import CatalogSteward.Proofs.Health.Metrics
import CatalogSteward.Proofs.Reconcile.Telling
import CatalogSteward.Reconcile.Connection

/-!
# Counting what failed

Managed resources and connections are reconciled by loops of their own, which share the metrics. A
reconciliation is counted once, under its own labels, and as failed where it failed; but one of a
connection whose status cannot be written comes to an end before it is counted.
-/

set_option autoImplicit false

namespace CatalogSteward

open Time

/-! ## Tallies -/

/-- What a request makes of the metrics: whoever counts a reconciliation has it recorded, with the
time that it took. -/
def Records (before : Metrics) : (request : Request) → request.Answer → Metrics → Prop
  | .count labels failed, _, after => ∃ seconds, after = before.record labels seconds failed
  | _, _, after => after = before

/-- What a request counts: the labels, and whether the reconciliation failed. -/
def Request.tally? : Request → Option (SeriesLabels × Bool)
  | .count labels failed => some (labels, failed)
  | _ => none

def tallies (interactions : List Interaction) : List (SeriesLabels × Bool) :=
  interactions.filterMap fun interaction => interaction.request.tally?

/-- How many reconciliations are counted for the labels. -/
def tallied (labels : SeriesLabels) (counted : List (SeriesLabels × Bool)) : Nat :=
  counted.countP fun tally => tally.1 = labels

/-- How many of them are counted as failed. -/
def talliedFailed (labels : SeriesLabels) (counted : List (SeriesLabels × Bool)) : Nat :=
  counted.countP fun tally => tally.1 = labels ∧ tally.2 = true

section Tallies

variable {labels : SeriesLabels} {before after : Metrics} {interactions : List Interaction}

/-- A request leaves the metrics alone, or it has one reconciliation recorded. -/
theorem Records.same_or_recorded {request : Request} {answer : request.Answer}
    (records : Records before request answer after) :
    request.tally? = none ∧ after = before ∨
      ∃ labels failed seconds, request.tally? = some (labels, failed) ∧
        after = before.record labels seconds failed := by
  cases request with
  | count labels failed =>
      obtain ⟨seconds, recorded⟩ := records
      exact .inr ⟨labels, failed, seconds, rfl, recorded⟩
  | _ => exact .inl ⟨rfl, records⟩

theorem talliedFailed_le_tallied {counted : List (SeriesLabels × Bool)} :
    talliedFailed labels counted ≤ tallied labels counted := by
  apply List.countP_mono_left
  intro tally _ both
  exact decide_eq_true (of_decide_eq_true both).1

/-- Both counters of some labels grow by what was counted for these. -/
theorem count_of_along (recorded : Along Records before interactions after) :
    after.reconciliations.count labels =
        before.reconciliations.count labels + tallied labels (tallies interactions) ∧
      after.errors.count labels =
        before.errors.count labels + talliedFailed labels (tallies interactions) := by
  induction recorded with
  | nil => exact ⟨rfl, rfl⟩
  | @cons before between after request answer rest first others ih =>
      obtain ⟨reconciliations, errors⟩ := ih
      rw [reconciliations, errors]
      cases first.same_or_recorded with
      | inl same =>
          obtain ⟨uncounted, rfl⟩ := same
          have none : tallies (⟨request, answer⟩ :: rest) = tallies rest :=
            List.filterMap_cons_none uncounted
          rw [none]
          exact ⟨rfl, rfl⟩
      | inr recorded =>
          obtain ⟨other, failed, seconds, counted, rfl⟩ := recorded
          have more : tallies (⟨request, answer⟩ :: rest) = (other, failed) :: tallies rest :=
            List.filterMap_cons_some counted
          rw [more, Metrics.count_reconciliations_record, Metrics.count_errors_record]
          simp only [tallied, talliedFailed, List.countP_cons, decide_eq_true_eq]
          constructor <;> omega

/-- What is kept for labels that nothing is counted for stays. -/
theorem agreesOn_of_along (recorded : Along Records before interactions after)
    (others : ∀ tally ∈ tallies interactions, labels ≠ tally.1) : after.AgreesOn labels before := by
  apply recorded.induct
  · exact .refl
  · intro interaction member current next agrees records
    cases records.same_or_recorded with
    | inl same =>
        obtain ⟨-, rfl⟩ := same
        exact agrees
    | inr recorded =>
        obtain ⟨other, failed, seconds, counted, rfl⟩ := recorded
        have different := others _ (List.mem_filterMap.mpr ⟨interaction, member, counted⟩)
        exact (Metrics.agreesOn_record different).trans agrees

theorem eq_of_along_of_uncounted (recorded : Along Records before interactions after)
    (uncounted : tallies interactions = []) : after = before := by
  apply recorded.induct
  · rfl
  · intro interaction member current next same records
    cases records.same_or_recorded with
    | inl unchanged => exact unchanged.2.trans same
    | inr recorded =>
        obtain ⟨_, _, _, counted, -⟩ := recorded
        have none := List.filterMap_eq_nil_iff.mp uncounted interaction member
        rw [counted] at none
        cases none

theorem tallies_append {first second : List Interaction} :
    tallies (first ++ second) = tallies first ++ tallies second :=
  List.filterMap_append

theorem tallies_eq_nil
    (uncounted : ∀ labels failed, (⟨.count labels failed, ()⟩ : Interaction) ∉ interactions) :
    tallies interactions = [] := by
  apply List.filterMap_eq_nil_iff.mpr
  intro interaction member
  obtain ⟨request, answer⟩ := interaction
  cases request with
  | count labels failed => exact absurd member (uncounted labels failed)
  | _ => rfl

end Tallies

/-! ## Courses of connections -/

namespace ClusterConnection

def target (connection : ClusterConnection) (inNamespace : String) : Target :=
  ⟨.connection, inNamespace, connection.metadata.anyName⟩

def transitionAfter (connection : ClusterConnection) (outcome : Outcome) (now : Instant) :
    Transition :=
  transition connection.status
    (.probe connection.status connection.declaration.endpoint connection.metadata.generation now)
    outcome errorRequeue now

/-- A connection that is to be deleted is left alone. Any other is tried out, and that is told and
counted; or it is not, since the status could not be written. -/
inductive Course (connection : ClusterConnection) (inNamespace : String) :
    List Interaction → Except Failure Requeue → Prop where
  | ignored (leaving : connection.metadata.isDeleting = true) :
      Course connection inNamespace [] (.ok .onChange)
  | told (staying : connection.metadata.isDeleting = false) (now : Instant)
      {work writes : List Interaction} {outcome : Outcome}
      (evaluated : connection.evaluate.Path work outcome)
      (write : StatusWrite (connection.target inNamespace)
        (connection.transitionAfter outcome now).status writes (.ok ())) :
      Course connection inNamespace
        (⟨.now, now⟩ :: (work ++ writes) ++
          [⟨.count (connection.labels inNamespace) outcome.isFailure, ()⟩])
        (.ok (.after (connection.transitionAfter outcome now).requeue))
  | lost (staying : connection.metadata.isDeleting = false) (now : Instant)
      {work writes : List Interaction} {outcome : Outcome} {failure : Failure}
      (evaluated : connection.evaluate.Path work outcome)
      (write : StatusWrite (connection.target inNamespace)
        (connection.transitionAfter outcome now).status writes (.error failure)) :
      Course connection inNamespace (⟨.now, now⟩ :: (work ++ writes)) (.error failure)

variable {connection : ClusterConnection} {inNamespace : String} {interactions : List Interaction}

theorem path_evaluate_iff {outcome : Outcome} :
    connection.evaluate.Path interactions outcome ↔
      ∃ tried, connection.tryOut.Path interactions tried ∧
        outcome =
          ManagedResource.outcomeOf (tried.map fun version => .converged (some version)) := by
  apply Program.path_bind_of_pure
  intro tried
  cases tried with
  | ok _ | error _ => rfl

/-- A connection is tried out in a session, and that is no chore. -/
theorem isChore_of_evaluate {outcome : Outcome}
    (path : connection.evaluate.Path interactions outcome) :
    ∀ interaction ∈ interactions, interaction.request.isChore = false := by
  obtain ⟨tried, path, -⟩ := path_evaluate_iff.mp path
  have asks : connection.tryOut.Asks fun request => request.isOpening = true :=
    (connection.openSession_opens none).bind fun _ => Query.versionText.rows_asks
      Request.isOpening_of_isLook
  exact fun interaction member => Request.isChore_of_isOpening (asks _ _ path interaction member)

theorem course_of_path {result : Except Failure Requeue}
    (named : connection.metadata.inNamespace = some inNamespace)
    (path : connection.reconcile.Path interactions result) :
    connection.Course inNamespace interactions result := by
  rw [reconcile, named] at path
  cases leaving : connection.metadata.isDeleting with
  | true =>
      rw [leaving] at path
      obtain ⟨rfl, rfl⟩ := Attempt.path_pure_iff.mp path
      exact .ignored leaving
  | false =>
      rw [leaving] at path
      have kept : (connection.keep inNamespace).Path interactions result := path
      rw [keep] at kept
      obtain ⟨(now : Instant), _, rfl, afterwards⟩ := Attempt.path_lift_ask_bind kept
      obtain ⟨work, rest, outcome, rfl, evaluated, ending⟩ := Attempt.path_lift_bind afterwards
      cases path_statusWrite_then ending with
      | inl failed =>
          obtain ⟨failure, refused, rfl⟩ := failed
          exact .lost leaving now evaluated refused
      | inr written =>
          obtain ⟨writes, counting, rfl, write, counted⟩ := written
          obtain ⟨_, others, rfl, last⟩ := Attempt.path_lift_ask_bind counted
          obtain ⟨rfl, rfl⟩ := Attempt.path_pure_iff.mp last
          rw [← List.append_assoc, ← List.cons_append]
          exact .told leaving now evaluated write

variable {result : Except Failure Requeue}

/-- A reconciliation of a connection fails exactly where the write of its status is refused. -/
theorem Course.failsAsRefused (course : connection.Course inNamespace interactions result) :
    FailsAsRefused interactions result := by
  cases course with
  | ignored => exact .ok rfl
  | @told staying now work writes outcome evaluated write =>
      have none : refusals writes = [] := by
        apply List.eq_nil_iff_forall_not_mem.mpr
        intro fault refused
        cases (FailsAsRefused.statusWrite write _).mpr ⟨fault, refused, rfl⟩
      apply FailsAsRefused.ok
      rw [refusals_append, ← List.singleton_append, refusals_append, refusals_append, none,
        refusals_of_noRecord fun interaction member =>
          Request.isRecord_of_isChore (isChore_of_evaluate evaluated interaction member)]
      rfl
  | lost staying now evaluated write =>
      have refused : FailsAsRefused _ (Except.map (fun _ => Requeue.onChange) (.error _)) :=
        (FailsAsRefused.statusWrite write).map
      exact refused.after_work fun interaction member =>
        Request.isRecord_of_isChore (isChore_of_evaluate evaluated interaction member)

end ClusterConnection

/-! ## Failures -/

theorem Outcome.isFailure_iff {outcome : Outcome} :
    outcome.isFailure = true ↔ ∃ message, outcome = .failed message := by
  cases outcome with
  | failed message => exact iff_of_true rfl ⟨message, rfl⟩
  | converged | applied | pending => exact iff_of_false Bool.false_ne_true nofun

theorem not_exists_error {α : Type} {value : α} :
    ¬∃ failure : Failure, Except.ok value = Except.error failure :=
  nofun

/-- Interactions start with a look at the clock and go through a program, which ends with a
value. -/
def Program.Yields {α : Type} (program : Program α) (interactions : List Interaction) (value : α) :
    Prop :=
  ∃ (now : Instant) (work : List Interaction),
    (⟨.now, now⟩ :: work) <+: interactions ∧ program.Path work value

section Yields

variable {α : Type} {program : Program α} {value other : α} {now : Instant}
  {work writes last interactions : List Interaction}

theorem Program.yields_of_path (path : program.Path work value) :
    program.Yields (⟨.now, now⟩ :: (work ++ writes) ++ last) value := by
  refine ⟨now, work, ?_, path⟩
  rw [List.cons_append, List.append_assoc, ← List.cons_append]
  exact List.prefix_append _ _

theorem Program.Yields.unique (yields : program.Yields interactions value)
    (again : program.Yields interactions other) : value = other := by
  obtain ⟨_, _, ⟨rest, rfl⟩, path⟩ := yields
  obtain ⟨_, _, ⟨others, same⟩, pathAgain⟩ := again
  exact (path.eq_of_append pathAgain (List.cons.inj same.symm).2).2

end Yields

/-- The evaluation of a resource that is to stay came to a failure. -/
structure ManagedResource.EndsFailed (resource : ManagedResource) (inNamespace : String)
    (interactions : List Interaction) : Prop where
  staying : resource.metadata.isDeleting = false
  finalizer : resource.metadata.hasFinalizer = true
  evaluated : ∃ message, (resource.evaluate inNamespace).Yields interactions (.failed message)

/-- The cleanup of a resource that is to be deleted did not succeed. -/
structure ManagedResource.FailsCleanup (resource : ManagedResource) (inNamespace : String)
    (interactions : List Interaction) : Prop where
  leaving : resource.metadata.isDeleting = true
  finalizer : resource.metadata.hasFinalizer = true
  step : cleanupStep resource.phase resource.declaration.dropsOnDelete = .drop
  cleaned : ∃ message, (resource.cleanupObstacle inNamespace).Yields interactions (some message)

/-- The evaluation of a connection that is to stay came to a failure. -/
structure ClusterConnection.EndsFailed (connection : ClusterConnection)
    (interactions : List Interaction) : Prop where
  staying : connection.metadata.isDeleting = false
  evaluated : ∃ message, connection.evaluate.Yields interactions (.failed message)

namespace ManagedResource

variable {resource : ManagedResource} {inNamespace : String} {interactions : List Interaction}

theorem not_endsFailed_of_leaving (leaving : resource.metadata.isDeleting = true) :
    ¬resource.EndsFailed inNamespace interactions :=
  fun ends => Bool.eq_false_iff.mp ends.staying leaving

theorem not_failsCleanup_of_staying (staying : resource.metadata.isDeleting = false) :
    ¬resource.FailsCleanup inNamespace interactions :=
  fun cleanup => Bool.eq_false_iff.mp staying cleanup.leaving

theorem countsAsFailed_iff_error_or {pass : Pass} {written : Except Failure Unit} {fails : Prop}
    (fine : pass.failed = false) (none : ¬fails) :
    countsAsFailed (pass.afterWrite written) = true ↔
      (∃ failure, pass.afterWrite written = .error failure) ∨ fails := by
  rw [countsAsFailed_afterWrite, fine]
  exact or_congr_right (iff_of_false Bool.false_ne_true none)

/-- A pass counts as failed where it fails, where its evaluation does, and where its cleanup
does. -/
theorem Course.countsAsFailed_iff {passed : Except Failure Pass}
    (course : resource.Course inNamespace interactions passed) (last : List Interaction) :
    countsAsFailed passed = true ↔
      (∃ failure, passed = .error failure) ∨
        resource.EndsFailed inNamespace (interactions ++ last) ∨
          resource.FailsCleanup inNamespace (interactions ++ last) := by
  cases course with
  | enrolled staying finalizer answer =>
      refine countsAsFailed_iff_error_or rfl (not_or.mpr ⟨?_, not_failsCleanup_of_staying staying⟩)
      exact fun ends => Bool.eq_false_iff.mp finalizer ends.finalizer
  | ignored leaving finalizer =>
      refine iff_of_false Bool.false_ne_true
        (not_or.mpr ⟨not_exists_error, not_or.mpr ⟨not_endsFailed_of_leaving leaving, ?_⟩⟩)
      exact fun cleanup => Bool.eq_false_iff.mp finalizer cleanup.finalizer
  | noted leaving finalizer step =>
      refine countsAsFailed_iff_error_or rfl (not_or.mpr ⟨not_endsFailed_of_leaving leaving, ?_⟩)
      exact fun cleanup => nomatch step.symm.trans cleanup.step
  | released leaving finalizer step =>
      refine countsAsFailed_iff_error_or rfl (not_or.mpr ⟨not_endsFailed_of_leaving leaving, ?_⟩)
      exact fun cleanup => nomatch step.symm.trans cleanup.step
  | kept staying finalizer now attempt write =>
      rw [countsAsFailed_afterWrite, or_iff_left (not_failsCleanup_of_staying staying),
        Outcome.isFailure_iff]
      refine or_congr_right ⟨?_, ?_⟩
      · intro failed
        obtain ⟨message, failed⟩ := failed
        refine ⟨staying, finalizer, message, ?_⟩
        rw [← failed]
        exact Program.yields_of_path (path_evaluate_iff.mpr ⟨_, attempt, rfl⟩)
      · intro ends
        exact ends.evaluated.imp fun _ evaluated =>
          (Program.yields_of_path (path_evaluate_iff.mpr ⟨_, attempt, rfl⟩)).unique evaluated
  | dropped leaving finalizer step now attempt unhindered =>
      refine countsAsFailed_iff_error_or rfl (not_or.mpr ⟨not_endsFailed_of_leaving leaving, ?_⟩)
      intro cleanup
      obtain ⟨message, cleaned⟩ := cleanup.cleaned
      have path := path_cleanupObstacle_iff.mpr ⟨_, attempt, rfl⟩
      cases unhindered.symm.trans ((Program.yields_of_path path).unique cleaned)
  | @obstructed leaving finalizer step now work writes attempted message written attempt obstacle =>
      rw [countsAsFailed_afterWrite]
      refine or_congr_right (iff_of_true rfl (.inr ⟨leaving, finalizer, step, message, ?_⟩))
      rw [← obstacle]
      exact Program.yields_of_path (path_cleanupObstacle_iff.mpr ⟨_, attempt, rfl⟩)

/-- A pass is counted once, as failed exactly where it is. -/
theorem exists_tally_of_path {result : Except Failure Requeue}
    (named : resource.metadata.inNamespace = some inNamespace)
    (path : resource.reconcile.Path interactions result) :
    ∃ failed, tallies interactions = [(resource.labels inNamespace, failed)] ∧
      (failed = true ↔
        (∃ failure, result = .error failure) ∨
          resource.EndsFailed inNamespace interactions ∨
            resource.FailsCleanup inNamespace interactions) := by
  cases course_of_path_reconcile path with
  | inl unnamed => cases named.symm.trans unnamed.1
  | inr passing =>
      obtain ⟨_, work, passed, here, course, rfl, rfl⟩ := passing
      cases named.symm.trans here
      refine ⟨countsAsFailed passed, ?_, ?_⟩
      · rw [tallies_append, tallies_eq_nil fun _ _ => course.uncounted]
        rfl
      · rw [course.countsAsFailed_iff [_]]
        refine or_congr_left ?_
        cases passed with
        | ok pass => exact iff_of_false not_exists_error not_exists_error
        | error failure => exact iff_of_true ⟨failure, rfl⟩ ⟨failure, rfl⟩

end ManagedResource

namespace ClusterConnection

variable {connection : ClusterConnection} {inNamespace : String} {interactions : List Interaction}
  {result : Except Failure Requeue}

/-- To try out a connection and to write its status counts nothing. -/
theorem tallies_of_evaluate {now : Instant} {outcome : Outcome} {work writes : List Interaction}
    {target : Target} {made : Option Status} {written : Except Failure Unit}
    (evaluated : connection.evaluate.Path work outcome)
    (write : StatusWrite target made writes written) :
    tallies (⟨.now, now⟩ :: (work ++ writes)) = [] :=
  tallies_eq_nil fun _ _ =>
    ManagedResource.count_not_mem (isChore_of_evaluate evaluated) write.records

theorem endsFailed_iff {now : Instant} {outcome : Outcome} {work writes last : List Interaction}
    (staying : connection.metadata.isDeleting = false)
    (evaluated : connection.evaluate.Path work outcome) :
    connection.EndsFailed (⟨.now, now⟩ :: (work ++ writes) ++ last) ↔ outcome.isFailure = true := by
  rw [Outcome.isFailure_iff]
  constructor
  · intro ends
    exact ends.evaluated.imp fun _ found => (Program.yields_of_path evaluated).unique found
  · intro failed
    obtain ⟨message, rfl⟩ := failed
    exact ⟨staying, message, Program.yields_of_path evaluated⟩

end ClusterConnection

/-! ## Invocations -/

/-- What is reconciled: a managed resource of some kind, or a connection. -/
inductive Subject where
  | managed (resource : ManagedResource)
  | connection (connection : ClusterConnection)

namespace Subject

def metadata : Subject → Metadata
  | .managed resource => resource.metadata
  | .connection given => given.metadata

def kind : Subject → ResourceKind
  | .managed resource => .managed resource.declaration.kind
  | .connection _ => .connection

def reconcile : Subject → Attempt Requeue
  | .managed resource => resource.reconcile
  | .connection given => given.reconcile

/-- The evaluation of a subject came to a failure, or its cleanup did not succeed. -/
def ComesToFailure (subject : Subject) (inNamespace : String) (interactions : List Interaction) :
    Prop :=
  match subject with
  | .managed resource =>
      resource.EndsFailed inNamespace interactions ∨ resource.FailsCleanup inNamespace interactions
  | .connection given => given.EndsFailed interactions

end Subject

/-- A reconciliation of something that has a namespace, whatever was answered. -/
structure Invocation where
  subject : Subject
  inNamespace : String
  interactions : List Interaction
  result : Except Failure Requeue
  named : subject.metadata.inNamespace = some inNamespace
  path : subject.reconcile.Path interactions result

namespace Invocation

/-- The labels that are an invocation's own: its kind, its namespace and its name. -/
def labels (invocation : Invocation) : SeriesLabels :=
  ⟨invocation.subject.kind.name, invocation.inNamespace, invocation.subject.metadata.anyName⟩

/-- An invocation returns an error, ends with an outcome that is a failure, or does not succeed to
clean up. -/
def Fails (invocation : Invocation) : Prop :=
  (∃ failure, invocation.result = .error failure) ∨
    invocation.subject.ComesToFailure invocation.inNamespace invocation.interactions

/-- The status of a connection could not be written. -/
def LosesStatus (invocation : Invocation) : Prop :=
  (∃ connection, invocation.subject = .connection connection) ∧
    refusals invocation.interactions ≠ []

/-- A connection that is to be deleted was left alone. -/
def IsIgnored (invocation : Invocation) : Prop :=
  ∃ connection, invocation.subject = .connection connection ∧
    connection.metadata.isDeleting = true

theorem not_isIgnored_of_staying {invocation : Invocation} {connection : ClusterConnection}
    (same : invocation.subject = .connection connection)
    (staying : connection.metadata.isDeleting = false) : ¬invocation.IsIgnored := by
  intro ignored
  obtain ⟨other, found, leaving⟩ := ignored
  cases same.symm.trans found
  exact Bool.eq_false_iff.mp staying leaving

/-- What one reconciliation counts: itself, as failed exactly where it fails. Only that of a
connection that is left alone, or whose status could not be written, is not counted. -/
inductive Counts (invocation : Invocation) : List (SeriesLabels × Bool) → Prop where
  | counted {failed : Bool} (told : ¬invocation.LosesStatus) (known : ¬invocation.IsIgnored)
      (fails : failed = true ↔ invocation.Fails) :
      Counts invocation [(invocation.labels, failed)]
  | lost (lost : invocation.LosesStatus) (known : ¬invocation.IsIgnored)
      (error : ∃ failure, invocation.result = .error failure) : Counts invocation []
  | ignored (told : ¬invocation.LosesStatus) (ignored : invocation.IsIgnored)
      (fine : ¬invocation.Fails) : Counts invocation []

theorem counts (invocation : Invocation) : invocation.Counts (tallies invocation.interactions) := by
  obtain ⟨subject, inNamespace, interactions, result, named, path⟩ := invocation
  cases subject with
  | managed resource =>
      obtain ⟨failed, counted, fails⟩ := ManagedResource.exists_tally_of_path named path
      dsimp only
      rw [counted]
      exact .counted (fun lost => nomatch lost.1.choose_spec)
        (fun ignored => nomatch ignored.choose_spec.1) fails
  | connection connection =>
      have course := ClusterConnection.course_of_path named path
      have refused := course.failsAsRefused
      cases course with
      | ignored leaving =>
          have fine : ¬connection.EndsFailed [] := fun ends =>
            Bool.eq_false_iff.mp ends.staying leaving
          exact .ignored (fun lost => lost.2 rfl) ⟨connection, rfl, leaving⟩
            (not_or.mpr ⟨not_exists_error, fine⟩)
      | lost staying now evaluated write =>
          -- The request that counts comes after the write, and is never made.
          obtain ⟨fault, member, -⟩ := (refused _).mp rfl
          dsimp only
          rw [ClusterConnection.tallies_of_evaluate evaluated write]
          exact .lost ⟨⟨connection, rfl⟩, List.ne_nil_of_mem member⟩
            (not_isIgnored_of_staying rfl staying) ⟨_, rfl⟩
      | told staying now evaluated write =>
          dsimp only
          rw [tallies_append, ClusterConnection.tallies_of_evaluate evaluated write]
          refine .counted ?_ (not_isIgnored_of_staying rfl staying) ?_
          · intro lost
            obtain ⟨fault, member⟩ := List.exists_mem_of_ne_nil _ lost.2
            cases (refused _).mpr ⟨fault, member, rfl⟩
          · refine Iff.symm ((or_iff_right not_exists_error).trans ?_)
            exact connection.endsFailed_iff staying evaluated

variable {invocation : Invocation} {before after : Metrics}

theorem Counts.labels_eq {counted : List (SeriesLabels × Bool)}
    (counts : invocation.Counts counted) : ∀ tally ∈ counted, tally.1 = invocation.labels := by
  cases counts with
  | counted => exact List.forall_mem_singleton.mpr rfl
  | lost | ignored => exact List.forall_mem_nil _

open Classical in
/-- How often an invocation is counted for some labels. -/
theorem Counts.tallied_eq {labels : SeriesLabels} {counted : List (SeriesLabels × Bool)}
    (counts : invocation.Counts counted) :
    tallied labels counted =
      if invocation.labels = labels ∧ ¬invocation.LosesStatus ∧ ¬invocation.IsIgnored then 1
      else 0 := by
  cases counts with
  | counted told known =>
      simp only [tallied, List.countP_singleton, decide_eq_true_eq, told, known,
        not_false_eq_true, and_self, and_true]
  | lost lost =>
      rw [if_neg fun both => both.2.1 lost]
      rfl
  | ignored _ ignored =>
      rw [if_neg fun both => both.2.2 ignored]
      rfl

open Classical in
/-- How often an invocation is counted as failed for some labels. -/
theorem Counts.talliedFailed_eq {labels : SeriesLabels} {counted : List (SeriesLabels × Bool)}
    (counts : invocation.Counts counted) :
    talliedFailed labels counted =
      if invocation.labels = labels ∧ invocation.Fails ∧ ¬invocation.LosesStatus then 1 else 0 := by
  cases counts with
  | counted told known fails =>
      simp only [talliedFailed, List.countP_singleton, decide_eq_true_eq, told, fails,
        not_false_eq_true, and_true]
  | lost lost =>
      rw [if_neg fun both => both.2.2 lost]
      rfl
  | ignored _ _ fine =>
      rw [if_neg fun both => fine both.2.1]
      rfl

/-- An invocation that loses a status returns an error and counts nothing. -/
theorem Counts.of_losesStatus {counted : List (SeriesLabels × Bool)}
    (counts : invocation.Counts counted) (lost : invocation.LosesStatus) :
    (∃ failure, invocation.result = .error failure) ∧ counted = [] := by
  cases counts with
  | counted told | ignored told => exact absurd lost told
  | lost _ _ error => exact ⟨error, rfl⟩

theorem Counts.fine_of_isIgnored {counted : List (SeriesLabels × Bool)}
    (counts : invocation.Counts counted) (ignored : invocation.IsIgnored) : ¬invocation.Fails := by
  cases counts with
  | counted _ known | lost _ known => exact absurd ignored known
  | ignored _ _ fine => exact fine

end Invocation

/-- Where each invocation is counted at most once, as often as some are counted together there are
invocations that are. -/
theorem countP_tallies {counted : SeriesLabels × Bool → Bool} {counts : Invocation → Prop}
    [DecidablePred counts]
    (each : ∀ invocation : Invocation,
      (tallies invocation.interactions).countP counted = if counts invocation then 1 else 0)
    (invocations : List Invocation) :
    (tallies (invocations.flatMap Invocation.interactions)).countP counted =
      invocations.countP fun invocation => counts invocation := by
  induction invocations with
  | nil => rfl
  | cons invocation rest ih =>
      rw [List.flatMap_cons, tallies_append, List.countP_append, each, ih, List.countP_cons,
        Nat.add_comm]
      simp only [decide_eq_true_eq]

open Classical in
/-- Failures are counted once. Whatever is reconciled, a managed resource of any kind or a
connection, and whatever is answered: what is kept for other labels stays, and a reconciliation
that fails adds exactly one to each counter of its labels, unless it is that of a connection whose
status could not be written, which returns an error and leaves the metrics as they are. So, in
whatever order overlapping reconciliations make their requests, the errors of some labels never
exceed the reconciliations, and in the end they are as many as the reconciliations of these that
failed, but for those connections. -/
theorem failed_reconciliations_are_counted {invocations : List Invocation}
    {log : List Interaction} {metrics : Metrics}
    (order : log.Perm (invocations.flatMap Invocation.interactions))
    (recorded : Along Records .empty log metrics) :
    (∀ (invocation : Invocation) (before after : Metrics),
        Along Records before invocation.interactions after →
          (∀ other, other ≠ invocation.labels → after.AgreesOn other before) ∧
            (invocation.Fails →
              (¬invocation.LosesStatus ↔
                after.reconciliations.count invocation.labels =
                    before.reconciliations.count invocation.labels + 1 ∧
                  after.errors.count invocation.labels =
                    before.errors.count invocation.labels + 1)) ∧
              (¬invocation.Fails →
                after.errors.count invocation.labels = before.errors.count invocation.labels) ∧
                (invocation.LosesStatus →
                  (∃ failure, invocation.result = .error failure) ∧ after = before)) ∧
      ∀ labels,
        (∀ sofar between, sofar <+: log → Along Records .empty sofar between →
          between.errors.count labels ≤ between.reconciliations.count labels) ∧
          metrics.errors.count labels =
              invocations.countP (fun invocation => invocation.labels = labels ∧
                invocation.Fails ∧ ¬invocation.LosesStatus) ∧
            metrics.reconciliations.count labels =
              invocations.countP fun invocation => invocation.labels = labels ∧
                ¬invocation.LosesStatus ∧ ¬invocation.IsIgnored := by
  refine ⟨?alone, ?together⟩
  case alone =>
    intro invocation before after made
    have counts := invocation.counts
    obtain ⟨reconciliations, errors⟩ := @count_of_along invocation.labels _ _ _ made
    rw [counts.tallied_eq] at reconciliations
    rw [counts.talliedFailed_eq] at errors
    have same (lost : invocation.LosesStatus) : after = before :=
      eq_of_along_of_uncounted made (counts.of_losesStatus lost).2
    refine ⟨fun other different => ?_, fun fails => ⟨fun told => ?_, fun counted lost => ?_⟩,
      fun fine => ?_, fun lost => ⟨(counts.of_losesStatus lost).1, same lost⟩⟩
    · refine agreesOn_of_along made fun tally member => ?_
      rwa [counts.labels_eq tally member]
    · have known : ¬invocation.IsIgnored := fun ignored => counts.fine_of_isIgnored ignored fails
      rw [if_pos ⟨rfl, told, known⟩] at reconciliations
      rw [if_pos ⟨rfl, fails, told⟩] at errors
      exact ⟨reconciliations, errors⟩
    · rw [same lost] at counted
      exact Nat.succ_ne_self _ counted.1.symm
    · rwa [if_neg fun both => fine both.2.1] at errors
  case together =>
    intro labels
    refine ⟨fun sofar between _ made => ?_, ?_⟩
    · obtain ⟨reconciliations, errors⟩ := @count_of_along labels _ _ _ made
      rw [reconciliations, errors]
      exact Nat.add_le_add_left talliedFailed_le_tallied _
    · have same : (tallies log).Perm (tallies (invocations.flatMap Invocation.interactions)) :=
        order.filterMap _
      have start : Series.count labels Metrics.empty.errors = 0 ∧
          Series.count labels Metrics.empty.reconciliations = 0 := ⟨rfl, rfl⟩
      obtain ⟨reconciliations, errors⟩ := @count_of_along labels _ _ _ recorded
      rw [reconciliations, errors, start.1, start.2, Nat.zero_add, Nat.zero_add, tallied,
        talliedFailed, same.countP_eq, same.countP_eq]
      refine ⟨countP_tallies ?_ invocations, countP_tallies ?_ invocations⟩
      · exact fun invocation => invocation.counts.talliedFailed_eq
      · exact fun invocation => invocation.counts.tallied_eq

/-! A connection to a server that goes away while it is tried out. In one reconciliation that is
told and counted; in the other one the write of the status is refused, and nothing is counted. -/

private def gateway : ClusterConnection where
  metadata := ⟨some "main", none, some "shop", some 1, some "4", [], none⟩
  declaration := ⟨"db", 5432, "postgres", ⟨"admin", none⟩, []⟩
  status := none

private def refusing : (request : Request) → request.Answer
  | .writeStatus _ _ => .error (.refused 503 "ServiceUnavailable" "not yet")
  | request => ManagedResource.obliging request

private def reconciledBy (respond : (request : Request) → request.Answer) : Invocation where
  subject := .connection gateway
  inNamespace := "shop"
  interactions := (gateway.reconcile.run.follow respond).1
  result := (gateway.reconcile.run.follow respond).2
  named := rfl
  path := Program.path_follow respond _

private def unheard : Invocation :=
  reconciledBy refusing

private def heard : Invocation :=
  reconciledBy ManagedResource.obliging

private def gatewayMetrics : Metrics :=
  Metrics.empty.record heard.labels 0.25 true

private theorem along_unheard : Along Records .empty unheard.interactions .empty :=
  .cons rfl (.cons rfl (.cons rfl (.cons rfl (.cons rfl (.cons rfl (.nil _))))))

private theorem along_heard : Along Records .empty heard.interactions gatewayMetrics :=
  .cons rfl (.cons rfl (.cons rfl (.cons rfl (.cons rfl (.cons rfl
    (.cons ⟨0.25, rfl⟩ (.nil _)))))))

theorem refused_status_is_not_counted :
    unheard.Fails ∧ Along Records .empty unheard.interactions .empty ∧
      ∀ after, Along Records .empty unheard.interactions after →
        after.reconciliations.count unheard.labels = 0 ∧
          after.errors.count unheard.labels = 0 := by
  refine ⟨.inl ⟨_, rfl⟩, along_unheard, fun after recorded => ?_⟩
  rw [eq_of_along_of_uncounted recorded rfl]
  exact ⟨rfl, rfl⟩

theorem failed_reconciliations_are_counted_of_gateway :
    ((unheard.interactions ++ heard.interactions).Perm
          ([unheard, heard].flatMap Invocation.interactions) ∧
        Along Records .empty (unheard.interactions ++ heard.interactions) gatewayMetrics) ∧
      (heard.Fails ∧ ¬heard.LosesStatus ∧
        Along Records .empty heard.interactions gatewayMetrics) ∧
      (gatewayMetrics.reconciliations.count heard.labels =
          Metrics.empty.reconciliations.count heard.labels + 1 ∧
        gatewayMetrics.errors.count heard.labels =
          Metrics.empty.errors.count heard.labels + 1) ∧
      gatewayMetrics.errors.count heard.labels ≤
        gatewayMetrics.reconciliations.count heard.labels := by
  have order : (unheard.interactions ++ heard.interactions).Perm
      ([unheard, heard].flatMap Invocation.interactions) := by
    rw [List.flatMap_cons, List.flatMap_singleton]
  have recorded : Along Records .empty (unheard.interactions ++ heard.interactions)
      gatewayMetrics := Along.append_iff.mpr ⟨_, along_unheard, along_heard⟩
  have evaluated : gateway.evaluate.Path _ (.failed _) :=
    Program.path_follow ManagedResource.obliging _
  have fails : heard.Fails := .inr ⟨rfl, _, _, _, ⟨_, rfl⟩, evaluated⟩
  have told : ¬heard.LosesStatus := fun lost => lost.2 rfl
  obtain ⟨alone, together⟩ := failed_reconciliations_are_counted order recorded
  obtain ⟨-, counted, -⟩ := alone _ _ _ along_heard
  exact ⟨⟨order, recorded⟩, ⟨fails, told, along_heard⟩, (counted fails).mp told,
    (together heard.labels).1 _ _ (List.prefix_refl _) recorded⟩

end CatalogSteward
