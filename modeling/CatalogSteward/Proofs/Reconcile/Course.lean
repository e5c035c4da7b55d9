import CatalogSteward.Proofs.Path
import CatalogSteward.Reconcile.Managed

/-!
# Courses of passes

A pass over a resource takes one of seven courses. Each of them says what is
asked, in which order, and what the pass comes to; every path of a pass is that
of a course.
-/

set_option autoImplicit false

namespace CatalogSteward

open Time

/-! ## Sessions -/

namespace ManagedResource

variable {α : Type} {resource : ManagedResource} {inNamespace : String}
  {interactions : List Interaction}

/-- The search for the connection of a resource, and what was found. -/
def lookup (resource : ManagedResource) (inNamespace : String)
    (found : Except ClusterFault (Option ClusterConnection)) : Interaction :=
  ⟨.findConnection (resource.declaration.cluster.namespaceFrom inNamespace)
    resource.declaration.cluster.name, found⟩

/-- Work that is done in a session of its own, where the connection of a resource is ready. -/
def throughSession (resource : ManagedResource) (inNamespace : String) (absent : α)
    (work : Session → Attempt α) : Attempt α := do
  match ← findReadyConnection resource.declaration.cluster inNamespace with
  | none => pure absent
  | some connection =>
      let session ← connection.openSession resource.declaration.targetDatabase
      work session

/-- How work in a session goes: the connection cannot be looked up, it is not ready, no session
is opened, or the work is done in one. -/
inductive SessionCourse (resource : ManagedResource) (inNamespace : String) (absent : α)
    (work : Session → Attempt α) : List Interaction → Except Failure α → Prop where
  | unfound (fault : ClusterFault) :
      SessionCourse resource inNamespace absent work
        [resource.lookup inNamespace (.error fault)] (.error (.cluster fault))
  | unready {found : Option ClusterConnection}
      (none : found.filter ClusterConnection.isReady = none) :
      SessionCourse resource inNamespace absent work
        [resource.lookup inNamespace (.ok found)] (.ok absent)
  | unopened {connection : ClusterConnection} {opening : List Interaction} {failure : Failure}
      (ready : connection.isReady = true)
      (opened : (connection.openSession resource.declaration.targetDatabase).Path opening
        (.error failure)) :
      SessionCourse resource inNamespace absent work
        (resource.lookup inNamespace (.ok (some connection)) :: opening) (.error failure)
  | used {connection : ClusterConnection} {session : Session}
      {opening during : List Interaction} {result : Except Failure α}
      (ready : connection.isReady = true)
      (opened : (connection.openSession resource.declaration.targetDatabase).Path opening
        (.ok session))
      (worked : (work session).Path during result) :
      SessionCourse resource inNamespace absent work
        (resource.lookup inNamespace (.ok (some connection)) :: (opening ++ during)) result

theorem path_findReadyConnection {cluster : Reference}
    {result : Except Failure (Option ClusterConnection)}
    (path : (findReadyConnection cluster inNamespace).Path interactions result) :
    ∃ found, interactions =
        [⟨.findConnection (cluster.namespaceFrom inNamespace) cluster.name, found⟩] ∧
      result = (found.mapError Failure.cluster).map (Option.filter ClusterConnection.isReady) := by
  rw [findReadyConnection] at path
  obtain ⟨_, asked, rfl⟩ := Attempt.path_bind_pure_iff.mp path
  obtain ⟨found, rfl, rfl⟩ := Attempt.path_ask_iff.mp asked
  exact ⟨found, rfl, rfl⟩

theorem sessionCourse_of_path {absent : α} {work : Session → Attempt α}
    {result : Except Failure α}
    (path : (resource.throughSession inNamespace absent work).Path interactions result) :
    resource.SessionCourse inNamespace absent work interactions result := by
  rw [throughSession, Attempt.path_bind_iff] at path
  cases path with
  | inl failed =>
      obtain ⟨failure, path, rfl⟩ := failed
      obtain ⟨found, rfl, looked⟩ := path_findReadyConnection path
      cases found with
      | ok found => exact nomatch looked
      | error fault =>
          cases looked
          exact .unfound fault
  | inr succeeded =>
      obtain ⟨first, rest, ready, rfl, path, others⟩ := succeeded
      obtain ⟨found, rfl, looked⟩ := path_findReadyConnection path
      cases found with
      | error fault => exact nomatch looked
      | ok found =>
          have looked : ready = found.filter ClusterConnection.isReady := Except.ok.inj looked
          cases ready with
          | none =>
              obtain ⟨rfl, rfl⟩ := Attempt.path_pure_iff.mp others
              exact .unready looked.symm
          | some connection =>
              obtain ⟨rfl, isReady⟩ := Option.filter_eq_some_iff.mp looked.symm
              cases Attempt.path_bind_iff.mp others with
              | inl failed =>
                  obtain ⟨failure, opened, rfl⟩ := failed
                  exact .unopened isReady opened
              | inr succeeded =>
                  obtain ⟨opening, during, session, rfl, opened, worked⟩ := succeeded
                  have used : resource.SessionCourse inNamespace absent work
                      (resource.lookup inNamespace (.ok (some connection)) :: (opening ++ during))
                      result := .used isReady opened worked
                  exact used

/-- Work in a session is done where the connection is found to be ready and a session is opened. -/
theorem throughSession_path {absent : α} {work : Session → Attempt α}
    {connection : ClusterConnection} {session : Session} {opening during : List Interaction}
    {result : Except Failure α} (ready : connection.isReady = true)
    (opened : (connection.openSession resource.declaration.targetDatabase).Path opening
      (.ok session))
    (worked : (work session).Path during result) :
    (resource.throughSession inNamespace absent work).Path
      (resource.lookup inNamespace (.ok (some connection)) :: (opening ++ during)) result := by
  have kept : (some connection).filter ClusterConnection.isReady = some connection :=
    Option.filter_eq_some_iff.mpr ⟨rfl, ready⟩
  have found : (findReadyConnection resource.declaration.cluster inNamespace).Path
      [resource.lookup inNamespace (.ok (some connection))] (.ok (some connection)) :=
    Attempt.path_bind_pure_iff.mpr
      ⟨_, Attempt.path_ask_iff.mpr ⟨.ok (some connection), rfl, rfl⟩, congrArg Except.ok kept.symm⟩
  exact Attempt.path_bind_iff.mpr (.inr ⟨_, _, _, rfl, found,
    Attempt.path_bind_iff.mpr (.inr ⟨_, _, _, rfl, opened, worked⟩)⟩)

end ManagedResource

/-! ## Writing a status -/

/-- The writing of a status, where there is one to write, and what comes of it. -/
inductive StatusWrite (target : Target) :
    Option Status → List Interaction → Except Failure Unit → Prop where
  | skipped : StatusWrite target none [] (.ok ())
  | made (status : Status) (answer : Except ClusterFault Unit) :
      StatusWrite target (some status) [⟨.writeStatus target status, answer⟩]
        (answer.mapError .cluster)

/-- To write a status is to ask for that and for nothing else. -/
theorem StatusWrite.exists_request {target : Target} {made : Option Status}
    {writes : List Interaction} {written : Except Failure Unit} {interaction : Interaction}
    (write : StatusWrite target made writes written) (member : interaction ∈ writes) :
    ∃ status, interaction.request = .writeStatus target status := by
  cases write with
  | skipped => exact absurd member List.not_mem_nil
  | made status answer => exact ⟨status, List.mem_singleton.mp member ▸ rfl⟩

/-- Where there is a status to write, it is written before something else is done. -/
theorem StatusWrite.path {α : Type} {target : Target} {made : Option Status}
    {writes : List Interaction} {value : α} (write : StatusWrite target made writes (.ok ())) :
    Attempt.Path
      (match made with
        | some status => writeStatus target status >>= fun _ => pure value
        | none => pure value) writes (.ok value) := by
  generalize ended : Except.ok () = written at write
  cases write with
  | skipped => exact .done _
  | made status answer =>
      cases answer with
      | ok _ => exact .call (.done _)
      | error fault => cases ended

/-- Whatever follows the writing of a status is done where that was not refused. -/
theorem path_statusWrite_then {α : Type} {target : Target} {made : Option Status}
    {last : Attempt α} {interactions : List Interaction} {result : Except Failure α}
    (path : Attempt.Path
      (match made with
        | some status => writeStatus target status >>= fun _ => last
        | none => last) interactions result) :
    (∃ failure, StatusWrite target made interactions (.error failure) ∧
        result = .error failure) ∨
      ∃ writes others, interactions = writes ++ others ∧
        StatusWrite target made writes (.ok ()) ∧ last.Path others result := by
  cases made with
  | none => exact .inr ⟨[], interactions, rfl, .skipped, path⟩
  | some status =>
      obtain ⟨answer, others, rfl, ways⟩ := Attempt.path_ask_bind path
      rcases ways with ⟨fault, rfl, rfl, rfl⟩ | ⟨_, rfl, following⟩
      · exact .inl ⟨_, .made status (.error fault), rfl⟩
      · exact .inr ⟨[_], others, rfl, .made status (.ok ()), following⟩

/-- What comes of a pass that ends with a write: it fails as the write does. -/
def Pass.afterWrite (pass : Pass) (written : Except Failure Unit) : Except Failure Pass :=
  written.map fun _ => pass

theorem path_statusWrite_pure {target : Target} {made : Option Status} {pass : Pass}
    {interactions : List Interaction} {result : Except Failure Pass}
    (path : Attempt.Path
      (match made with
        | some status => writeStatus target status >>= fun _ => pure pass
        | none => pure pass) interactions result) :
    ∃ written, StatusWrite target made interactions written ∧ result = pass.afterWrite written := by
  rcases path_statusWrite_then path with ⟨failure, write, rfl⟩ | ⟨writes, _, rfl, write, last⟩
  · exact ⟨_, write, rfl⟩
  · obtain ⟨rfl, rfl⟩ := Attempt.path_pure_iff.mp last
    rw [List.append_nil]
    exact ⟨_, write, rfl⟩

theorem path_afterWriteStatus {target : Target} {status : Status} {pass : Pass}
    {interactions : List Interaction} {result : Except Failure Pass}
    (path : Attempt.Path (writeStatus target status >>= fun _ => pure pass) interactions result) :
    ∃ written, StatusWrite target (some status) interactions written ∧
      result = pass.afterWrite written :=
  @path_statusWrite_pure target (some status) pass interactions result path

/-! ## Courses -/

namespace ManagedResource

/-- The outcome that an attempt to converge comes to: every failure is one. -/
def outcomeOf : Except Failure Outcome → Outcome
  | .ok outcome => outcome
  | .error failure => .failed failure.message

/-- Why a resource cannot go yet after an attempt to clean up, in words; none if it can. -/
def obstacleOf : Except Failure (Option String) → Option String
  | .ok obstacle => obstacle
  | .error failure => some ("Deletion failed: " ++ failure.message)

def transitionAfter (resource : ManagedResource) (outcome : Outcome) (now : Instant) :
    Transition :=
  transition resource.status (resource.probed now) outcome resource.declaration.kind.errorRequeue
    now

/-- The status of a resource whose deletion was noted. -/
def notedStatus (resource : ManagedResource) (now : Instant) : Status :=
  markDeleting (resource.probed now) resource.declaration.kind.name
    resource.declaration.dropsOnDelete now

/-- The status of a resource whose cleanup failed. -/
def obstructedStatus (resource : ManagedResource) (message : String) (now : Instant) : Status :=
  ((resource.probed now).setPhase .deleting now).setMessage (some message)

/-- The writing of the finalizers of a resource, and the answer to it. -/
def finalizerWrite (resource : ManagedResource) (inNamespace : String)
    (finalizers : List String) (answer : Except ClusterFault Unit) : Interaction :=
  ⟨.writeFinalizers (resource.target inNamespace) finalizers resource.metadata.resourceVersion,
    answer⟩

/-- A pass over a resource takes a course: it sets the finalizer, keeps the resource, ignores it,
notes its deletion, lets it go, lets it go after a cleanup, or reports that this was not
possible. -/
inductive Course (resource : ManagedResource) (inNamespace : String) :
    List Interaction → Except Failure Pass → Prop where
  | enrolled (staying : resource.metadata.isDeleting = false)
      (finalizer : resource.metadata.hasFinalizer = false) (answer : Except ClusterFault Unit) :
      Course resource inNamespace
        [resource.finalizerWrite inNamespace resource.metadata.finalizersWith answer]
        (Pass.afterWrite ⟨.after followUpInterval, false⟩ (answer.mapError .cluster))
  | kept (staying : resource.metadata.isDeleting = false)
      (finalizer : resource.metadata.hasFinalizer = true) (now : Instant)
      {work writes : List Interaction} {attempted : Except Failure Outcome}
      {written : Except Failure Unit}
      (attempt : (resource.attemptConvergence inNamespace).Path work attempted)
      (write : StatusWrite (resource.target inNamespace)
        (resource.transitionAfter (outcomeOf attempted) now).status writes written) :
      Course resource inNamespace (⟨.now, now⟩ :: (work ++ writes))
        (Pass.afterWrite
          ⟨.after (resource.transitionAfter (outcomeOf attempted) now).requeue,
            (outcomeOf attempted).isFailure⟩ written)
  | ignored (leaving : resource.metadata.isDeleting = true)
      (finalizer : resource.metadata.hasFinalizer = false) :
      Course resource inNamespace [] (.ok ⟨.onChange, false⟩)
  | noted (leaving : resource.metadata.isDeleting = true)
      (finalizer : resource.metadata.hasFinalizer = true)
      (step : cleanupStep resource.phase resource.declaration.dropsOnDelete = .markDeleting)
      (now : Instant) {writes : List Interaction} {written : Except Failure Unit}
      (write : StatusWrite (resource.target inNamespace) (some (resource.notedStatus now)) writes
        written) :
      Course resource inNamespace (⟨.now, now⟩ :: writes)
        (Pass.afterWrite ⟨.after followUpInterval, false⟩ written)
  | released (leaving : resource.metadata.isDeleting = true)
      (finalizer : resource.metadata.hasFinalizer = true)
      (step : cleanupStep resource.phase resource.declaration.dropsOnDelete = .release)
      (now : Instant) (answer : Except ClusterFault Unit) :
      Course resource inNamespace
        [⟨.now, now⟩,
          resource.finalizerWrite inNamespace resource.metadata.finalizersWithout answer]
        (Pass.afterWrite ⟨.onChange, false⟩ (answer.mapError .cluster))
  | dropped (leaving : resource.metadata.isDeleting = true)
      (finalizer : resource.metadata.hasFinalizer = true)
      (step : cleanupStep resource.phase resource.declaration.dropsOnDelete = .drop)
      (now : Instant) {work : List Interaction} {attempted : Except Failure (Option String)}
      (attempt : (resource.attemptCleanup inNamespace).Path work attempted)
      (unhindered : obstacleOf attempted = none) (answer : Except ClusterFault Unit) :
      Course resource inNamespace
        (⟨.now, now⟩ ::
          (work ++ [resource.finalizerWrite inNamespace resource.metadata.finalizersWithout answer]))
        (Pass.afterWrite ⟨.onChange, false⟩ (answer.mapError .cluster))
  | obstructed (leaving : resource.metadata.isDeleting = true)
      (finalizer : resource.metadata.hasFinalizer = true)
      (step : cleanupStep resource.phase resource.declaration.dropsOnDelete = .drop)
      (now : Instant) {work writes : List Interaction}
      {attempted : Except Failure (Option String)} {message : String}
      {written : Except Failure Unit}
      (attempt : (resource.attemptCleanup inNamespace).Path work attempted)
      (obstacle : obstacleOf attempted = some message)
      (write : StatusWrite (resource.target inNamespace)
        (if Status.isUnchanged resource.status (resource.obstructedStatus message now) then none
          else some (resource.obstructedStatus message now)) writes written) :
      Course resource inNamespace (⟨.now, now⟩ :: (work ++ writes))
        (Pass.afterWrite ⟨.after cleanupInterval, true⟩ written)

variable {resource : ManagedResource} {inNamespace : String} {interactions : List Interaction}

/-- An evaluation asks what the attempt asks, and makes an outcome of every failure. -/
theorem path_evaluate_iff {outcome : Outcome} :
    (resource.evaluate inNamespace).Path interactions outcome ↔
      ∃ attempted, (resource.attemptConvergence inNamespace).Path interactions attempted ∧
        outcome = outcomeOf attempted := by
  apply Program.path_bind_of_pure
  intro attempted
  cases attempted with
  | ok _ | error _ => rfl

theorem path_cleanupObstacle_iff {obstacle : Option String} :
    (resource.cleanupObstacle inNamespace).Path interactions obstacle ↔
      ∃ attempted, (resource.attemptCleanup inNamespace).Path interactions attempted ∧
        obstacle = obstacleOf attempted := by
  apply Program.path_bind_of_pure
  intro attempted
  cases attempted with
  | ok _ | error _ => rfl

theorem path_afterWriteFinalizers {finalizers : List String} {pass : Pass}
    {result : Except Failure Pass}
    (path : Attempt.Path
      (resource.writeFinalizers inNamespace finalizers >>= fun _ => pure pass) interactions
      result) :
    ∃ answer, interactions = [resource.finalizerWrite inNamespace finalizers answer] ∧
      result = pass.afterWrite (answer.mapError .cluster) := by
  obtain ⟨_, asked, rfl⟩ := Attempt.path_bind_pure_iff.mp path
  obtain ⟨answer, rfl, rfl⟩ := Attempt.path_ask_iff.mp asked
  exact ⟨answer, rfl, rfl⟩

theorem course_of_path_keep {result : Except Failure Pass}
    (staying : resource.metadata.isDeleting = false)
    (path : (resource.keep inNamespace).Path interactions result) :
    resource.Course inNamespace interactions result := by
  rw [keep] at path
  cases finalizer : resource.metadata.hasFinalizer with
  | false =>
      rw [finalizer] at path
      obtain ⟨answer, rfl, rfl⟩ := path_afterWriteFinalizers path
      exact .enrolled staying finalizer answer
  | true =>
      rw [if_pos finalizer] at path
      obtain ⟨(now : Instant), _, rfl, afterwards⟩ := Attempt.path_lift_ask_bind path
      obtain ⟨work, writes, _, rfl, evaluated, ending⟩ := Attempt.path_lift_bind afterwards
      obtain ⟨attempted, attempt, rfl⟩ := path_evaluate_iff.mp evaluated
      obtain ⟨written, write, rfl⟩ := path_statusWrite_pure ending
      exact .kept staying finalizer now attempt write

theorem path_reportObstacle {message : String} {now : Instant} {result : Except Failure Pass}
    (path : (resource.reportObstacle inNamespace now message).Path interactions result) :
    ∃ written,
      StatusWrite (resource.target inNamespace)
        (if Status.isUnchanged resource.status (resource.obstructedStatus message now) then none
          else some (resource.obstructedStatus message now)) interactions written ∧
      result = Pass.afterWrite ⟨.after cleanupInterval, true⟩ written := by
  rw [reportObstacle] at path
  rw [obstructedStatus]
  cases unchanged : Status.isUnchanged resource.status
      (((resource.probed now).setPhase .deleting now).setMessage (some message)) with
  | true =>
      rw [unchanged] at path
      obtain ⟨rfl, rfl⟩ := Attempt.path_pure_iff.mp path
      exact ⟨_, .skipped, rfl⟩
  | false =>
      rw [unchanged] at path
      exact path_afterWriteStatus path

theorem course_of_path_remove {result : Except Failure Pass}
    (leaving : resource.metadata.isDeleting = true)
    (path : (resource.remove inNamespace).Path interactions result) :
    resource.Course inNamespace interactions result := by
  rw [remove] at path
  cases finalizer : resource.metadata.hasFinalizer with
  | false =>
      rw [finalizer] at path
      obtain ⟨rfl, rfl⟩ := Attempt.path_pure_iff.mp path
      exact .ignored leaving finalizer
  | true =>
      rw [if_pos finalizer] at path
      obtain ⟨(now : Instant), _, rfl, afterwards⟩ := Attempt.path_lift_ask_bind path
      cases step : cleanupStep resource.phase resource.declaration.dropsOnDelete with
      | markDeleting =>
          rw [step] at afterwards
          obtain ⟨written, write, rfl⟩ := path_afterWriteStatus afterwards
          exact .noted leaving finalizer step now write
      | release =>
          rw [step] at afterwards
          obtain ⟨answer, rfl, rfl⟩ := path_afterWriteFinalizers afterwards
          exact .released leaving finalizer step now answer
      | drop =>
          rw [step] at afterwards
          obtain ⟨work, writes, _, rfl, cleaned, ending⟩ := Attempt.path_lift_bind afterwards
          obtain ⟨attempted, attempt, rfl⟩ := path_cleanupObstacle_iff.mp cleaned
          cases obstacle : obstacleOf attempted with
          | none =>
              rw [obstacle] at ending
              obtain ⟨answer, rfl, rfl⟩ := path_afterWriteFinalizers ending
              exact .dropped leaving finalizer step now attempt obstacle answer
          | some message =>
              rw [obstacle] at ending
              obtain ⟨written, write, rfl⟩ := path_reportObstacle ending
              exact .obstructed leaving finalizer step now attempt obstacle write

theorem course_of_path {result : Except Failure Pass}
    (path : (resource.pass inNamespace).Path interactions result) :
    resource.Course inNamespace interactions result := by
  rw [pass] at path
  cases leaving : resource.metadata.isDeleting with
  | true =>
      rw [if_pos leaving] at path
      exact course_of_path_remove leaving path
  | false =>
      rw [leaving] at path
      exact course_of_path_keep leaving path

/-- A pass over a resource with a namespace takes a course and is counted; there is none over a
resource without. -/
theorem course_of_path_reconcile {result : Except Failure Requeue}
    (path : resource.reconcile.Path interactions result) :
    (resource.metadata.inNamespace = none ∧ interactions = [] ∧ result = .error .noNamespace) ∨
      ∃ inNamespace work passed, resource.metadata.inNamespace = some inNamespace ∧
        resource.Course inNamespace work passed ∧
          interactions = work ++
            [⟨.count (resource.labels inNamespace) (countsAsFailed passed), ()⟩] ∧
          result = passed.map Pass.requeue := by
  rw [reconcile] at path
  cases named : resource.metadata.inNamespace with
  | none =>
      rw [named] at path
      obtain ⟨rfl, rfl⟩ := Attempt.path_throw_iff.mp path
      exact .inl ⟨rfl, rfl, rfl⟩
  | some inNamespace =>
      rw [named] at path
      obtain ⟨work, _, passed, rfl, passing, counting⟩ := Program.path_bind_iff.mp path
      obtain ⟨counted, _, _, rfl, asked, last⟩ := Program.path_bind_iff.mp counting
      obtain ⟨rfl, rfl⟩ := Program.path_pure_iff.mp last
      rw [Program.path_ask_iff.mp asked]
      exact .inr ⟨inNamespace, work, passed, rfl, course_of_path passing, rfl, rfl⟩

/-- A pass over a resource that is kept is made of an attempt and the writing of what it came to. -/
theorem reconcile_path_of_kept {now : Instant} {work writes : List Interaction}
    {outcome : Outcome}
    (named : resource.metadata.inNamespace = some inNamespace)
    (staying : resource.metadata.isDeleting = false)
    (finalizer : resource.metadata.hasFinalizer = true)
    (attempt : (resource.attemptConvergence inNamespace).Path work (.ok outcome))
    (write : StatusWrite (resource.target inNamespace)
      (resource.transitionAfter outcome now).status writes (.ok ())) :
    resource.reconcile.Path
      (⟨.now, now⟩ :: (work ++ (writes ++
        [⟨.count (resource.labels inNamespace) outcome.isFailure, ()⟩])))
      (.ok (.after (resource.transitionAfter outcome now).requeue)) := by
  have passed : (resource.pass inNamespace).Path (⟨.now, now⟩ :: (work ++ writes))
      (.ok ⟨.after (resource.transitionAfter outcome now).requeue, outcome.isFailure⟩) := by
    rw [pass, staying]
    show (resource.keep inNamespace).Path _ _
    rw [keep, if_pos finalizer]
    refine .call ?_
    refine Attempt.path_bind_iff.mpr (.inr ⟨work, writes, outcome, rfl,
      Attempt.path_lift_iff.mpr ⟨outcome, path_evaluate_iff.mpr ⟨_, attempt, rfl⟩, rfl⟩, ?_⟩)
    exact write.path
  rw [reconcile, named]
  have counted : Program.Path
      (Program.ask (.count (resource.labels inNamespace) outcome.isFailure) >>= fun _ =>
        pure (Except.ok (Requeue.after (resource.transitionAfter outcome now).requeue)))
      [⟨.count (resource.labels inNamespace) outcome.isFailure, ()⟩]
      (Except.ok (Requeue.after (resource.transitionAfter outcome now).requeue) :
        Except Failure Requeue) := .call (.done _)
  refine Program.path_bind_iff.mpr ⟨_, _, _, ?_, passed, counted⟩
  rw [List.cons_append, List.append_assoc]

end ManagedResource

end CatalogSteward
