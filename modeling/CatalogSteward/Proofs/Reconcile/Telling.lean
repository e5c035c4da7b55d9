import CatalogSteward.Proofs.Reconcile.Deletion
import CatalogSteward.Proofs.Reconcile.Trouble

/-!
# Telling what went wrong

A pass fails only where a write of the resource is refused. Whatever else goes
wrong is told in the status, in the words for just that, and the resource is
looked at again.
-/

set_option autoImplicit false

namespace CatalogSteward

/-! ## Refused writes -/

/-- The fault that a write of a resource was refused with. -/
def Interaction.refusal? : Interaction → Option ClusterFault
  | ⟨.writeStatus _ _, .error fault⟩ => some fault
  | ⟨.writeFinalizers _ _ _, .error fault⟩ => some fault
  | _ => none

def refusals (interactions : List Interaction) : List ClusterFault :=
  interactions.filterMap Interaction.refusal?

/-- What comes of interactions is a failure exactly where they refuse a write. -/
def FailsAsRefused {α : Type} (interactions : List Interaction) (result : Except Failure α) :
    Prop :=
  ∀ failure, result = .error failure ↔
    ∃ fault ∈ refusals interactions, failure = .cluster fault

section Refusals

variable {α β : Type} {first second : List Interaction} {result : Except Failure α}

theorem refusals_append : refusals (first ++ second) = refusals first ++ refusals second :=
  List.filterMap_append

theorem refusals_of_noRecord
    (noRecord : ∀ interaction ∈ first, interaction.request.isRecord = false) :
    refusals first = [] := by
  apply List.filterMap_eq_nil_iff.mpr
  intro interaction member
  have other := noRecord interaction member
  obtain ⟨request, answer⟩ := interaction
  cases request with
  | writeStatus | writeFinalizers => exact nomatch other
  | _ => rfl

namespace FailsAsRefused

theorem ok {value : α} (none : refusals first = []) :
    FailsAsRefused first (.ok value : Except Failure α) := by
  intro failure
  rw [none]
  simp only [reduceCtorEq, List.not_mem_nil, false_and, exists_false]

theorem error {fault : ClusterFault} (refused : refusals first = [fault]) :
    FailsAsRefused first (.error (.cluster fault) : Except Failure α) := by
  intro failure
  rw [refused, Except.error.injEq, eq_comm]
  simp only [List.mem_singleton, exists_eq_left]

theorem statusWrite {target : Target} {made : Option Status} {written : Except Failure Unit}
    (write : StatusWrite target made first written) : FailsAsRefused first written := by
  cases write with
  | skipped => exact .ok rfl
  | made status answer =>
      cases answer with
      | ok _ => exact .ok rfl
      | error fault => exact .error rfl

theorem finalizerWrite {resource : ManagedResource} {inNamespace : String}
    {finalizers : List String} {answer : Except ClusterFault Unit} :
    FailsAsRefused [resource.finalizerWrite inNamespace finalizers answer]
      (answer.mapError Failure.cluster) := by
  cases answer with
  | ok _ => exact .ok rfl
  | error fault => exact .error rfl

theorem map {change : α → β} (fails : FailsAsRefused first result) :
    FailsAsRefused first (result.map change) := by
  intro failure
  rw [← fails failure]
  cases result with
  | ok value => exact iff_of_false nofun nofun
  | error other => simp only [Except.map, Except.error.injEq]

/-- Whatever is asked before a write is none, and the clock is looked at before that. -/
theorem after_work {work : List Interaction} {now : Time.Instant}
    (fails : FailsAsRefused first result)
    (noRecord : ∀ interaction ∈ work, interaction.request.isRecord = false) :
    FailsAsRefused (⟨.now, now⟩ :: (work ++ first)) result := by
  intro failure
  have same : refusals (⟨.now, now⟩ :: (work ++ first)) = refusals work ++ refusals first :=
    refusals_append
  rw [same, refusals_of_noRecord noRecord]
  exact fails failure

end FailsAsRefused

end Refusals

theorem StatusWrite.records {target : Target} {made : Option Status} {writes : List Interaction}
    {written : Except Failure Unit} (write : StatusWrite target made writes written) :
    ∀ interaction ∈ writes, interaction.request.isRecord = true := by
  intro interaction member
  obtain ⟨status, asked⟩ := write.exists_request member
  rw [asked]
  rfl

theorem StatusWrite.chores {target : Target} {made : Option Status} {writes : List Interaction}
    {written : Except Failure Unit} (write : StatusWrite target made writes written) :
    ∀ interaction ∈ writes, interaction.request.isChore = true := by
  intro interaction member
  obtain ⟨status, asked⟩ := write.exists_request member
  rw [asked]
  rfl

namespace ManagedResource

variable {α : Type} {resource : ManagedResource} {inNamespace : String}
  {interactions : List Interaction}

/-- A pass fails exactly where a write of it is refused, with the fault that it was refused
with. -/
theorem Course.failsAsRefused {passed : Except Failure Pass}
    (course : resource.Course inNamespace interactions passed) :
    FailsAsRefused interactions passed := by
  cases course with
  | enrolled staying finalizer answer => exact .map .finalizerWrite
  | ignored leaving finalizer => exact .ok rfl
  | noted leaving finalizer step now write =>
      exact (FailsAsRefused.statusWrite write).map.after_work (List.forall_mem_nil _)
  | released leaving finalizer step now answer =>
      exact FailsAsRefused.finalizerWrite.map.after_work (List.forall_mem_nil _)
  | kept staying finalizer now attempt write =>
      exact (FailsAsRefused.statusWrite write).map.after_work
        (resource.attemptConvergence_asks _ _ _ attempt)
  | dropped leaving finalizer step now attempt unhindered answer =>
      exact FailsAsRefused.finalizerWrite.map.after_work
        (resource.attemptCleanup_asks _ _ _ attempt)
  | obstructed leaving finalizer step now attempt obstacle write =>
      exact (FailsAsRefused.statusWrite write).map.after_work
        (resource.attemptCleanup_asks _ _ _ attempt)

/-! ## Telling -/

/-- What watchers of a resource are told when something is wrong with it. -/
def notice (resource : ManagedResource) (phase : Phase) (message : String) :
    Phase × Option String × String × Option Int64 :=
  (phase, some message, resource.declaration.displayName,
    Status.latestGeneration (resource.status.bind Status.observedGeneration)
      resource.metadata.generation)

theorem report_eq_notice {phase : Phase} {message : String} {now : Time.Instant} :
    (((resource.probed now).setPhase phase now).setMessage (some message)).report =
      resource.notice phase message := by
  simp only [Status.report, Status.setMessage, Status.setPhase_phase, Status.setPhase_name,
    Status.setPhase_observedGeneration, notice, probed, Status.probe]
  cases resource.status with
  | none => rfl
  | some status => rfl

/-- A pass tells something about a resource, whose finalizers it leaves alone. It fails if the
write of that is refused; otherwise it comes to an end that has the resource looked at again after
some seconds, and what is stored then says it: it is written, unless the status that was stored
before says the same. -/
structure Tells (resource : ManagedResource) (inNamespace : String)
    (interactions : List Interaction) (result : Except Failure Requeue) (phase : Phase)
    (message : String) (seconds : Nat) : Prop where
  finalizers : ∀ current next, Along Keeps current interactions next →
    next.metadata.finalizers = current.metadata.finalizers
  told : (∃ status fault,
      (⟨.writeStatus (resource.target inNamespace) status, Except.error fault⟩ : Interaction) ∈
          interactions ∧
        status.report = resource.notice phase message ∧ result = .error (.cluster fault)) ∨
    result = .ok (.after seconds) ∧
      ((∃ status,
          (⟨.writeStatus (resource.target inNamespace) status, Except.ok ()⟩ : Interaction) ∈
              interactions ∧
            status.report = resource.notice phase message) ∨
        (∀ interaction ∈ interactions, interaction.request.isRecord = false) ∧
          ∃ status, resource.status = some status ∧
            status.report = resource.notice phase message) ∧
        ∀ next, Along Keeps resource interactions next →
          ∃ status, next.status = some status ∧ status.report = resource.notice phase message

theorem tells_of_statusWrite {now : Time.Instant} {work writes : List Interaction}
    {last : Interaction} {status : Status} {written : Except Failure Unit} {phase : Phase}
    {message : String} {seconds : Nat} {failed : Bool}
    (noRecord : ∀ interaction ∈ work, interaction.request.isRecord = false)
    (quietLast : last.request.isRecord = false)
    (write : StatusWrite (resource.target inNamespace)
      (if Status.isUnchanged resource.status status then none else some status) writes written)
    (reported : status.report = resource.notice phase message) :
    resource.Tells inNamespace (⟨.now, now⟩ :: (work ++ (writes ++ [last])))
      ((Pass.afterWrite ⟨.after seconds, failed⟩ written).map Pass.requeue) phase message
      seconds := by
  have inWrites : ∀ interaction ∈ (⟨.now, now⟩ : Interaction) :: (work ++ (writes ++ [last])),
      interaction.request.isRecord = true → interaction ∈ writes := by
    intro interaction member record
    simp only [List.mem_cons, List.mem_append, List.not_mem_nil, or_false] at member
    obtain rfl | asked | wrote | rfl := member
    · exact nomatch record
    · rw [noRecord _ asked] at record
      exact nomatch record
    · exact wrote
    · rw [quietLast] at record
      exact nomatch record
  constructor
  · intro current next kept
    apply finalizers_of_along kept
    intro interaction member target finalizers resourceVersion same
    have wrote := inWrites interaction member (same ▸ rfl)
    exact write.request_ne wrote same
  · have made : ∀ interaction ∈ writes,
        interaction ∈ (⟨.now, now⟩ : Interaction) :: (work ++ (writes ++ [last])) :=
      fun _ wrote => List.mem_append_right (_ :: work) (List.mem_append_left _ wrote)
    cases told_of_statusWrite write with
    | inl refused =>
        obtain ⟨fault, wrote, rfl⟩ := refused
        exact .inl ⟨status, fault, made _ wrote, reported, rfl⟩
    | inr told =>
        obtain ⟨rfl, told, stored⟩ := told
        refine .inr ⟨rfl, told.imp ?_ ?_, fun next kept => ?_⟩
        · exact fun wrote => ⟨status, made _ wrote, reported⟩
        · intro before
          obtain ⟨rfl, status, held, same⟩ := before
          refine ⟨fun interaction member => ?_, status, held, same.trans reported⟩
          exact Bool.eq_false_iff.mpr fun record =>
            List.not_mem_nil (inWrites interaction member record)
        · obtain ⟨status, held, same⟩ := stored next (along_writes noRecord quietLast kept)
          exact ⟨status, held, same.trans reported⟩

/-! ## Accounts -/

/-- A pass tells of a failure: the resource is in error, or its deletion failed. -/
structure TellsFailure (resource : ManagedResource) (inNamespace : String)
    (interactions : List Interaction) (result : Except Failure Requeue) (text : String) : Prop where
  staying : resource.metadata.isDeleting = false →
    resource.Tells inNamespace interactions result .error text
      resource.declaration.kind.errorRequeue
  leaving : resource.metadata.isDeleting = true →
    resource.Tells inNamespace interactions result .deleting ("Deletion failed: " ++ text)
      cleanupInterval

/-- A pass tells that the connection is missing or not ready, by the namespace and the name that it
was looked up with. -/
structure TellsUnready (resource : ManagedResource) (inNamespace : String)
    (interactions : List Interaction) (result : Except Failure Requeue) : Prop where
  staying : resource.metadata.isDeleting = false →
    resource.Tells inNamespace interactions result .pending
      ("The specified ClusterConnection does not exist or is not ready yet [resource=" ++
        (resource.declaration.cluster.namespaceFrom inNamespace ++ "/" ++
          resource.declaration.cluster.name) ++ "]") pendingInterval
  leaving : resource.metadata.isDeleting = true →
    resource.Tells inNamespace interactions result .deleting
      ("The specified ClusterConnection no longer exists or is not ready yet [resource=" ++
        (resource.declaration.cluster.namespaceFrom inNamespace ++ "/" ++
          resource.declaration.cluster.name) ++ "]") cleanupInterval

/-- A pass gives account of what went wrong: it tells of it, and it counts as failed for that or for
a write that was refused, and for nothing else. That a connection is not ready yet is no failure,
unless it stands in the way of a cleanup. -/
structure Accounts (resource : ManagedResource) (inNamespace : String)
    (interactions : List Interaction) (passed : Except Failure Pass) : Prop where
  troubled : ∀ text, resource.Troubled inNamespace interactions text →
    resource.TellsFailure inNamespace interactions (passed.map Pass.requeue) text
  unready : resource.FindsUnready inNamespace interactions →
    resource.TellsUnready inNamespace interactions (passed.map Pass.requeue)
  counted : countsAsFailed passed = true ↔
    (∃ failure, passed = .error failure) ∨
      (∃ text, resource.Troubled inNamespace interactions text) ∨
        resource.metadata.isDeleting = true ∧ resource.FindsUnready inNamespace interactions

section Accounts

variable {writes : List Interaction} {last : Interaction} {written : Except Failure Unit}
  {now : Time.Instant} {work : List Interaction} {pass : Pass}

theorem countsAsFailed_afterWrite :
    countsAsFailed (pass.afterWrite written) = true ↔
      (∃ failure, pass.afterWrite written = .error failure) ∨ pass.failed = true := by
  cases written with
  | ok _ =>
      have fine : ¬∃ failure, pass.afterWrite (.ok ()) = .error failure :=
        fun failed => nomatch failed.choose_spec
      exact (or_iff_right fine).symm
  | error failure => exact iff_of_true rfl (.inl ⟨failure, rfl⟩)

theorem findsUnready_iff (chores : ∀ interaction ∈ writes, interaction.request.isChore = true) :
    resource.FindsUnready inNamespace (⟨.now, now⟩ :: (work ++ writes)) ↔
      resource.FindsUnready inNamespace work := by
  constructor
  · rintro ⟨found, unready, member⟩
    cases List.mem_cons.mp member with
    | inl impossible => exact nomatch impossible
    | inr member =>
        exact ⟨found, unready,
          (List.mem_append.mp member).resolve_right (lookup_not_mem_chores chores)⟩
  · rintro ⟨found, unready, member⟩
    exact ⟨found, unready, List.mem_cons_of_mem _ (List.mem_append_left _ member)⟩

/-- A pass that makes no attempt has to give account of nothing but its writes. -/
theorem accounts_of_chores
    (chores : ∀ interaction ∈ interactions, interaction.request.isChore = true)
    (idle : resource.metadata.isDeleting = false → resource.metadata.hasFinalizer = false)
    (fine : pass.failed = false) :
    resource.Accounts inNamespace interactions (pass.afterWrite written) where
  troubled text troubled := absurd troubled (not_troubled_of_chores chores idle)
  unready unready := absurd unready.choose_spec.2 (lookup_not_mem_chores chores)
  counted := by
    rw [countsAsFailed_afterWrite, fine]
    refine or_congr_right (iff_of_false Bool.false_ne_true ?_)
    rintro (⟨text, troubled⟩ | ⟨-, found, -, member⟩)
    · exact not_troubled_of_chores chores idle troubled
    · exact lookup_not_mem_chores chores member

/-- A pass that makes an attempt gives account of it if it tells of the failure of the attempt, or
that this finds no connection that is ready, and counts as failed for either. -/
theorem accounts_of_attempt {attempt : Attempt α} {attempted : Except Failure α}
    (about : attempt.IsCandidAbout (resource.Objects inNamespace))
    (path : attempt.Path work attempted)
    (chores : ∀ interaction ∈ writes, interaction.request.isChore = true)
    (failed : ∀ failure, attempted = .error failure →
      resource.TellsFailure inNamespace (⟨.now, now⟩ :: (work ++ writes))
        ((pass.afterWrite written).map Pass.requeue) failure.message)
    (unready : resource.FindsUnready inNamespace work →
      resource.TellsUnready inNamespace (⟨.now, now⟩ :: (work ++ writes))
        ((pass.afterWrite written).map Pass.requeue))
    (counted : pass.failed = true ↔ (∃ failure, attempted = .error failure) ∨
      resource.metadata.isDeleting = true ∧ resource.FindsUnready inNamespace work) :
    resource.Accounts inNamespace (⟨.now, now⟩ :: (work ++ writes)) (pass.afterWrite written) where
  troubled text troubled := by
    have complained := (troubled_iff about path chores).mp troubled
    cases attempted with
    | ok value => exact absurd complained mem_complaint_ok
    | error failure =>
        rw [mem_complaint_error_iff.mp complained]
        exact failed failure rfl
  unready found := unready ((findsUnready_iff chores).mp found)
  counted := by
    have complained : (∃ text, text ∈ complaint attempted) ↔
        ∃ failure, attempted = .error failure := by
      cases attempted with
      | ok value => exact iff_of_false nofun nofun
      | error failure => exact iff_of_true ⟨_, List.mem_cons_self⟩ ⟨failure, rfl⟩
    simp only [countsAsFailed_afterWrite, troubled_iff about path chores, findsUnready_iff chores,
      complained, counted]

/-- A pass over a resource that is to stay gives account of what becomes of the attempt. -/
theorem accounts_of_kept {attempted : Except Failure Outcome} {last : Interaction}
    (staying : resource.metadata.isDeleting = false)
    (finalizer : resource.metadata.hasFinalizer = true)
    (attempt : (resource.attemptConvergence inNamespace).Path work attempted)
    (write : StatusWrite (resource.target inNamespace)
      (resource.transitionAfter (outcomeOf attempted) now).status writes written)
    (chores : ∀ interaction ∈ writes ++ [last], interaction.request.isChore = true)
    (quietLast : last.request.isRecord = false) :
    resource.Accounts inNamespace (⟨.now, now⟩ :: (work ++ (writes ++ [last])))
      (Pass.afterWrite
        ⟨.after (resource.transitionAfter (outcomeOf attempted) now).requeue,
          (outcomeOf attempted).isFailure⟩ written) := by
  have noRecord := resource.attemptConvergence_asks _ _ _ attempt
  have stays : ¬resource.metadata.isDeleting = true := Bool.eq_false_iff.mp staying
  apply accounts_of_attempt (attemptConvergence_isCandidAbout staying finalizer) attempt chores
  · rintro failure rfl
    exact
      { staying := fun _ => tells_of_statusWrite noRecord quietLast write report_eq_notice
        leaving := fun leaving => absurd leaving stays }
  · intro unready
    cases attemptConvergence_of_unready attempt unready
    exact
      { staying := fun _ => tells_of_statusWrite noRecord quietLast write report_eq_notice
        leaving := fun leaving => absurd leaving stays }
  · simp only [staying, Bool.false_eq_true, false_and, or_false]
    cases attempted with
    | ok outcome =>
        rw [outcomeOf, isFailure_of_attemptConvergence attempt]
        exact iff_of_false Bool.false_ne_true nofun
    | error failure => exact iff_of_true rfl ⟨failure, rfl⟩

/-- A pass that attempts a cleanup and cannot let the resource go gives account of what stood in
the way. -/
theorem accounts_of_obstructed {attempted : Except Failure (Option String)} {message : String}
    {last : Interaction} (leaving : resource.metadata.isDeleting = true)
    (attempt : (resource.attemptCleanup inNamespace).Path work attempted)
    (obstacle : obstacleOf attempted = some message)
    (write : StatusWrite (resource.target inNamespace)
      (if Status.isUnchanged resource.status (resource.obstructedStatus message now) then none
        else some (resource.obstructedStatus message now)) writes written)
    (chores : ∀ interaction ∈ writes ++ [last], interaction.request.isChore = true)
    (quietLast : last.request.isRecord = false) :
    resource.Accounts inNamespace (⟨.now, now⟩ :: (work ++ (writes ++ [last])))
      (Pass.afterWrite ⟨.after cleanupInterval, true⟩ written) := by
  have noRecord := resource.attemptCleanup_asks _ _ _ attempt
  have goes : ¬resource.metadata.isDeleting = false := Bool.not_eq_false _ ▸ leaving
  apply accounts_of_attempt (attemptCleanup_isCandidAbout leaving) attempt chores
  · rintro failure rfl
    cases obstacle
    exact
      { staying := fun staying => absurd staying goes
        leaving := fun _ => tells_of_statusWrite noRecord quietLast write report_eq_notice }
  · intro unready
    cases attemptCleanup_of_unready attempt unready
    cases obstacle
    exact
      { staying := fun staying => absurd staying goes
        leaving := fun _ => tells_of_statusWrite noRecord quietLast write report_eq_notice }
  · refine iff_of_true rfl ?_
    cases attempted with
    | error failure => exact .inl ⟨failure, rfl⟩
    | ok obstacle =>
        cases obstacle
        exact .inr ⟨leaving, unready_of_attemptCleanup attempt⟩

/-- A pass that lets a resource go after a cleanup had no trouble with it. -/
theorem accounts_of_dropped {attempted : Except Failure (Option String)}
    (leaving : resource.metadata.isDeleting = true)
    (attempt : (resource.attemptCleanup inNamespace).Path work attempted)
    (unhindered : obstacleOf attempted = none)
    (chores : ∀ interaction ∈ writes, interaction.request.isChore = true)
    (fine : pass.failed = false) :
    resource.Accounts inNamespace (⟨.now, now⟩ :: (work ++ writes)) (pass.afterWrite written) := by
  cases obstacleOf_eq_none_iff.mp unhindered
  have ready : ¬resource.FindsUnready inNamespace work :=
    fun unready => nomatch attemptCleanup_of_unready attempt unready
  apply accounts_of_attempt (attemptCleanup_isCandidAbout leaving) attempt chores
  · exact fun _ impossible => nomatch impossible
  · exact fun unready => absurd unready ready
  · rw [fine]
    refine iff_of_false Bool.false_ne_true ?_
    rintro (⟨_, impossible⟩ | ⟨-, unready⟩)
    · exact nomatch impossible
    · exact ready unready

theorem Course.accounts {passed : Except Failure Pass} {last : Interaction}
    (course : resource.Course inNamespace interactions passed)
    (chore : last.request.isChore = true) (quietLast : last.request.isRecord = false) :
    resource.Accounts inNamespace (interactions ++ [last]) passed := by
  have lastChore : ∀ interaction ∈ [last], interaction.request.isChore = true :=
    List.forall_mem_singleton.mpr chore
  cases course with
  | enrolled staying finalizer answer =>
      exact accounts_of_chores (List.forall_mem_cons.mpr ⟨rfl, lastChore⟩) (fun _ => finalizer) rfl
  | ignored leaving finalizer =>
      exact @accounts_of_chores _ _ _ (.ok ()) ⟨.onChange, false⟩ lastChore (fun _ => finalizer) rfl
  | noted leaving finalizer step now write =>
      refine accounts_of_chores (List.forall_mem_cons.mpr ⟨rfl, ?_⟩) (fun staying => ?_) rfl
      · exact List.forall_mem_append.mpr ⟨write.chores, lastChore⟩
      · exact absurd leaving (Bool.eq_false_iff.mp staying)
  | released leaving finalizer step now answer =>
      refine accounts_of_chores (List.forall_mem_cons.mpr ⟨rfl, ?_⟩) (fun staying => ?_) rfl
      · exact List.forall_mem_cons.mpr ⟨rfl, lastChore⟩
      · exact absurd leaving (Bool.eq_false_iff.mp staying)
  | kept staying finalizer now attempt write =>
      rw [List.cons_append, List.append_assoc]
      exact accounts_of_kept staying finalizer attempt write
        (List.forall_mem_append.mpr ⟨write.chores, lastChore⟩) quietLast
  | dropped leaving finalizer step now attempt unhindered answer =>
      rw [List.cons_append, List.append_assoc]
      exact accounts_of_dropped leaving attempt unhindered
        (List.forall_mem_cons.mpr ⟨rfl, lastChore⟩) rfl
  | obstructed leaving finalizer step now attempt obstacle write =>
      rw [List.cons_append, List.append_assoc]
      exact accounts_of_obstructed leaving attempt obstacle write
        (List.forall_mem_append.mpr ⟨write.chores, lastChore⟩) quietLast

/-- What a pass does but for chores, and what it writes, counts nothing. -/
theorem count_not_mem {labels : SeriesLabels} {failed : Bool}
    (asked : ∀ interaction ∈ work, interaction.request.isChore = false)
    (records : ∀ interaction ∈ writes, interaction.request.isRecord = true) :
    (⟨.count labels failed, ()⟩ : Interaction) ∉ (⟨.now, now⟩ : Interaction) :: (work ++ writes) := by
  intro member
  simp only [List.mem_cons, List.mem_append] at member
  obtain impossible | asking | wrote := member
  · exact nomatch impossible
  · exact nomatch asked _ asking
  · exact nomatch records _ wrote

/-- A pass is counted after its course, and not in it. -/
theorem Course.uncounted {passed : Except Failure Pass} {labels : SeriesLabels} {failed : Bool}
    (course : resource.Course inNamespace interactions passed) :
    (⟨.count labels failed, ()⟩ : Interaction) ∉ interactions := by
  have nothing := List.forall_mem_nil fun interaction : Interaction =>
    interaction.request.isChore = false
  cases course with
  | enrolled => exact fun member => nomatch List.mem_singleton.mp member
  | ignored => exact List.not_mem_nil
  | noted leaving finalizer step now write => exact count_not_mem nothing write.records
  | released => exact count_not_mem nothing (List.forall_mem_singleton.mpr rfl)
  | kept staying finalizer now attempt write =>
      exact count_not_mem (resource.attemptConvergence_leavesChores _ _ _ attempt) write.records
  | dropped leaving finalizer step now attempt =>
      exact count_not_mem (resource.attemptCleanup_leavesChores _ _ _ attempt)
        (List.forall_mem_singleton.mpr rfl)
  | obstructed leaving finalizer step now attempt obstacle write =>
      exact count_not_mem (resource.attemptCleanup_leavesChores _ _ _ attempt) write.records

end Accounts

/-- Whatever a resource with a namespace declares, and whatever is answered to a pass over it: the
pass fails only as a write of the resource does. All else that goes wrong, be it a check, the
connection, a secret, the session, a query, a plan, a command or the end of a transaction, is told
in its own words in the status, and the resource is looked at again; and so is it told that the
connection is not ready. A pass counts as failed for nothing else. -/
theorem failures_are_told {result : Except Failure Requeue}
    (path : resource.reconcile.Path interactions result)
    (named : resource.metadata.inNamespace = some inNamespace) :
    (∀ failure, result = .error failure ↔
        ∃ fault ∈ refusals interactions, failure = .cluster fault) ∧
      (∀ text, resource.Troubled inNamespace interactions text →
        resource.TellsFailure inNamespace interactions result text) ∧
      (resource.FindsUnready inNamespace interactions →
        resource.TellsUnready inNamespace interactions result) ∧
      ((⟨.count (resource.labels inNamespace) true, ()⟩ : Interaction) ∈ interactions ↔
        (∃ failure, result = .error failure) ∨
          (∃ text, resource.Troubled inNamespace interactions text) ∨
            resource.metadata.isDeleting = true ∧
              resource.FindsUnready inNamespace interactions) := by
  cases course_of_path_reconcile path with
  | inl unnamed =>
      rw [named] at unnamed
      exact nomatch unnamed.1
  | inr passed =>
      obtain ⟨_, work, passed, here, course, rfl, rfl⟩ := passed
      cases named.symm.trans here
      have accounts : resource.Accounts inNamespace
          (work ++ [⟨.count (resource.labels inNamespace) (countsAsFailed passed), ()⟩]) passed :=
        course.accounts rfl rfl
      have fails : FailsAsRefused
          (work ++ [⟨.count (resource.labels inNamespace) (countsAsFailed passed), ()⟩])
          (passed.map Pass.requeue) := by
        intro failure
        rw [refusals_append, show refusals [_] = [] from rfl, List.append_nil]
        exact course.failsAsRefused.map failure
      refine ⟨fails, accounts.troubled, accounts.unready, ?_⟩
      rw [List.mem_append, or_iff_right course.uncounted, List.mem_singleton]
      have ended : (∃ failure, passed.map Pass.requeue = .error failure) ↔
          ∃ failure, passed = .error failure := by
        cases passed with
        | ok pass => exact iff_of_false nofun nofun
        | error failure => exact iff_of_true ⟨failure, rfl⟩ ⟨failure, rfl⟩
      rw [ended, ← accounts.counted]
      constructor
      · intro same
        have same := congrArg Interaction.request same
        exact (Request.count.inj same).2.symm
      · intro failed
        rw [failed]

/-! A role that a server is asked for which is not reachable any more. -/

private def cashier : ManagedResource where
  metadata :=
    ⟨some "cashier", none, some "shop", some 1, some "7", [CatalogSteward.finalizer], none⟩
  declaration := .role ⟨"cashier", none, ⟨"main", none⟩, none, .standard⟩
  status := none

private def cutOff : List Interaction × Except Failure Requeue :=
  cashier.reconcile.run.follow obliging

theorem failures_are_told_of_cashier :
    (cashier.reconcile.Path cutOff.1 cutOff.2 ∧ cashier.metadata.inNamespace = some "shop" ∧
        cutOff.2 = .ok (.after 60)) ∧
      cashier.Tells "shop" cutOff.1 cutOff.2 .error "error connecting to server" 60 := by
  have path : cashier.reconcile.Path cutOff.1 cutOff.2 := Program.path_follow obliging _
  have asked : (⟨.query (.role "cashier"), .error .unreachable⟩ : Interaction) ∈ cutOff.1 :=
    .tail _ (.tail _ (.tail _ (.tail _ (.tail _ (.tail _ (.head _))))))
  have troubled : cashier.Troubled "shop" cutOff.1 "error connecting to server" :=
    .answered (List.mem_filterMap.mpr ⟨_, asked, rfl⟩)
  obtain ⟨-, tells, -, -⟩ := failures_are_told path rfl
  exact ⟨⟨path, rfl, rfl⟩, (tells _ troubled).staying rfl⟩

end ManagedResource

end CatalogSteward
