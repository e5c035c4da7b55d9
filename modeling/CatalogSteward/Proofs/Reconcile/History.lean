import CatalogSteward.Proofs.Reconcile.Asked
import CatalogSteward.Proofs.Reconcile.Outcome

/-!
# Histories of a resource

The cluster keeps a resource that others edit too. A pass may be over any version
that was ever stored, others may go on at the same time, and it may be cut short.
What such a history cannot undo is what every single pass respects.
-/

set_option autoImplicit false

namespace CatalogSteward

open Time

/-! ## The phase that is written -/

namespace Outcome

/-- Of what is made of a resource that is to stay, nothing says that it is being deleted. -/
theorem phase_statusAfter_ne {outcome : Outcome} {probed : Status} {now : Instant} :
    (outcome.statusAfter probed now).phase ≠ .deleting := by
  cases outcome with
  | converged message =>
      cases message <;>
        simp only [statusAfter, Status.setMessage, Status.setPhase_phase, ne_eq, reduceCtorEq,
          not_false_eq_true]
  | applied message | pending message | failed message =>
      simp only [statusAfter, Status.setMessage, Status.setPhase_phase, ne_eq, reduceCtorEq,
        not_false_eq_true]

theorem transition_status {previous : Option Status} {probed status : Status} {outcome : Outcome}
    {errorRequeue : Nat} {now : Instant}
    (next : (transition previous probed outcome errorRequeue now).status = some status) :
    status = outcome.statusAfter probed now := by
  rw [transition, Option.ite_none_left_eq_some] at next
  exact (Option.some.inj next.2).symm

end Outcome

theorem StatusWrite.eq_some {target written : Target} {made : Option Status} {status : Status}
    {writes : List Interaction} {result : Except Failure Unit} {answer : Except ClusterFault Unit}
    (write : StatusWrite target made writes result)
    (member : (⟨.writeStatus written status, answer⟩ : Interaction) ∈ writes) :
    made = some status := by
  cases write with
  | skipped => exact absurd member List.not_mem_nil
  | made status answer =>
      cases List.mem_singleton.mp member
      rfl

namespace ManagedResource

variable {resource : ManagedResource} {inNamespace : String} {interactions : List Interaction}
  {target : Target} {status : Status} {answer : Except ClusterFault Unit}

theorem phase_notedStatus {now : Instant} : (resource.notedStatus now).phase = .deleting := by
  rw [notedStatus, markDeleting]
  split
  · exact Status.setPhase_phase
  · exact Status.setPhase_phase

theorem phase_obstructedStatus {message : String} {now : Instant} :
    (resource.obstructedStatus message now).phase = .deleting :=
  Status.setPhase_phase

/-- What an attempt asks before a write is not that write. -/
theorem mem_writes_of_attempt {α : Type} {attempt : Attempt α}
    {result : Except Failure α} {work writes : List Interaction} {now : Instant}
    {write : Interaction} (asks : attempt.Asks fun request => request.isRecord = false)
    (path : attempt.Path work result) (record : write.request.isRecord = true)
    (member : write ∈ (⟨.now, now⟩ : Interaction) :: (work ++ writes)) : write ∈ writes := by
  rw [← List.cons_append] at member
  cases List.mem_append.mp member with
  | inl asked =>
      have other := asks.noRecord path write asked
      rw [record] at other
      cases other
  | inr member => exact member

/-- What a pass writes it writes in its course, before it is counted. -/
theorem exists_course_of_write {result : Except Failure Requeue} {write : Interaction}
    (path : resource.reconcile.Path interactions result) (member : write ∈ interactions)
    (record : write.request.isRecord = true) :
    ∃ inNamespace work passed last, resource.Course inNamespace work passed ∧ write ∈ work ∧
      interactions = work ++ [last] ∧ last.request.isForServer = false := by
  cases course_of_path_reconcile path with
  | inl unnamed =>
      obtain ⟨-, rfl, -⟩ := unnamed
      exact absurd member List.not_mem_nil
  | inr passed =>
      obtain ⟨inNamespace, work, passed, -, course, rfl, -⟩ := passed
      cases List.mem_append.mp member with
      | inl member => exact ⟨inNamespace, work, passed, _, course, member, rfl, rfl⟩
      | inr counted =>
          rw [List.mem_singleton.mp counted] at record
          cases record

/-- A pass over a resource that is to be deleted writes no other phase than that, and a pass over
one that is to stay does not write that phase. -/
theorem Course.phase_iff {passed : Except Failure Pass}
    (course : resource.Course inNamespace interactions passed)
    (member : (⟨.writeStatus target status, answer⟩ : Interaction) ∈ interactions) :
    status.phase = .deleting ↔ resource.metadata.isDeleting = true := by
  cases course with
  | enrolled => cases List.mem_singleton.mp member
  | ignored => exact absurd member List.not_mem_nil
  | released =>
      cases List.mem_cons.mp member with
      | inl other => cases other
      | inr other => cases List.mem_singleton.mp other
  | kept staying finalizer now attempt write =>
      have next := write.eq_some
        (mem_writes_of_attempt (resource.attemptConvergence_asks _) attempt rfl member)
      rw [Outcome.transition_status next, staying]
      exact iff_of_false Outcome.phase_statusAfter_ne Bool.false_ne_true
  | noted leaving finalizer step now write =>
      cases List.mem_cons.mp member with
      | inl other => cases other
      | inr member =>
          rw [← Option.some.inj (write.eq_some member), leaving]
          exact iff_of_true phase_notedStatus rfl
  | dropped leaving finalizer step now attempt unhindered =>
      have wrote := mem_writes_of_attempt (resource.attemptCleanup_asks _) attempt rfl member
      cases List.mem_singleton.mp wrote
  | obstructed leaving finalizer step now attempt obstacle write =>
      have next := write.eq_some
        (mem_writes_of_attempt (resource.attemptCleanup_asks _) attempt rfl member)
      rw [Option.ite_none_left_eq_some] at next
      rw [← Option.some.inj next.2, leaving]
      exact iff_of_true phase_obstructedStatus rfl

theorem phase_iff_of_path {result : Except Failure Requeue}
    (path : resource.reconcile.Path interactions result)
    (member : (⟨.writeStatus target status, answer⟩ : Interaction) ∈ interactions) :
    status.phase = .deleting ↔ resource.metadata.isDeleting = true := by
  obtain ⟨_, _, _, _, course, member, -, -⟩ := exists_course_of_write path member rfl
  exact course.phase_iff member

/-! ## What is stored -/

/-- What a request of a pass over a resource makes of what is stored: a write may be made even if
the answer to it is lost, or it is refused. -/
def Keeps (before : ManagedResource) :
    (request : Request) → request.Answer → ManagedResource → Prop
  | .writeStatus _ status, answer, after =>
      after = { before with status := some status } ∨
        (∃ fault, answer = Except.error fault) ∧ after = before
  | .writeFinalizers _ finalizers _, answer, after =>
      after = { before with metadata := { before.metadata with finalizers := finalizers } } ∨
        (∃ fault, answer = Except.error fault) ∧ after = before
  | _, _, after => after = before

/-- An edit of a resource by others, who leave its status alone and cannot take back that it is
to be deleted. -/
structure EditedTo (before after : ManagedResource) : Prop where
  status : after.status = before.status
  isDeleting : before.metadata.isDeleting = true → after.metadata.isDeleting = true

end ManagedResource

/-- A pass that was made: the resource that it was over, and what it asked before it came to an
end or was cut short. -/
structure PassRecord where
  resource : ManagedResource
  interactions : List Interaction

/-- A pass asked for a status to be written. -/
def PassRecord.Wrote (record : PassRecord) (status : Status) : Prop :=
  ∃ target answer, (⟨.writeStatus target status, answer⟩ : Interaction) ∈ record.interactions

/-- What is stored is a status that one of the passes wrote. -/
def IsWritten (passes : List PassRecord) (stored : Option Status) : Prop :=
  ∃ record ∈ passes, ∃ status, record.Wrote status ∧ stored = some status

theorem IsWritten.cons {passes : List PassRecord} {stored : Option Status} {record : PassRecord}
    (written : IsWritten passes stored) : IsWritten (record :: passes) stored := by
  obtain ⟨earlier, made, wrote⟩ := written
  exact ⟨earlier, List.mem_cons_of_mem _ made, wrote⟩

open ManagedResource in
/-- The versions of a resource that were stored and the passes over it, the latest first. -/
inductive History (origin : ManagedResource) : List ManagedResource → List PassRecord → Prop where
  | created : History origin [origin] []
  | edited {current next : ManagedResource} {versions : List ManagedResource}
      {passes : List PassRecord} (history : History origin (current :: versions) passes)
      (edit : current.EditedTo next) : History origin (next :: current :: versions) passes
  | passed {current next resource : ManagedResource} {versions : List ManagedResource}
      {passes : List PassRecord} {interactions unmade : List Interaction}
      {result : Except Failure Requeue} (history : History origin (current :: versions) passes)
      (handed : resource ∈ current :: versions)
      (path : resource.reconcile.Path (interactions ++ unmade) result)
      (kept : Along Keeps current interactions next) :
      History origin (next :: current :: versions) (⟨resource, interactions⟩ :: passes)

namespace ManagedResource

variable {before after : ManagedResource} {interactions : List Interaction}

/-- A request leaves what is stored as it is, or it writes the status or the finalizers alone. -/
theorem Keeps.same_or_written {request : Request} {answer : request.Answer}
    (keeps : before.Keeps request answer after) :
    after = before ∨
      (∃ target status, request = .writeStatus target status ∧
        after = { before with status := some status }) ∨
      ∃ target finalizers resourceVersion,
        request = .writeFinalizers target finalizers resourceVersion ∧
          after = { before with metadata := { before.metadata with finalizers := finalizers } } := by
  cases request with
  | writeStatus target status =>
      cases keeps with
      | inl made => exact .inr (.inl ⟨target, status, rfl, made⟩)
      | inr refused => exact .inl refused.2
  | writeFinalizers target finalizers resourceVersion =>
      cases keeps with
      | inl made => exact .inr (.inr ⟨target, finalizers, resourceVersion, rfl, made⟩)
      | inr refused => exact .inl refused.2
  | _ => exact .inl keeps

/-- A status that is stored after a pass was stored before it or is written by it. -/
theorem status_of_along (kept : Along Keeps before interactions after) :
    after.status = before.status ∨
      ∃ target status answer,
        (⟨.writeStatus target status, answer⟩ : Interaction) ∈ interactions ∧
          after.status = some status := by
  apply kept.induct
  · exact .inl rfl
  · intro interaction member current next stored keeps
    obtain ⟨request, answer⟩ := interaction
    obtain rfl | written | released := keeps.same_or_written
    · exact stored
    · obtain ⟨target, status, rfl, rfl⟩ := written
      exact .inr ⟨target, status, answer, member, rfl⟩
    · obtain ⟨_, _, _, rfl, rfl⟩ := released
      exact stored

/-- Without a write nothing that is stored changes. -/
theorem eq_of_along (kept : Along Keeps before interactions after)
    (noRecord : ∀ interaction ∈ interactions, interaction.request.isRecord = false) :
    after = before := by
  apply kept.induct
  · rfl
  · intro interaction member current next same keeps
    have noRecord := noRecord interaction member
    obtain rfl | written | released := keeps.same_or_written
    · exact same
    · obtain ⟨_, _, asked, -⟩ := written
      rw [asked] at noRecord
      cases noRecord
    · obtain ⟨_, _, _, asked, -⟩ := released
      rw [asked] at noRecord
      cases noRecord

/-- Without a write what is stored can stay. -/
theorem along_of_noRecord
    (noRecord : ∀ interaction ∈ interactions, interaction.request.isRecord = false) :
    Along Keeps before interactions before := by
  induction interactions with
  | nil => exact .nil before
  | cons interaction rest ih =>
      obtain ⟨request, answer⟩ := interaction
      have quiet := noRecord _ List.mem_cons_self
      refine .cons ?_ (ih fun other member => noRecord other (List.mem_cons_of_mem _ member))
      cases request with
      | writeStatus | writeFinalizers => cases quiet
      | _ => rfl

/-- What is stored after a pass is what its writes left. -/
theorem along_writes {now : Instant} {work writes : List Interaction} {last : Interaction}
    (noRecord : ∀ interaction ∈ work, interaction.request.isRecord = false)
    (quietLast : last.request.isRecord = false)
    (kept : Along Keeps before (⟨.now, now⟩ :: (work ++ (writes ++ [last]))) after) :
    Along Keeps before writes after := by
  rw [← List.cons_append] at kept
  obtain ⟨middle, asked, kept⟩ := Along.append_iff.mp kept
  obtain ⟨between, wrote, counted⟩ := Along.append_iff.mp kept
  have same : middle = before := eq_of_along asked (List.forall_mem_cons.mpr ⟨rfl, noRecord⟩)
  have sameAfter : after = between :=
    eq_of_along counted (List.forall_mem_singleton.mpr quietLast)
  rw [sameAfter, ← same]
  exact wrote

/-- The finalizers are those that were stored before, unless others are written. -/
theorem finalizers_of_along (kept : Along Keeps before interactions after)
    (noWrite : ∀ write ∈ interactions, ∀ target finalizers resourceVersion,
      write.request ≠ .writeFinalizers target finalizers resourceVersion) :
    after.metadata.finalizers = before.metadata.finalizers := by
  apply kept.induct
  · rfl
  · intro interaction member current next same keeps
    obtain rfl | written | released := keeps.same_or_written
    · exact same
    · obtain ⟨_, _, -, rfl⟩ := written
      exact same
    · obtain ⟨_, _, _, asked, -⟩ := released
      exact absurd asked (noWrite interaction member _ _ _)

theorem isDeleting_of_along (kept : Along Keeps before interactions after) :
    after.metadata.isDeleting = before.metadata.isDeleting := by
  apply kept.induct
  · rfl
  · intro interaction member current next same keeps
    obtain rfl | written | released := keeps.same_or_written
    · exact same
    · obtain ⟨_, _, -, rfl⟩ := written
      exact same
    · obtain ⟨_, _, _, -, rfl⟩ := released
      exact same

end ManagedResource

namespace History

variable {origin resource : ManagedResource} {versions : List ManagedResource}
  {passes : List PassRecord}

/-- A resource that was to be deleted from the start is in every version. -/
theorem isDeleting (history : History origin versions passes)
    (leaving : origin.metadata.isDeleting = true) :
    ∀ resource ∈ versions, resource.metadata.isDeleting = true := by
  induction history with
  | created =>
      intro resource member
      exact List.mem_singleton.mp member ▸ leaving
  | edited history edit ih =>
      intro resource member
      cases List.mem_cons.mp member with
      | inl same => exact same ▸ edit.isDeleting (ih _ List.mem_cons_self)
      | inr member => exact ih resource member
  | passed history handed path kept ih =>
      intro resource member
      cases List.mem_cons.mp member with
      | inl same =>
          rw [same, ManagedResource.isDeleting_of_along kept]
          exact ih _ List.mem_cons_self
      | inr member => exact ih resource member

/-- Once it was said that a resource that is to be deleted is being deleted, nothing else is said
about it. -/
theorem phase_pairwise (history : History origin versions passes)
    (leaving : origin.metadata.isDeleting = true) :
    versions.Pairwise fun later earlier => earlier.phase = .deleting → later.phase = .deleting := by
  have following : ∀ {current next : ManagedResource} {versions : List ManagedResource},
      (current :: versions).Pairwise
          (fun later earlier => earlier.phase = .deleting → later.phase = .deleting) →
        (current.phase = .deleting → next.phase = .deleting) →
          (next :: current :: versions).Pairwise
            fun later earlier => earlier.phase = .deleting → later.phase = .deleting := by
    intro current next versions pairwise kept
    refine .cons (fun earlier member noted => kept ?_) pairwise
    cases List.mem_cons.mp member with
    | inl same => exact same ▸ noted
    | inr member => exact List.rel_of_pairwise_cons pairwise member noted
  induction history with
  | created => exact List.pairwise_singleton _ _
  | edited history edit ih =>
      apply following ih
      intro noted
      rw [ManagedResource.phase, edit.status]
      exact noted
  | passed history handed path kept ih =>
      apply following ih
      intro noted
      rw [ManagedResource.phase]
      cases ManagedResource.status_of_along kept with
      | inl unchanged =>
          rw [unchanged]
          exact noted
      | inr written =>
          obtain ⟨target, status, answer, wrote, stored⟩ := written
          rw [stored]
          exact (ManagedResource.phase_iff_of_path path (List.mem_append_left _ wrote)).mpr
            (history.isDeleting leaving _ handed)

/-- Every pass of a history is over a version that was stored, and it went as passes go. -/
theorem path_of_mem {record : PassRecord} (history : History origin versions passes)
    (member : record ∈ passes) :
    record.resource ∈ versions ∧
      ∃ unmade result, record.resource.reconcile.Path (record.interactions ++ unmade) result := by
  induction history with
  | created => exact absurd member List.not_mem_nil
  | edited history edit ih =>
      obtain ⟨handed, path⟩ := ih member
      exact ⟨List.mem_cons_of_mem _ handed, path⟩
  | passed history handed path kept ih =>
      cases List.mem_cons.mp member with
      | inl same =>
          subst same
          exact ⟨List.mem_cons_of_mem _ handed, _, _, path⟩
      | inr member =>
          obtain ⟨handed, path⟩ := ih member
          exact ⟨List.mem_cons_of_mem _ handed, path⟩

/-- A status that is ever stored was there from the start or is one that a pass wrote. -/
theorem status_of_mem (history : History origin versions passes) (member : resource ∈ versions) :
    resource.status = origin.status ∨ IsWritten passes resource.status := by
  induction history generalizing resource with
  | created => exact .inl (congrArg _ (List.mem_singleton.mp member))
  | edited history edit ih =>
      cases List.mem_cons.mp member with
      | inl same =>
          rw [same, edit.status]
          exact ih List.mem_cons_self
      | inr member => exact ih member
  | passed history handed path kept ih =>
      cases List.mem_cons.mp member with
      | inl same =>
          rw [same]
          cases ManagedResource.status_of_along kept with
          | inl unchanged =>
              rw [unchanged]
              exact (ih List.mem_cons_self).imp_right IsWritten.cons
          | inr written =>
              obtain ⟨target, status, answer, wrote, stored⟩ := written
              exact .inr ⟨_, List.mem_cons_self, status, ⟨target, answer, wrote⟩, stored⟩
      | inr member => exact (ih member).imp_right IsWritten.cons

theorem phase_of_wrote {record : PassRecord} {status : Status}
    (history : History origin versions passes) (member : record ∈ passes)
    (wrote : record.Wrote status) :
    status.phase = .deleting ↔ record.resource.metadata.isDeleting = true := by
  obtain ⟨-, unmade, result, path⟩ := history.path_of_mem member
  obtain ⟨target, answer, written⟩ := wrote
  exact ManagedResource.phase_iff_of_path path (List.mem_append_left unmade written)

/-- That a resource is being deleted is what an earlier pass said over a version that was to be
deleted, unless the resource had such a status from the start. -/
theorem exists_noted {status : Status} (history : History origin versions passes)
    (fresh : origin.status = none) (member : resource ∈ versions)
    (stored : resource.status = some status) (noted : status.phase = .deleting) :
    ∃ earlier ∈ passes, earlier.resource.metadata.isDeleting = true ∧ earlier.Wrote status := by
  cases history.status_of_mem member with
  | inl unchanged =>
      rw [stored, fresh] at unchanged
      exact nomatch unchanged
  | inr written =>
      obtain ⟨earlier, made, other, wrote, same⟩ := written
      cases stored.symm.trans same
      exact ⟨earlier, made, (history.phase_of_wrote made wrote).mp noted, wrote⟩

end History

end CatalogSteward
