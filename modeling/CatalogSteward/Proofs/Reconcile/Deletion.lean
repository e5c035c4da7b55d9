import CatalogSteward.Proofs.Reconcile.Gate

/-!
# Letting a resource go

A resource that is to be deleted is kept until its deletion was noted and, if its
object is to be dropped, the cleanup succeeded. What stands in the way of it is
said in the status, and the resource is looked at again.
-/

set_option autoImplicit false

namespace CatalogSteward

theorem StatusWrite.request_ne {target other : Target} {made : Option Status}
    {writes : List Interaction} {result : Except Failure Unit} {interaction : Interaction}
    {finalizers : List String} {resourceVersion : Option String}
    (write : StatusWrite target made writes result) (member : interaction ∈ writes) :
    interaction.request ≠ .writeFinalizers other finalizers resourceVersion := by
  obtain ⟨status, asked⟩ := write.exists_request member
  rw [asked]
  exact nofun

namespace ManagedResource

variable {resource : ManagedResource} {inNamespace : String} {interactions : List Interaction}

/-! ## Attempts to clean up -/

theorem cleaned_of_attemptCleanup
    (path : (resource.attemptCleanup inNamespace).Path interactions (.ok none)) :
    ∃ before during, interactions = before ++ during ∧
      resource.declaration.cleanup.Path during (.ok ()) := by
  rw [attemptCleanup_eq] at path
  cases sessionCourse_of_path path with
  | @used connection session opening during _ ready opened worked =>
      obtain ⟨cleanup, cleaned, ended⟩ := Attempt.path_bind_pure_iff.mp worked
      cases cleanup with
      | ok _ => exact ⟨_ :: opening, during, rfl, cleaned⟩
      | error failure => cases ended

/-- An attempt that comes to an end without a cleanup found no connection that is ready. -/
theorem gone_of_attemptCleanup {text : String}
    (path : (resource.attemptCleanup inNamespace).Path interactions (.ok (some text))) :
    text = goneMessage resource.declaration.cluster inNamespace := by
  rw [attemptCleanup_eq] at path
  cases sessionCourse_of_path path with
  | unready none => rfl
  | used ready opened worked =>
      obtain ⟨cleanup, -, ended⟩ := Attempt.path_bind_pure_iff.mp worked
      cases cleanup with
      | ok _ | error _ => cases ended

theorem obstacleOf_eq_none_iff {attempted : Except Failure (Option String)} :
    obstacleOf attempted = none ↔ attempted = .ok none := by
  cases attempted with
  | ok obstacle => exact Except.ok.injEq _ _ ▸ Iff.rfl
  | error failure => exact iff_of_false (fun none => nomatch none) fun same => nomatch same

/-! ## Releases -/

/-- Why a resource may go: nothing is to be dropped and nothing went to a server, or a cleanup
succeeded just before the write that lets the resource go. -/
inductive Ground (resource : ManagedResource) (interactions : List Interaction)
    (write : Interaction) : Prop where
  | retained (drops : resource.declaration.dropsOnDelete = false) (quiet : Quiet interactions)
  | cleaned (drops : resource.declaration.dropsOnDelete = true)
      {before during after : List Interaction}
      (cleaned : resource.declaration.cleanup.Path during (.ok ()))
      (order : interactions = before ++ (during ++ write :: after))

/-- A pass lets a resource go: it takes the finalizer from it, after its deletion was noted and on
one of the two grounds. -/
structure Releases (resource : ManagedResource) (interactions : List Interaction)
    (write : Interaction) : Prop where
  finalizer : resource.metadata.hasFinalizer = true
  noted : ∃ status, resource.status = some status ∧ status.phase = .deleting
  removal : ∃ inNamespace answer,
    write = resource.finalizerWrite inNamespace resource.metadata.finalizersWithout answer
  ground : resource.Ground interactions write

/-- A pass over a resource that is to be deleted writes no finalizers but to let it go. -/
theorem Course.releases {passed : Except Failure Pass} {write last : Interaction}
    (course : resource.Course inNamespace interactions passed)
    (leaving : resource.metadata.isDeleting = true)
    (member : write ∈ interactions) {target : Target} {finalizers : List String}
    {resourceVersion : Option String}
    (record : write.request = .writeFinalizers target finalizers resourceVersion)
    (quietLast : last.request.isForServer = false) :
    resource.Releases (interactions ++ [last]) write := by
  have isRecord : write.request.isRecord = true := record ▸ rfl
  cases course with
  | enrolled staying =>
      rw [leaving] at staying
      exact nomatch staying
  | kept staying =>
      rw [leaving] at staying
      exact nomatch staying
  | ignored => exact absurd member List.not_mem_nil
  | noted _ finalizer step now write =>
      cases List.mem_cons.mp member with
      | inl other =>
          subst other
          exact nomatch isRecord
      | inr wrote => exact absurd record (write.request_ne wrote)
  | released _ finalizer step now answer =>
      obtain ⟨deleting, retained⟩ := cleanupStep_eq_release_iff.mp step
      have same : write =
          resource.finalizerWrite inNamespace resource.metadata.finalizersWithout answer := by
        cases List.mem_cons.mp member with
        | inl other =>
            subst other
            exact nomatch isRecord
        | inr same => exact List.mem_singleton.mp same
      exact
        { finalizer := finalizer
          noted := exists_status_of_phase deleting
          removal := ⟨inNamespace, answer, same⟩
          ground := .retained retained (.cons rfl (.cons rfl (.cons quietLast .nil))) }
  | dropped _ finalizer step now attempt unhindered answer =>
      obtain ⟨deleting, drops⟩ := cleanupStep_eq_drop_iff.mp step
      have same :=
        mem_writes_of_attempt (resource.attemptCleanup_asks _) attempt isRecord member
      rw [List.mem_singleton] at same
      rw [obstacleOf_eq_none_iff.mp unhindered] at attempt
      obtain ⟨before, during, rfl, cleaned⟩ := cleaned_of_attemptCleanup attempt
      have order : (⟨.now, now⟩ : Interaction) :: (before ++ during ++
            [resource.finalizerWrite inNamespace resource.metadata.finalizersWithout answer]) ++
              [last] = (⟨.now, now⟩ :: before) ++ (during ++ write :: [last]) := by
        simp only [same, List.append_assoc, List.cons_append, List.nil_append]
      exact
        { finalizer := finalizer
          noted := exists_status_of_phase deleting
          removal := ⟨inNamespace, answer, same⟩
          ground := .cleaned drops cleaned order }
  | obstructed _ finalizer step now attempt obstacle write =>
      have wrote := mem_writes_of_attempt (resource.attemptCleanup_asks _) attempt isRecord member
      exact absurd record (write.request_ne wrote)

theorem releases_of_path {result : Except Failure Requeue} {write : Interaction} {target : Target}
    {finalizers : List String} {resourceVersion : Option String}
    (path : resource.reconcile.Path interactions result)
    (leaving : resource.metadata.isDeleting = true) (member : write ∈ interactions)
    (record : write.request = .writeFinalizers target finalizers resourceVersion) :
    resource.Releases interactions write := by
  have isRecord : write.request.isRecord = true := record ▸ rfl
  obtain ⟨_, _, _, _, course, made, rfl, quietLast⟩ := exists_course_of_write path member isRecord
  exact course.releases leaving made record quietLast

/-! ## Obstacles -/

/-- A pass reports what stood in the way of a cleanup: it counts as failed, and either the status
could not be written, or the status that is stored then says it and the resource is looked at
again after a minute. -/
structure Reports (resource : ManagedResource) (inNamespace : String)
    (interactions : List Interaction) (result : Except Failure Requeue) (message : String) :
    Prop where
  counted : (⟨.count (resource.labels inNamespace) true, ()⟩ : Interaction) ∈ interactions
  told : (∃ status fault,
      (⟨.writeStatus (resource.target inNamespace) status, Except.error fault⟩ : Interaction) ∈
        interactions ∧ result = .error (.cluster fault)) ∨
    result = .ok (.after 60) ∧
      ∀ next, Along Keeps resource interactions next →
        ∃ status, next.status = some status ∧ status.phase = .deleting ∧
          status.message = some message

theorem says_of_report {status : Status} {message : String} {now : Time.Instant}
    (same : status.report = (resource.obstructedStatus message now).report) :
    status.phase = .deleting ∧ status.message = some message := by
  have same := Prod.mk.inj same
  exact ⟨same.1.trans phase_obstructedStatus, (Prod.mk.inj same.2).1⟩

/-- What is stored after a status that is written unless it reports nothing new: the write is
refused, or it is made, or the status that was stored reports the same. -/
theorem told_of_statusWrite {status : Status} {writes : List Interaction}
    {written : Except Failure Unit}
    (write : StatusWrite (resource.target inNamespace)
      (if Status.isUnchanged resource.status status then none else some status) writes written) :
    (∃ fault,
        (⟨.writeStatus (resource.target inNamespace) status, Except.error fault⟩ : Interaction) ∈
          writes ∧ written = .error (.cluster fault)) ∨
      written = .ok () ∧
        ((⟨.writeStatus (resource.target inNamespace) status, Except.ok ()⟩ : Interaction) ∈
            writes ∨
          writes = [] ∧
            ∃ stored, resource.status = some stored ∧ stored.report = status.report) ∧
          ∀ next, Along Keeps resource writes next →
            ∃ stored, next.status = some stored ∧ stored.report = status.report := by
  cases unchanged : Status.isUnchanged resource.status status with
  | true =>
      rw [unchanged, if_pos rfl] at write
      cases write
      have before : ∃ stored, resource.status = some stored ∧ stored.report = status.report := by
        cases held : resource.status with
        | none =>
            rw [held] at unchanged
            exact nomatch unchanged
        | some stored =>
            rw [held, Status.isUnchanged_some_iff] at unchanged
            exact ⟨stored, rfl, unchanged⟩
      refine .inr ⟨rfl, .inr ⟨rfl, before⟩, fun next kept => ?_⟩
      rw [Along.nil_iff.mp kept]
      exact before
  | false =>
      rw [unchanged, if_neg Bool.false_ne_true] at write
      cases write with
      | made status answer =>
          cases answer with
          | error fault => exact .inl ⟨fault, List.mem_cons_self, rfl⟩
          | ok _ =>
              refine .inr ⟨rfl, .inl List.mem_cons_self, fun next kept => ?_⟩
              cases Along.singleton_iff.mp kept with
              | inl made =>
                  subst made
                  exact ⟨status, rfl, rfl⟩
              | inr refused =>
                  obtain ⟨⟨fault, impossible⟩, -⟩ := refused
                  exact nomatch impossible

theorem reports_of_statusWrite {now : Time.Instant} {work writes : List Interaction}
    {attempted : Except Failure (Option String)} {message : String} {written : Except Failure Unit}
    (attempt : (resource.attemptCleanup inNamespace).Path work attempted)
    (write : StatusWrite (resource.target inNamespace)
      (if Status.isUnchanged resource.status (resource.obstructedStatus message now) then none
        else some (resource.obstructedStatus message now)) writes written) :
    let passed := Pass.afterWrite ⟨.after cleanupInterval, true⟩ written
    resource.Reports inNamespace
      (⟨.now, now⟩ :: (work ++ writes) ++
        [⟨.count (resource.labels inNamespace) (countsAsFailed passed), ()⟩])
      (passed.map Pass.requeue) message := by
  intro passed
  cases told_of_statusWrite write with
  | inl refused =>
      obtain ⟨fault, member, rfl⟩ := refused
      have made := List.mem_append_right (⟨.now, now⟩ :: work) member
      exact
        { counted := List.mem_append_right _ (List.mem_singleton.mpr rfl)
          told := .inl ⟨_, fault, List.mem_append_left _ made, rfl⟩ }
  | inr told =>
      obtain ⟨rfl, -, stored⟩ := told
      refine ⟨List.mem_append_right _ (List.mem_singleton.mpr rfl), .inr ⟨rfl, ?_⟩⟩
      intro next kept
      rw [List.cons_append, List.append_assoc] at kept
      have wrote := along_writes (resource.attemptCleanup_asks _ _ _ attempt) rfl kept
      obtain ⟨status, here, reported⟩ := stored next wrote
      exact ⟨status, here, says_of_report reported⟩

/-- A pass over a resource whose object is to be dropped attempts a cleanup, and reports what
stood in the way of it. -/
theorem exists_attempt_of_path {result : Except Failure Requeue}
    (path : resource.reconcile.Path interactions result)
    (named : resource.metadata.inNamespace = some inNamespace)
    (leaving : resource.metadata.isDeleting = true)
    (finalizer : resource.metadata.hasFinalizer = true) (noted : resource.phase = .deleting)
    (drops : resource.declaration.dropsOnDelete = true) :
    ∃ now work rest attempted, interactions = ⟨.now, now⟩ :: (work ++ rest) ∧
      (resource.attemptCleanup inNamespace).Path work attempted ∧
        ∀ message, obstacleOf attempted = some message →
          resource.Reports inNamespace interactions result message := by
  have drop : cleanupStep resource.phase resource.declaration.dropsOnDelete = .drop :=
    cleanupStep_eq_drop_iff.mpr ⟨noted, drops⟩
  cases course_of_path_reconcile path with
  | inl unnamed =>
      rw [named] at unnamed
      exact nomatch unnamed.1
  | inr passed =>
      obtain ⟨_, work, passed, here, course, rfl, rfl⟩ := passed
      cases named.symm.trans here
      cases course with
      | enrolled staying | kept staying =>
          rw [leaving] at staying
          exact nomatch staying
      | ignored _ without =>
          rw [finalizer] at without
          exact nomatch without
      | noted _ _ step | released _ _ step =>
          rw [drop] at step
          exact nomatch step
      | dropped _ _ _ now attempt unhindered answer =>
          refine ⟨now, _, _ ++ _, _, List.append_assoc (_ :: _) _ _, attempt, ?_⟩
          intro message obstacle
          rw [unhindered] at obstacle
          exact nomatch obstacle
      | obstructed _ _ _ now attempt obstacle write =>
          refine ⟨now, _, _ ++ _, _, List.append_assoc (_ :: _) _ _, attempt, ?_⟩
          intro other same
          cases obstacle.symm.trans same
          exact reports_of_statusWrite attempt write

/-! ## Deletions -/

/-- Whatever happens to a resource that is to be deleted, whatever fails on the way, and whether
its object is to be dropped or retained at the time of a pass: finalizers are written only to let
the resource go, by a pass that starts with the note of its deletion and on one of the two
grounds, and every other pass leaves them untouched; once its deletion is noted, nothing else is
ever said about it; and a pass that is to drop its object attempts that, and reports what stood in
the way. -/
theorem released_when_clean {origin : ManagedResource} {versions : List ManagedResource}
    {passes : List PassRecord} {result : Except Failure Requeue}
    (leaving : origin.metadata.isDeleting = true) (history : History origin versions passes)
    (member : resource ∈ versions) (path : resource.reconcile.Path interactions result) :
    (∀ write ∈ interactions, ∀ target finalizers resourceVersion,
        write.request = .writeFinalizers target finalizers resourceVersion →
          resource.Releases interactions write) ∧
      ((¬ ∃ write ∈ interactions, resource.Releases interactions write) →
        ∀ current next, Along Keeps current interactions next →
          next.metadata.finalizers = current.metadata.finalizers) ∧
      (∀ target status answer,
        (⟨.writeStatus target status, answer⟩ : Interaction) ∈ interactions →
          status.phase = .deleting) ∧
      (versions.Pairwise fun later earlier =>
        earlier.phase = .deleting → later.phase = .deleting) ∧
      ∀ inNamespace, resource.metadata.inNamespace = some inNamespace →
        resource.metadata.hasFinalizer = true → resource.phase = .deleting →
          resource.declaration.dropsOnDelete = true →
            ∃ now work rest attempted, interactions = ⟨.now, now⟩ :: (work ++ rest) ∧
              (resource.attemptCleanup inNamespace).Path work attempted ∧
                (∀ text, attempted = .ok (some text) →
                  text = goneMessage resource.declaration.cluster inNamespace) ∧
                ∀ message, obstacleOf attempted = some message →
                  resource.Reports inNamespace interactions result message := by
  have gone := history.isDeleting leaving resource member
  refine ⟨?_, ?_, ?_, history.phase_pairwise leaving, ?_⟩
  · intro write made target finalizers resourceVersion record
    exact releases_of_path path gone made record
  · intro unreleased current next kept
    apply finalizers_of_along kept
    intro write made target finalizers resourceVersion record
    exact unreleased ⟨write, made, releases_of_path path gone made record⟩
  · intro target status answer wrote
    exact (phase_iff_of_path path wrote).mpr gone
  · intro inNamespace named finalizer noted drops
    obtain ⟨now, work, rest, attempted, order, attempt, reports⟩ :=
      exists_attempt_of_path path named gone finalizer noted drops
    refine ⟨now, work, rest, attempted, order, attempt, ?_, reports⟩
    intro text ended
    rw [ended] at attempt
    exact gone_of_attemptCleanup attempt

/-! A role that others depend on: its deletion is noted in one pass, and the next one is refused
to drop it. -/

private def clerk : ManagedResource where
  metadata :=
    ⟨some "clerk", none, some "shop", some 2, some "9", [CatalogSteward.finalizer],
      some (.ofSeconds 0)⟩
  declaration := .role ⟨"clerk", none, ⟨"main", none⟩, none, .standard⟩
  status := none

private def clerkNoted : ManagedResource :=
  { clerk with status := some (clerk.notedStatus (.ofSeconds 0)) }

private def unyielding : (request : Request) → request.Answer
  | .execute _ => .error (.reported "role \"clerk\" cannot be dropped" none)
  | request => obliging request

private def clerkNoting : List Interaction × Except Failure Requeue :=
  clerk.reconcile.run.follow unyielding

private def clerkStaying : List Interaction × Except Failure Requeue :=
  clerkNoted.reconcile.run.follow unyielding

private theorem history_clerk :
    History clerk [clerkNoted, clerk] [⟨clerk, clerkNoting.1⟩] := by
  have path : clerk.reconcile.Path (clerkNoting.1 ++ []) clerkNoting.2 := by
    rw [List.append_nil]
    exact Program.path_follow unyielding _
  exact .passed .created List.mem_cons_self path
    (.cons rfl (.cons (.inl rfl) (.cons rfl (.nil clerkNoted))))

theorem released_when_clean_clerk :
    (clerk.metadata.isDeleting = true ∧
        History clerk [clerkNoted, clerk] [⟨clerk, clerkNoting.1⟩] ∧
          clerkNoted ∈ [clerkNoted, clerk] ∧
            clerkNoted.reconcile.Path clerkStaying.1 clerkStaying.2) ∧
      ∃ now work rest attempted, clerkStaying.1 = ⟨.now, now⟩ :: (work ++ rest) ∧
        (clerkNoted.attemptCleanup "shop").Path work attempted ∧
          ∀ message, obstacleOf attempted = some message →
            clerkNoted.Reports "shop" clerkStaying.1 clerkStaying.2 message := by
  have path : clerkNoted.reconcile.Path clerkStaying.1 clerkStaying.2 :=
    Program.path_follow unyielding _
  obtain ⟨-, -, -, -, reports⟩ :=
    released_when_clean rfl history_clerk List.mem_cons_self path
  obtain ⟨now, work, rest, attempted, order, attempt, -, reported⟩ :=
    reports "shop" rfl (by decide) rfl rfl
  exact ⟨⟨rfl, history_clerk, List.mem_cons_self, path⟩, now, work, rest, attempted, order, attempt,
    reported⟩

end ManagedResource

end CatalogSteward
