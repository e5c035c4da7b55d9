import CatalogSteward.Proofs.Reconcile.Atomicity
import CatalogSteward.Proofs.Reconcile.Candor

/-!
# Troubles of a pass

What goes wrong in a pass that is no matter of writing the resource: a request
meets with trouble, or the pass objects to what it was given. The attempt that
the pass makes fails for just that, and it comes to nothing where the connection
is not ready.
-/

set_option autoImplicit false

namespace CatalogSteward

namespace ManagedResource

variable {α : Type} {resource : ManagedResource} {inNamespace : String}
  {interactions : List Interaction}

/-! ## Objections of a pass -/

/-- What a pass objects to: a resource that is to stay fails its checks, the settings for a session
with its server are of no use, or no plan can be made for what it declares. -/
inductive Objects (resource : ManagedResource) (inNamespace : String) : Objections where
  | unfit {rejection : Rejection} (staying : resource.metadata.isDeleting = false)
      (finalizer : resource.metadata.hasFinalizer = true)
      (rejected : resource.declaration.preflight resource.metadata.qualifiedName =
        .error rejection) :
      Objects resource inNamespace [] rejection.message
  | unusable {connection : ClusterConnection} {opening : List Interaction} {text : String}
      (fit : resource.metadata.isDeleting = false →
        resource.declaration.preflight resource.metadata.qualifiedName = .ok ())
      (ready : connection.isReady = true)
      (objected : connection.objections resource.declaration.targetDatabase opening text) :
      Objects resource inNamespace
        (resource.lookup inNamespace (.ok (some connection)) :: opening) text
  | unplanned {connection : ClusterConnection} {session : Session}
      {opening during : List Interaction} {text : String}
      (staying : resource.metadata.isDeleting = false)
      (fit : resource.declaration.preflight resource.metadata.qualifiedName = .ok ())
      (ready : connection.isReady = true)
      (opened : (connection.openSession resource.declaration.targetDatabase).Path opening
        (.ok session))
      (objected : resource.objections session during text) :
      Objects resource inNamespace
        (resource.lookup inNamespace (.ok (some connection)) :: (opening ++ during)) text

/-- Objections to the settings for a session with the server of a connection, or in one. -/
def connectionObjections (resource : ManagedResource) (objections : Session → Objections)
    (connection : ClusterConnection) : Objections :=
  fun opening text =>
    connection.objections resource.declaration.targetDatabase opening text ∨
      Objections.after (connection.openSession resource.declaration.targetDatabase) objections
        opening text

/-- Objections to work in a session of its own, where the connection of a resource is ready. -/
def sessionObjections (resource : ManagedResource) (inNamespace : String)
    (objections : Session → Objections) : Objections :=
  fun before text => ∃ (connection : ClusterConnection) (opening : List Interaction),
    connection.isReady = true ∧
      before = resource.lookup inNamespace (.ok (some connection)) :: opening ∧
        resource.connectionObjections objections connection opening text

theorem findReadyConnection_isCandid (cluster : Reference) (ownNamespace : String) :
    (findReadyConnection cluster ownNamespace).IsCandid := by
  apply Attempt.IsCandid.bind
  · exact .ask (.findConnection _ _) (fun answer => answer) fun _ => rfl
  · exact fun found => .pure _

theorem findReadyConnection_path {connection : ClusterConnection}
    (ready : connection.isReady = true) :
    (findReadyConnection resource.declaration.cluster inNamespace).Path
      [resource.lookup inNamespace (.ok (some connection))] (.ok (some connection)) := by
  have kept : (some connection).filter ClusterConnection.isReady = some connection :=
    Option.filter_eq_some_iff.mpr ⟨rfl, ready⟩
  refine Attempt.path_bind_pure_iff.mpr ⟨_, Attempt.path_ask_iff.mpr ⟨_, rfl, rfl⟩, ?_⟩
  exact congrArg Except.ok kept.symm

theorem throughSession_isCandidAbout {absent : α} {work : Session → Attempt α}
    {objections : Session → Objections}
    (about : ∀ session, (work session).IsCandidAbout (objections session)) :
    (resource.throughSession inNamespace absent work).IsCandidAbout
      (resource.sessionObjections inNamespace objections) := by
  have aboutFound : (resource.throughSession inNamespace absent work).IsCandidAbout
      (.after (findReadyConnection resource.declaration.cluster inNamespace) fun ready opening text =>
        ∃ connection, ready = some connection ∧
          resource.connectionObjections objections connection opening text) := by
    apply (findReadyConnection_isCandid _ _).bind_about
    intro ready
    cases ready with
    | none =>
        apply (Attempt.IsCandid.pure absent).about.congr
        intro opening text
        refine iff_of_false id ?_
        rintro ⟨_, impossible, -⟩
        cases impossible
    | some connection =>
        apply ((openSession_isCandidAbout connection _).bind about).congr
        intro opening text
        simp only [Option.some.injEq, exists_eq_left', connectionObjections]
  apply aboutFound.congr
  intro before text
  constructor
  · rintro ⟨_, opening, _, rfl, path, connection, rfl, objected⟩
    obtain ⟨found, rfl, looked⟩ := path_findReadyConnection path
    cases found with
    | error fault => cases looked
    | ok found =>
        obtain ⟨rfl, ready⟩ := Option.filter_eq_some_iff.mp (Except.ok.inj looked).symm
        exact ⟨connection, opening, ready, rfl, objected⟩
  · rintro ⟨connection, opening, ready, rfl, objected⟩
    exact ⟨_, opening, _, rfl, findReadyConnection_path ready, connection, rfl, objected⟩

theorem attemptConvergence_isCandidAbout (staying : resource.metadata.isDeleting = false)
    (finalizer : resource.metadata.hasFinalizer = true) :
    (resource.attemptConvergence inNamespace).IsCandidAbout (resource.Objects inNamespace) := by
  rw [attemptConvergence_eq]
  cases checked : resource.declaration.preflight resource.metadata.qualifiedName with
  | error rejection =>
      have rejected := Attempt.IsCandidAbout.ofExcept Failure.ofRejection
        (.error rejection : Except Rejection Outcome)
      apply rejected.congr
      intro before text
      constructor
      · rintro ⟨rfl, words⟩
        cases words
        exact .unfit staying finalizer checked
      · intro objects
        cases objects with
        | unfit _ _ rejected =>
            cases checked.symm.trans rejected
            exact ⟨rfl, rfl⟩
        | unusable fit => exact nomatch checked.symm.trans (fit staying)
        | unplanned _ fit => exact nomatch checked.symm.trans fit
  | ok _ =>
      apply (throughSession_isCandidAbout resource.converge_isCandidAbout).congr
      intro before text
      constructor
      · rintro ⟨connection, opening, ready, rfl, objected | later⟩
        · exact .unusable (fun _ => checked) ready objected
        · obtain ⟨opening, during, session, rfl, opened, objected⟩ := later
          exact .unplanned staying checked ready opened objected
      · intro objects
        cases objects with
        | unfit _ _ rejected => exact nomatch checked.symm.trans rejected
        | unusable _ ready objected => exact ⟨_, _, ready, rfl, .inl objected⟩
        | unplanned _ _ ready opened objected =>
            exact ⟨_, _, ready, rfl, .inr ⟨_, _, _, rfl, opened, objected⟩⟩

theorem attemptCleanup_isCandidAbout (leaving : resource.metadata.isDeleting = true) :
    (resource.attemptCleanup inNamespace).IsCandidAbout (resource.Objects inNamespace) := by
  have cleaned : (resource.declaration.cleanup >>= fun _ => pure (none : Option String)).IsCandid :=
    resource.declaration.cleanup_isCandid.bind fun _ => .pure none
  rw [attemptCleanup_eq]
  apply (throughSession_isCandidAbout fun _ => cleaned.about).congr
  intro before text
  constructor
  · intro objected
    obtain ⟨connection, opening, ready, rfl, objected | later⟩ := objected
    · refine .unusable (fun staying => ?_) ready objected
      rw [leaving] at staying
      exact nomatch staying
    · obtain ⟨_, _, _, -, -, impossible⟩ := later
      exact impossible.elim
  · intro objects
    cases objects with
    | unfit staying | unplanned staying =>
        rw [leaving] at staying
        exact nomatch staying
    | unusable _ ready objected => exact ⟨_, _, ready, rfl, .inl objected⟩

/-! ## Troubles of a pass -/

/-- Something went wrong in a pass that is no matter of writing the resource: what was asked met
with trouble, or the pass objects to what came of it since it looked at the clock. -/
inductive Troubled (resource : ManagedResource) (inNamespace : String)
    (interactions : List Interaction) (text : String) : Prop where
  | answered (trouble : text ∈ troubles interactions)
  | objected {now : Time.Instant} {before rest : List Interaction}
      (order : interactions = ⟨.now, now⟩ :: (before ++ rest))
      (objects : resource.Objects inNamespace before text)

/-- The connection of a resource was looked up, and it is missing or not ready. -/
def FindsUnready (resource : ManagedResource) (inNamespace : String)
    (interactions : List Interaction) : Prop :=
  ∃ found : Option ClusterConnection, found.filter ClusterConnection.isReady = none ∧
    resource.lookup inNamespace (.ok found) ∈ interactions

section Troubles

variable {last : List Interaction} {text : String}

theorem troubles_of_chores (chores : ∀ interaction ∈ last, interaction.request.isChore = true) :
    troubles last = [] := by
  apply List.filterMap_eq_nil_iff.mpr
  intro interaction member
  have chore := chores interaction member
  obtain ⟨request, answer⟩ := interaction
  cases request with
  | now | writeStatus | writeFinalizers | count => rfl
  | _ => exact nomatch chore

theorem lookup_not_mem_chores {found : Except ClusterFault (Option ClusterConnection)}
    (chores : ∀ interaction ∈ last, interaction.request.isChore = true) :
    resource.lookup inNamespace found ∉ last :=
  fun member => nomatch chores _ member

/-- What went wrong in a pass that makes an attempt is what the attempt complains of. -/
theorem troubled_iff {attempt : Attempt α} {attempted : Except Failure α} {now : Time.Instant}
    {work : List Interaction} (about : attempt.IsCandidAbout (resource.Objects inNamespace))
    (path : attempt.Path work attempted)
    (chores : ∀ interaction ∈ last, interaction.request.isChore = true) :
    resource.Troubled inNamespace (⟨.now, now⟩ :: (work ++ last)) text ↔
      text ∈ complaint attempted := by
  have silent : troubles (⟨.now, now⟩ :: (work ++ last)) = troubles work := by
    have apart : troubles (⟨.now, now⟩ :: (work ++ last)) = troubles work ++ troubles last :=
      troubles_append
    rw [apart, troubles_of_chores chores, List.append_nil]
  constructor
  · intro troubled
    cases troubled with
    | answered trouble =>
        rw [silent] at trouble
        exact about.troubled path trouble
    | objected order objects => exact about.objected path objects (List.cons.inj order).2
  · intro complained
    cases about.told path complained with
    | inl trouble =>
        rw [← silent] at trouble
        exact .answered trouble
    | inr objected =>
        obtain ⟨before, ⟨rest, rfl⟩, objects⟩ := objected
        rw [List.append_assoc]
        exact .objected rfl objects

/-- Nothing goes wrong in a pass that makes no attempt. -/
theorem not_troubled_of_chores
    (chores : ∀ interaction ∈ interactions, interaction.request.isChore = true)
    (idle : resource.metadata.isDeleting = false → resource.metadata.hasFinalizer = false) :
    ¬resource.Troubled inNamespace interactions text := by
  intro troubled
  cases troubled with
  | answered trouble =>
      rw [troubles_of_chores chores] at trouble
      exact absurd trouble List.not_mem_nil
  | objected order objects =>
      subst order
      cases objects with
      | unfit staying finalizer =>
          rw [idle staying] at finalizer
          exact nomatch finalizer
      | unusable | unplanned =>
          exact lookup_not_mem_chores chores (List.mem_cons_of_mem _ List.mem_cons_self)

end Troubles

/-! ## Connections that are not ready -/

open Sql in
/-- Where a connection was found that is missing or not ready, nothing else was tried. -/
theorem SessionCourse.eq_absent {absent : α} {work : Session → Attempt α}
    {commands : Command → Prop} {result : Except Failure α}
    (course : resource.SessionCourse inNamespace absent work interactions result)
    (asks : ∀ session, (work session).Asks (Request.IsWork commands))
    (unready : resource.FindsUnready inNamespace interactions) : result = .ok absent := by
  obtain ⟨found, unready, member⟩ := unready
  have ne_work : ∀ {connection : ClusterConnection}, connection.isReady = true →
      ∀ others : List Interaction,
        (∀ interaction ∈ others, interaction.request.IsWork commands) →
          resource.lookup inNamespace (.ok found) ∉
            resource.lookup inNamespace (.ok (some connection)) :: others := by
    intro connection ready others isWork member
    cases List.mem_cons.mp member with
    | inl same =>
        cases same
        rw [Option.filter_eq_some_iff.mpr ⟨rfl, ready⟩] at unready
        exact nomatch unready
    | inr later => exact isWork _ later
  cases course with
  | unfound fault => exact nomatch List.mem_singleton.mp member
  | unready none => rfl
  | @unopened connection opening failure ready opened =>
      exact absurd member (ne_work ready _ (connection.openSession_asks _ _ _ opened))
  | @used connection session opening during result ready opened worked =>
      have isWork := List.forall_mem_append.mpr
        ⟨connection.openSession_asks _ _ _ opened, asks _ _ _ worked⟩
      exact absurd member (ne_work ready _ isWork)

theorem attemptConvergence_of_unready {attempted : Except Failure Outcome}
    (path : (resource.attemptConvergence inNamespace).Path interactions attempted)
    (unready : resource.FindsUnready inNamespace interactions) :
    attempted = .ok (.pending (notReadyMessage resource.declaration.cluster inNamespace)) := by
  rw [attemptConvergence_eq] at path
  cases checked : resource.declaration.preflight resource.metadata.qualifiedName with
  | error rejection =>
      rw [checked] at path
      obtain ⟨rfl, -⟩ := Attempt.path_throw_iff.mp path
      exact absurd unready.choose_spec.2 List.not_mem_nil
  | ok _ =>
      rw [checked] at path
      exact (sessionCourse_of_path path).eq_absent resource.converge_asks unready

theorem attemptCleanup_of_unready {attempted : Except Failure (Option String)}
    (path : (resource.attemptCleanup inNamespace).Path interactions attempted)
    (unready : resource.FindsUnready inNamespace interactions) :
    attempted = .ok (some (goneMessage resource.declaration.cluster inNamespace)) := by
  have asks := resource.declaration.cleanup_asks.bind fun _ => .pure (none : Option String)
  rw [attemptCleanup_eq] at path
  exact (sessionCourse_of_path path).eq_absent (fun _ => asks) unready

/-- A cleanup that comes to an end without having cleaned up found a connection that is not
ready. -/
theorem unready_of_attemptCleanup {text : String}
    (path : (resource.attemptCleanup inNamespace).Path interactions (.ok (some text))) :
    resource.FindsUnready inNamespace interactions := by
  rw [attemptCleanup_eq] at path
  cases sessionCourse_of_path path with
  | @unready found none => exact ⟨found, none, List.mem_cons_self⟩
  | used ready opened worked =>
      obtain ⟨cleanup, -, ended⟩ := Attempt.path_bind_pure_iff.mp worked
      cases cleanup with
      | ok _ | error _ => cases ended

/-! ## Outcomes of an attempt -/

theorem isFailure_outcome (plan : Plan) : plan.outcome.isFailure = false := by
  rw [Plan.outcome]
  split <;> rfl

theorem isFailure_of_transaction {observe : Attempt α} {make : α → Except Rejection Plan}
    {outcome : Outcome}
    (path : Attempt.Path
      (inTransaction do
        let seen ← observe
        let plan ← planOrFail (make seen)
        plan.settle) interactions (.ok outcome)) : outcome.isFailure = false := by
  generalize ended : Except.ok outcome = result at path
  cases transactionCourse_of_path path with
  | unbegun | abandoned => exact nomatch ended
  | @left during leaving leave value left worked carriedOut =>
      cases left with
      | error failure => exact nomatch ended
      | ok _ =>
          cases ended
          generalize settled : Except.ok (leave, value) = work at worked
          cases planCourse_of_path worked with
          | unseen | rejected | interrupted => exact nomatch settled
          | settled =>
              cases settled
              exact isFailure_outcome _

theorem isFailure_of_converge {session : Session} {outcome : Outcome}
    (path : (resource.converge session).Path interactions (.ok outcome)) :
    outcome.isFailure = false := by
  rw [converge] at path
  cases declared : resource.declaration with
  | database declaration =>
      rw [declared] at path
      obtain ⟨_, -, impossible⟩ | ⟨looking, executing, owner, rfl, -, ways⟩ :=
        declaration.path_converge path
      · cases impossible
      · obtain ⟨-, done⟩ | ⟨_, _, _, _, -, -, impossible⟩ := ways
        · cases done
          exact isFailure_outcome _
        · cases impossible
  | schema declaration =>
      rw [declared] at path
      have planning : declaration.converge.Path interactions (.ok outcome) := path
      rw [declaration.converge_eq] at planning
      exact isFailure_of_transaction planning
  | role declaration =>
      rw [declared] at path
      cases Attempt.path_bind_iff.mp path with
      | inl failed =>
          obtain ⟨_, -, impossible⟩ := failed
          cases impossible
      | inr fetched =>
          obtain ⟨_, _, _, -, -, planning⟩ := fetched
          exact isFailure_of_transaction planning
  | grant declaration | defaultPrivilege declaration =>
      rw [declared] at path
      exact isFailure_of_transaction path

/-- An attempt to converge that comes to an end does not say that it failed. -/
theorem isFailure_of_attemptConvergence {outcome : Outcome}
    (path : (resource.attemptConvergence inNamespace).Path interactions (.ok outcome)) :
    outcome.isFailure = false := by
  rw [attemptConvergence_eq] at path
  cases checked : resource.declaration.preflight resource.metadata.qualifiedName with
  | error rejection =>
      rw [checked] at path
      exact nomatch (Attempt.path_throw_iff.mp path).2
  | ok _ =>
      rw [checked] at path
      cases sessionCourse_of_path path with
      | unready none => rfl
      | used ready opened worked => exact isFailure_of_converge worked

end ManagedResource

end CatalogSteward
