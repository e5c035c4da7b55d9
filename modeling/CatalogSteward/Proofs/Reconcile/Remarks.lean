import CatalogSteward.Proofs.Plan.Grant
import CatalogSteward.Proofs.Reconcile.Deletion
import CatalogSteward.Proofs.Reconcile.Tried
import Mathlib.Data.List.Basic

/-!
# Remarks about owned targets

A grant leaves the targets alone that its role owns, and its status names them. A later pass
that finds nothing to do and no such target has nothing to say, and what was said stays. So the
status of a grant names the targets that were owned when some were last found, not those that
are owned now.
-/

set_option autoImplicit false

namespace CatalogSteward

open Time

/-! ## Plans that were settled -/

/-- Whether a request begins a transaction. -/
def Request.isBeginning : Request → Bool
  | .begin => true
  | _ => false

/-- None of the interactions begins a transaction. -/
def Unbegun (interactions : List Interaction) : Prop :=
  ∀ interaction ∈ interactions, interaction.request.isBeginning = false

theorem Request.isBeginning_of_isOpening {request : Request} (opens : request.isOpening = true) :
    request.isBeginning = false := by
  cases request with
  | begin => cases opens
  | _ => rfl

theorem Request.isBeginning_of_isLook {request : Request} (look : request.isLook = true) :
    request.isBeginning = false :=
  isBeginning_of_isOpening (isOpening_of_isLook look)

theorem unbegun_execution {commands : List Sql.Command} : Unbegun (commands.map execution) := by
  intro interaction member
  obtain ⟨command, -, rfl⟩ := List.mem_map.mp member
  rfl

theorem Leave.carryOut_unbegun (leave : Leave) :
    leave.carryOut.Asks fun request => request.isBeginning = false := by
  cases leave with
  | commit => exact .ask .commit (fun answer => answer) rfl
  | rollback => exact .ask .rollback (fun answer => answer) rfl
  | abandon =>
      apply Attempt.Asks.lift
      intro interactions value path interaction member
      rw [Program.path_ask_iff.mp path] at member
      rw [List.mem_singleton.mp member]
      rfl

/-- A transaction in which a plan was settled: what was seen after it began, the plan that was made
of that, and what it came to. -/
theorem exists_settled_of_path {α : Type} {observe : Attempt α}
    {make : α → Except Rejection Plan} {interactions : List Interaction} {outcome : Outcome}
    (asks : observe.Asks fun request => request.isBeginning = false)
    (path : Attempt.Path
      (inTransaction do
        let seen ← observe
        let plan ← planOrFail (make seen)
        plan.settle) interactions (.ok outcome)) :
    ∃ looking rest seen plan, interactions = ⟨.begin, Except.ok ()⟩ :: (looking ++ rest) ∧
      observe.Path looking (.ok seen) ∧ make seen = .ok plan ∧ outcome = plan.outcome ∧
        Unbegun (looking ++ rest) := by
  generalize ended : Except.ok outcome = result at path
  cases transactionCourse_of_path path with
  | unbegun | abandoned => cases ended
  | @left during leaving leave value left worked carriedOut =>
      generalize found : Except.ok (leave, value) = settled at worked
      cases planCourse_of_path worked with
      | unseen | rejected | interrupted => cases found
      | @settled looking seen plan looked made =>
          cases found
          refine ⟨looking, plan.commands.map execution ++ leaving, seen, plan, ?_, looked, made,
            ?_, ?_⟩
          · rw [List.append_assoc]
          · cases left with
            | ok _ => exact Except.ok.inj ended
            | error failure => cases ended
          · refine List.forall_mem_append.mpr ⟨asks _ _ looked, ?_⟩
            exact List.forall_mem_append.mpr ⟨unbegun_execution,
              Leave.carryOut_unbegun _ _ _ carriedOut⟩

/-! ## Observations of a pass -/

namespace GrantDeclaration

/-- In the transaction that was begun, the owners and privileges of a grant's objects were asked
for and found. -/
def Sees (declaration : GrantDeclaration) (interactions : List Interaction)
    (observed : GrantObservation) : Prop :=
  ∃ before looking after,
    interactions = before ++ ⟨.begin, Except.ok ()⟩ :: (looking ++ after) ∧
      declaration.observe.Path looking (.ok observed)

/-- The targets that the role of a grant owns, in order. -/
def ownedTargets (declaration : GrantDeclaration) (observed : GrantObservation) : List String :=
  (declaration.targets observed).filter (owns observed)

/-- What a status holds of targets that the role owns. -/
def ownershipText (declaration : GrantDeclaration) (resource : ManagedResource)
    (objects : List String) : String :=
  (Remark.ownsTargets declaration.objectType resource.metadata.qualifiedName
    declaration.schemaName objects).message

variable {declaration : GrantDeclaration} {observed : GrantObservation}
  {interactions : List Interaction}

theorem mem_ownedTargets_iff {object : String} :
    object ∈ declaration.ownedTargets observed ↔
      declaration.IsTarget observed object ∧ observed.ownership.getD object false = true := by
  rw [ownedTargets, List.mem_filter, mem_targets_iff, owns]

/-- What a pass saw is determined by what it asked, if it began one transaction. -/
theorem Sees.eq_of_unbegun {before looking after : List Interaction} {other : GrantObservation}
    (sees : declaration.Sees (before ++ ⟨.begin, Except.ok ()⟩ :: (looking ++ after)) other)
    (looked : declaration.observe.Path looking (.ok observed)) (unbegun : Unbegun before)
    (begun : Unbegun (looking ++ after)) : other = observed := by
  obtain ⟨earlier, again, later, same, lookedAgain⟩ := sees
  have apart : ∀ {interactions : List Interaction}, Unbegun interactions →
      (⟨.begin, Except.ok ()⟩ : Interaction) ∉ interactions := by
    intro interactions unbegun member
    exact Bool.noConfusion (unbegun _ member)
  obtain ⟨-, -, rest⟩ :=
    (List.append_cons_inj_of_notMem (apart unbegun) (apart begun)).mp same
  obtain ⟨-, found⟩ := lookedAgain.eq_of_append looked rest.symm
  exact Except.ok.inj found

/-- An attempt that made the server agree saw what there is, and its message is about the targets
that the role owned then. -/
theorem exists_seen_of_attempt {resource : ManagedResource} {inNamespace : String}
    {outcome : Outcome} {message : Option String}
    (declares : resource.declaration = .grant declaration)
    (path : (resource.attemptConvergence inNamespace).Path interactions (.ok outcome))
    (agrees : outcome.Agrees message) :
    ∃ before looking after observed,
      interactions = before ++ ⟨.begin, Except.ok ()⟩ :: (looking ++ after) ∧
        declaration.observe.Path looking (.ok observed) ∧ Unbegun before ∧
          Unbegun (looking ++ after) ∧
            message =
              if declaration.ownedTargets observed = [] then none
              else some
                (declaration.ownershipText resource (declaration.ownedTargets observed)) := by
  rw [ManagedResource.attemptConvergence_eq, Attempt.path_bind_ok_iff] at path
  obtain ⟨checking, _, _, rfl, checked, through⟩ := path
  obtain ⟨rfl, -⟩ := Attempt.path_ofExcept_iff.mp checked
  generalize ended : Except.ok outcome = result at through
  cases ManagedResource.sessionCourse_of_path through with
  | unfound | unopened => cases ended
  | unready =>
      cases ended
      cases agrees with
      | inl impossible | inr impossible => cases impossible
  | @used connection session opening during _ ready opened worked =>
      have converges : resource.converge session =
          declaration.converge resource.metadata.qualifiedName session := by
        rw [ManagedResource.converge, declares]
      rw [converges, ← ended] at worked
      obtain ⟨looking, rest, observed, plan, rfl, looked, planned, rfl, begun⟩ :=
        exists_settled_of_path (declaration.observe_asks Request.isBeginning_of_isLook) worked
      refine ⟨resource.lookup inNamespace (.ok (some connection)) :: opening, looking, rest,
        observed, rfl, looked, ?_, begun, ?_⟩
      · have asks := (connection.openSession_opens resource.declaration.targetDatabase).imp
          Request.isBeginning_of_isOpening
        exact List.forall_mem_cons.mpr ⟨rfl, asks _ _ opened⟩
      · obtain ⟨-, -, rfl⟩ := plan_eq_ok_iff.mp planned
        rw [agrees.unique (Plan.outcome_agrees _), Plan.message, remark]
        by_cases none : declaration.ownedTargets observed = []
        · have empty : ((declaration.targets observed).filter (owns observed)).isEmpty = true :=
            List.isEmpty_iff.mpr none
          rw [if_pos none, if_pos empty]
          rfl
        · have listed : ¬((declaration.targets observed).filter (owns observed)).isEmpty = true :=
            fun empty => none (List.isEmpty_iff.mp empty)
          rw [if_neg none, if_neg listed]
          rfl

end GrantDeclaration

/-! ## One pass -/

theorem Outcome.phase_statusAfter_eq_ready_iff {outcome : Outcome} {probed : Status}
    {now : Instant} :
    (outcome.statusAfter probed now).phase = .ready ↔ ∃ message, outcome.Agrees message := by
  cases outcome with
  | converged message =>
      refine iff_of_true ?_ ⟨message, .inl rfl⟩
      cases message <;> simp only [statusAfter, Status.setMessage, Status.setPhase_phase]
  | applied message =>
      refine iff_of_true ?_ ⟨message, .inr rfl⟩
      simp only [statusAfter, Status.setMessage, Status.setPhase_phase]
  | pending message | failed message =>
      simp only [statusAfter, Status.setMessage, Status.setPhase_phase, Agrees, reduceCtorEq,
        or_self, exists_false]

/-- An outcome without a message leaves the one that was stored, where nothing was to be done for
a resource that was ready already. -/
theorem ManagedResource.messageAfter_probed {resource : ManagedResource} {outcome : Outcome}
    {now : Instant} (agrees : outcome.Agrees none) :
    outcome.messageAfter (resource.probed now) =
      if outcome = .converged none ∧ resource.phase = .ready then
        resource.status.bind Status.message
      else none := by
  have phase : (resource.probed now).phase = resource.phase := by
    rw [probed, ManagedResource.phase]
    cases resource.status <;> rfl
  have message : (resource.probed now).message = resource.status.bind Status.message := by
    rw [probed]
    cases resource.status <;> rfl
  cases agrees with
  | inl same =>
      subst same
      simp only [Outcome.messageAfter, phase, message, true_and]
  | inr same =>
      subst same
      simp only [Outcome.messageAfter, reduceCtorEq, false_and, ↓reduceIte]

/-- A pass that was made: the resource that it was over, what it asked, and what is stored after
it. -/
structure Visit where
  before : ManagedResource
  interactions : List Interaction
  after : ManagedResource

namespace Visit

open ManagedResource

/-- The pass was over a grant with the declaration, and succeeded. -/
structure Succeeds (declaration : GrantDeclaration) (visit : Visit) : Prop where
  declares : visit.before.declaration = .grant declaration
  path : ∃ requeue, visit.before.reconcile.Path visit.interactions (.ok requeue)
  stored : Along Keeps visit.before visit.interactions visit.after

/-- The pass came to an outcome that holds that the server agrees. -/
structure Settles (visit : Visit) (outcome : Outcome) : Prop where
  agrees : ∃ message, outcome.Agrees message
  staying : visit.before.metadata.isDeleting = false
  finalizer : visit.before.metadata.hasFinalizer = true
  attempt : ∃ (inNamespace : String) (now : Instant) (work rest : List Interaction),
    visit.before.metadata.inNamespace = some inNamespace ∧
      visit.interactions = ⟨.now, now⟩ :: (work ++ rest) ∧
        (visit.before.attemptConvergence inNamespace).Path work (.ok outcome)

/-- What the pass stores as the message about owned targets: these, if there are any; and where
there are none, nothing, unless nothing was to be done for a grant that was ready already. -/
def messageAfter (declaration : GrantDeclaration) (visit : Visit) (outcome : Outcome)
    (owned : List String) : Option String :=
  if owned = [] then
    if outcome = .converged none ∧ visit.before.phase = .ready then
      visit.before.status.bind Status.message
    else none
  else some (declaration.ownershipText visit.before owned)

variable {declaration : GrantDeclaration} {visit : Visit} {outcome : Outcome}

/-- A pass that settles takes the course of a resource that is kept, and what it stores is what its
outcome makes of the status. -/
theorem Succeeds.reported (succeeds : visit.Succeeds declaration)
    (settles : visit.Settles outcome) :
    ∃ (inNamespace : String) (now : Instant) (work rest : List Interaction) (status : Status),
      visit.interactions = ⟨.now, now⟩ :: (work ++ rest) ∧
        (visit.before.attemptConvergence inNamespace).Path work (.ok outcome) ∧
          Unbegun rest ∧ visit.after.status = some status ∧
            status.report = (outcome.statusAfter (visit.before.probed now) now).report := by
  obtain ⟨requeue, path⟩ := succeeds.path
  obtain ⟨_, now, work, rest, named, order, attempt⟩ := settles.attempt
  have stored := succeeds.stored
  cases course_of_path_reconcile path with
  | inl unnamed => cases named.symm.trans unnamed.1
  | inr passing =>
      obtain ⟨_, _, passed, here, course, same, ended⟩ := passing
      cases named.symm.trans here
      cases course with
      | enrolled staying finalizer =>
          exact absurd settles.finalizer (Bool.eq_false_iff.mp finalizer)
      | ignored leaving | noted leaving | released leaving | dropped leaving
      | obstructed leaving => exact absurd leaving (Bool.eq_false_iff.mp settles.staying)
      | @kept _ _ clock tried writes attempted written attempt' write =>
          rw [order, List.cons_append, List.append_assoc, List.cons.injEq] at same
          obtain ⟨time, others⟩ := same
          cases time
          -- The answers determine the path, so the attempt of the course is the one that settled.
          obtain ⟨rfl, result⟩ := attempt.eq_of_append attempt' others
          cases result
          cases List.append_cancel_left others
          cases told_of_statusWrite write with
          | inl refused =>
              obtain ⟨fault, -, rfl⟩ := refused
              cases ended
          | inr told =>
              obtain ⟨rfl, -, reports⟩ := told
              rw [order] at stored
              obtain ⟨status, isStored, report⟩ := reports _
                (along_writes (visit.before.attemptConvergence_asks _ _ _ attempt) rfl stored)
              refine ⟨_, now, work, _, status, order, attempt, ?_, isStored, report⟩
              refine List.forall_mem_append.mpr ⟨?_, List.forall_mem_singleton.mpr rfl⟩
              intro interaction member
              obtain ⟨_, wrote⟩ := write.exists_request member
              rw [wrote]
              rfl

/-- What the status of a grant holds after a pass that made the server agree. -/
theorem Succeeds.settled (succeeds : visit.Succeeds declaration)
    (settles : visit.Settles outcome) :
    ∃ observed status,
      (declaration.Sees visit.interactions observed ∧
        ∀ other, declaration.Sees visit.interactions other → other = observed) ∧
      outcome.Agrees
        (if declaration.ownedTargets observed = [] then none
        else some (declaration.ownershipText visit.before (declaration.ownedTargets observed))) ∧
      visit.after.status = some status ∧ status.phase = .ready ∧
        status.message =
          visit.messageAfter declaration outcome (declaration.ownedTargets observed) := by
  obtain ⟨inNamespace, now, work, rest, status, order, attempt, begun, stored, report⟩ :=
    succeeds.reported settles
  obtain ⟨message, agrees⟩ := settles.agrees
  obtain ⟨before, looking, after, observed, parts, looked, unbegun, done, rfl⟩ :=
    GrantDeclaration.exists_seen_of_attempt succeeds.declares attempt agrees
  rw [Outcome.report_statusAfter agrees] at report
  simp only [Status.report, Prod.mk.injEq] at report
  obtain ⟨phase, told, -⟩ := report
  have whole : visit.interactions =
      (⟨.now, now⟩ :: before) ++ ⟨.begin, Except.ok ()⟩ :: (looking ++ (after ++ rest)) := by
    rw [order, parts]
    simp only [List.cons_append, List.append_assoc]
  refine ⟨observed, status, ⟨⟨_, looking, _, whole, looked⟩, fun other sees => ?_⟩, agrees,
    stored, phase, ?_⟩
  · rw [whole] at sees
    refine sees.eq_of_unbegun looked (List.forall_mem_cons.mpr ⟨rfl, unbegun⟩) ?_
    rw [← List.append_assoc]
    exact List.forall_mem_append.mpr ⟨done, begun⟩
  · rw [told, Visit.messageAfter]
    by_cases none : declaration.ownedTargets observed = []
    · rw [if_pos none] at agrees ⊢
      rw [messageAfter_probed agrees]
    · rw [if_neg none] at agrees ⊢
      exact Outcome.messageAfter_of_some agrees

/-- A pass that did not make the server agree leaves the status alone, or reports the grant as
something else than ready. -/
theorem Succeeds.unsettled (succeeds : visit.Succeeds declaration)
    (unsettled : ∀ outcome, ¬visit.Settles outcome) :
    visit.after.status = visit.before.status ∨ visit.after.phase ≠ .ready := by
  obtain ⟨requeue, path⟩ := succeeds.path
  refine (status_of_along succeeds.stored).imp_right ?_
  intro wrote ready
  obtain ⟨target, status, answer, member, stored⟩ := wrote
  rw [ManagedResource.phase, stored, Option.map_some, Option.getD_some] at ready
  have staying := (phase_iff_of_path path member).not.mp (by rw [ready]; decide)
  cases course_of_path_reconcile path with
  | inl unnamed =>
      rw [unnamed.2.1] at member
      exact absurd member List.not_mem_nil
  | inr passing =>
      obtain ⟨_, _, _, named, course, order, -⟩ := passing
      rw [order, List.mem_append] at member
      have written := member.resolve_right fun counted => by cases List.mem_singleton.mp counted
      cases course with
      | ignored leaving | noted leaving | released leaving | dropped leaving
      | obstructed leaving => exact absurd leaving staying
      | enrolled => cases List.mem_singleton.mp written
      | @kept staying finalizer now work writes attempted result attempt write =>
          have next := Outcome.transition_status (write.eq_some (mem_writes_of_attempt
            (visit.before.attemptConvergence_asks _) attempt rfl written))
          rw [next, Outcome.phase_statusAfter_eq_ready_iff] at ready
          cases attempted with
          | error failure =>
              obtain ⟨message, impossible | impossible⟩ := ready <;> cases impossible
          | ok outcome =>
              rw [List.cons_append, List.append_assoc] at order
              exact unsettled outcome
                ⟨ready, staying, finalizer, _, now, work, _, named, order, attempt⟩

end Visit

/-! ## Passes one after the other -/

/-- Passes over a grant that succeeded, the latest first, and what is stored after them. Between
them others may edit the resource, but not its status. -/
inductive Visits (declaration : GrantDeclaration) (origin : ManagedResource) :
    List Visit → ManagedResource → Prop where
  | start : Visits declaration origin [] origin
  | edited {visits : List Visit} {current next : ManagedResource}
      (history : Visits declaration origin visits current) (same : next.status = current.status) :
      Visits declaration origin visits next
  | visited {visits : List Visit} {visit : Visit}
      (history : Visits declaration origin visits visit.before)
      (succeeds : visit.Succeeds declaration) :
      Visits declaration origin (visit :: visits) visit.after

/-- Where the message of a grant that is ready comes from: it names the targets that were owned
in a pass that found some, or it was there before all passes; and every later pass found the grant
ready and nothing to do or to say, or left its status alone. -/
inductive Told (declaration : GrantDeclaration) (origin : ManagedResource) :
    List Visit → String → Prop where
  | before {text : String} (ready : origin.phase = .ready)
      (stood : origin.status.bind Status.message = some text) : Told declaration origin [] text
  | found {visits : List Visit} {visit : Visit} {outcome : Outcome} {observed : GrantObservation}
      (settles : visit.Settles outcome) (sees : declaration.Sees visit.interactions observed)
      (owned : declaration.ownedTargets observed ≠ []) :
      Told declaration origin (visit :: visits)
        (declaration.ownershipText visit.before (declaration.ownedTargets observed))
  | silent {visits : List Visit} {visit : Visit} {observed : GrantObservation} {text : String}
      (ready : visit.before.phase = .ready) (settles : visit.Settles (.converged none))
      (sees : declaration.Sees visit.interactions observed)
      (none : declaration.ownedTargets observed = []) (told : Told declaration origin visits text) :
      Told declaration origin (visit :: visits) text
  | aside {visits : List Visit} {visit : Visit} {text : String}
      (ready : visit.before.phase = .ready) (unsettled : ∀ outcome, ¬visit.Settles outcome)
      (same : visit.after.status = visit.before.status)
      (told : Told declaration origin visits text) : Told declaration origin (visit :: visits) text

namespace Visits

variable {declaration : GrantDeclaration} {origin current : ManagedResource}
  {visits earlier : List Visit} {visit : Visit} {text : String}

/-- What one more pass leaves as the message of a grant that is ready comes from that pass or from
those before it. -/
theorem told_next (succeeds : visit.Succeeds declaration)
    (before : visit.before.phase = .ready → visit.before.status.bind Status.message = some text →
      Told declaration origin earlier text)
    (ready : visit.after.phase = .ready)
    (holds : visit.after.status.bind Status.message = some text) :
    Told declaration origin (visit :: earlier) text := by
  by_cases settled : ∃ outcome, visit.Settles outcome
  · obtain ⟨outcome, settles⟩ := settled
    obtain ⟨observed, status, ⟨sees, -⟩, -, stored, -, message⟩ := succeeds.settled settles
    rw [stored, Option.bind_some, message, Visit.messageAfter] at holds
    split at holds
    · next none =>
        split at holds
        · next quiet =>
            obtain ⟨rfl, readyBefore⟩ := quiet
            exact .silent readyBefore settles sees none (before readyBefore holds)
        · cases holds
    · next owned =>
        cases holds
        exact .found settles sees owned
  · have unsettled : ∀ outcome, ¬visit.Settles outcome := not_exists.mp settled
    cases succeeds.unsettled unsettled with
    | inl same =>
        have readyBefore : visit.before.phase = .ready := by
          rwa [ManagedResource.phase, ← same]
        exact .aside readyBefore unsettled same (before readyBefore (same ▸ holds))
    | inr other => exact absurd ready other

/-- The message of a grant that is ready comes from a pass that found owned targets. -/
theorem told_of_ready (history : Visits declaration origin visits current)
    (ready : current.phase = .ready)
    (holds : current.status.bind Status.message = some text) :
    Told declaration origin visits text := by
  induction history with
  | start => exact .before ready holds
  | @edited visits current next history same ih =>
      rw [ManagedResource.phase, same] at ready
      exact ih ready (same ▸ holds)
  | visited history succeeds ih => exact told_next succeeds ih ready holds

end Visits

/-- What the status of a grant tells of ownership. Along passes that succeed, whatever the server
answers, each pass that makes it agree saw one state of the objects and leaves the grant ready. If
the role owned targets then, the message lists exactly those. If it owned none, there is no
message, unless the grant was ready and there was nothing to do: what was said before stays then.
So a message lists the targets that were owned when a pass last found some, and every later pass
found the grant ready, nothing to do and no such target, or left the status alone. -/
theorem ready_message_tells_latest_ownership {declaration : GrantDeclaration}
    {origin : ManagedResource} {earlier : List Visit} {visit : Visit} {outcome : Outcome}
    (history : Visits declaration origin earlier visit.before)
    (succeeds : visit.Succeeds declaration) (settles : visit.Settles outcome) :
    ∃ observed status,
      (declaration.Sees visit.interactions observed ∧
        ∀ other, declaration.Sees visit.interactions other → other = observed) ∧
      visit.after.status = some status ∧ status.phase = .ready ∧
      (∀ object, object ∈ declaration.ownedTargets observed ↔
        declaration.IsTarget observed object ∧ observed.ownership.getD object false = true) ∧
      (declaration.ownedTargets observed ≠ [] →
        status.message =
          some (declaration.ownershipText visit.before (declaration.ownedTargets observed))) ∧
      (declaration.ownedTargets observed = [] →
        (∃ message, outcome = .applied message) ∨ visit.before.phase ≠ .ready →
          status.message = none) ∧
      (declaration.ownedTargets observed = [] →
        (∃ message, outcome = .converged message) → visit.before.phase = .ready →
          status.message = visit.before.status.bind Status.message) ∧
      ∀ text, status.message = some text → Told declaration origin (visit :: earlier) text := by
  obtain ⟨observed, status, sees, agrees, stored, ready, message⟩ := succeeds.settled settles
  refine ⟨observed, status, sees, stored, ready, fun _ => GrantDeclaration.mem_ownedTargets_iff,
    ?_, ?_, ?_, ?_⟩
  · intro owned
    rw [message, Visit.messageAfter, if_neg owned]
  · intro none loud
    rw [message, Visit.messageAfter, if_pos none, if_neg]
    intro quiet
    obtain ⟨rfl, readyBefore⟩ := quiet
    cases loud with
    | inl applied => cases applied.choose_spec
    | inr other => exact other readyBefore
  · intro none converged readyBefore
    obtain ⟨own, rfl⟩ := converged
    rw [if_pos none] at agrees
    have silent : own = Option.none := by
      cases agrees with
      | inl same => exact Outcome.converged.inj same
      | inr impossible => cases impossible
    rw [message, Visit.messageAfter, if_pos none, if_pos ⟨congrArg _ silent, readyBefore⟩]
  · intro text same
    have after : visit.after.phase = .ready := by
      rw [ManagedResource.phase, stored]
      exact ready
    exact (Visits.visited history succeeds).told_of_ready after (stored ▸ same)

/-! A grant on a table. Its role owned the table in the first pass, which was told. In the second
pass somebody else owns it and the role holds what it should, so there is nothing to do. -/

private def lending : GrantDeclaration where
  cluster := ⟨"main", none⟩
  database := "app"
  role := "reader"
  schema := some "public"
  objectType := .table
  objects := ["orders"]
  privileges := [.select]

private def lent (status : Option Status) : ManagedResource where
  metadata :=
    ⟨some "lending", none, some "shop", some 1, some "4", [CatalogSteward.finalizer], none⟩
  declaration := .grant lending
  status := status

private def steward : ClusterConnection where
  metadata := ⟨some "main", none, some "shop", none, none, [], none⟩
  declaration := ⟨"db", 5432, "postgres", ⟨"admin", none⟩, []⟩
  status := some ⟨"", .ready, none, none, none, none⟩

private def lendingSeen (isOwner : Bool) : GrantObservation :=
  ⟨.ofList [("orders", isOwner)], collectPrivileges [("orders", "SELECT")]⟩

private def lendingRemark (isOwner : Bool) : Option Remark :=
  if isOwner then some (.ownsTargets .table "shop/lending" "public" ["orders"]) else none

private def lendingLooks (isOwner : Bool) : List Interaction :=
  [⟨.query (.ownership lending.scope lending.namedObjects "reader"),
      Except.ok [("orders", isOwner)]⟩,
    ⟨.query (.privileges lending.scope "reader"), Except.ok [("orders", "SELECT")]⟩]

private def stewardOpening : List Interaction :=
  ((steward.openSession (some "app")).run.follow ManagedResource.obliging).1

private def lendingWork (isOwner : Bool) : List Interaction :=
  (lent none).lookup "shop" (.ok (some steward)) ::
    (stewardOpening ++ (⟨.begin, Except.ok ()⟩ ::
      (lendingLooks isOwner ++ [] ++ [⟨.rollback, Except.ok ()⟩])))

private theorem path_lendingLooks (isOwner : Bool) :
    lending.observe.Path (lendingLooks isOwner) (.ok (lendingSeen isOwner)) :=
  .call (.call (.done _))

private theorem path_lending (status : Option Status) (isOwner : Bool) :
    ((lent status).attemptConvergence "shop").Path (lendingWork isOwner)
      (.ok (.converged ((lendingRemark isOwner).map Remark.message))) := by
  have opened : (steward.openSession (some "app")).Path stewardOpening (.ok ⟨17⟩) :=
    Program.path_follow ManagedResource.obliging _
  have planned : lending.plan "shop/lending" 17 (lendingSeen isOwner) =
      .ok ⟨[], lendingRemark isOwner⟩ := by
    refine GrantDeclaration.plan_eq_ok_iff.mpr ⟨rfl, ?_, by cases isOwner <;> decide +kernel⟩
    intro object target
    rw [← GrantDeclaration.mem_targets_iff] at target
    revert object
    cases isOwner <;> decide +kernel
  have left : Leave.rollback.carryOut.Path [⟨.rollback, Except.ok ()⟩] (.ok ()) :=
    .call (.done _)
  have converged : ((lent status).converge ⟨17⟩).Path _ _ :=
    settle_path (path_lendingLooks isOwner) planned left
  exact Attempt.path_bind_iff.mpr (.inr ⟨[], _, (), rfl, .done _,
    ManagedResource.throughSession_path rfl opened converged⟩)

private def lendingTold : Status :=
  (Outcome.converged ((lendingRemark true).map Remark.message)).statusAfter
    ((lent none).probed (.ofSeconds 0)) (.ofSeconds 0)

private def lendingCounted : Interaction :=
  ⟨.count ((lent none).labels "shop") false, ()⟩

private def owningVisit : Visit where
  before := lent none
  interactions :=
    ⟨.now, Instant.ofSeconds 0⟩ :: (lendingWork true ++
      ([⟨.writeStatus ((lent none).target "shop") lendingTold, Except.ok ()⟩] ++ [lendingCounted]))
  after := lent (some lendingTold)

private def losingVisit : Visit where
  before := lent (some lendingTold)
  interactions := ⟨.now, Instant.ofSeconds 300⟩ :: (lendingWork false ++ ([] ++ [lendingCounted]))
  after := lent (some lendingTold)

private theorem succeeds_owning : owningVisit.Succeeds lending where
  declares := rfl
  path := ⟨_, ManagedResource.reconcile_path_of_kept rfl rfl rfl (path_lending none true)
    (.made lendingTold (.ok ()))⟩
  stored := by
    have quiet := ManagedResource.attemptConvergence_asks _ _ _ _ (path_lending none true)
    exact .cons rfl (Along.append_iff.mpr ⟨_, ManagedResource.along_of_noRecord quiet,
      .cons (.inl rfl) (.cons rfl (.nil _))⟩)

private theorem succeeds_losing : losingVisit.Succeeds lending where
  declares := rfl
  path := by
    have settled : ((lent (some lendingTold)).transitionAfter (.converged none)
        (.ofSeconds 300)).status = none := by
      decide +kernel
    refine ⟨_, ManagedResource.reconcile_path_of_kept rfl rfl rfl
      (path_lending (some lendingTold) false) ?_⟩
    show StatusWrite _ ((lent (some lendingTold)).transitionAfter (.converged none)
      (.ofSeconds 300)).status [] (.ok ())
    rw [settled]
    exact .skipped
  stored := by
    have quiet := ManagedResource.attemptConvergence_asks _ _ _ _
      (path_lending (some lendingTold) false)
    exact .cons rfl (Along.append_iff.mpr ⟨_, ManagedResource.along_of_noRecord quiet,
      .cons rfl (.nil _)⟩)

private theorem visits_lending : Visits lending (lent none) [owningVisit] losingVisit.before :=
  .visited .start succeeds_owning

private theorem settles_losing : losingVisit.Settles (.converged none) where
  agrees := ⟨none, .inl rfl⟩
  staying := rfl
  finalizer := rfl
  attempt := ⟨"shop", _, _, _, rfl, rfl, path_lending _ false⟩

private theorem sees_losing : lending.Sees losingVisit.interactions (lendingSeen false) :=
  ⟨⟨.now, Instant.ofSeconds 300⟩ :: (lent none).lookup "shop" (.ok (some steward)) ::
      stewardOpening,
    lendingLooks false, [⟨.rollback, Except.ok ()⟩, lendingCounted],
    by simp only [losingVisit, lendingWork, List.append_nil, List.nil_append, List.cons_append,
      List.append_assoc], path_lendingLooks false⟩

theorem lost_ownership_is_still_told :
    (Visits lending (lent none) [losingVisit, owningVisit] losingVisit.after ∧
        losingVisit.Settles (.converged none) ∧
          lending.Sees losingVisit.interactions (lendingSeen false) ∧
            ∀ other, lending.Sees losingVisit.interactions other → other = lendingSeen false) ∧
      lending.ownedTargets (lendingSeen false) = [] ∧ losingVisit.after.phase = .ready ∧
        losingVisit.after.status.bind Status.message =
          some (lending.ownershipText losingVisit.before ["orders"]) := by
  obtain ⟨observed, -, ⟨-, only⟩, -⟩ := succeeds_losing.settled settles_losing
  rw [← only _ sees_losing] at only
  have spared : lending.ownedTargets (lendingSeen false) = [] := by
    decide +kernel
  exact ⟨⟨.visited visits_lending succeeds_losing, settles_losing, sees_losing, only⟩, spared,
    rfl, rfl⟩

theorem ready_message_tells_latest_ownership_of_lending :
    (Visits lending (lent none) [owningVisit] losingVisit.before ∧
        losingVisit.Succeeds lending ∧ losingVisit.Settles (.converged none)) ∧
      ∃ observed status,
        lending.Sees losingVisit.interactions observed ∧ losingVisit.after.status = some status ∧
          status.phase = .ready ∧
            ∀ text, status.message = some text →
              Told lending (lent none) [losingVisit, owningVisit] text := by
  refine ⟨⟨visits_lending, succeeds_losing, settles_losing⟩, ?_⟩
  obtain ⟨observed, status, ⟨sees, -⟩, stored, ready, -, -, -, -, told⟩ :=
    ready_message_tells_latest_ownership visits_lending succeeds_losing settles_losing
  exact ⟨observed, status, sees, stored, ready, told⟩

end CatalogSteward
