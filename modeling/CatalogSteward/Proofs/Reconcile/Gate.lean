import CatalogSteward.Proofs.Reconcile.History

/-!
# Gates before the server

A pass talks to a server in at most one session, and only behind its gates: the
resource has the finalizer, its connection is ready, and the resource either is
to stay and passes the checks that need no server, or its deletion was noted and
it is to be dropped.
-/

set_option autoImplicit false

namespace CatalogSteward

/-- Nothing goes to a server. -/
def Quiet (interactions : List Interaction) : Prop :=
  ∀ interaction ∈ interactions, interaction.request.isForServer = false

namespace Quiet

variable {first second : List Interaction} {interaction : Interaction}

theorem nil : Quiet [] :=
  List.forall_mem_nil _

theorem cons (here : interaction.request.isForServer = false) (others : Quiet first) :
    Quiet (interaction :: first) :=
  List.forall_mem_cons.mpr ⟨here, others⟩

theorem append (quiet : Quiet first) (others : Quiet second) : Quiet (first ++ second) :=
  List.forall_mem_append.mpr ⟨quiet, others⟩

end Quiet

theorem quiet_iff {interactions : List Interaction} :
    Quiet interactions ↔
      ¬ ∃ interaction ∈ interactions, interaction.request.isForServer = true := by
  simp only [Quiet, not_exists, not_and, Bool.not_eq_true]

theorem StatusWrite.quiet {target : Target} {status : Option Status} {writes : List Interaction}
    {written : Except Failure Unit} (write : StatusWrite target status writes written) :
    Quiet writes := by
  intro interaction member
  obtain ⟨status, asked⟩ := write.exists_request member
  rw [asked]
  rfl

namespace ManagedResource

variable {α : Type} {resource : ManagedResource} {inNamespace : String}
  {interactions before after : List Interaction}

/-! ## One session -/

/-- A pass has one session for its work: the connection that the resource refers to was found and
is ready, a session with its server is opened, and what goes to a server is that and the work. -/
inductive OneSession (resource : ManagedResource) (inNamespace : String)
    (work : Session → Attempt α) : List Interaction → Prop where
  | unopened {connection : ClusterConnection} {before opening after : List Interaction}
      {failure : Failure} (ready : connection.isReady = true) (quietBefore : Quiet before)
      (opened : (connection.openSession resource.declaration.targetDatabase).Path opening
        (.error failure))
      (quietAfter : Quiet after) :
      OneSession resource inNamespace work
        (before ++ resource.lookup inNamespace (.ok (some connection)) :: (opening ++ after))
  | used {connection : ClusterConnection} {session : Session}
      {before opening during after : List Interaction} {result : Except Failure α}
      (ready : connection.isReady = true) (quietBefore : Quiet before)
      (opened : (connection.openSession resource.declaration.targetDatabase).Path opening
        (.ok session))
      (worked : (work session).Path during result) (quietAfter : Quiet after) :
      OneSession resource inNamespace work
        (before ++ resource.lookup inNamespace (.ok (some connection)) ::
          (opening ++ (during ++ after)))

theorem SessionCourse.quiet_or_oneSession {absent : α} {work : Session → Attempt α}
    {result : Except Failure α}
    (course : resource.SessionCourse inNamespace absent work interactions result)
    (quietBefore : Quiet before) (quietAfter : Quiet after) :
    Quiet interactions ∨
      resource.OneSession inNamespace work (before ++ (interactions ++ after)) := by
  cases course with
  | unfound | unready => exact .inl (.cons rfl .nil)
  | unopened ready opened => exact .inr (.unopened ready quietBefore opened quietAfter)
  | used ready opened worked =>
      rw [List.cons_append, List.append_assoc]
      exact .inr (.used ready quietBefore opened worked quietAfter)

/-- Work that ends with a value of its own choice does what it did. -/
theorem OneSession.of_map {β : Type} {work : Session → Attempt α} {value : β}
    (one : resource.OneSession inNamespace (fun session => work session >>= fun _ => pure value)
      interactions) : resource.OneSession inNamespace work interactions := by
  cases one with
  | unopened ready quietBefore opened quietAfter =>
      exact .unopened ready quietBefore opened quietAfter
  | used ready quietBefore opened worked quietAfter =>
      obtain ⟨_, inner, -⟩ := Attempt.path_bind_pure_iff.mp worked
      exact .used ready quietBefore opened inner quietAfter

open Sql in
/-- A command that a pass with one session executes is executed by its work, once the session was
opened. -/
theorem OneSession.exists_work {work : Session → Attempt α} {command : Command}
    {answer : Except DatabaseFault Unit}
    (one : resource.OneSession inNamespace work interactions)
    (executed : (⟨.execute command, answer⟩ : Interaction) ∈ interactions) :
    ∃ (connection : ClusterConnection) (session : Session)
        (before opening during after : List Interaction) (result : Except Failure α),
      interactions = before ++ (opening ++ (during ++ after)) ∧
        (connection.openSession resource.declaration.targetDatabase).Path opening
            (.ok session) ∧
          (work session).Path during result ∧
            (⟨.execute command, answer⟩ : Interaction) ∈ during := by
  have loud : ∀ {quiet : List Interaction}, Quiet quiet →
      (⟨.execute command, answer⟩ : Interaction) ∉ quiet :=
    fun quiet member => nomatch quiet _ member
  have early : ∀ {connection : ClusterConnection} {opening : List Interaction}
      {result : Except Failure Session},
      (connection.openSession resource.declaration.targetDatabase).Path opening result →
        (⟨.execute command, answer⟩ : Interaction) ∉ opening :=
    fun opened member =>
      @ClusterConnection.openSession_asks (fun _ => False) _ _ _ _ opened _ member
  cases one with
  | unopened ready quietBefore opened quietAfter =>
      simp only [List.mem_append, List.mem_cons] at executed
      obtain before | lookup | opening | after := executed
      · exact absurd before (loud quietBefore)
      · cases lookup
      · exact absurd opening (early opened)
      · exact absurd after (loud quietAfter)
  | used ready quietBefore opened worked quietAfter =>
      simp only [List.mem_append, List.mem_cons] at executed
      obtain before | lookup | opening | during | after := executed
      · exact absurd before (loud quietBefore)
      · cases lookup
      · exact absurd opening (early opened)
      · exact ⟨_, _, _ ++ [_], _, _, _, _, List.append_cons _ _ _, opened, worked, during⟩
      · exact absurd after (loud quietAfter)

open Sql in
/-- Every command that a pass with one session executes is one of its work. -/
theorem OneSession.meant {work : Session → Attempt α} {commands : Command → Prop}
    {command : Command} {answer : Except DatabaseFault Unit}
    (one : resource.OneSession inNamespace work interactions)
    (asks : ∀ session, (work session).Asks (Request.IsWork commands))
    (executed : (⟨.execute command, answer⟩ : Interaction) ∈ interactions) : commands command := by
  obtain ⟨_, session, _, _, _, _, _, -, -, worked, during⟩ := one.exists_work executed
  exact asks session _ _ worked _ during

/-! ## Gates -/

/-- What a pass that goes to a server is for, and why it may: it makes the server agree with a
resource that is to stay and passed its checks, or it removes what a resource declared that is to
be deleted, once that was noted and if it is to be dropped. -/
inductive Gate (resource : ManagedResource) (inNamespace : String)
    (interactions : List Interaction) : Prop where
  | converging (staying : resource.metadata.isDeleting = false)
      (accepted : resource.declaration.preflight resource.metadata.qualifiedName = .ok ())
      (session : resource.OneSession inNamespace resource.converge interactions)
  | cleaning {status : Status} (leaving : resource.metadata.isDeleting = true)
      (stored : resource.status = some status) (noted : status.phase = .deleting)
      (drops : resource.declaration.dropsOnDelete = true)
      (session : resource.OneSession inNamespace (fun _ => resource.declaration.cleanup)
        interactions)

theorem quiet_or_converging {result : Except Failure Outcome}
    (staying : resource.metadata.isDeleting = false)
    (path : (resource.attemptConvergence inNamespace).Path interactions result)
    (quietBefore : Quiet before) (quietAfter : Quiet after) :
    Quiet interactions ∨ resource.Gate inNamespace (before ++ (interactions ++ after)) := by
  rw [attemptConvergence_eq] at path
  cases accepted : resource.declaration.preflight resource.metadata.qualifiedName with
  | error rejection =>
      rw [accepted] at path
      obtain ⟨rfl, -⟩ := Attempt.path_throw_iff.mp path
      exact .inl .nil
  | ok _ =>
      rw [accepted] at path
      obtain quiet | session :=
        (sessionCourse_of_path path).quiet_or_oneSession quietBefore quietAfter
      · exact .inl quiet
      · exact .inr (.converging staying accepted session)

theorem cleanupStep_eq_drop_iff {phase : Phase} {drops : Bool} :
    cleanupStep phase drops = .drop ↔ phase = .deleting ∧ drops = true := by
  cases phase <;> cases drops <;> decide

theorem cleanupStep_eq_release_iff {phase : Phase} {drops : Bool} :
    cleanupStep phase drops = .release ↔ phase = .deleting ∧ drops = false := by
  cases phase <;> cases drops <;> decide

/-- The phase is that of the status, unless the resource has none and is pending. -/
theorem exists_status_of_phase (noted : resource.phase = .deleting) :
    ∃ status, resource.status = some status ∧ status.phase = .deleting := by
  rw [phase] at noted
  cases stored : resource.status with
  | none =>
      rw [stored] at noted
      cases noted
  | some status =>
      rw [stored] at noted
      exact ⟨status, rfl, noted⟩

theorem quiet_or_cleaning {result : Except Failure (Option String)}
    (leaving : resource.metadata.isDeleting = true)
    (step : cleanupStep resource.phase resource.declaration.dropsOnDelete = .drop)
    (path : (resource.attemptCleanup inNamespace).Path interactions result)
    (quietBefore : Quiet before) (quietAfter : Quiet after) :
    Quiet interactions ∨ resource.Gate inNamespace (before ++ (interactions ++ after)) := by
  rw [attemptCleanup_eq] at path
  obtain ⟨deleting, drops⟩ := cleanupStep_eq_drop_iff.mp step
  obtain ⟨status, stored, noted⟩ := exists_status_of_phase deleting
  obtain quiet | session :=
    (sessionCourse_of_path path).quiet_or_oneSession quietBefore quietAfter
  · exact .inl quiet
  · exact .inr (.cleaning leaving stored noted drops session.of_map)

/-- Where the work of a pass sends nothing to a server, the pass does not either. -/
private theorem quiet_or_gate_around {now : Time.Instant} {work writes : List Interaction}
    {last : Interaction} (finalizer : resource.metadata.hasFinalizer = true)
    (quietAfter : Quiet (writes ++ [last]))
    (ways : Quiet [⟨.now, now⟩] → Quiet work ∨
      resource.Gate inNamespace ([⟨.now, now⟩] ++ (work ++ (writes ++ [last])))) :
    Quiet (⟨.now, now⟩ :: (work ++ writes) ++ [last]) ∨
      resource.metadata.hasFinalizer = true ∧
        resource.Gate inNamespace (⟨.now, now⟩ :: (work ++ writes) ++ [last]) := by
  have asked : Quiet [⟨.now, now⟩] := .cons rfl .nil
  rw [List.cons_append, List.append_assoc, ← List.singleton_append]
  cases ways asked with
  | inl quiet => exact .inl (asked.append (quiet.append quietAfter))
  | inr gate => exact .inr ⟨finalizer, gate⟩

theorem Course.quiet_or_gate {passed : Except Failure Pass} {last : Interaction}
    (course : resource.Course inNamespace interactions passed)
    (quietLast : last.request.isForServer = false) :
    Quiet (interactions ++ [last]) ∨
      resource.metadata.hasFinalizer = true ∧ resource.Gate inNamespace (interactions ++ [last]) := by
  have counted : Quiet [last] := .cons quietLast .nil
  cases course with
  | enrolled staying finalizer answer => exact .inl (.cons rfl counted)
  | ignored leaving finalizer => exact .inl counted
  | noted leaving finalizer step now write =>
      exact .inl (.cons rfl (write.quiet.append counted))
  | released leaving finalizer step now answer => exact .inl (.cons rfl (.cons rfl counted))
  | kept staying finalizer now attempt write =>
      have quietAfter := write.quiet.append counted
      exact quiet_or_gate_around finalizer quietAfter fun asked =>
        quiet_or_converging staying attempt asked quietAfter
  | dropped leaving finalizer step now attempt unhindered answer =>
      have quietAfter : Quiet
          ([resource.finalizerWrite inNamespace resource.metadata.finalizersWithout answer] ++
            [last]) := .cons rfl counted
      exact quiet_or_gate_around finalizer quietAfter fun asked =>
        quiet_or_cleaning leaving step attempt asked quietAfter
  | obstructed leaving finalizer step now attempt obstacle write =>
      have quietAfter := write.quiet.append counted
      exact quiet_or_gate_around finalizer quietAfter fun asked =>
        quiet_or_cleaning leaving step attempt asked quietAfter

/-- A pass that sends anything to a server is one over a resource with the finalizer, behind one
of the two gates. -/
theorem quiet_or_gate {result : Except Failure Requeue}
    (path : resource.reconcile.Path interactions result) :
    Quiet interactions ∨
      ∃ inNamespace, resource.metadata.inNamespace = some inNamespace ∧
        resource.metadata.hasFinalizer = true ∧ resource.Gate inNamespace interactions := by
  cases course_of_path_reconcile path with
  | inl unnamed =>
      obtain ⟨-, rfl, -⟩ := unnamed
      exact .inl .nil
  | inr passed =>
      obtain ⟨inNamespace, work, passed, named, course, rfl, -⟩ := passed
      exact (course.quiet_or_gate rfl).imp_right fun gated => ⟨inNamespace, named, gated⟩

/-! ## Behind the gates -/

end ManagedResource

namespace Declaration

/-- What becomes of the object on the server, where the declaration has a say in it. -/
def reclaimPolicy? : Declaration → Option ReclaimPolicy
  | .database declaration => some declaration.reclaimPolicy
  | .schema declaration => some declaration.reclaimPolicy
  | .role _ | .grant _ | .defaultPrivilege _ => none

theorem dropsOnDelete_of_retain {declaration : Declaration}
    (retained : declaration.reclaimPolicy? = some .retain) :
    declaration.dropsOnDelete = false := by
  cases declaration with
  | database declaration | schema declaration =>
      rw [dropsOnDelete, Option.some.inj retained]
      rfl
  | role | grant | defaultPrivilege => exact nomatch retained

end Declaration

namespace ManagedResource

open Sql

variable {resource : ManagedResource} {interactions : List Interaction}

/-- What a pass executes, it executes on behalf of a resource that has the finalizer; and a drop,
or whatever is executed for a resource that is to be deleted, follows the note of its deletion. -/
theorem noted_of_execute {result : Except Failure Requeue} {command : Command}
    {answer : Except DatabaseFault Unit} (path : resource.reconcile.Path interactions result)
    (executed : (⟨.execute command, answer⟩ : Interaction) ∈ interactions) :
    resource.metadata.hasFinalizer = true ∧
      (command.isDrop = true ∨ resource.metadata.isDeleting = true →
        ∃ status, resource.status = some status ∧ status.phase = .deleting) := by
  cases quiet_or_gate path with
  | inl quiet => exact nomatch quiet _ executed
  | inr gated =>
      obtain ⟨inNamespace, -, finalizer, gate⟩ := gated
      refine ⟨finalizer, fun final => ?_⟩
      cases gate with
      | cleaning leaving stored noted drops session => exact ⟨_, stored, noted⟩
      | converging staying accepted session =>
          cases final with
          | inl drop =>
              rw [session.meant resource.converge_asks executed] at drop
              exact nomatch drop
          | inr leaving =>
              rw [staying] at leaving
              exact nomatch leaving

/-- A pass goes to a server only behind its gates, whatever the cluster, the machine and the
server answer. So, whatever happens to a resource that starts without a status, even if passes
over it overlap, are over versions that are out of date or are cut short: a pass over it sends
nothing to a server if it is to be deleted and its object to be retained; what a pass executes
follows the finalizer; and what it drops, or executes for a resource that is to be deleted,
follows an earlier pass that wrote the note of its deletion that is stored. -/
theorem reconcile_gated {result : Except Failure Requeue}
    (path : resource.reconcile.Path interactions result) :
    ((∃ interaction ∈ interactions, interaction.request.isForServer = true) →
        ∃ inNamespace, resource.metadata.inNamespace = some inNamespace ∧
          resource.metadata.hasFinalizer = true ∧ resource.Gate inNamespace interactions) ∧
      (resource.metadata.isDeleting = true →
        resource.declaration.reclaimPolicy? = some .retain → Quiet interactions) ∧
      ∀ origin versions passes, origin.status = none → History origin versions passes →
        resource ∈ versions → ∀ command answer,
          (⟨.execute command, answer⟩ : Interaction) ∈ interactions →
            resource.metadata.hasFinalizer = true ∧
              (command.isDrop = true ∨ resource.metadata.isDeleting = true →
                ∃ status, resource.status = some status ∧ status.phase = .deleting ∧
                  ∃ earlier ∈ passes, earlier.resource.metadata.isDeleting = true ∧
                    earlier.Wrote status) := by
  have ways := quiet_or_gate path
  refine ⟨fun loud => ?_, fun leaving retained => ?_, ?_⟩
  · exact ways.resolve_left fun quiet => quiet_iff.mp quiet loud
  · cases ways with
    | inl quiet => exact quiet
    | inr gated =>
        obtain ⟨inNamespace, -, -, gate⟩ := gated
        cases gate with
        | converging staying =>
            rw [staying] at leaving
            exact nomatch leaving
        | cleaning _ _ _ drops =>
            rw [Declaration.dropsOnDelete_of_retain retained] at drops
            exact nomatch drops
  · intro origin versions passes fresh history member command answer executed
    obtain ⟨finalizer, final⟩ := noted_of_execute path executed
    refine ⟨finalizer, fun last => ?_⟩
    obtain ⟨status, stored, noted⟩ := final last
    exact ⟨status, stored, noted, history.exists_noted fresh member stored noted⟩

/-! A database that is to be dropped: its deletion is noted in one pass, and it is dropped in the
next one. -/

private def archive : ManagedResource where
  metadata :=
    ⟨some "archive", none, some "shop", some 2, some "9", [CatalogSteward.finalizer],
      some (.ofSeconds 0)⟩
  declaration := .database ⟨⟨"main", none⟩, "archive", none, .delete⟩
  status := none

private def archiveNoted : ManagedResource :=
  { archive with status := some (archive.notedStatus (.ofSeconds 0)) }

/-- What a cluster with one connection that is ready, and a server that refuses nothing, answer to
whoever removes what was declared. -/
def obliging : (request : Request) → request.Answer
  | .now => Time.Instant.ofSeconds 0
  | .findConnection _ _ => .ok (some
      ⟨⟨some "main", none, some "shop", none, none, [], none⟩,
        ⟨"db", 5432, "postgres", ⟨"admin", none⟩, []⟩,
        some ⟨"", .ready, none, none, none, none⟩⟩)
  | .findSecret _ _ => .ok (some
      ⟨⟨some "admin", none, some "shop", none, none, [], none⟩, some basicAuthType,
        some [("password", [])]⟩)
  | .query .versionNumber => Except.ok "170000"
  | .query _ => .error .unreachable
  | .readFile _ => .error ""
  | .writeStatus _ _ | .writeFinalizers _ _ _ => .ok ()
  | .connect _ _ | .execute _ | .begin | .commit | .rollback => .ok ()
  | .abandon | .count _ _ => ()

private def noting : List Interaction × Except Failure Requeue :=
  archive.reconcile.run.follow obliging

private def dropping : List Interaction × Except Failure Requeue :=
  archiveNoted.reconcile.run.follow obliging

private def notingPass : PassRecord :=
  ⟨archive, noting.1⟩

private theorem history_archive : History archive [archiveNoted, archive] [notingPass] := by
  have path : archive.reconcile.Path (noting.1 ++ []) noting.2 := by
    rw [List.append_nil]
    exact Program.path_follow obliging _
  exact .passed .created List.mem_cons_self path
    (.cons rfl (.cons (.inl rfl) (.cons rfl (.nil archiveNoted))))

theorem reconcile_gated_archive :
    (archiveNoted.reconcile.Path dropping.1 dropping.2 ∧ archive.status = none ∧
        History archive [archiveNoted, archive] [notingPass] ∧
          (⟨.execute (.dropDatabase "archive"), .ok ()⟩ : Interaction) ∈ dropping.1) ∧
      archiveNoted.Gate "shop" dropping.1 ∧
        ∃ status, archiveNoted.status = some status ∧ status.phase = .deleting ∧
          ∃ earlier ∈ [notingPass], earlier.resource.metadata.isDeleting = true ∧
            earlier.Wrote status := by
  have path : archiveNoted.reconcile.Path dropping.1 dropping.2 := Program.path_follow obliging _
  have executed :
      (⟨.execute (.dropDatabase "archive"), .ok ()⟩ : Interaction) ∈ dropping.1 :=
    .tail _ (.tail _ (.tail _ (.tail _ (.tail _ (.head _)))))
  obtain ⟨gated, -, followed⟩ := reconcile_gated path
  refine ⟨⟨path, rfl, history_archive, executed⟩, ?_, ?_⟩
  · obtain ⟨_, named, -, gate⟩ := gated ⟨_, executed, rfl⟩
    cases named
    exact gate
  · exact (followed archive _ _ rfl history_archive List.mem_cons_self _ _ executed).2 (.inl rfl)

end ManagedResource

end CatalogSteward
