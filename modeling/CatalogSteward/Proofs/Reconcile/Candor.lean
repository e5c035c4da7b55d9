import CatalogSteward.Proofs.Reconcile.Execution

/-!
# What attempts fail with

An attempt fails exactly when something on its way goes wrong, and in the words
for just that: a request is answered with a failure or with something that is of
no use, or what was declared is rejected. Nothing is passed over, and nothing is
said otherwise on the way up.
-/

set_option autoImplicit false

namespace CatalogSteward

open Sql

/-! ## Troubles -/

/-- The words for a failure, where a result is one. -/
def failureWords? {α Fault : Type} (words : Fault → String) : Except Fault α → Option String
  | .ok _ => none
  | .error fault => some (words fault)

theorem failureWords?_mapError {α Fault Failed : Type} {words : Failed → String}
    {blame : Fault → Failed} {result : Except Fault α} :
    failureWords? words (result.mapError blame) =
      failureWords? (fun fault => words (blame fault)) result := by
  cases result <;> rfl

/-- The words for an answer that is a failure or of no use: the request failed, a secret is not
there or holds no credentials, a file holds no certificates, or a server does not say its version.
Refused writes of a resource have none, as there is no status to say them in. -/
def Request.trouble? : (request : Request) → request.Answer → Option String
  | .findConnection _ _, answer => failureWords? ClusterFault.fullMessage answer
  | .findSecret _ _, .error fault => some fault.fullMessage
  | .findSecret inNamespace name, .ok none => some (SecretFault.notFound inNamespace name).message
  | .findSecret _ _, .ok (some secret) =>
      failureWords? SecretFault.message (Secret.credentialsOrFault secret)
  | .readFile path, .error reason =>
      some
        (SessionFault.encryption
          ("Failed to read sslrootcert " ++ path ++ ": " ++ reason)).message
  | .readFile _, .ok text =>
      failureWords? (fun defect => (SessionFault.invalidCertificate defect.message).message)
        (Certificate.bundle text)
  | .query .versionNumber, .ok number =>
      if (majorVersion? number).isSome then none
      else some (SessionFault.unexpectedVersion number).message
  | .query _, .error fault => some fault.message
  | .connect _ _, answer => failureWords? DatabaseFault.message answer
  | .execute _, answer => failureWords? DatabaseFault.message answer
  | .begin, answer => failureWords? DatabaseFault.message answer
  | .commit, answer => failureWords? DatabaseFault.message answer
  | .rollback, answer => failureWords? DatabaseFault.message answer
  | _, _ => none

def Interaction.trouble? (interaction : Interaction) : Option String :=
  interaction.request.trouble? interaction.answer

def troubles (interactions : List Interaction) : List String :=
  interactions.filterMap Interaction.trouble?

/-- What a result complains of: the words for its failure, if it is one. -/
def complaint {α : Type} (result : Except Failure α) : List String :=
  (failureWords? Failure.message result).toList

theorem troubles_append {first second : List Interaction} :
    troubles (first ++ second) = troubles first ++ troubles second :=
  List.filterMap_append

theorem troubles_cons {request : Request} {answer : request.Answer}
    {interactions : List Interaction} :
    troubles (⟨request, answer⟩ :: interactions) =
      (request.trouble? answer).toList ++ troubles interactions := by
  rw [troubles, List.filterMap_cons, Interaction.trouble?]
  cases request.trouble? answer <;> rfl

/-! ## Candid attempts -/

/-- Whatever the answers are, an attempt fails exactly in the words for the one trouble that there
was. -/
def Attempt.IsCandid {α : Type} (attempt : Attempt α) : Prop :=
  ∀ (interactions : List Interaction) (result : Except Failure α),
    attempt.Path interactions result → complaint result = troubles interactions

namespace Attempt.IsCandid

variable {α β Fault : Type} {attempt : Attempt α}

theorem pure (value : α) : IsCandid (Pure.pure value : Attempt α) := by
  intro interactions result path
  obtain ⟨rfl, rfl⟩ := Attempt.path_pure_iff.mp path
  rfl

theorem ask {blame : Fault → Failure} (request : Request)
    (read : request.Answer → Except Fault α)
    (told : ∀ answer,
      failureWords? (fun fault => (blame fault).message) (read answer) = request.trouble? answer) :
    IsCandid
      (ExceptT.mk ((fun answer => (read answer).mapError blame) <$> Program.ask request)) := by
  intro interactions result path
  obtain ⟨answer, rfl, rfl⟩ := Attempt.path_ask_iff.mp path
  rw [complaint, failureWords?_mapError, told, troubles_cons]
  exact (List.append_nil _).symm

theorem bind {next : α → Attempt β} (candid : attempt.IsCandid)
    (candidNext : ∀ value, (next value).IsCandid) : (attempt >>= next).IsCandid := by
  intro interactions result path
  rcases Attempt.path_bind_iff.mp path with
    ⟨failure, failed, rfl⟩ | ⟨first, rest, value, rfl, done, others⟩
  · exact candid _ _ failed
  · rw [troubles_append, ← candid _ _ done, candidNext value _ _ others]
    rfl

theorem map {change : α → β} (candid : attempt.IsCandid) : (change <$> attempt).IsCandid := by
  intro interactions result path
  obtain ⟨given, reached, rfl⟩ := Attempt.path_map_iff.mp path
  rw [← candid _ _ reached]
  cases given <;> rfl

/-- To abandon a transaction goes without saying. -/
theorem orAbandon (candid : attempt.IsCandid) : (orAbandon attempt).IsCandid := by
  intro interactions result path
  rcases Attempt.path_orAbandon_iff.mp path with
    ⟨value, ended, rfl⟩ | ⟨failure, first, rfl, failed, rfl⟩
  · exact candid _ _ ended
  · rw [troubles_append, ← candid _ _ failed]
    rfl

end Attempt.IsCandid

section Candid

variable {α : Type}

theorem Query.rows_isCandid {question : Query} (other : question ≠ .versionNumber) :
    question.rows.IsCandid := by
  apply Attempt.IsCandid.ask (.query question) fun answer => answer
  intro answer
  cases answer with
  | error fault => cases question <;> rfl
  | ok rows =>
      cases question with
      | versionNumber => exact absurd rfl other
      | _ => rfl

theorem fetchCredentials_isCandid {blame : SecretFault → Failure} (secret : Reference)
    (ownNamespace : String) (words : ∀ fault, (blame fault).message = fault.message) :
    (fetchCredentials blame secret ownNamespace).IsCandid := by
  intro interactions result path
  obtain ⟨answer, rest, rfl, ways⟩ := Attempt.path_ask_bind path
  rw [troubles_cons]
  rcases ways with ⟨fault, rfl, rfl, rfl⟩ | ⟨found, rfl, others⟩
  · exact congrArg (List.cons · []) (words (.cluster fault))
  · cases found with
    | none =>
        obtain ⟨rfl, rfl⟩ := Attempt.path_throw_iff.mp others
        exact congrArg (List.cons · []) (words _)
    | some secret =>
        obtain ⟨rfl, rfl⟩ := Attempt.path_ofExcept_iff.mp others
        rw [complaint, failureWords?_mapError, funext words]
        exact (List.append_nil _).symm

theorem RoleDeclaration.fetchPassword_isCandid (declaration : RoleDeclaration)
    (ownNamespace : String) : (declaration.fetchPassword ownNamespace).IsCandid := by
  unfold fetchPassword
  cases declaration.passwordSecret with
  | none => exact .pure none
  | some secret =>
      apply (fetchCredentials_isCandid secret ownNamespace fun _ => rfl).bind
      exact fun credentials => .pure _

theorem fetchAnchors_isCandid (trust : Trust) : (fetchAnchors trust).IsCandid := by
  cases trust with
  | plain | unverified => exact .pure []
  | verified file =>
      intro interactions result path
      obtain ⟨answer, rest, rfl, ways⟩ := Attempt.path_ask_bind path
      rw [troubles_cons]
      rcases ways with ⟨reason, rfl, rfl, rfl⟩ | ⟨text, rfl, others⟩
      · rfl
      · obtain ⟨rfl, rfl⟩ := Attempt.path_ofExcept_iff.mp others
        rw [complaint, failureWords?_mapError]
        exact (List.append_nil _).symm

theorem executeAll_isCandid (commands : List Command) : (executeAll commands).IsCandid := by
  induction commands with
  | nil => exact .pure ()
  | cons command rest ih =>
      apply Attempt.IsCandid.bind _ fun _ => ih
      exact .ask (.execute command) (fun answer => answer) fun _ => rfl

theorem Leave.carryOut_isCandid (leave : Leave) : leave.carryOut.IsCandid := by
  cases leave with
  | commit => exact .ask .commit (fun answer => answer) fun _ => rfl
  | rollback => exact .ask .rollback (fun answer => answer) fun _ => rfl
  | abandon =>
      intro interactions result path
      obtain ⟨_, asked, rfl⟩ := Attempt.path_lift_iff.mp path
      rw [Program.path_ask_iff.mp asked]
      rfl

theorem inTransaction_isCandid {work : Attempt (Leave × α)} (candid : work.IsCandid) :
    (inTransaction work).IsCandid := by
  apply Attempt.IsCandid.bind
  · apply Attempt.IsCandid.orAbandon
    apply Attempt.IsCandid.bind _ fun _ => candid
    exact .ask .begin (fun answer => answer) fun _ => rfl
  · intro ended
    apply ended.1.carryOut_isCandid.bind
    exact fun _ => .pure ended.2

theorem Plan.settle_isCandid (plan : Plan) : plan.settle.IsCandid := by
  apply (executeAll_isCandid plan.commands).bind
  exact fun _ => .pure _

/-! ## Looking -/

theorem observeRole_isCandid (name : String) : (observeRole name).IsCandid := by
  apply Attempt.IsCandid.bind
  · exact Query.rows_isCandid nofun
  · intro found
    cases found with
    | none => exact .pure none
    | some row =>
        apply Attempt.IsCandid.bind
        · exact Query.rows_isCandid nofun
        · intro inRole
          apply Attempt.IsCandid.bind
          · exact Query.rows_isCandid nofun
          · exact fun members => .pure _

theorem GrantDeclaration.observePrivileges_isCandid (declaration : GrantDeclaration) :
    declaration.observePrivileges.IsCandid := by
  apply Attempt.IsCandid.map
  exact Query.rows_isCandid nofun

theorem GrantDeclaration.observe_isCandid (declaration : GrantDeclaration) :
    declaration.observe.IsCandid := by
  apply Attempt.IsCandid.bind
  · apply Attempt.IsCandid.bind
    · exact Query.rows_isCandid nofun
    · exact fun rows => .pure _
  · intro ownership
    apply declaration.observePrivileges_isCandid.bind
    exact fun current => .pure _

theorem DefaultPrivilegeDeclaration.observe_isCandid
    (declaration : DefaultPrivilegeDeclaration) : declaration.observe.IsCandid := by
  apply Attempt.IsCandid.bind
  · exact Query.rows_isCandid nofun
  · exact fun rows => .pure _

theorem roleExists_isCandid (name : String) : (roleExists name).IsCandid :=
  (observeRole_isCandid name).map

theorem schemaExists_isCandid (schema : Option String) : (schemaExists schema).IsCandid := by
  cases schema with
  | none => exact .pure true
  | some name =>
      apply Attempt.IsCandid.map
      exact Query.rows_isCandid nofun

/-! ## Cleaning up -/

theorem allExist_isCandid {needed : List (Attempt Bool)}
    (candid : ∀ attempt ∈ needed, attempt.IsCandid) : (allExist needed).IsCandid := by
  induction needed with
  | nil => exact .pure true
  | cons attempt rest ih =>
      apply (candid attempt List.mem_cons_self).bind
      intro exist
      cases exist with
      | true => exact ih fun other member => candid other (List.mem_cons_of_mem _ member)
      | false => exact .pure false

theorem revokeWhere_isCandid {needed : List (Attempt Bool)} {commands : Attempt (List Command)}
    (candid : ∀ attempt ∈ needed, attempt.IsCandid) (candidCommands : commands.IsCandid) :
    (revokeWhere needed commands).IsCandid := by
  apply inTransaction_isCandid
  apply (allExist_isCandid candid).bind
  intro exist
  cases exist with
  | false => exact .pure _
  | true =>
      apply candidCommands.bind
      intro revocations
      apply (executeAll_isCandid revocations).bind
      exact fun _ => .pure _

theorem Declaration.cleanup_isCandid (declaration : Declaration) :
    declaration.cleanup.IsCandid := by
  cases declaration with
  | database | schema | role => exact executeAll_isCandid _
  | grant declaration =>
      apply revokeWhere_isCandid
      · exact List.forall_mem_cons.mpr ⟨roleExists_isCandid _,
          List.forall_mem_singleton.mpr (schemaExists_isCandid _)⟩
      · exact declaration.observePrivileges_isCandid.map
  | defaultPrivilege declaration =>
      apply revokeWhere_isCandid
      · exact List.forall_mem_cons.mpr ⟨roleExists_isCandid _, List.forall_mem_cons.mpr
          ⟨roleExists_isCandid _, List.forall_mem_singleton.mpr (schemaExists_isCandid _)⟩⟩
      · exact declaration.observe_isCandid.map

end Candid

/-! ## Objections -/

/-- What is objected to of one's own accord after some interactions, and in which words. -/
abbrev Objections := List Interaction → String → Prop

namespace Objections

variable {α Fault : Type}

def none : Objections :=
  fun _ _ => False

/-- A failure that is given is objected to at once. -/
def of (words : Fault → String) (given : Except Fault α) : Objections :=
  fun before text => before = [] ∧ failureWords? words given = some text

/-- Objections to what an attempt comes to. -/
def after (attempt : Attempt α) (objections : α → Objections) : Objections :=
  fun before text =>
    ∃ first rest value, before = first ++ rest ∧ attempt.Path first (.ok value) ∧
      objections value rest text

end Objections

theorem mem_complaint_ok {α : Type} {value : α} {text : String} :
    text ∉ complaint (.ok value : Except Failure α) :=
  List.not_mem_nil

theorem mem_complaint_error_iff {α : Type} {failure : Failure} {text : String} :
    text ∈ complaint (.error failure : Except Failure α) ↔ text = failure.message :=
  List.mem_singleton

/-- Whatever the answers are, an attempt fails exactly in the words for a trouble that there was
or for an objection to what was asked so far. -/
structure Attempt.IsCandidAbout {α : Type} (objections : Objections) (attempt : Attempt α) :
    Prop where
  told : ∀ {interactions : List Interaction} {result : Except Failure α} {text : String},
    attempt.Path interactions result → text ∈ complaint result →
      text ∈ troubles interactions ∨ ∃ before, before <+: interactions ∧ objections before text
  troubled : ∀ {interactions : List Interaction} {result : Except Failure α} {text : String},
    attempt.Path interactions result → text ∈ troubles interactions → text ∈ complaint result
  objected : ∀ {interactions rest before others : List Interaction}
      {result : Except Failure α} {text : String},
    attempt.Path interactions result → objections before text →
      interactions ++ rest = before ++ others → text ∈ complaint result

theorem Attempt.IsCandid.about {α : Type} {attempt : Attempt α} (candid : attempt.IsCandid) :
    attempt.IsCandidAbout .none where
  told path complained := .inl (candid _ _ path ▸ complained)
  troubled path trouble := candid _ _ path ▸ trouble
  objected _ impossible _ := impossible.elim

namespace Attempt.IsCandidAbout

variable {α β Fault : Type} {attempt : Attempt α} {objections : Objections}

theorem congr {others : Objections} (about : attempt.IsCandidAbout objections)
    (same : ∀ before text, objections before text ↔ others before text) :
    attempt.IsCandidAbout others := by
  have equal : objections = others := funext fun before => funext fun text =>
    propext (same before text)
  exact equal ▸ about

theorem ofExcept (blame : Fault → Failure) (given : Except Fault α) :
    (Attempt.ofExcept blame given).IsCandidAbout
      (.of (fun fault => (blame fault).message) given) where
  told path complained := by
    obtain ⟨rfl, rfl⟩ := Attempt.path_ofExcept_iff.mp path
    rw [complaint, failureWords?_mapError, Option.mem_toList] at complained
    exact .inr ⟨[], List.nil_prefix, rfl, complained⟩
  troubled path trouble := by
    obtain ⟨rfl, -⟩ := Attempt.path_ofExcept_iff.mp path
    exact absurd trouble List.not_mem_nil
  objected path objected _ := by
    obtain ⟨-, rfl⟩ := Attempt.path_ofExcept_iff.mp path
    rw [complaint, failureWords?_mapError, Option.mem_toList]
    exact objected.2

theorem bind {next : α → Attempt β} {objectionsNext : α → Objections}
    (about : attempt.IsCandidAbout objections)
    (aboutNext : ∀ value, (next value).IsCandidAbout (objectionsNext value)) :
    (attempt >>= next).IsCandidAbout fun before text =>
      objections before text ∨ Objections.after attempt objectionsNext before text where
  told path complained := by
    rcases Attempt.path_bind_iff.mp path with
      ⟨failure, failed, rfl⟩ | ⟨first, rest, value, rfl, done, others⟩
    · refine (about.told failed complained).imp_right fun objected => ?_
      obtain ⟨before, start, objected⟩ := objected
      exact ⟨before, start, .inl objected⟩
    · rw [troubles_append]
      refine ((aboutNext value).told others complained).imp (List.mem_append_right _) ?_
      intro objected
      obtain ⟨before, start, objected⟩ := objected
      exact ⟨first ++ before, (List.prefix_append_right_inj first).mpr start,
        .inr ⟨first, before, value, rfl, done, objected⟩⟩
  troubled path trouble := by
    rcases Attempt.path_bind_iff.mp path with
      ⟨failure, failed, rfl⟩ | ⟨first, rest, value, rfl, done, others⟩
    · exact about.troubled failed trouble
    · rw [troubles_append, List.mem_append] at trouble
      cases trouble with
      | inl early => exact absurd (about.troubled done early) mem_complaint_ok
      | inr late => exact (aboutNext value).troubled others late
  objected path objected same := by
    cases objected with
    | inl objected =>
        rcases Attempt.path_bind_iff.mp path with
          ⟨failure, failed, rfl⟩ | ⟨first, rest, value, rfl, done, others⟩
        · exact about.objected failed objected same
        · rw [List.append_assoc] at same
          exact absurd (about.objected done objected same) mem_complaint_ok
    | inr later =>
        obtain ⟨first, rest, value, rfl, done, objected⟩ := later
        rw [List.append_assoc] at same
        obtain ⟨between, rfl, same, others⟩ := Attempt.path_of_append path done same
        exact (aboutNext value).objected others objected same

theorem bind_candid {next : α → Attempt β} (about : attempt.IsCandidAbout objections)
    (candidNext : ∀ value, (next value).IsCandid) :
    (attempt >>= next).IsCandidAbout objections := by
  apply (about.bind fun value => (candidNext value).about).congr
  intro before text
  refine or_iff_left fun later => ?_
  obtain ⟨_, _, _, -, -, impossible⟩ := later
  exact impossible

theorem orAbandon (about : attempt.IsCandidAbout objections) :
    (orAbandon attempt).IsCandidAbout objections where
  told path complained := by
    rcases Attempt.path_orAbandon_iff.mp path with
      ⟨value, ended, rfl⟩ | ⟨failure, first, rfl, failed, rfl⟩
    · exact absurd complained mem_complaint_ok
    · rw [troubles_append]
      refine (about.told failed complained).imp (List.mem_append_left _) fun objected => ?_
      obtain ⟨before, start, objected⟩ := objected
      exact ⟨before, start.trans (List.prefix_append first _), objected⟩
  troubled path trouble := by
    rcases Attempt.path_orAbandon_iff.mp path with
      ⟨value, ended, rfl⟩ | ⟨failure, first, rfl, failed, rfl⟩
    · exact about.troubled ended trouble
    · rw [troubles_append, List.mem_append] at trouble
      exact about.troubled failed (trouble.resolve_right List.not_mem_nil)
  objected path objected same := by
    rcases Attempt.path_orAbandon_iff.mp path with
      ⟨value, ended, rfl⟩ | ⟨failure, first, rfl, failed, rfl⟩
    · exact about.objected ended objected same
    · rw [List.append_assoc] at same
      exact about.objected failed objected same

end Attempt.IsCandidAbout

theorem Attempt.IsCandid.bind_about {α β : Type} {attempt : Attempt α} {next : α → Attempt β}
    {objections : α → Objections} (candid : attempt.IsCandid)
    (aboutNext : ∀ value, (next value).IsCandidAbout (objections value)) :
    (attempt >>= next).IsCandidAbout (.after attempt objections) :=
  (candid.about.bind aboutNext).congr fun _ _ => or_iff_right id

/-! ## Sessions -/

/-- The settings for a session are objected to, once the credentials for them were fetched. -/
def ClusterConnection.objections (connection : ClusterConnection) (database : Option String) :
    Objections :=
  .after
    (fetchCredentials (fun fault => .session (.secret fault)) connection.declaration.adminSecret
      connection.metadata.namespaceOrEmpty)
    fun credentials =>
      .of (fun defect => (SessionFault.ofParameters defect).message)
        (ConnectionSettings.ofDeclaration connection.declaration database
          (credentials.username.getD ConnectionSettings.standardUser) credentials.password)

theorem openSession_isCandidAbout (connection : ClusterConnection) (database : Option String) :
    (connection.openSession database).IsCandidAbout (connection.objections database) := by
  apply (fetchCredentials_isCandid _ _ fun _ => rfl).bind_about
  intro credentials
  have settings : (connection.settings database credentials).IsCandidAbout _ := .ofExcept _ _
  apply settings.bind_candid
  intro settings
  apply (fetchAnchors_isCandid settings.trust).bind
  intro anchors
  apply Attempt.IsCandid.bind
  · exact .ask (.connect settings anchors) (fun answer => answer) fun _ => rfl
  intro _ interactions result path
  -- What the server says is its version is of use only if a version is read from it.
  obtain ⟨answer, rest, rfl, ways⟩ := Attempt.path_ask_bind path
  rw [troubles_cons]
  rcases ways with ⟨fault, rfl, rfl, rfl⟩ | ⟨number, rfl, others⟩
  · rfl
  · show complaint result =
      (if (majorVersion? number).isSome then none
        else some (SessionFault.unexpectedVersion number).message).toList ++ troubles rest
    cases read : majorVersion? number with
    | none =>
        rw [read] at others
        obtain ⟨rfl, rfl⟩ := Attempt.path_throw_iff.mp others
        rfl
    | some version =>
        rw [read] at others
        obtain ⟨rfl, rfl⟩ := Attempt.path_pure_iff.mp others
        rfl

/-! ## Converging -/

/-- No plan can be made of what is seen in a transaction. -/
def planObjections {α : Type} (observe : Attempt α) (make : α → Except Rejection Plan) :
    Objections :=
  .after (Attempt.ask .ofDatabase (Program.ask .begin)) fun _ =>
    .after observe fun seen => .of Rejection.message (make seen)

theorem settlePlan_isCandidAbout {α : Type} {observe : Attempt α}
    (make : α → Except Rejection Plan) (candid : observe.IsCandid) :
    Attempt.IsCandidAbout (planObjections observe make)
      (inTransaction do
        let seen ← observe
        let plan ← planOrFail (make seen)
        plan.settle) := by
  apply Attempt.IsCandidAbout.bind_candid
  · apply Attempt.IsCandidAbout.orAbandon
    apply Attempt.IsCandid.bind_about
    · exact .ask .begin (fun answer => answer) fun _ => rfl
    intro _
    apply candid.bind_about
    intro seen
    have planned : (planOrFail (make seen)).IsCandidAbout _ := .ofExcept _ _
    exact planned.bind_candid fun plan => plan.settle_isCandid
  · intro ended
    apply ended.1.carryOut_isCandid.bind
    exact fun _ => .pure ended.2

namespace ManagedResource

/-- What a resource declares is objected to in a session: no plan can be made for it. Whoever owns
a database or a schema is a matter of commands alone. -/
def objections (resource : ManagedResource) (session : Session) : Objections :=
  match resource.declaration with
  | .database _ | .schema _ => .none
  | .role declaration =>
      .after (declaration.fetchPassword resource.metadata.namespaceOrEmpty) fun password =>
        planObjections (observeRole declaration.name) (declaration.plan password)
  | .grant declaration =>
      planObjections declaration.observe
        (declaration.plan resource.metadata.qualifiedName session.serverVersion)
  | .defaultPrivilege declaration =>
      planObjections declaration.observe
        (declaration.plan resource.metadata.qualifiedName session.serverVersion)

theorem converge_isCandidAbout (resource : ManagedResource) (session : Session) :
    (resource.converge session).IsCandidAbout (resource.objections session) := by
  unfold converge objections
  cases resource.declaration with
  | database declaration =>
      apply Attempt.IsCandid.about
      apply Attempt.IsCandid.bind
      · exact Query.rows_isCandid nofun
      intro owner
      apply (executeAll_isCandid _).bind
      exact fun _ => .pure _
  | schema declaration =>
      apply Attempt.IsCandid.about
      apply inTransaction_isCandid
      apply Attempt.IsCandid.bind
      · exact Query.rows_isCandid nofun
      exact fun owner => Plan.settle_isCandid _
  | role declaration =>
      apply (declaration.fetchPassword_isCandid _).bind_about
      exact fun password => settlePlan_isCandidAbout _ (observeRole_isCandid _)
  | grant declaration => exact settlePlan_isCandidAbout _ declaration.observe_isCandid
  | defaultPrivilege declaration => exact settlePlan_isCandidAbout _ declaration.observe_isCandid

end ManagedResource

end CatalogSteward
