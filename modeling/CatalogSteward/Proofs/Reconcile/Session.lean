import CatalogSteward.Proofs.Server.World
import CatalogSteward.Reconcile.Managed

/-!
# Opening a session once more

Connections, secrets and files stay as they are, and what is made of them does
too. A session that was opened once is opened again where the database is still
there.
-/

set_option autoImplicit false

namespace CatalogSteward

variable {environment : Environment} {α β Fault : Type} {blame : Fault → Failure}

/-- An attempt that leaves the world alone and finds in a reliable world whatever it once found. -/
def Attempt.IsFixed (environment : Environment) (attempt : Attempt α) : Prop :=
  ∀ world : World,
    attempt.Meets environment.unreliable world fun value after =>
      after = world ∧
        ∀ again : World,
          attempt.Meets environment.reliable again fun other last =>
            other = value ∧ last = again

namespace Attempt.IsFixed

theorem pure (value : α) : IsFixed environment (Pure.pure value) :=
  fun _ => Attempt.Meets.pure ⟨rfl, fun _ => Attempt.Meets.pure ⟨rfl, rfl⟩⟩

theorem throw (failure : Failure) :
    IsFixed environment (MonadExcept.throw failure : Attempt α) :=
  fun _ => Attempt.Meets.throw trivial

theorem ofExcept (result : Except Fault α) :
    IsFixed environment (Attempt.ofExcept blame result) := by
  cases result with
  | ok value => exact pure value
  | error fault => exact throw (blame fault)

theorem bind {attempt : Attempt α} {next : α → Attempt β}
    (fixed : attempt.IsFixed environment) (fixedNext : ∀ value, (next value).IsFixed environment) :
    (attempt >>= next).IsFixed environment := by
  intro world
  apply Attempt.Meets.bind
  apply (fixed world).imp
  rintro value after ⟨rfl, same⟩
  apply (fixedNext value after).imp
  rintro result last ⟨rfl, sameNext⟩
  refine ⟨rfl, fun again => ?_⟩
  apply Attempt.Meets.bind
  apply (same again).imp
  rintro other last ⟨rfl, rfl⟩
  exact sameNext last

theorem ask (request : Request) (read : request.Answer → Except Fault α)
    (given : request.Answer) (noWrite : request.isWrite = false)
    (refused : ∀ answer, request.IsRefused answer → ∃ fault, read answer = .error fault)
    (served : ∀ before answer after,
      request.IsServed environment before answer after ↔ answer = given ∧ after = before) :
    IsFixed environment
      (ExceptT.mk ((fun answer => (read answer).mapError blame) <$> Program.ask request)) := by
  intro world
  apply Attempt.Meets.ask_served environment.unreliable_serves request read trivial refused
  intro answer after isServed
  obtain ⟨rfl, rfl⟩ := (served world answer after).mp isServed
  cases found : read answer with
  | error fault => exact trivial
  | ok value =>
      refine ⟨rfl, fun again => ?_⟩
      apply Attempt.Meets.ask_served environment.reliable_serves request read
      · exact ⟨noWrite, answer, again, (served again answer again).mpr ⟨rfl, rfl⟩⟩
      · exact refused
      · intro other last isServed
        obtain ⟨rfl, rfl⟩ := (served again other last).mp isServed
        rw [found]
        exact ⟨rfl, rfl⟩

end Attempt.IsFixed

theorem findReadyConnection_isFixed (cluster : Reference) (ownNamespace : String) :
    (findReadyConnection cluster ownNamespace).IsFixed environment := by
  apply Attempt.IsFixed.bind
  · apply Attempt.IsFixed.ask
      (.findConnection (cluster.namespaceFrom ownNamespace) cluster.name) fun answer => answer
    · rfl
    · exact Request.exists_fault fun _ => id
    · exact fun _ _ _ => Iff.rfl
  · exact fun found => .pure _

theorem fetchCredentials_isFixed (blame : SecretFault → Failure) (secret : Reference)
    (ownNamespace : String) :
    (fetchCredentials blame secret ownNamespace).IsFixed environment := by
  apply Attempt.IsFixed.bind
  · apply Attempt.IsFixed.ask (.findSecret (secret.namespaceFrom ownNamespace) secret.name)
      fun answer => answer
    · rfl
    · exact Request.exists_fault fun _ => id
    · exact fun _ _ _ => Iff.rfl
  · intro found
    cases found with
    | none => exact .throw _
    | some secret => exact .ofExcept _

theorem fetchAnchors_isFixed (trust : Trust) : (fetchAnchors trust).IsFixed environment := by
  cases trust with
  | plain | unverified => exact .pure []
  | verified path =>
      apply Attempt.IsFixed.bind
      · apply Attempt.IsFixed.ask (.readFile path) fun answer => answer
        · rfl
        · exact Request.exists_fault fun _ => id
        · exact fun _ _ _ => Iff.rfl
      · exact fun text => .ofExcept _

theorem RoleDeclaration.fetchPassword_meets (declaration : RoleDeclaration)
    (ownNamespace : String) (world : World) :
    (declaration.fetchPassword ownNamespace).Meets environment.unreliable world
      fun password after =>
        password.isSome = declaration.login ∧ after = world ∧
          ∀ again : World,
            (declaration.fetchPassword ownNamespace).Meets environment.reliable again
              fun other last => other = password ∧ last = again := by
  rw [fetchPassword, login]
  cases declaration.passwordSecret with
  | none => exact Attempt.Meets.pure ⟨rfl, rfl, fun _ => Attempt.Meets.pure ⟨rfl, rfl⟩⟩
  | some secret =>
      apply Attempt.Meets.bind
      apply (fetchCredentials_isFixed .secret secret ownNamespace world).imp
      rintro credentials after ⟨rfl, same⟩
      refine Attempt.Meets.pure ⟨rfl, rfl, fun again => ?_⟩
      apply Attempt.Meets.bind
      apply (same again).imp
      rintro other last ⟨rfl, rfl⟩
      exact Attempt.Meets.pure ⟨rfl, rfl⟩

theorem ClusterConnection.settings_isFixed (connection : ClusterConnection)
    (database : Option String) (credentials : Credentials) :
    (connection.settings database credentials).IsFixed environment :=
  .ofExcept _

private def askVersion : Attempt Session := do
  let number : String ← Query.versionNumber.rows
  match majorVersion? number with
  | some version => pure ⟨version⟩
  | none => throw (.session (.unexpectedVersion number))

private theorem askVersion_meets (world : World) (home user : String) :
    askVersion.Meets environment.unreliable (world.connected home user) fun session after =>
      after = world.connected home user ∧
        ∀ again : World, again.server.version = world.server.version →
          askVersion.Meets environment.reliable (again.connected home user) fun other last =>
            other = session ∧ last = again.connected home user := by
  have looks := @Attempt.Observes.rows environment home .versionNumber
  apply Attempt.Meets.bind
  apply looks.unreliable rfl rfl
  intro number isNumber
  cases major : majorVersion? number with
  | none => exact trivial
  | some version =>
      refine Attempt.Meets.pure ⟨rfl, fun again same => ?_⟩
      apply Attempt.Meets.bind
      apply looks.reliable rfl rfl
      · exact ⟨again.server.version, rfl⟩
      · intro other isOther
        have unchanged : other = number := isOther.trans (same.trans isNumber.symm)
        subst unchanged
        rw [major]
        exact Attempt.Meets.pure ⟨rfl, rfl⟩

/-- A session that was opened is opened again, to the same database and as the same user, where
that database is there and the server has the same version. -/
theorem ClusterConnection.openSession_meets (connection : ClusterConnection)
    (database : Option String) (world : World) :
    (connection.openSession database).Meets environment.unreliable world fun session after =>
      ∃ home user, after = world.connected home user ∧ (world.server.databases home).isSome ∧
        ∀ again : World, again.server.version = world.server.version →
          (again.server.databases home).isSome →
            (connection.openSession database).Meets environment.reliable again
              fun other last => other = session ∧ last = again.connected home user := by
  apply Attempt.Meets.bind
  apply (fetchCredentials_isFixed _ _ _ world).imp
  rintro credentials after ⟨rfl, sameCredentials⟩
  apply Attempt.Meets.bind
  apply (connection.settings_isFixed database credentials after).imp
  rintro settings after ⟨rfl, sameSettings⟩
  apply Attempt.Meets.bind
  apply (fetchAnchors_isFixed settings.trust after).imp
  rintro anchors after ⟨rfl, sameAnchors⟩
  apply Attempt.Meets.bind
  apply Attempt.Meets.ask_served environment.unreliable_serves (.connect settings anchors)
    fun answer => answer
  · trivial
  · exact Request.exists_fault fun _ => id
  rintro answer _ ⟨there, rfl, rfl⟩
  apply (askVersion_meets after settings.database settings.user).imp
  rintro session _ ⟨rfl, sameVersion⟩
  refine ⟨settings.database, settings.user, rfl, there, fun again version thereAgain => ?_⟩
  apply Attempt.Meets.bind
  apply (sameCredentials again).imp
  rintro _ _ ⟨rfl, rfl⟩
  apply Attempt.Meets.bind
  apply (sameSettings _).imp
  rintro _ _ ⟨rfl, rfl⟩
  apply Attempt.Meets.bind
  apply (sameAnchors _).imp
  rintro _ _ ⟨rfl, rfl⟩
  apply Attempt.Meets.bind
  apply Attempt.Meets.ask_served environment.reliable_serves (.connect _ _) fun answer => answer
  · exact ⟨rfl, _, _, thereAgain, rfl, rfl⟩
  · exact Request.exists_fault fun _ => id
  rintro answer _ ⟨-, rfl, rfl⟩
  exact sameVersion _ version

end CatalogSteward
