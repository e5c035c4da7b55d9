import CatalogSteward.Proofs.Catalog.Answer
import CatalogSteward.Proofs.Program

/-!
# The world of a reconciler

A cluster that keeps statuses and one server with at most one session. Nothing
but the requests of the program changes either of them. A world may also refuse
a request, and nothing is known of what it is then; one that is reliable never
does.
-/

set_option autoImplicit false

namespace CatalogSteward

open Sql

/-- What is read and never changed: connections, secrets and files. -/
structure Environment where
  connection : String → String → Option ClusterConnection
  secret : String → String → Option Secret
  file : String → Except String String

/-- An open session: its database and its user, and what its transaction has made of the server,
where it is in one. -/
structure ServerSession where
  database : String
  user : String
  work : Option ServerState

/-- The statuses that are stored, what the server keeps, and the session that was opened last. -/
structure World where
  statuses : Target → Option Status
  server : ServerState
  session : Option ServerSession

namespace World

/-- What the session sees of the server: its own work, if it is in a transaction. -/
def state (world : World) : ServerState :=
  (world.session.bind ServerSession.work).getD world.server

def withWork (world : World) (work : Option ServerState) : World :=
  { world with session := world.session.map fun session => { session with work := work } }

def withState (world : World) (state : ServerState) : World :=
  if (world.session.bind ServerSession.work).isSome then world.withWork (some state)
  else { world with server := state }

def connected (world : World) (database user : String) : World :=
  { world with session := some ⟨database, user, none⟩ }

def working (world : World) (database user : String) (state : ServerState) : World :=
  { world with session := some ⟨database, user, some state⟩ }

def withStatus (world : World) (target : Target) (status : Status) : World :=
  { world with
    statuses := fun other => if other = target then some status else world.statuses other }

variable {world : World} {database user : String} {state other : ServerState}

@[simp] theorem state_connected : (world.connected database user).state = world.server := rfl

@[simp] theorem state_working : (world.working database user state).state = state := rfl

variable {session : ServerSession}

/-- What the session sees was replaced, and the session is still that of the same user in the
same database. -/
theorem session_withState (opened : world.session = some session) :
    ∃ next, (world.withState state).session = some next ∧
      next.database = session.database ∧ next.user = session.user := by
  obtain ⟨statuses, server, _⟩ := world
  cases opened
  obtain ⟨database, user, work⟩ := session
  cases work with
  | none => exact ⟨_, rfl, rfl, rfl⟩
  | some work => exact ⟨_, rfl, rfl, rfl⟩

theorem state_withState : (world.withState state).state = state := by
  obtain ⟨statuses, server, session⟩ := world
  rcases session with _ | ⟨database, user, _ | work⟩ <;> rfl

theorem withState_withState : (world.withState state).withState other = world.withState other := by
  obtain ⟨statuses, server, session⟩ := world
  rcases session with _ | ⟨database, user, _ | work⟩ <;> rfl

theorem withState_self : world.withState world.state = world := by
  obtain ⟨statuses, server, session⟩ := world
  rcases session with _ | ⟨database, user, _ | work⟩ <;> rfl

end World

namespace Request

/-- The answer is what the request asks for, and it makes of the world what the request says. -/
def IsServed (environment : Environment) (before : World) :
    (request : Request) → request.Answer → World → Prop
  | .now, _, after => after = before
  | .findConnection inNamespace name, answer, after =>
      answer = Except.ok (environment.connection inNamespace name) ∧ after = before
  | .findSecret inNamespace name, answer, after =>
      answer = Except.ok (environment.secret inNamespace name) ∧ after = before
  | .writeStatus target status, answer, after =>
      answer = Except.ok () ∧ after = before.withStatus target status
  | .writeFinalizers _ _ _, answer, after => answer = Except.ok () ∧ after = before
  | .readFile path, answer, after => answer = environment.file path ∧ after = before
  | .connect settings _, answer, after =>
      (before.server.databases settings.database).isSome ∧ answer = Except.ok () ∧
        after = before.connected settings.database settings.user
  | .query question, answer, after =>
      ∃ session rows, before.session = some session ∧
        question.IsAnswered before.state session.database rows ∧ answer = Except.ok rows ∧
          after = before
  | .execute command, answer, after =>
      ∃ session state, before.session = some session ∧
        command.Executes session.database session.user before.state state ∧
          answer = Except.ok () ∧ after = before.withState state
  | .begin, answer, after => answer = Except.ok () ∧ after = before.withWork (some before.state)
  | .commit, answer, after =>
      answer = Except.ok () ∧ after = { before with server := before.state }.withWork none
  | .rollback, answer, after => answer = Except.ok () ∧ after = before.withWork none
  | .abandon, _, after => after = before.withWork none
  | .count _ _, _, after => after = before

def IsRefused : (request : Request) → request.Answer → Prop
  | .findConnection _ _, .error _ | .findSecret _ _, .error _ => True
  | .writeStatus _ _, .error _ | .writeFinalizers _ _ _, .error _ => True
  | .readFile _, .error _ => True
  | .connect _ _, .error _ | .query _, .error _ | .execute _, .error _ => True
  | .begin, .error _ | .commit, .error _ | .rollback, .error _ => True
  | _, _ => False

/-- Whether a request changes the server or a resource. -/
def isWrite : Request → Bool
  | .execute _ | .writeStatus _ _ | .writeFinalizers _ _ _ => true
  | _ => false

end Request

namespace Environment

/-- A world that serves requests or refuses them; a program may fail there. -/
def unreliable (environment : Environment) : Regime World where
  answers before request answer after :=
    request.IsServed environment before answer after ∨ request.IsRefused answer
  admits _ _ := True
  mayFail := True

/-- A world that serves every request. A program makes none there that cannot be served, it
changes neither the server nor a resource, and it does not fail. -/
def reliable (environment : Environment) : Regime World where
  answers before request answer after := request.IsServed environment before answer after
  admits before request :=
    request.isWrite = false ∧
      ∃ answer after, request.IsServed environment before answer after
  mayFail := False

/-- A world that serves every request. A program makes none there that cannot be served, and it
does not fail. -/
def able (environment : Environment) : Regime World where
  answers before request answer after := request.IsServed environment before answer after
  admits before request := ∃ answer after, request.IsServed environment before answer after
  mayFail := False

/-- A world that serves a request if it can and refuses it otherwise, as it does where a question
casts the name of a role or a schema that is not there. A program does not fail there. -/
def exact (environment : Environment) : Regime World where
  answers before request answer after :=
    request.IsServed environment before answer after ∨
      (¬∃ answer after, request.IsServed environment before answer after) ∧
        request.IsRefused answer
  admits _ _ := True
  mayFail := False

theorem reliable_covers_able (environment : Environment) :
    environment.reliable.Covers environment.able :=
  ⟨fun admitted => admitted.2, fun _ answered => answered, id⟩

/-- A program that makes no request that cannot be served is refused none. -/
theorem able_covers_exact (environment : Environment) :
    environment.able.Covers environment.exact where
  admits := fun _ => trivial
  answers := by
    intro world request answer after served answered
    cases answered with
    | inl isServed => exact isServed
    | inr refused => exact absurd served refused.1
  mayFail := id

end Environment

/-! ## Requests of attempts -/

/-- A world of an environment serves requests, or refuses them where programs may fail; and what
is no write and can be served may be asked for. -/
structure Regime.Serves (regime : Regime World) (environment : Environment) : Prop where
  answers : ∀ {before : World} {request : Request} {answer : request.Answer} {after : World},
    regime.answers before request answer after →
      request.IsServed environment before answer after ∨
        request.IsRefused answer ∧ regime.mayFail
  admits : ∀ {before : World} {request : Request}, request.isWrite = false →
    (∃ answer after, request.IsServed environment before answer after) →
      regime.admits before request

theorem Environment.unreliable_serves (environment : Environment) :
    environment.unreliable.Serves environment :=
  ⟨fun answered => answered.imp_right (⟨·, trivial⟩), fun _ _ => trivial⟩

theorem Environment.reliable_serves (environment : Environment) :
    environment.reliable.Serves environment :=
  ⟨fun answered => .inl answered, fun noWrite served => ⟨noWrite, served⟩⟩

theorem Environment.able_serves (environment : Environment) :
    environment.able.Serves environment :=
  ⟨fun answered => .inl answered, fun _ served => served⟩

theorem Request.exists_fault {α Fault : Type} {isRefused : Except Fault α → Prop}
    (noValue : ∀ value, ¬ isRefused (.ok value)) (answer : Except Fault α)
    (refused : isRefused answer) : ∃ fault, answer = .error fault := by
  cases answer with
  | ok value => exact absurd refused (noValue value)
  | error fault => exact ⟨fault, rfl⟩

/-- An attempt that makes a request has to be right about every answer that serves it. -/
theorem Attempt.Meets.ask_served {environment : Environment} {regime : Regime World}
    {world : World} {α Fault : Type} {blame : Fault → Failure} {post : α → World → Prop}
    (serves : regime.Serves environment) (request : Request)
    (read : request.Answer → Except Fault α) (admitted : regime.admits world request)
    (refused : ∀ answer, request.IsRefused answer → ∃ fault, read answer = .error fault)
    (served : ∀ answer after, request.IsServed environment world answer after →
      regime.Allows post (read answer) after) :
    Attempt.Meets regime
      (ExceptT.mk ((fun answer => (read answer).mapError blame) <$> Program.ask request))
      world post := by
  apply Program.Meets.map
  refine ⟨admitted, ?_⟩
  intro answer after answered
  apply Regime.allows_mapError.mpr
  rcases serves.answers answered with isServed | ⟨isRefused, mayFail⟩
  · exact served answer after isServed
  · obtain ⟨fault, result⟩ := refused answer isRefused
    rw [result]
    exact mayFail

/-! ## Observations -/

/-- An attempt that only looks: it finds what `sees` says of the state that its session sees, and
it finds something in a reliable world if there is anything to find. -/
structure Attempt.Observes {α : Type} (environment : Environment) (database : String)
    (attempt : Attempt α) (sees : ServerState → α → Prop) : Prop where
  unreliable : ∀ {world : World} {session : ServerSession} {post : α → World → Prop},
    world.session = some session → session.database = database →
      (∀ seen, sees world.state seen → post seen world) →
        attempt.Meets environment.unreliable world post
  reliable : ∀ {world : World} {session : ServerSession} {post : α → World → Prop},
    world.session = some session → session.database = database →
      (∃ seen, sees world.state seen) →
        (∀ seen, sees world.state seen → post seen world) →
          attempt.Meets environment.reliable world post

namespace Attempt.Observes

variable {environment : Environment} {database : String} {α β : Type}

theorem rows (query : Query) :
    Observes environment database query.rows fun state => query.IsAnswered state database where
  unreliable := by
    intro world session post opened here holds
    apply Attempt.Meets.ask_served environment.unreliable_serves (.query query) fun answer =>
      answer
    · trivial
    · exact Request.exists_fault fun _ => id
    · rintro answer after ⟨at_, found, same, answered, rfl, rfl⟩
      cases opened.symm.trans same
      exact holds found (here ▸ answered)
  reliable := by
    intro world session post opened here visible holds
    apply Attempt.Meets.ask_served environment.reliable_serves (.query query) fun answer => answer
    · obtain ⟨found, answered⟩ := visible
      exact ⟨rfl, _, world, session, found, opened, here ▸ answered, rfl, rfl⟩
    · exact Request.exists_fault fun _ => id
    · rintro answer after ⟨at_, found, same, answered, rfl, rfl⟩
      cases opened.symm.trans same
      exact holds found (here ▸ answered)

theorem pure (value : α) :
    Observes environment database (Pure.pure value) fun _ seen => seen = value where
  unreliable := fun _ _ holds => Attempt.Meets.pure (holds value rfl)
  reliable := fun _ _ _ holds => Attempt.Meets.pure (holds value rfl)

/-- One look after another finds what both find. That there is something for the second to find
must not depend on what the first one found. -/
theorem bind {first : Attempt α} {next : α → Attempt β} {sees : ServerState → α → Prop}
    {seesNext : α → ServerState → β → Prop} (looks : Observes environment database first sees)
    (looksNext : ∀ value, Observes environment database (next value) (seesNext value))
    (visible : ∀ {state : ServerState} {value other : α}, sees state value → sees state other →
      (∃ seen, seesNext value state seen) → ∃ seen, seesNext other state seen) :
    Observes environment database (first >>= next) fun state seen =>
      ∃ value, sees state value ∧ seesNext value state seen where
  unreliable := by
    intro world session post opened here holds
    apply Attempt.Meets.bind
    apply looks.unreliable opened here
    intro value sees
    apply (looksNext value).unreliable opened here
    intro seen seesNext
    exact holds seen ⟨value, sees, seesNext⟩
  reliable := by
    rintro world session post opened here ⟨found, value, sees, seesNext⟩ holds
    apply Attempt.Meets.bind
    apply looks.reliable opened here ⟨value, sees⟩
    intro other seesOther
    apply (looksNext other).reliable opened here (visible sees seesOther ⟨found, seesNext⟩)
    intro seen seesNext
    exact holds seen ⟨other, seesOther, seesNext⟩

theorem map {attempt : Attempt α} {change : α → β} {sees : ServerState → α → Prop}
    (looks : Observes environment database attempt sees) :
    Observes environment database (change <$> attempt) fun state seen =>
      ∃ value, sees state value ∧ seen = change value := by
  rw [map_eq_pure_bind]
  exact looks.bind (fun value => pure (change value)) fun _ _ _ => ⟨_, rfl⟩

/-- What is found may be said otherwise, if there is nothing to find only where there was not. -/
theorem imp {attempt : Attempt α} {sees shows : ServerState → α → Prop}
    (looks : Observes environment database attempt sees)
    (implied : ∀ {state : ServerState} {seen : α}, sees state seen → shows state seen)
    (visible : ∀ {state : ServerState} {seen : α}, shows state seen → ∃ seen, sees state seen) :
    Observes environment database attempt shows where
  unreliable := fun opened here holds =>
    looks.unreliable opened here fun seen isSeen => holds seen (implied isSeen)
  reliable := fun opened here ⟨_, said⟩ holds =>
    looks.reliable opened here (visible said) fun seen isSeen => holds seen (implied isSeen)

theorem able {attempt : Attempt α} {sees : ServerState → α → Prop} {world : World}
    {session : ServerSession} {post : α → World → Prop}
    (looks : Observes environment database attempt sees) (opened : world.session = some session)
    (here : session.database = database) (visible : ∃ seen, sees world.state seen)
    (holds : ∀ seen, sees world.state seen → post seen world) :
    attempt.Meets environment.able world post :=
  (looks.reliable opened here visible holds).covered environment.reliable_covers_able

end Attempt.Observes

end CatalogSteward
