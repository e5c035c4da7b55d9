import CatalogSteward.Backoff
import CatalogSteward.Json.Printer
import CatalogSteward.Rehearsal.Pass

/-!
# Schedules

Objects are watched and passed over when they are due: at once when they appear
or change, and after each pass when its outcome says. Roles are due at once,
too, when the secret with their password changes. What a pass writes is not
seen by whoever watches, so that each pass is over the object as it was last
sent. Time is counted in milliseconds.
-/

set_option autoImplicit false

namespace CatalogSteward.Rehearsal

/-- An object that is watched, as it was last seen, and when it is due. -/
structure Watched where
  kind : ResourceKind
  place : Place
  object : Json
  due : Option Nat

namespace Watched

def isDueBy (deadline : Nat) (watched : Watched) : Bool :=
  watched.due.any (· ≤ deadline)

def isEarlier (first second : Watched) : Bool :=
  match first.due, second.due with
  | some first, some second => first < second
  | some _, none => true
  | none, _ => false

def earliest? : List Watched → Option Watched
  | [] => none
  | first :: rest =>
      match earliest? rest with
      | some other => some (if other.isEarlier first then other else first)
      | none => some first

def usesSecretAt (place : Place) (watched : Watched) : Bool :=
  watched.kind = .managed .role &&
    (Resource.ofJson? RoleDeclaration.ofJson? watched.object).any fun role =>
      role.usesSecret place.name (some place.inNamespace)

end Watched

/-- The milliseconds from a pass to the next one over the same object, if one is to follow. -/
def delayAfter : Except Failure Requeue → Option Nat
  | .ok (.after seconds) => some (seconds * 1000)
  | .ok .onChange => none
  | .error failure =>
      let delay := Backoff.standard.delayForFailure 0.5 failure 0
      some (delay.seconds * 1000 + delay.nanoseconds / 1000000)

/-- Those who watch the objects of some kinds, in one namespace or in all, and the world that
they watch. -/
structure Watchers where
  kinds : List ResourceKind
  scope : Option String
  ready : Bool
  world : World
  watched : List Watched
  now : Nat

namespace Watchers

def sees (watchers : Watchers) (inNamespace : String) : Bool :=
  watchers.scope.all (· = inNamespace)

def watchedKind? (watchers : Watchers) (place : Place) : Option ResourceKind :=
  match place.kind with
  | .secret => none
  | .resource kind =>
      if watchers.kinds.contains kind && watchers.sees place.inNamespace then some kind
      else none

def watchSecrets (watchers : Watchers) : Bool :=
  watchers.kinds.contains (.managed .role)

def listings (watchers : Watchers) : List Call :=
  let kinds := watchers.kinds.map StoredKind.resource
  let kinds := if watchers.watchSecrets then kinds ++ [.secret] else kinds
  kinds.map fun kind => ⟨.get, kind.collectionPath watchers.scope, none⟩

def pass (watchers : Watchers) (watched : Watched) (time : Nat) : Watchers :=
  let (delay, world) :=
    match watchers.world.reconcile? watched.kind watched.object with
    | some (result, world) => (delayAfter result, world)
    | none => (none, watchers.world)
  { watchers with
    world := world
    watched :=
      watchers.watched.map fun other =>
        if other.place = watched.place then { other with due := delay.map (time + ·) }
        else other }

/-- At most so many of the passes that are due by a time. -/
def passes (deadline : Nat) : Nat → Watchers → Watchers
  | 0, watchers => watchers
  | count + 1, watchers =>
      match Watched.earliest? (watchers.watched.filter (Watched.isDueBy deadline)) with
      | none => watchers
      | some watched =>
          passes deadline count (watchers.pass watched (watched.due.getD watchers.now))

/-- Time goes on, with all passes that are due meanwhile. As each pass puts off its object by at
least a millisecond, no more can be due than there are objects and milliseconds. -/
def elapse (milliseconds : Nat) (watchers : Watchers) : Watchers :=
  let deadline := watchers.now + milliseconds
  let count := watchers.watched.length * (milliseconds + 1)
  { watchers.passes deadline count with now := deadline }

def appear (watchers : Watchers) (place : Place) (object : Json) : Watchers :=
  let cluster := watchers.world.cluster.insert place object
  let watched :=
    match watchers.watchedKind? place with
    | none => watchers.watched
    | some kind =>
        watchers.watched.filter (fun other => other.place ≠ place) ++
          [⟨kind, place, object, some watchers.now⟩]
  { watchers with
    world := { watchers.world with cluster := cluster }
    watched := watched }

def vanish (watchers : Watchers) (place : Place) : Watchers :=
  let cluster := watchers.world.cluster.erase place
  { watchers with
    world := { watchers.world with cluster := cluster }
    watched := watchers.watched.filter fun other => other.place ≠ place }

/-- Something happens to the object at a place; if it is a secret that is watched, the roles
that use it are due. -/
def notice (watchers : Watchers) (place : Place) : Watchers :=
  if place.kind = .secret && watchers.watchSecrets && watchers.sees place.inNamespace then
    { watchers with
      watched :=
        watchers.watched.map fun watched =>
          if watched.usesSecretAt place then { watched with due := some watchers.now }
          else watched }
  else
    watchers

end Watchers

/-- Something that happens while objects are watched. -/
inductive Happening where
  | appears (place : Place) (object : Json)
  | vanishes (place : Place)
  | time (milliseconds : Nat)
  | refuse (rules : List RefusalRule)

namespace Happening

def ofJson? (value : Json) : Option Happening := do
  match ← (value.get "do").string? with
  | "event" =>
      let object := value.get "object"
      let place ← Place.ofObject? object
      match ← (value.get "type").string? with
      | "ADDED" => pure (.appears place object)
      | "MODIFIED" => pure (.appears place object)
      | "DELETED" => pure (.vanishes place)
      | _ => none
  | "advance" =>
      let milliseconds ← (value.get "millis").integerIn? 0 18446744073709551615
      pure (.time milliseconds.toNat)
  | "api_fail" => pure (.refuse (← Json.list? RefusalRule.ofJson? (value.get "rules")))
  | _ => none

def duration : Happening → Nat
  | .time milliseconds => milliseconds
  | _ => 100

end Happening

/-- The object with the resource version that the cluster gives to what happens in a step. -/
def stamped (number : Nat) (object : Json) : Json :=
  object.mergePatch
    (.object
      [("metadata", .object [("resourceVersion", .string (toString (number + 1)))])])

namespace Watchers

def witness (watchers : Watchers) (number : Nat) : Happening → Watchers
  | .appears place object => (watchers.appear place (stamped number object)).notice place
  | .vanishes place => (watchers.vanish place).notice place
  | .time _ => watchers
  | .refuse rules =>
      { watchers with
        world :=
          { watchers.world with cluster := { watchers.world.cluster with rules := rules } } }

/-- The watchers with another clock and nothing in the records of their world. -/
def atStep (watchers : Watchers) (number : Nat) : Watchers :=
  { watchers with world := watchers.world.atTime (stepLabel number) }

def live (watchers : Watchers) (number : Nat) (happening : Happening) : Watchers :=
  ((watchers.atStep number).witness number happening).elapse happening.duration

/-- The watchers before anything happens. Connections are passed over after what refers to
them. -/
def opening (kinds : List ResourceKind) (scope : Option String) (ready : Bool)
    (cluster : Cluster) : Watchers :=
  let world : World := ⟨.labelled "", cluster, ⟨none, []⟩, [], none⟩
  let watchers : Watchers := ⟨kinds, scope, ready, world, [], 0⟩
  let watched :=
    cluster.objects.filterMap fun entry =>
      (watchers.watchedKind? entry.1).map fun kind => ⟨kind, entry.1, entry.2, some 0⟩
  let (connections, others) := watched.partition fun watched => watched.kind = .connection
  { watchers with watched := others ++ connections }

end Watchers

/-- What those who watch did in a step: the calls that they made, each once and in order, and
whether they were ready. -/
structure StepReport where
  calls : List Call
  ready : Bool

/-- The order of calls: by path, by verb, and by what is sent. -/
def compareCalls (first second : Call) : Ordering :=
  let body (call : Call) : String := (call.body.map Json.text).getD ""
  (compare first.path second.path).then
    ((compare first.verb.name second.verb.name).then (compare (body first) (body second)))

/-- A list without the calls that equal the one before them. -/
def withoutRepeats : List Call → List Call
  | [] => []
  | [call] => [call]
  | first :: second :: rest =>
      if compareCalls first second = .eq then withoutRepeats (second :: rest)
      else first :: withoutRepeats (second :: rest)

def distinctCalls (calls : List Call) : List Call :=
  withoutRepeats (calls.mergeSort fun first second => (compareCalls first second).isLE)

namespace Watchers

def report (watchers : Watchers) (besides : List Call) : StepReport :=
  ⟨distinctCalls (besides ++ watchers.world.calls), watchers.ready⟩

def reports (watchers : Watchers) (number : Nat) : List Happening → List StepReport
  | [] => []
  | happening :: rest =>
      let next := watchers.live number happening
      next.report [] :: next.reports (number + 1) rest

end Watchers

def watchedKinds? (name : String) : Option (List ResourceKind) :=
  if name = "all" then some ResourceKind.all
  else (ResourceKind.ofName? name).map fun kind => [kind]

/-- The reports of a schedule: of its start, and of every step. -/
def playSchedule? (schedule : Json) : Option (List StepReport) := do
  let name ← (schedule.get "kind").string?
  let kinds ← watchedKinds? name
  let scope ← Json.option? Json.string? (schedule.get "namespace")
  let objects ← (schedule.get "objects").array?
  let cluster ← objects.foldlM Cluster.put? Cluster.empty
  let happenings ← Json.list? Happening.ofJson? (schedule.get "steps")
  let opening := Watchers.opening kinds scope (name = "all") cluster
  let started := (opening.atStep 0).elapse 100
  pure (started.report opening.listings :: started.reports 1 happenings)

end CatalogSteward.Rehearsal
