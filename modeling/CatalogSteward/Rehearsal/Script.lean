import CatalogSteward.Rehearsal.Pass

/-!
# Scripts

A script is a list of steps that are made in a world in memory one after the
other: passes over objects, and changes of what the world answers. A step that
cannot be made changes nothing.
-/

set_option autoImplicit false

namespace CatalogSteward.Rehearsal

/-- A step of a script. A server is given as a value, so that it can be patched. -/
inductive Step where
  | reconcile (kind : ResourceKind) (place : Place)
  | put (place : Place) (object : Json)
  | merge (place : Place) (patch : Json)
  | remove (place : Place)
  | replaceServer (server : Json)
  | mergeServer (patch : Json)
  | refuse (rules : List RefusalRule)

inductive StepResult where
  | nothing
  | merged (object : Json)
  | removed (wasThere : Bool)
  | reconciled (result : Except Failure Requeue) (calls : List Call)
      (exchanges : List Exchange)
  | absent
  | unreadable
  | impossible

def Step.ofJson? (value : Json) : Option Step := do
  match ← (value.get "do").string? with
  | "reconcile" =>
      let place ← Place.ofJson? value
      match place.kind with
      | .resource kind => pure (.reconcile kind place)
      | .secret => none
  | "put" =>
      let object := value.get "object"
      pure (.put (← Place.ofObject? object) object)
  | "merge" => pure (.merge (← Place.ofJson? value) (value.get "patch"))
  | "remove" => pure (.remove (← Place.ofJson? value))
  | "server" => pure (.replaceServer (value.get "server"))
  | "server_merge" => pure (.mergeServer (value.get "patch"))
  | "api_fail" => pure (.refuse (← Json.list? RefusalRule.ofJson? (value.get "rules")))
  | _ => none

/-- Where a script stands: the world, and the server as a value, which is out of reach
altogether in some scripts. -/
structure Stage where
  world : World
  server : Json
  reachable : Bool

namespace Stage

def withCluster (stage : Stage) (cluster : Cluster) : Stage :=
  { stage with world := { stage.world with cluster := cluster } }

def withServer? (stage : Stage) (server : Json) : Option Stage :=
  if stage.reachable then
    (Json.option? Server.ofJson? server).map fun decoded =>
      { stage with
        server := server
        world := { stage.world with station := ⟨decoded, []⟩ } }
  else
    some stage

def changeServer (stage : Stage) (server : Json) : StepResult × Stage :=
  match stage.withServer? server with
  | some next => (.nothing, next)
  | none => (.impossible, stage)

def reconcile (stage : Stage) (kind : ResourceKind) (place : Place) : StepResult × Stage :=
  match stage.world.cluster.find? place with
  | none => (.absent, stage)
  | some object =>
      match stage.world.reconcile? kind object with
      | none => (.unreadable, stage)
      | some (result, world) =>
          (.reconciled result world.calls world.exchanges, { stage with world := world })

def perform (stage : Stage) : Step → StepResult × Stage
  | .reconcile kind place => stage.reconcile kind place
  | .put place object =>
      (.nothing, stage.withCluster (stage.world.cluster.insert place object))
  | .merge place patch =>
      match stage.world.cluster.merge? place patch with
      | some (object, cluster) => (.merged object, stage.withCluster cluster)
      | none => (.absent, stage)
  | .remove place =>
      (.removed (stage.world.cluster.find? place).isSome,
        stage.withCluster (stage.world.cluster.erase place))
  | .replaceServer server => stage.changeServer server
  | .mergeServer patch => stage.changeServer (stage.server.mergePatch patch)
  | .refuse rules => (.nothing, stage.withCluster { stage.world.cluster with rules := rules })

def play (stage : Stage) (number : Nat) : List Json → List StepResult × Stage
  | [] => ([], stage)
  | value :: rest =>
      let begun := { stage with world := stage.world.atTime (stepLabel number) }
      let (result, next) :=
        match Step.ofJson? value with
        | some step => begun.perform step
        | none => (.impossible, begun)
      let (results, last) := next.play (number + 1) rest
      (result :: results, last)

def opening? (reachable : Bool) (script : Json) : Option Stage := do
  let objects ← (script.get "objects").array?
  let cluster ← objects.foldlM Cluster.put? Cluster.empty
  let rootCertificate ← Json.option? Json.string? (script.get "root_cert")
  let counted ← Json.option? Json.bool? (script.get "metrics")
  let world : World :=
    { clock := .labelled ""
      cluster := cluster
      station := ⟨none, []⟩
      files := ("/dev/null", "") :: (rootCertificate.map ("$ROOT_CERT", ·)).toList
      metrics := if counted.getD true then some .empty else none }
  Stage.withServer? ⟨world, .null, reachable⟩ (script.get "server")

end Stage

def playScript? (reachable : Bool) (script : Json) :
    Option (List StepResult × List String) := do
  let opening ← Stage.opening? reachable script
  let (results, last) := opening.play 0 (← (script.get "steps").array?)
  pure (results, (last.world.metrics.map Metrics.countLines).getD [])

end CatalogSteward.Rehearsal
