import CatalogSteward.Program
import CatalogSteward.Rehearsal.Cluster
import CatalogSteward.Rehearsal.Server

/-!
# A world in memory

Everything that a reconciliation can ask, answered from memory: a cluster, a
server, files and counters. The clock stands still; times that are taken from
it are written to the cluster as a label.
-/

set_option autoImplicit false

namespace CatalogSteward.Rehearsal

open Sql Time

def stepLabel (number : Nat) : String :=
  "<step " ++ toString number ++ ">"

/-- A clock that stands still, and the label of its time. -/
structure Clock where
  now : Instant
  label : String
  deriving DecidableEq, Repr

namespace Clock

/-- The time that every clock of a rehearsal shows, which no resource names. -/
def rehearsalTime : Instant :=
  .ofSeconds 252455616245

def labelled (label : String) : Clock :=
  ⟨rehearsalTime, label⟩

/-- A time as it is written: the label, if the time is that of the clock. -/
def shown (clock : Clock) (time : String) : String :=
  if time = timestamp clock.now then clock.label else time

def shownStatus (clock : Clock) (status : Status) : Status :=
  { status with
    lastProbeTime := status.lastProbeTime.map clock.shown
    lastPhaseTransitionTime := status.lastPhaseTransitionTime.map clock.shown }

end Clock

structure World where
  clock : Clock
  cluster : Cluster
  station : Station
  files : List (String × String)
  metrics : Option Metrics

namespace World

def onCluster {α : Type} (act : Cluster → α × Cluster) (world : World) : α × World :=
  let (answer, cluster) := act world.cluster
  (answer, { world with cluster := cluster })

def onServer {α : Type} (act : Station → α × Station) (world : World) : α × World :=
  let (answer, station) := act world.station
  (answer, { world with station := station })

def directories : List String :=
  ["", ".", "..", "/bin", "/dev", "/etc", "/home", "/lib", "/opt", "/proc", "/root", "/run",
    "/sbin", "/srv", "/sys", "/tmp", "/usr", "/usr/bin", "/usr/lib", "/usr/local", "/usr/share",
    "/var", "/var/lib", "/var/log", "/var/tmp"]

def isDirectory (path : String) : Bool :=
  let withoutSlashes := (path.toList.reverse.dropWhile (· = '/')).reverse
  !path.isEmpty && directories.contains (String.ofList withoutSlashes)

def readFile (world : World) (path : String) : Except String String :=
  match Json.lookup world.files path with
  | some content => .ok content
  | none =>
      if path.toList.contains '\x00' then
        .error "file name contained an unexpected NUL byte"
      else if isDirectory path then .error "Is a directory (os error 21)"
      else .error "No such file or directory (os error 2)"

def counted (world : World) (labels : SeriesLabels) (failed : Bool) : World :=
  { world with metrics := world.metrics.map (Metrics.record labels 0.0 failed) }

def respond : (request : Request) → World → request.Answer × World
  | .now, world => (world.clock.now, world)
  | .findConnection inNamespace name, world =>
      world.onCluster
        (Cluster.get ClusterConnection.shape (Resource.ofJson? ConnectionDeclaration.ofJson?)
          ⟨.resource .connection, inNamespace, name⟩)
  | .findSecret inNamespace name, world =>
      world.onCluster (Cluster.get Secret.shape Secret.ofJson? ⟨.secret, inNamespace, name⟩)
  | .writeStatus target status, world =>
      world.onCluster
        (Cluster.patch target.kind (.ofTarget target) "/status"
          (world.clock.shownStatus status).patch)
  | .writeFinalizers target finalizers resourceVersion, world =>
      world.onCluster
        (Cluster.patch target.kind (.ofTarget target) ""
          (finalizerPatch finalizers resourceVersion))
  | .readFile path, world => (world.readFile path, world)
  | .connect settings _, world => world.onServer (Station.login settings)
  | .query question, world => world.onServer (Station.query question)
  | .execute command, world => world.onServer (Station.execute command.text)
  | .begin, world => world.onServer (Station.execute "START TRANSACTION")
  | .commit, world => world.onServer (Station.execute "COMMIT")
  | .rollback, world => world.onServer (Station.execute "ROLLBACK")
  | .abandon, world => ((), (world.onServer (Station.execute "ROLLBACK")).2)
  | .count labels failed, world => ((), world.counted labels failed)

def run {α : Type} (world : World) (program : Program α) : α × World :=
  program.run respond world

end World

end CatalogSteward.Rehearsal
