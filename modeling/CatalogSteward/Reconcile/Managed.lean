import CatalogSteward.Reconcile.Cleanup
import CatalogSteward.Reconcile.Convergence

/-!
# Reconciling managed resources

One pass over a resource. The finalizer is set before the server is touched
and removed after it was cleaned up; failures of anything but writes to the
cluster end in the status of the resource.
-/

set_option autoImplicit false

namespace CatalogSteward

/-- When a resource is looked at again: after some seconds, or when it changes. -/
inductive Requeue where
  | after (seconds : Nat)
  | onChange
  deriving DecidableEq, Repr

/-- What a pass over a resource comes to: when the next one is due, and whether this one counts
as failed. -/
structure Pass where
  requeue : Requeue
  failed : Bool
  deriving DecidableEq, Repr

/-- Seconds until a resource is looked at again whose finalizer was just set or whose deletion
was just noted. -/
def followUpInterval : Nat := 1

def cleanupInterval : Nat := 60

def writeStatus (target : Target) (status : Status) : Attempt Unit :=
  Attempt.ask .cluster (Program.ask (.writeStatus target status))

def findReadyConnection (cluster : Reference) (ownNamespace : String) :
    Attempt (Option ClusterConnection) := do
  let found : Option ClusterConnection ←
    Attempt.ask .cluster
      (Program.ask (.findConnection (cluster.namespaceFrom ownNamespace) cluster.name))
  pure (found.filter ClusterConnection.isReady)

namespace ManagedResource

def target (resource : ManagedResource) (inNamespace : String) : Target :=
  ⟨.managed resource.declaration.kind, inNamespace, resource.metadata.anyName⟩

def writeFinalizers (resource : ManagedResource) (inNamespace : String)
    (finalizers : List String) : Attempt Unit :=
  Attempt.ask .cluster
    (Program.ask
      (.writeFinalizers (resource.target inNamespace) finalizers
        resource.metadata.resourceVersion))

def probed (resource : ManagedResource) (now : Time.Instant) : Status :=
  .probe resource.status resource.declaration.displayName resource.metadata.generation now

def phase (resource : ManagedResource) : Phase :=
  (resource.status.map Status.phase).getD .pending

def attemptConvergence (resource : ManagedResource) (inNamespace : String) :
    Attempt Outcome := do
  let declaration := resource.declaration
  Attempt.ofExcept .ofRejection (declaration.preflight resource.metadata.qualifiedName)
  match ← findReadyConnection declaration.cluster inNamespace with
  | none => pure (.pending (notReadyMessage declaration.cluster inNamespace))
  | some connection =>
      let session ← connection.openSession declaration.targetDatabase
      resource.converge session

/-- What a pass over a resource that is to stay comes to; every failure is an outcome. -/
def evaluate (resource : ManagedResource) (inNamespace : String) : Program Outcome := do
  match ← (resource.attemptConvergence inNamespace).run with
  | .ok outcome => pure outcome
  | .error failure => pure (.failed failure.message)

def keep (resource : ManagedResource) (inNamespace : String) : Attempt Pass := do
  if resource.metadata.hasFinalizer then
    let now ← ExceptT.lift (Program.ask .now)
    let outcome ← ExceptT.lift (resource.evaluate inNamespace)
    let next :=
      transition resource.status (resource.probed now) outcome
        resource.declaration.kind.errorRequeue now
    match next.status with
    | some status => writeStatus (resource.target inNamespace) status
    | none => pure ()
    pure ⟨.after next.requeue, outcome.isFailure⟩
  else
    resource.writeFinalizers inNamespace resource.metadata.finalizersWith
    pure ⟨.after followUpInterval, false⟩

/-- Removes from the server what a resource declared; where its connection is not ready, says
so. -/
def attemptCleanup (resource : ManagedResource) (inNamespace : String) :
    Attempt (Option String) := do
  let declaration := resource.declaration
  match ← findReadyConnection declaration.cluster inNamespace with
  | none => pure (some (goneMessage declaration.cluster inNamespace))
  | some connection =>
      let _session ← connection.openSession declaration.targetDatabase
      declaration.cleanup
      pure none

/-- Cleans up after a resource, or says in words why that was not possible. -/
def cleanupObstacle (resource : ManagedResource) (inNamespace : String) :
    Program (Option String) := do
  match ← (resource.attemptCleanup inNamespace).run with
  | .ok obstacle => pure obstacle
  | .error failure => pure (some ("Deletion failed: " ++ failure.message))

def release (resource : ManagedResource) (inNamespace : String) : Attempt Pass := do
  resource.writeFinalizers inNamespace resource.metadata.finalizersWithout
  pure ⟨.onChange, false⟩

def reportObstacle (resource : ManagedResource) (inNamespace : String) (now : Time.Instant)
    (message : String) : Attempt Pass := do
  let status := ((resource.probed now).setPhase .deleting now).setMessage (some message)
  if Status.isUnchanged resource.status status then
    pure ⟨.after cleanupInterval, true⟩
  else
    writeStatus (resource.target inNamespace) status
    pure ⟨.after cleanupInterval, true⟩

def remove (resource : ManagedResource) (inNamespace : String) : Attempt Pass := do
  if resource.metadata.hasFinalizer then
    let drops := resource.declaration.dropsOnDelete
    let now ← ExceptT.lift (Program.ask .now)
    match cleanupStep resource.phase drops with
    | .markDeleting =>
        writeStatus (resource.target inNamespace)
          (markDeleting (resource.probed now) resource.declaration.kind.name drops now)
        pure ⟨.after followUpInterval, false⟩
    | .release => resource.release inNamespace
    | .drop =>
        match ← ExceptT.lift (resource.cleanupObstacle inNamespace) with
        | none => resource.release inNamespace
        | some message => resource.reportObstacle inNamespace now message
  else
    pure ⟨.onChange, false⟩

def pass (resource : ManagedResource) (inNamespace : String) : Attempt Pass :=
  if resource.metadata.isDeleting then resource.remove inNamespace
  else resource.keep inNamespace

def labels (resource : ManagedResource) (inNamespace : String) : SeriesLabels :=
  ⟨resource.declaration.kind.name, inNamespace, resource.metadata.anyName⟩

def countsAsFailed : Except Failure Pass → Bool
  | .ok pass => pass.failed
  | .error _ => true

/-- Reconciles a resource: one pass over it, which is counted. -/
def reconcile (resource : ManagedResource) : Attempt Requeue :=
  match resource.metadata.inNamespace with
  | none => throw .noNamespace
  | some inNamespace => ExceptT.mk do
      let result ← (resource.pass inNamespace).run
      Program.ask (.count (resource.labels inNamespace) (countsAsFailed result))
      pure (result.map Pass.requeue)

end ManagedResource

end CatalogSteward
