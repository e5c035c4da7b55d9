import CatalogSteward.Reconcile.Managed

/-!
# Reconciling connections

A connection is tried out: where a session can be opened, it is ready and
reports the version of the server. It leaves nothing on the server, so that
there is nothing to clean up.
-/

set_option autoImplicit false

namespace CatalogSteward.ClusterConnection

def errorRequeue : Nat := 30

def tryOut (connection : ClusterConnection) : Attempt String := do
  let _session ← connection.openSession none
  Query.versionText.rows

def evaluate (connection : ClusterConnection) : Program Outcome := do
  match ← connection.tryOut.run with
  | .ok version => pure (.converged (some version))
  | .error failure => pure (.failed failure.message)

def labels (connection : ClusterConnection) (inNamespace : String) : SeriesLabels :=
  ⟨ResourceKind.connection.name, inNamespace, connection.metadata.anyName⟩

/-- Tries out a connection that is to stay. It is counted, unless its status could not be
written. -/
def keep (connection : ClusterConnection) (inNamespace : String) : Attempt Requeue := do
  let now ← ExceptT.lift (Program.ask .now)
  let probed :=
    Status.probe connection.status connection.declaration.endpoint
      connection.metadata.generation now
  let outcome ← ExceptT.lift connection.evaluate
  let next := transition connection.status probed outcome errorRequeue now
  match next.status with
  | some status =>
      writeStatus ⟨.connection, inNamespace, connection.metadata.anyName⟩ status
  | none => pure ()
  ExceptT.lift
    (Program.ask (.count (connection.labels inNamespace) outcome.isFailure))
  pure (.after next.requeue)

/-- Reconciles a connection; one that is to be deleted is left alone. -/
def reconcile (connection : ClusterConnection) : Attempt Requeue :=
  match connection.metadata.inNamespace with
  | none => throw .noNamespace
  | some inNamespace =>
      if connection.metadata.isDeleting then pure .onChange else connection.keep inNamespace

end CatalogSteward.ClusterConnection
