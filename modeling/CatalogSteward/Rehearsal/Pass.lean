import CatalogSteward.Reconcile.Connection
import CatalogSteward.Rehearsal.World

/-!
# Passes over objects in memory

An object is read as a resource of its kind and reconciled in a world in
memory.
-/

set_option autoImplicit false

namespace CatalogSteward.Rehearsal

def reconciler? (kind : ResourceKind) (object : Json) : Option (Attempt Requeue) :=
  match kind with
  | .connection =>
      (Resource.ofJson? ConnectionDeclaration.ofJson? object).map ClusterConnection.reconcile
  | .managed kind => (ManagedResource.ofJson? kind object).map ManagedResource.reconcile

namespace World

def reconcile? (world : World) (kind : ResourceKind) (object : Json) :
    Option (Except Failure Requeue × World) :=
  (reconciler? kind object).map fun attempt => world.run attempt.run

/-- The world with another clock and nothing in its records. -/
def atTime (world : World) (label : String) : World :=
  { world with
    clock := .labelled label
    cluster := { world.cluster with calls := [] }
    station := { world.station with exchanges := [] } }

def calls (world : World) : List Call :=
  world.cluster.calls.reverse

def exchanges (world : World) : List Exchange :=
  world.station.exchanges.reverse

end World

end CatalogSteward.Rehearsal
