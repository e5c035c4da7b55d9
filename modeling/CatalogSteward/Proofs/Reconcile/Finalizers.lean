import CatalogSteward.Proofs.Reconcile.Deletion

/-!
# Finalizers of others

A write of finalizers replaces all of them by what was computed from a read, which
may be stale by then. The cluster refuses it if the resource changed since, so that
what others make of their own finalizers stays as they left it, in their order.
-/

set_option autoImplicit false

namespace CatalogSteward

/-- What this program does about the finalizers of a resource: it adds its own or takes it away. -/
inductive FinalizerChange where
  | enroll
  | release
  deriving DecidableEq, Repr

namespace FinalizerChange

/-- The finalizers that a change computes from the metadata that were read. -/
def finalizers (metadata : Metadata) : FinalizerChange → List String
  | .enroll => metadata.finalizersWith
  | .release => metadata.finalizersWithout

variable {metadata : Metadata}

end FinalizerChange

/-! ## Requests -/

namespace ManagedResource

variable {resource : ManagedResource} {inNamespace : String} {interactions : List Interaction}
  {request : Request}

end ManagedResource

/-! ## What the cluster keeps -/

/-- What a read of a resource returns of what the cluster keeps: its finalizers and the version of
the whole. -/
structure Snapshot where
  finalizers : List String
  resourceVersion : String
  deriving DecidableEq, Repr

namespace Snapshot

def IsReadAs (snapshot : Snapshot) (resource : ManagedResource) : Prop :=
  resource.metadata.finalizers = snapshot.finalizers ∧
    resource.metadata.resourceVersion = some snapshot.resourceVersion

/-- A version that was never given before. -/
def IsNew (snapshot : Snapshot) (earlier : List Snapshot) : Prop :=
  ∀ other ∈ earlier, other.resourceVersion ≠ snapshot.resourceVersion

instance (snapshot : Snapshot) (earlier : List Snapshot) : Decidable (snapshot.IsNew earlier) :=
  inferInstanceAs (Decidable (∀ other ∈ earlier, _))

/-- What the cluster makes of a request, after it kept some snapshots of which the given one is the
current: every write gives a new version, a write that names another version than the current one
is refused, and a write may be made even if the answer to it is lost. -/
def Answers (kept : List Snapshot) (current : Snapshot) :
    (request : Request) → request.Answer → Snapshot → Prop
  | .writeFinalizers _ finalizers resourceVersion, answer, next =>
      ((∀ version, resourceVersion = some version → version = current.resourceVersion) ∧
          next.finalizers = finalizers ∧ next.IsNew kept) ∨
        (∃ fault, answer = Except.error fault) ∧ next = current
  | .writeStatus _ _, answer, next =>
      (next.finalizers = current.finalizers ∧ next.IsNew kept) ∨
        (∃ fault, answer = Except.error fault) ∧ next = current
  | _, _, next => next = current

end Snapshot

/-- Who was at a resource: others, or this program with a request after a read. -/
inductive Actor where
  | others
  | program (read : ManagedResource) (request : Request)

/-- Something that was done, with what the cluster kept before and after it. -/
structure Event where
  actor : Actor
  before : Snapshot
  after : Snapshot

namespace Event

/-- A write was accepted: the cluster keeps a new version. -/
def IsAccepted (event : Event) : Prop :=
  event.after.resourceVersion ≠ event.before.resourceVersion

end Event

namespace Snapshot

variable {current next snapshot : Snapshot} {kept : List Snapshot} {request : Request}
  {answer : request.Answer} {read : ManagedResource}

end Snapshot

namespace Interleaving

variable {origin current : Snapshot} {snapshots earlier : List Snapshot} {events : List Event}

private def ledger (finalizers : List String) (resourceVersion : String) : ManagedResource where
  metadata := ⟨some "ledger", none, some "shop", some 1, some resourceVersion, finalizers, none⟩
  declaration := .role ⟨"ledger", none, ⟨"main", none⟩, none, .standard⟩
  status := none

private def enrolled : Snapshot := ⟨["backup.example/hold", finalizer], "3"⟩

end Interleaving

end CatalogSteward
