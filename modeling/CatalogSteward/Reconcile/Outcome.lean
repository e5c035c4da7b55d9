import CatalogSteward.Resource.Metadata

/-!
# Outcomes

What a reconciliation comes to, and what that makes of the status. A status is
written only when phase, message, name or generation change: every write is
seen by whoever watches the resource, so a probe time alone is none.
-/

set_option autoImplicit false

namespace CatalogSteward

open Time

/-- What a reconciliation comes to: the server agreed already, it agrees now, its connection is
not ready, or it failed. -/
inductive Outcome where
  | converged (message : Option String)
  | applied (message : Option String)
  | pending (message : String)
  | failed (message : String)
  deriving DecidableEq, Repr

def resyncInterval : Nat := 300

/-- Seconds until a resource whose connection is not ready is looked at again. -/
def pendingInterval : Nat := 60

/-- The status to write, if any, and the seconds until the resource is looked at again. -/
structure Transition where
  status : Option Status
  requeue : Nat
  deriving DecidableEq, Repr

namespace Outcome

/-- The status that an outcome makes of the probed one. A resource that agreed before keeps its
message when there is no new one. -/
def statusAfter (outcome : Outcome) (probed : Status) (now : Instant) : Status :=
  match outcome with
  | .converged (some message) => (probed.setPhase .ready now).setMessage (some message)
  | .converged none =>
      (probed.setPhase .ready now).setMessage
        (if probed.phase = .ready then probed.message else none)
  | .applied message => (probed.setPhase .ready now).setMessage message
  | .pending message => (probed.setPhase .pending now).setMessage (some message)
  | .failed message => (probed.setPhase .error now).setMessage (some message)

def requeueAfter (outcome : Outcome) (errorRequeue : Nat) : Nat :=
  match outcome with
  | .converged _ => resyncInterval
  | .applied _ => resyncInterval
  | .pending _ => pendingInterval
  | .failed _ => errorRequeue

def isFailure : Outcome → Bool
  | .failed _ => true
  | _ => false

end Outcome

def transition (previous : Option Status) (probed : Status) (outcome : Outcome)
    (errorRequeue : Nat) (now : Instant) : Transition :=
  let next := outcome.statusAfter probed now
  ⟨if Status.isUnchanged previous next then none else some next,
    outcome.requeueAfter errorRequeue⟩

/-- What a pass over a resource that is to be deleted does: take note of it, let the resource
go, or remove what it declared and let it go then. -/
inductive CleanupStep where
  | markDeleting
  | release
  | drop
  deriving DecidableEq, Repr

def cleanupStep (phase : Phase) (drops : Bool) : CleanupStep :=
  match phase, drops with
  | .deleting, true => .drop
  | .deleting, false => .release
  | _, _ => .markDeleting

/-- The status of a resource whose deletion was noted; one that will leave the server alone
keeps its message. -/
def markDeleting (status : Status) (kind : String) (drops : Bool) (now : Instant) : Status :=
  let marked := status.setPhase .deleting now
  if drops then marked.setMessage (some (kind ++ " deletion in progress")) else marked

end CatalogSteward
