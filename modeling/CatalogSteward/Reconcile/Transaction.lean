import CatalogSteward.Reconcile.Outcome
import CatalogSteward.Reconcile.Session

/-!
# Transactions

Work that is done as a whole or not at all. However it fails, the transaction
is not committed; one that was not told to end is abandoned.
-/

set_option autoImplicit false

namespace CatalogSteward

open Sql

/-- How a transaction is left: with its work kept, with its work undone, or without a word. -/
inductive Leave where
  | commit
  | rollback
  | abandon
  deriving DecidableEq, Repr

def Leave.carryOut : Leave → Attempt Unit
  | .commit => Attempt.ask .ofDatabase (Program.ask .commit)
  | .rollback => Attempt.ask .ofDatabase (Program.ask .rollback)
  | .abandon => ExceptT.lift (Program.ask .abandon)

def orAbandon {α : Type} (attempt : Attempt α) : Attempt α :=
  ExceptT.mk do
    let result ← attempt.run
    match result with
    | .ok value => pure (.ok value)
    | .error failure =>
        Program.ask .abandon
        pure (.error failure)

/-- Runs work in a transaction; the work says how to leave it. -/
def inTransaction {α : Type} (work : Attempt (Leave × α)) : Attempt α := do
  let (leave, value) ← orAbandon do
    Attempt.ask .ofDatabase (Program.ask .begin)
    work
  leave.carryOut
  pure value

/-- Executes commands in order, up to the first that fails. -/
def executeAll : List Command → Attempt Unit
  | [] => pure ()
  | command :: rest => do
      Attempt.ask .ofDatabase (Program.ask (.execute command))
      executeAll rest

def Plan.outcome (plan : Plan) : Outcome :=
  if plan.isConverged then .converged plan.message else .applied plan.message

/-- Carries out a plan in a transaction, which keeps nothing if there was nothing to do. -/
def Plan.settle (plan : Plan) : Attempt (Leave × Outcome) := do
  executeAll plan.commands
  pure (if plan.isConverged then .rollback else .commit, plan.outcome)

end CatalogSteward
