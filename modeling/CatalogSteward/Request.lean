import CatalogSteward.Catalog.Query
import CatalogSteward.Failure
import CatalogSteward.Health.Metrics
import CatalogSteward.Resource.Definition

/-!
# Requests

Everything that a reconciliation asks of the world around it: the clock, the
cluster that keeps the resources, files, the server, and the counters. What
the world answers is up to it.
-/

set_option autoImplicit false

namespace CatalogSteward

open Sql Time

structure Target where
  kind : ResourceKind
  inNamespace : String
  name : String
  deriving DecidableEq, Repr

abbrev Certificate := List UInt8

/-- A request to the world. Queries, commands and transactions go to the session that was
opened last; to abandon a transaction is to leave it without waiting for an answer. -/
inductive Request where
  | now
  | findConnection (inNamespace name : String)
  | findSecret (inNamespace name : String)
  | writeStatus (target : Target) (status : Status)
  | writeFinalizers (target : Target) (finalizers : List String)
      (resourceVersion : Option String)
  | readFile (path : String)
  | connect (settings : ConnectionSettings) (anchors : List Certificate)
  | query (question : Query)
  | execute (command : Command)
  | begin
  | commit
  | rollback
  | abandon
  | count (labels : SeriesLabels) (failed : Bool)
  deriving DecidableEq, Repr

namespace Request

def Answer : Request → Type
  | .now => Instant
  | .findConnection _ _ => Except ClusterFault (Option ClusterConnection)
  | .findSecret _ _ => Except ClusterFault (Option Secret)
  | .writeStatus _ _ => Except ClusterFault Unit
  | .writeFinalizers _ _ _ => Except ClusterFault Unit
  | .readFile _ => Except String String
  | .connect _ _ => Except DatabaseFault Unit
  | .query question => Except DatabaseFault question.Rows
  | .execute _ => Except DatabaseFault Unit
  | .begin => Except DatabaseFault Unit
  | .commit => Except DatabaseFault Unit
  | .rollback => Except DatabaseFault Unit
  | .abandon => Unit
  | .count _ _ => Unit

end Request

end CatalogSteward
