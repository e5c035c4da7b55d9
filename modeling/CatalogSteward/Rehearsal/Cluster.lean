import CatalogSteward.Json.MergePatch
import CatalogSteward.Network.Target
import CatalogSteward.Request
import CatalogSteward.Text.Split

/-!
# A cluster in memory

A cluster that holds objects as values and keeps a record of the calls that are
made to it. It can be told to refuse calls. Patches are merged into what they
are for, and no version is checked.
-/

set_option autoImplicit false

namespace CatalogSteward.Rehearsal

inductive StoredKind where
  | secret
  | resource (kind : ResourceKind)
  deriving DecidableEq, Repr

namespace StoredKind

def ofName? (name : String) : Option StoredKind :=
  if name = "Secret" then some .secret else (ResourceKind.ofName? name).map .resource

def plural : StoredKind → String
  | .secret => "secrets"
  | .resource kind => kind.plural

/-- The beginning of every path to the objects of a kind. -/
def basePath : StoredKind → String
  | .secret => "/api/v1"
  | .resource _ => "/apis/" ++ apiGroup ++ "/" ++ apiVersion

/-- The path of the objects of a kind, in one namespace or in all. -/
def collectionPath (kind : StoredKind) : Option String → String
  | some inNamespace => kind.basePath ++ "/namespaces/" ++ inNamespace ++ "/" ++ kind.plural
  | none => kind.basePath ++ "/" ++ kind.plural

end StoredKind

structure Place where
  kind : StoredKind
  inNamespace : String
  name : String
  deriving DecidableEq, Repr

namespace Place

def path (place : Place) : String :=
  place.kind.collectionPath (some place.inNamespace) ++ "/" ++ place.name

def isAddressable (place : Place) : Bool :=
  (Network.targetPath? place.path).isSome

def ofObject? (object : Json) : Option Place := do
  let kind ← (object.get "kind").string? >>= StoredKind.ofName?
  let metadata := object.get "metadata"
  pure ⟨kind, (metadata.get "namespace").string?.getD "", (metadata.get "name").string?.getD ""⟩

def ofJson? (value : Json) : Option Place := do
  let record := Json.Record.named (← value.object?)
  let kind ← record.required Json.string? 0 "kind" >>= StoredKind.ofName?
  let inNamespace ← record.optional Json.string? 0 "namespace"
  let name ← record.required Json.string? 0 "name"
  pure ⟨kind, inNamespace.getD "", name⟩

def ofTarget (target : Target) : Place :=
  ⟨.resource target.kind, target.inNamespace, target.name⟩

end Place

def fieldManager : String := "pg-object-operator"

inductive Verb where
  | get
  | patch
  deriving DecidableEq, Repr

def Verb.name : Verb → String
  | .get => "GET"
  | .patch => "PATCH"

def Verb.query? : Verb → Option String
  | .get => none
  | .patch => some ("fieldManager=" ++ fieldManager)

structure Call where
  verb : Verb
  path : String
  body : Option Json

/-- Calls that the cluster refuses: those of a verb, if one is given, at paths that hold a text,
if one is given. -/
structure RefusalRule where
  method : Option String
  path : Option String
  code : Nat
  reason : String
  message : String
  deriving DecidableEq, Repr

namespace RefusalRule

def ofJson? (value : Json) : Option RefusalRule := do
  let record := Json.Record.named (← value.object?)
  let method ← record.optional Json.string? 0 "method"
  let path ← record.optional Json.string? 0 "path"
  let code ← record.required (Json.integerIn? 0 65535) 0 "code"
  let reason ← record.required Json.string? 0 "reason"
  let message ← record.required Json.string? 0 "message"
  pure ⟨method, path, code.toNat, reason, message⟩

def applies (rule : RefusalRule) (call : Call) : Bool :=
  rule.method.all (· = call.verb.name) &&
    rule.path.all fun part => Text.isWithin part.toList call.path.toList

def isError (rule : RefusalRule) : Bool :=
  400 ≤ rule.code && rule.code < 600

def fault (rule : RefusalRule) : ClusterFault :=
  .refused rule.code rule.reason rule.message

def answer (rule : RefusalRule) : Json :=
  .object
    [("status", .string "Failure"), ("message", .string rule.message),
      ("reason", .string rule.reason), ("code", .integer rule.code)]

end RefusalRule

/-- A cluster, with the calls that were made to it, the last one first. -/
structure Cluster where
  objects : List (Place × Json)
  rules : List RefusalRule
  calls : List Call

namespace Cluster

def empty : Cluster :=
  ⟨[], [], []⟩

def find? (cluster : Cluster) (place : Place) : Option Json :=
  (cluster.objects.find? fun entry => entry.1 = place).map Prod.snd

def erase (cluster : Cluster) (place : Place) : Cluster :=
  { cluster with objects := cluster.objects.filter fun entry => entry.1 ≠ place }

def insert (cluster : Cluster) (place : Place) (object : Json) : Cluster :=
  match cluster.find? place with
  | none => { cluster with objects := cluster.objects ++ [(place, object)] }
  | some _ =>
      { cluster with
        objects :=
          cluster.objects.map fun entry =>
            if entry.1 = place then (place, object) else entry }

def put? (cluster : Cluster) (object : Json) : Option Cluster :=
  (Place.ofObject? object).map fun place => cluster.insert place object

def merge? (cluster : Cluster) (place : Place) (patch : Json) : Option (Json × Cluster) :=
  (cluster.find? place).map fun object =>
    let merged := object.mergePatch patch
    (merged, cluster.insert place merged)

def record (cluster : Cluster) (call : Call) : Cluster :=
  { cluster with calls := call :: cluster.calls }

def refusal? (cluster : Cluster) (call : Call) : Option RefusalRule :=
  cluster.rules.find? fun rule => rule.applies call

/-- What the cluster says about an object that it does not hold. -/
def absent (place : Place) : ClusterFault :=
  .refused 404 "NotFound" (place.kind.plural ++ " \"" ++ place.name ++ "\" not found")

/-- Why no call can be made for the object at a place, if none can. -/
def unsendable? (place : Place) : Option ClusterFault :=
  if place.name.isEmpty then some .nameless
  else if place.isAddressable then none
  else some .unaddressable

def decoded {α : Type} (shape : Json.Shape) (decode : Json → Option α) (answer : Json) :
    Except ClusterFault (Option α) :=
  match shape.complaint? answer with
  | some complaint => .error (.undecodable complaint)
  | none => .ok (decode answer)

/-- The answer to a question for an object. A refused one is told by its reason from one that is
not there; an answer whose code is that of no error is taken for the object. -/
def get {α : Type} (shape : Json.Shape) (decode : Json → Option α) (place : Place)
    (cluster : Cluster) : Except ClusterFault (Option α) × Cluster :=
  match unsendable? place with
  | some fault => (.error fault, cluster)
  | none =>
      let call : Call := ⟨.get, place.path, none⟩
      let answer :=
        match cluster.refusal? call with
        | some rule =>
            if !rule.isError then decoded shape decode rule.answer
            else if rule.reason = "NotFound" then .ok none
            else .error rule.fault
        | none =>
            match cluster.find? place with
            | none => .ok none
            | some object => decoded shape decode object
      (answer, cluster.record call)

def patch (kind : ResourceKind) (place : Place) (below : String) (body : Json)
    (cluster : Cluster) : Except ClusterFault Unit × Cluster :=
  match unsendable? place with
  | some fault => (.error fault, cluster)
  | none =>
      let call : Call := ⟨.patch, place.path ++ below, some body⟩
      let recorded := cluster.record call
      match cluster.refusal? call with
      | some rule =>
          if rule.isError then (.error rule.fault, recorded)
          else
            let answer :=
              decoded (Resource.shape kind.name .anything) (fun _ => some ()) rule.answer
            (answer.map fun _ => (), recorded)
      | none =>
          match recorded.merge? place body with
          | some (_, merged) => (.ok (), merged)
          | none => (.error (absent place), recorded)

end Cluster

end CatalogSteward.Rehearsal
