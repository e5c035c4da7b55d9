import CatalogSteward.Resource.Reference
import CatalogSteward.Resource.Status
import CatalogSteward.Time.Relaxed

/-!
# Metadata of a resource

The part of the metadata that reconciling looks at. The other fields are read
for their types alone.
-/

set_option autoImplicit false

namespace CatalogSteward

open Time

def finalizer : String := "postgresql.aboutbits.it/finalizer"

/-- What the metadata of a resource says about it. -/
structure Metadata where
  name : Option String
  generateName : Option String
  inNamespace : Option String
  generation : Option Int64
  resourceVersion : Option String
  finalizers : List String
  deletionTime : Option Instant
  deriving DecidableEq, Repr

def instant? (value : Json) : Option Instant :=
  value.string?.bind fun text => (parseRelaxed text).toOption

def instantShape : Json.Shape :=
  .written "an RFC 3339 formatted date and time string" fun text =>
    match parseRelaxed text with
    | .ok _ => none
    | .error fault => some fault.message

def stringMap? (value : Json) : Option (List (String × String)) :=
  value.object?.bind fun members =>
    members.mapM fun member => member.2.string?.map fun text => (member.1, text)

def ownerReference? (value : Json) : Option Unit := do
  let members ← value.object?
  let owner := Json.Record.named members
  let _ ← owner.optional Json.string? 0 "apiVersion"
  let _ ← owner.optional Json.string? 0 "kind"
  let _ ← owner.optional Json.string? 0 "name"
  let _ ← owner.optional Json.string? 0 "uid"
  let _ ← owner.optional Json.bool? 0 "blockOwnerDeletion"
  let _ ← owner.optional Json.bool? 0 "controller"
  pure ()

def ownerReferenceShape : Json.Shape :=
  .entry "OwnerReference"
    [("apiVersion", .optional .string), ("kind", .optional .string),
      ("name", .optional .string), ("uid", .optional .string),
      ("blockOwnerDeletion", .optional .boolean), ("controller", .optional .boolean)]

def managedFields? (value : Json) : Option Unit := do
  let members ← value.object?
  let entry := Json.Record.named members
  let _ ← entry.optional Json.string? 0 "apiVersion"
  let _ ← entry.optional Json.string? 0 "fieldsType"
  let _ ← entry.optional Json.string? 0 "manager"
  let _ ← entry.optional Json.string? 0 "operation"
  let _ ← entry.optional Json.string? 0 "subresource"
  let _ ← entry.optional instant? 0 "time"
  pure ()

def managedFieldsShape : Json.Shape :=
  .entry "ManagedFieldsEntry"
    [("apiVersion", .optional .string), ("fieldsType", .optional .string),
      ("manager", .optional .string), ("operation", .optional .string),
      ("subresource", .optional .string), ("time", .optional instantShape)]

namespace Metadata

def ofJson? (value : Json) : Option Metadata := do
  let members ← value.object?
  let record := Json.Record.named members
  let name ← record.optional Json.string? 0 "name"
  let generateName ← record.optional Json.string? 0 "generateName"
  let inNamespace ← record.optional Json.string? 0 "namespace"
  let generation ← record.optional int64? 0 "generation"
  let resourceVersion ← record.optional Json.string? 0 "resourceVersion"
  let finalizers ← record.optional (Json.list? Json.string?) 0 "finalizers"
  let deletionTime ← record.optional instant? 0 "deletionTimestamp"
  let _ ← record.optional instant? 0 "creationTimestamp"
  let _ ← record.optional int64? 0 "deletionGracePeriodSeconds"
  let _ ← record.optional Json.string? 0 "selfLink"
  let _ ← record.optional Json.string? 0 "uid"
  let _ ← record.optional stringMap? 0 "annotations"
  let _ ← record.optional stringMap? 0 "labels"
  let _ ← record.optional (Json.list? ownerReference?) 0 "ownerReferences"
  let _ ← record.optional (Json.list? managedFields?) 0 "managedFields"
  pure ⟨name, generateName, inNamespace, generation, resourceVersion, finalizers.getD [],
    deletionTime⟩

def shape : Json.Shape :=
  .entry "ObjectMeta"
    [("name", .optional .string), ("generateName", .optional .string),
      ("namespace", .optional .string), ("generation", .optional int64Shape),
      ("resourceVersion", .optional .string), ("finalizers", .optional (.list .string)),
      ("deletionTimestamp", .optional instantShape),
      ("creationTimestamp", .optional instantShape),
      ("deletionGracePeriodSeconds", .optional int64Shape), ("selfLink", .optional .string),
      ("uid", .optional .string), ("annotations", .optional (.map .string)),
      ("labels", .optional (.map .string)),
      ("ownerReferences", .optional (.list ownerReferenceShape)),
      ("managedFields", .optional (.list managedFieldsShape))]

/-- The name of a resource: the one it has, or the start of the one it is to get. -/
def anyName (metadata : Metadata) : String :=
  (metadata.name.or metadata.generateName).getD ""

/-- The namespace of a resource, empty where it has none. -/
def namespaceOrEmpty (metadata : Metadata) : String :=
  metadata.inNamespace.getD ""

def qualifiedName (metadata : Metadata) : String :=
  CatalogSteward.qualifiedName metadata.namespaceOrEmpty metadata.anyName

def isDeleting (metadata : Metadata) : Bool :=
  metadata.deletionTime.isSome

def hasFinalizer (metadata : Metadata) : Bool :=
  metadata.finalizers.contains finalizer

/-- The finalizers of a resource with this one among them, at the end if it was not there. -/
def finalizersWith (metadata : Metadata) : List String :=
  if metadata.hasFinalizer then metadata.finalizers
  else metadata.finalizers ++ [finalizer]

def finalizersWithout (metadata : Metadata) : List String :=
  metadata.finalizers.filter fun given => given ≠ finalizer

end Metadata

/-- The merge patch that sets the finalizers of a resource; it is refused when the resource no
longer has the version that they were read from. -/
def finalizerPatch (finalizers : List String) (resourceVersion : Option String) : Json :=
  .object
    [("metadata", .object
      [("finalizers", Json.ofList .string finalizers),
        ("resourceVersion", Json.ofOption .string resourceVersion)])]

/-- A resource that declares something and reports on it. -/
structure Resource (Declaration : Type) where
  metadata : Metadata
  declaration : Declaration
  status : Option Status
  deriving DecidableEq, Repr

namespace Resource

/-- The resource that a value spells, whose declaration `decode` reads. -/
def ofJson? {Declaration : Type} (decode : Json → Option Declaration) (value : Json) :
    Option (Resource Declaration) := do
  let record ← value.record? 3
  let metadata ← record.required Metadata.ofJson? 0 "metadata"
  let declaration ← record.required decode 1 "spec"
  let status ← record.nullable Status.ofJson? 2 "status"
  pure ⟨metadata, declaration, status⟩

def shape (title : String) (declaration : Json.Shape) : Json.Shape :=
  .record title
    [("metadata", .required, Metadata.shape), ("spec", .required, declaration),
      ("status", .listed, .optional Status.shape)]

end Resource

end CatalogSteward
