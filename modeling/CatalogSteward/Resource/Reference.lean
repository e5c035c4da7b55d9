import CatalogSteward.Json.Shape

/-!
# References between resources

A reference names a resource, and a namespace when that is not the one of the
resource that refers.
-/

set_option autoImplicit false

namespace CatalogSteward

/-- The name of a resource, and the namespace that holds it where one is given. -/
structure Reference where
  name : String
  inNamespace : Option String
  deriving DecidableEq, Repr

namespace Reference

def namespaceFrom (reference : Reference) (ownNamespace : String) : String :=
  reference.inNamespace.getD ownNamespace

def ofJson? (value : Json) : Option Reference := do
  let record ← value.record? 2
  let name ← record.required Json.string? 0 "name"
  let inNamespace ← record.optional Json.string? 1 "namespace"
  pure ⟨name, inNamespace⟩

def shape (title : String) : Json.Shape :=
  .record title [("name", .required, .string), ("namespace", .free, .optional .string)]

def toJson (reference : Reference) : Json :=
  .object
    ([("name", .string reference.name)] ++
      Json.optionalMember "namespace" .string reference.inNamespace)

end Reference

/-- A resource as messages name it: its namespace and its name. -/
def qualifiedName (inNamespace name : String) : String :=
  inNamespace ++ "/" ++ name

end CatalogSteward
