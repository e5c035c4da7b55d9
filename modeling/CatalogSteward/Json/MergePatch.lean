import CatalogSteward.Json.Value

/-!
# Merge patches

RFC 7386: a patch that is an object is merged member by member, its `null`
members removing what they name; any other patch replaces the target.
-/

set_option autoImplicit false

namespace CatalogSteward.Json

mutual

def mergePatch (target : Json) : Json → Json
  | .object changes => .object (mergeMembers target.members changes)
  | .null => .null
  | .bool value => .bool value
  | .number value => .number value
  | .string value => .string value
  | .array items => .array items

def mergeMembers (members : List (String × Json)) : List (String × Json) → List (String × Json)
  | [] => members
  | change :: rest => mergeMembers (mergeMember members change) rest

/-- The members after one change; `null` removes the member it names. -/
def mergeMember (members : List (String × Json)) : String × Json → List (String × Json)
  | (name, .null) => erase name members
  | (name, value) => set name (mergePatch ((find? name members).getD .null) value) members

end

end CatalogSteward.Json
