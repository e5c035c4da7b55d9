import CatalogSteward.Proofs.Catalog.Placeholder

/-!
# Parameters that are cast

A cast to a role or a schema reads its text as a statement reads a name. Which
parameters are cast stands in the text of a query: it has one place for each of
them, in their order. Every parameter that is cast there is quoted, so that the
cast finds the name that was given, and no other parameter is.
-/

set_option autoImplicit false

namespace CatalogSteward

open Sql

/-- The name that a cast to a role or a schema finds in a text. -/
def castName? (text : String) : Option String :=
  match Lexer.tokens? text with
  | some [.identifier name] => some name
  | _ => none

theorem castName?_quoteIdentifier (name : String) :
    castName? (quoteIdentifier name) = some name := by
  have read := @Lexer.tokensFrom_token [] (.identifier name) trivial fun _ none => nomatch none
  rw [List.append_nil] at read
  have alone : Lexer.tokens? (quoteIdentifier name) = some [.identifier name] := read
  rw [castName?, alone]

/-- What the server works with in place of a parameter: what a cast finds in it, or itself. -/
def Parameter.received (isCast : Bool) (parameter : Parameter) : Option Parameter :=
  if isCast then
    match parameter with
    | .text value => (castName? value).map .text
    | .texts _ => none
  else some parameter

@[simp] theorem Parameter.received_castParameter (name : String) :
    (Query.castParameter name).received true = some (.text name) := by
  rw [Query.castParameter, received, if_pos rfl, castName?_quoteIdentifier]
  rfl

@[simp] theorem Parameter.received_plain (parameter : Parameter) :
    parameter.received false = some parameter := rfl

def ObjectScope.name : ObjectScope → String
  | .database name => name
  | .schema name => name
  | .relations _ name => name

open Placeholder

namespace Query

def arguments : Query → List Parameter
  | .versionNumber => []
  | .versionText => []
  | .databaseOwner name => [.text name]
  | .schemaOwner name => [.text name]
  | .role name => [.text name]
  | .rolesAbove name => [.text name]
  | .rolesBelow name => [.text name]
  | .ownership scope objects grantee =>
      [.text grantee, .text scope.name] ++
        match scope with
        | .relations _ _ => if objects.isEmpty then [] else [.texts objects]
        | _ => []
  | .privileges scope grantee => [.text scope.name, .text grantee]
  | .defaultPrivileges owner schema objectType grantee =>
      [.text owner] ++ ((askedSchema schema objectType).map .text).toList ++ [.text grantee]

/-- Whether the text of a query casts each of its parameters to a role or a schema. -/
def casts (query : Query) : List Bool :=
  (List.range' 1 query.parameters.length).map fun number =>
    (placesIn query.text).any fun place => place.number == number && place.isCast

/-- The places in the text of a query. -/
def places : Query → List Placeholder
  | .versionNumber => []
  | .versionText => []
  | .databaseOwner _ => [⟨1, false⟩]
  | .schemaOwner _ => [⟨1, false⟩]
  | .role _ => [⟨1, false⟩]
  | .rolesAbove _ => [⟨1, false⟩]
  | .rolesBelow _ => [⟨1, false⟩]
  | .ownership (.relations _ _) objects _ =>
      [⟨1, true⟩, ⟨2, true⟩] ++ if objects.isEmpty then [] else [⟨3, false⟩]
  | .ownership _ _ _ => [⟨1, true⟩, ⟨2, false⟩]
  | .privileges (.relations _ _) _ => [⟨1, true⟩, ⟨2, true⟩]
  | .privileges _ _ => [⟨1, false⟩, ⟨2, true⟩]
  | .defaultPrivileges _ schema objectType _ =>
      match askedSchema schema objectType with
      | some _ => [⟨1, true⟩, ⟨2, true⟩, ⟨3, true⟩]
      | none => [⟨1, true⟩, ⟨2, true⟩]

/-! ## Texts, one part after the other -/

theorem holds_membershipText {column condition : String}
    (known : column = "g" ∧ condition = "r" ∨ column = "r" ∧ condition = "g") :
    Holds (membershipText column condition) [⟨1, false⟩] := by
  rw [membershipText]
  rcases known with ⟨rfl, rfl⟩ | ⟨rfl, rfl⟩
  all_goals
    simp only [String.reduceAppend]
    exact holds_line
      (.cons (holds_none rfl rfl) (.cons (holds_none rfl rfl) (.cons (holds_none rfl rfl)
        (.cons (holds_none rfl rfl) (.cons (holds_none rfl rfl) (.cons (holds_none rfl rfl)
          (.cons (holds_one ⟨1, false⟩ rfl rfl) (.cons (holds_none rfl rfl) .nil)))))))) rfl

theorem holds_ownershipText (scope : ObjectScope) (objects : List String) (grantee : String) :
    Holds (ownershipText objects scope) (ownership scope objects grantee).places := by
  cases scope with
  | database name | schema name =>
      exact holds_line
        (.cons (holds_one ⟨1, true⟩ rfl rfl) (.cons (holds_none rfl rfl)
          (.cons (holds_one ⟨2, false⟩ rfl rfl) .nil))) rfl
  | relations kinds name =>
      cases objects with
      | nil =>
          exact holds_line
            (.cons (holds_one ⟨1, true⟩ rfl rfl) (.cons (holds_none rfl rfl)
              (.cons (holds_one ⟨2, true⟩ rfl rfl) (.cons (holds_none rfl rfl)
                (.cons holds_literalList .nil))))) rfl
      | cons object objects =>
          exact holds_line
            (.cons (holds_one ⟨1, true⟩ rfl rfl) (.cons (holds_none rfl rfl)
              (.cons (holds_one ⟨2, true⟩ rfl rfl) (.cons (holds_none rfl rfl)
                (.cons holds_literalList (.cons (holds_one ⟨3, false⟩ rfl rfl) .nil)))))) rfl

theorem holds_privilegesText (scope : ObjectScope) (grantee : String) :
    Holds (privilegesText scope) (privileges scope grantee).places := by
  cases scope with
  | database name | schema name =>
      exact holds_line
        (.cons (holds_none rfl rfl) (.cons (holds_none rfl rfl) (.cons (holds_none rfl rfl)
          (.cons (holds_one ⟨1, false⟩ rfl rfl) (.cons (holds_one ⟨2, true⟩ rfl rfl) .nil))))) rfl
  | relations kinds name =>
      exact holds_line
        (.cons (holds_none rfl rfl) (.cons (holds_none rfl rfl) (.cons (holds_none rfl rfl)
          (.cons (holds_one ⟨1, true⟩ rfl rfl) (.cons (holds_none rfl rfl)
            (.cons holds_literalList (.cons (holds_one ⟨2, true⟩ rfl rfl) .nil))))))) rfl

theorem holds_defaultPrivilegesText (owner : String) (schema : Option String)
    (objectType : FutureObjectType) (grantee : String) :
    Holds (defaultPrivilegesText schema objectType)
      (defaultPrivileges owner schema objectType grantee).places := by
  rw [defaultPrivilegesText, places]
  cases askedSchema schema objectType with
  | none =>
      exact holds_line
        (.cons (holds_none rfl rfl) (.cons (holds_none rfl rfl) (.cons (holds_none rfl rfl)
          (.cons (holds_one ⟨1, true⟩ rfl rfl) (.cons (holds_none rfl rfl)
            (.cons holds_quoteLiteral (.cons (holds_one ⟨2, true⟩ rfl rfl) .nil))))))) rfl
  | some asked =>
      exact holds_line
        (.cons (holds_none rfl rfl) (.cons (holds_none rfl rfl) (.cons (holds_none rfl rfl)
          (.cons (holds_one ⟨1, true⟩ rfl rfl) (.cons (holds_none rfl rfl)
            (.cons holds_quoteLiteral (.cons (holds_one ⟨2, true⟩ rfl rfl)
              (.cons (holds_one ⟨3, true⟩ rfl rfl) .nil)))))))) rfl

theorem holds_text (query : Query) : Holds query.text query.places := by
  cases query with
  | versionNumber | versionText =>
      rw [text, places]
      exact holds_none rfl rfl
  | databaseOwner name | schemaOwner name =>
      exact holds_line
        (.cons (holds_none rfl rfl) (.cons (holds_none rfl rfl)
          (.cons (holds_one ⟨1, false⟩ rfl rfl) .nil))) rfl
  | role name =>
      exact holds_line
        (.cons (holds_none rfl rfl) (.cons (holds_none rfl rfl) (.cons (holds_none rfl rfl)
          (.cons (holds_none rfl rfl) (.cons (holds_one ⟨1, false⟩ rfl rfl) .nil))))) rfl
  | rolesAbove name => exact holds_membershipText (.inl ⟨rfl, rfl⟩)
  | rolesBelow name => exact holds_membershipText (.inr ⟨rfl, rfl⟩)
  | ownership scope objects grantee => exact holds_ownershipText scope objects grantee
  | privileges scope grantee => exact holds_privilegesText scope grantee
  | defaultPrivileges owner schema objectType grantee =>
      exact holds_defaultPrivilegesText owner schema objectType grantee

/-! ## Parameters -/

/-- The text of a query has one place for each of its parameters, in their order. -/
theorem map_number_placesIn (query : Query) :
    (placesIn query.text).map Placeholder.number =
      List.range' 1 query.parameters.length := by
  rw [query.holds_text.placesIn_eq]
  cases query with
  | ownership scope objects grantee =>
      cases scope with
      | database | schema => rfl
      | relations => cases objects <;> rfl
  | privileges scope grantee => cases scope <;> rfl
  | defaultPrivileges owner schema objectType grantee =>
      rw [places, parameters]
      cases askedSchema schema objectType <;> rfl
  | _ => rfl

theorem scopeParameter_relations {kinds : List String} {name : String} :
    scopeParameter (.relations kinds name) = castParameter name := rfl

/-- The server works with exactly what a query is given, whatever characters the names hold. -/
theorem received_eq_arguments (query : Query) :
    List.zipWith Parameter.received query.casts query.parameters = query.arguments.map some := by
  rw [casts, query.holds_text.placesIn_eq]
  cases query with
  | ownership scope objects grantee =>
      cases scope with
      | relations kinds name =>
          cases objects with
          | nil | cons => simp [places, parameters, arguments, scopeParameter_relations,
              ObjectScope.name, List.range'_succ]
      | _ => simp [places, parameters, arguments, scopeParameter, ObjectScope.name,
          List.range'_succ]
  | privileges scope grantee =>
      cases scope with
      | relations kinds name => simp [places, parameters, arguments, scopeParameter_relations,
          ObjectScope.name, List.range'_succ]
      | _ => simp [places, parameters, arguments, scopeParameter, ObjectScope.name,
          List.range'_succ]
  | defaultPrivileges owner schema objectType grantee =>
      simp only [places, parameters, arguments]
      cases askedSchema schema objectType with
      | none | some => simp [List.range'_succ]
  | _ => rfl

end Query

end CatalogSteward
