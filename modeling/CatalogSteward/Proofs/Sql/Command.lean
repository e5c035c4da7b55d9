import CatalogSteward.Proofs.Sql.Lexer
import CatalogSteward.Proofs.Time.Rfc3339
import CatalogSteward.Sql.Statement

/-!
# Reading commands

A command is read as its keywords with each of its names as one identifier and
each of its texts as one literal, whatever characters they hold, and two
commands have one spelling only where everything that is spelled is the same.
-/

set_option autoImplicit false

namespace CatalogSteward.Sql

open Lexer Time

/-! ## Every phrase is read -/

instance (token : Token) : Decidable (IsSolid token) :=
  match token with
  | .word text =>
      decidable_of_iff
        (text.toList.isEmpty = false ∧ text.toList.all isWordCharacter = true)
        (by
          rw [List.isEmpty_eq_false_iff, List.all_eq_true]
          rfl)
  | .identifier _ => inferInstanceAs (Decidable True)
  | .literal _ => inferInstanceAs (Decidable True)
  | .integer _ => inferInstanceAs (Decidable True)
  | .comma => inferInstanceAs (Decidable False)
  | .dot => inferInstanceAs (Decidable False)

def AllRead (phrases : List Phrase) : Prop :=
  ∀ phrase ∈ phrases, Reads phrase

theorem AllRead.nil : AllRead [] :=
  fun _ member => absurd member List.not_mem_nil

theorem AllRead.append {first second : List Phrase} (one : AllRead first)
    (other : AllRead second) : AllRead (first ++ second) :=
  List.forall_mem_append.mpr ⟨one, other⟩

theorem AllRead.one {phrase : Phrase} (reads : Reads phrase) : AllRead [phrase] :=
  List.forall_mem_singleton.mpr reads

theorem AllRead.words {texts : List String} (solid : ∀ text ∈ texts, IsSolid (.word text)) :
    AllRead (words texts) := by
  intro phrase member
  obtain ⟨text, among, rfl⟩ := List.mem_map.mp member
  exact reads_singleton (solid text among)

theorem AllRead.identifier {name : String} : AllRead [[.identifier name]] :=
  .one (reads_singleton trivial)

theorem AllRead.literal {value : String} : AllRead [[.literal value]] :=
  .one (reads_singleton trivial)

theorem reads_identifierList {names : List String} : Reads (identifierList names) :=
  reads_commaSeparated (List.forall_mem_map.mpr fun _ _ => trivial)

theorem isSolid_keyword (privilege : Privilege) : IsSolid (.word privilege.keyword) := by
  cases privilege <;> decide

theorem reads_privilegeList {privileges : List Privilege} : Reads (privilegeList privileges) :=
  reads_commaSeparated
    (List.forall_mem_map.mpr fun privilege _ => isSolid_keyword privilege)

theorem reads_objectPhrase {objectType : ObjectType} {schema object : String} :
    Reads (objectPhrase objectType schema object) := by
  rw [objectPhrase]
  split
  · exact reads_qualified
  · exact reads_singleton trivial

theorem allRead_listClause {keywords names : List String}
    (solid : ∀ text ∈ keywords, IsSolid (.word text)) : AllRead (listClause keywords names) := by
  cases names with
  | nil => exact .nil
  | cons name names => exact (AllRead.words solid).append (.one reads_identifierList)

theorem allRead_schemaClause {schema : Option String} : AllRead (schemaClause schema) := by
  cases schema with
  | none => exact .nil
  | some schema => exact (AllRead.words (by decide)).append .identifier

theorem allRead_password {change : PasswordChange} : AllRead change.phrases := by
  cases change with
  | keep => exact .nil
  | set password =>
      exact (AllRead.one (reads_singleton (by decide))).append .literal
  | clear => exact .words (by decide)

theorem allRead_attributes {attributes : RoleAttributes} : AllRead attributes.phrases := by
  have switch : ∀ given : Bool, ∀ keyword ∈
      ["SUPERUSER", "CREATEDB", "CREATEROLE", "INHERIT", "REPLICATION", "BYPASSRLS"],
      IsSolid (.word (attributeWord given keyword)) := by
    decide
  refine AllRead.append (.words ?_) (.one (reads_singleton trivial))
  simp only [List.forall_mem_cons] at switch ⊢
  exact ⟨(switch _).1, (switch _).2.1, (switch _).2.2.1, (switch _).2.2.2.1,
    (switch _).2.2.2.2.1, (switch _).2.2.2.2.2.1, by decide, by decide,
    fun _ none => absurd none List.not_mem_nil⟩

theorem allRead_options {options : RoleOptions} : AllRead options.phrases := by
  have login : ∀ given : Bool, ∀ text ∈ [attributeWord given "LOGIN"],
      IsSolid (.word text) := by
    decide
  exact ((((AllRead.words (login _)).append allRead_password).append allRead_attributes).append
    (.words (by decide))).append .literal

theorem isSolid_objectType (objectType : ObjectType) : IsSolid (.word objectType.keyword) := by
  cases objectType <;> decide

theorem isSolid_futureObjectType (objectType : FutureObjectType) :
    IsSolid (.word objectType.keyword) := by
  cases objectType <;> decide

theorem Command.allRead_phrases (command : Command) : AllRead command.phrases := by
  have onObject : ∀ objectType : ObjectType, ∀ text ∈ ["ON", objectType.keyword],
      IsSolid (.word text) := fun objectType =>
    List.forall_mem_cons.mpr
      ⟨by decide, List.forall_mem_singleton.mpr (isSolid_objectType objectType)⟩
  have onFuture : ∀ objectType : FutureObjectType, ∀ last : String, IsSolid (.word last) →
      ∀ text ∈ ["ON", objectType.keyword, last], IsSolid (.word text) :=
    fun objectType last solid =>
      List.forall_mem_cons.mpr ⟨by decide, List.forall_mem_cons.mpr
        ⟨isSolid_futureObjectType objectType, List.forall_mem_singleton.mpr solid⟩⟩
  have privileges : ∀ privileges : List Privilege, AllRead [privilegeList privileges] :=
    fun _ => .one reads_privilegeList
  have object : ∀ objectType schema object, AllRead [objectPhrase objectType schema object] :=
    fun _ _ _ => .one reads_objectPhrase
  cases command with
  | createDatabase name => exact (AllRead.words (by decide)).append .identifier
  | alterDatabaseOwner name owner =>
      exact (((AllRead.words (by decide)).append .identifier).append
        (.words (by decide))).append .identifier
  | dropDatabase name => exact (AllRead.words (by decide)).append .identifier
  | createSchema name => exact (AllRead.words (by decide)).append .identifier
  | alterSchemaOwner name owner =>
      exact (((AllRead.words (by decide)).append .identifier).append
        (.words (by decide))).append .identifier
  | dropSchema name => exact (AllRead.words (by decide)).append .identifier
  | createRole name options inRole members =>
      exact (((((AllRead.words (by decide)).append .identifier).append
        (.words (by decide))).append allRead_options).append
          (allRead_listClause (by decide))).append (allRead_listClause (by decide))
  | alterRole name options =>
      exact (((AllRead.words (by decide)).append .identifier).append
        (.words (by decide))).append allRead_options
  | dropRole name => exact (AllRead.words (by decide)).append .identifier
  | commentOnRole name comment =>
      refine (((AllRead.words (by decide)).append .identifier).append
        (.words (by decide))).append ?_
      cases comment with
      | none => exact .one (reads_singleton (by decide))
      | some text => exact .literal
  | grantMembership group member =>
      exact (((AllRead.words (by decide)).append .identifier).append
        (.words (by decide))).append .identifier
  | revokeMembership group member =>
      exact (((AllRead.words (by decide)).append .identifier).append
        (.words (by decide))).append .identifier
  | grantOnObject objectType schema name given role =>
      exact (((((AllRead.words (by decide)).append (privileges given)).append
        (.words (onObject objectType))).append (object objectType schema name)).append
          (.words (by decide))).append .identifier
  | revokeOnObject objectType schema name given role =>
      exact (((((AllRead.words (by decide)).append (privileges given)).append
        (.words (onObject objectType))).append (object objectType schema name)).append
          (.words (by decide))).append .identifier
  | grantDefaultPrivileges owner schema objectType given role =>
      exact ((((((AllRead.words (by decide)).append .identifier).append
        allRead_schemaClause).append (.words (by decide))).append (privileges given)).append
          (.words (onFuture objectType _ (by decide)))).append .identifier
  | revokeDefaultPrivileges owner schema objectType given role =>
      exact ((((((AllRead.words (by decide)).append .identifier).append
        allRead_schemaClause).append (.words (by decide))).append (privileges given)).append
          (.words (onFuture objectType _ (by decide)))).append .identifier

theorem Command.tokens?_text (command : Command) :
    tokens? command.text = some command.tokens :=
  tokens?_spell command.allRead_phrases

/-! ## Names, texts and keywords -/

def Token.identifier? : Token → Option String
  | .identifier name => some name
  | _ => none

def Token.literal? : Token → Option String
  | .literal value => some value
  | _ => none

/-- The token without the name or the text that it holds. -/
def Token.blank : Token → Token
  | .identifier _ => .identifier ""
  | .literal _ => .literal ""
  | token => token

/-- The texts that a command is given for a role: its password, if it is set, and its expiry. -/
def RoleOptions.texts (options : RoleOptions) : List String :=
  (match options.password with
    | .set password => [password]
    | _ => []) ++ [expiryText options.validUntil]

/-- The options with nothing in place of their texts. -/
def RoleOptions.blank (options : RoleOptions) : RoleOptions :=
  { options with
    password :=
      match options.password with
      | .set _ => .set ""
      | change => change
    validUntil := none }

/-- The names of an object, within its schema if its type has one. -/
def objectNames (objectType : ObjectType) (schema object : String) : List String :=
  if objectType.isSchemaQualified then [schema, object] else [object]

namespace Command

def names : Command → List String
  | .createDatabase name => [name]
  | .alterDatabaseOwner name owner => [name, owner]
  | .dropDatabase name => [name]
  | .createSchema name => [name]
  | .alterSchemaOwner name owner => [name, owner]
  | .dropSchema name => [name]
  | .createRole name _ inRole members => name :: (inRole ++ members)
  | .alterRole name _ => [name]
  | .dropRole name => [name]
  | .commentOnRole name _ => [name]
  | .grantMembership group member => [group, member]
  | .revokeMembership group member => [group, member]
  | .grantOnObject objectType schema object _ role => objectNames objectType schema object ++ [role]
  | .revokeOnObject objectType schema object _ role =>
      objectNames objectType schema object ++ [role]
  | .grantDefaultPrivileges owner schema _ _ role => owner :: (schema.toList ++ [role])
  | .revokeDefaultPrivileges owner schema _ _ role => owner :: (schema.toList ++ [role])

def texts : Command → List String
  | .createRole _ options _ _ => options.texts
  | .alterRole _ options => options.texts
  | .commentOnRole _ comment => comment.toList
  | _ => []

/-- The command with nothing in place of its names and texts. -/
def blank : Command → Command
  | .createDatabase _ => .createDatabase ""
  | .alterDatabaseOwner _ _ => .alterDatabaseOwner "" ""
  | .dropDatabase _ => .dropDatabase ""
  | .createSchema _ => .createSchema ""
  | .alterSchemaOwner _ _ => .alterSchemaOwner "" ""
  | .dropSchema _ => .dropSchema ""
  | .createRole _ options inRole members =>
      .createRole "" options.blank (inRole.map fun _ => "") (members.map fun _ => "")
  | .alterRole _ options => .alterRole "" options.blank
  | .dropRole _ => .dropRole ""
  | .commentOnRole _ comment => .commentOnRole "" (comment.map fun _ => "")
  | .grantMembership _ _ => .grantMembership "" ""
  | .revokeMembership _ _ => .revokeMembership "" ""
  | .grantOnObject objectType _ _ privileges _ => .grantOnObject objectType "" "" privileges ""
  | .revokeOnObject objectType _ _ privileges _ => .revokeOnObject objectType "" "" privileges ""
  | .grantDefaultPrivileges _ schema objectType privileges _ =>
      .grantDefaultPrivileges "" (schema.map fun _ => "") objectType privileges ""
  | .revokeDefaultPrivileges _ schema objectType privileges _ =>
      .revokeDefaultPrivileges "" (schema.map fun _ => "") objectType privileges ""

end Command

section Parts

variable {α : Type}

/-- What is taken from the tokens of phrases, one after the other. -/
def taken (take : Token → Option α) (phrases : List Phrase) : List α :=
  phrases.flatten.filterMap take

variable {take : Token → Option α}

theorem taken_append {first second : List Phrase} :
    taken take (first ++ second) = taken take first ++ taken take second := by
  rw [taken, List.flatten_append, List.filterMap_append, taken, taken]

theorem taken_words (noWords : ∀ text, take (.word text) = none) {texts : List String} :
    taken take (words texts) = [] := by
  induction texts with
  | nil => rfl
  | cons text texts ih =>
      rw [words, List.map_cons, taken, List.flatten_cons, List.singleton_append,
        List.filterMap_cons_none (noWords text)]
      exact ih

theorem filterMap_commaSeparated (noCommas : take .comma = none) {tokens : List Token} :
    (commaSeparated tokens).filterMap take = tokens.filterMap take := by
  induction tokens with
  | nil => rfl
  | cons first others ih =>
      cases others with
      | nil => rfl
      | cons second others =>
          have shape : commaSeparated (first :: second :: others) =
              [first] ++ .comma :: commaSeparated (second :: others) := rfl
          rw [shape, List.filterMap_append, List.filterMap_cons_none noCommas, ih,
            ← List.filterMap_append, List.singleton_append]

theorem taken_one {phrase : Phrase} : taken take [phrase] = phrase.filterMap take := by
  rw [taken, List.flatten_singleton]

theorem taken_identifier {name : String} :
    taken take [[.identifier name]] = [name].filterMap fun name => take (.identifier name) :=
  rfl

theorem taken_identifierList (noCommas : take .comma = none) {names : List String} :
    taken take [identifierList names] = names.filterMap fun name => take (.identifier name) := by
  rw [taken_one, identifierList, filterMap_commaSeparated noCommas, List.filterMap_map]
  rfl

theorem taken_privilegeList (noWords : ∀ text, take (.word text) = none)
    (noCommas : take .comma = none) {privileges : List Privilege} :
    taken take [privilegeList privileges] = [] := by
  rw [taken_one, privilegeList, filterMap_commaSeparated noCommas, List.filterMap_map]
  exact List.filterMap_eq_nil_iff.mpr fun privilege _ => noWords privilege.keyword

theorem taken_objectPhrase (noDots : take .dot = none) {objectType : ObjectType}
    {schema object : String} :
    taken take [objectPhrase objectType schema object] =
      (objectNames objectType schema object).filterMap fun name => take (.identifier name) := by
  rw [taken_one, objectPhrase, objectNames]
  split
  · rw [qualified, List.filterMap_cons, List.filterMap_cons_none noDots]
    rfl
  · rfl

theorem taken_listClause (noWords : ∀ text, take (.word text) = none)
    (noCommas : take .comma = none) {keywords names : List String} :
    taken take (listClause keywords names) =
      names.filterMap fun name => take (.identifier name) := by
  cases names with
  | nil => rfl
  | cons name names =>
      rw [listClause, taken_append, taken_words noWords, taken_identifierList noCommas,
        List.nil_append]

theorem taken_schemaClause (noWords : ∀ text, take (.word text) = none) {schema : Option String} :
    taken take (schemaClause schema) =
      schema.toList.filterMap fun name => take (.identifier name) := by
  cases schema with
  | none => rfl
  | some schema =>
      rw [schemaClause, taken_append, taken_words noWords, List.nil_append]
      rfl

theorem identifiers_options {options : RoleOptions} :
    taken Token.identifier? options.phrases = [] := by
  cases options with
  | mk login password attributes validUntil => cases password <;> rfl

theorem literals_options {options : RoleOptions} :
    taken Token.literal? options.phrases = options.texts := by
  cases options with
  | mk login password attributes validUntil => cases password <;> rfl

theorem Command.identifiers_tokens (command : Command) :
    command.tokens.filterMap Token.identifier? = command.names := by
  have start : command.tokens.filterMap Token.identifier? =
      taken Token.identifier? command.phrases := rfl
  have noWords : ∀ text, Token.identifier? (.word text) = none := fun _ => rfl
  have noDots : Token.identifier? .dot = none := rfl
  have all : (fun name => Token.identifier? (.identifier name)) = some := rfl
  rw [start]
  cases command with
  | commentOnRole name comment => cases comment <;> rfl
  | _ =>
      simp only [phrases, names, taken_append, taken_words noWords, taken_identifier,
        taken_privilegeList noWords rfl, taken_objectPhrase noDots, taken_listClause noWords rfl,
        taken_schemaClause noWords, identifiers_options, all, List.filterMap_some,
        List.nil_append, List.append_nil, List.cons_append]

theorem Command.literals_tokens (command : Command) :
    command.tokens.filterMap Token.literal? = command.texts := by
  have start : command.tokens.filterMap Token.literal? =
      taken Token.literal? command.phrases := rfl
  have noWords : ∀ text, Token.literal? (.word text) = none := fun _ => rfl
  have noDots : Token.literal? .dot = none := rfl
  have nothing : ∀ names : List String,
      names.filterMap (fun name => Token.literal? (.identifier name)) = [] :=
    fun _ => List.filterMap_eq_nil_iff.mpr fun _ _ => rfl
  rw [start]
  cases command with
  | commentOnRole name comment => cases comment <;> rfl
  | _ =>
      simp only [phrases, texts, taken_append, taken_words noWords, taken_identifier,
        taken_privilegeList noWords rfl, taken_objectPhrase noDots, taken_listClause noWords rfl,
        taken_schemaClause noWords, literals_options, nothing, List.nil_append,
        List.append_nil]

end Parts

section Keywords

/-- The tokens of phrases without the names and the texts that they hold. -/
def blanks (phrases : List Phrase) : List Token :=
  phrases.flatten.map Token.blank

theorem blanks_append {first second : List Phrase} :
    blanks (first ++ second) = blanks first ++ blanks second := by
  rw [blanks, List.flatten_append, List.map_append, blanks, blanks]

theorem map_commaSeparated (change : Token → Token) (commas : change .comma = .comma)
    {tokens : List Token} :
    (commaSeparated tokens).map change = commaSeparated (tokens.map change) := by
  induction tokens with
  | nil => rfl
  | cons first others ih =>
      cases others with
      | nil => rfl
      | cons second others =>
          have shape : commaSeparated (first :: second :: others) =
              first :: .comma :: commaSeparated (second :: others) := rfl
          rw [shape, List.map_cons, List.map_cons, commas, ih]
          rfl

theorem blanks_identifierList {names : List String} :
    blanks [identifierList names] = blanks [identifierList (names.map fun _ => "")] := by
  simp only [blanks, List.flatten_singleton, identifierList, map_commaSeparated Token.blank rfl,
    List.map_map]
  rfl

theorem blanks_listClause {keywords names : List String} :
    blanks (listClause keywords names) = blanks (listClause keywords (names.map fun _ => "")) := by
  cases names with
  | nil => rfl
  | cons name names =>
      rw [listClause, blanks_append, blanks_identifierList, ← blanks_append]
      rfl

theorem blanks_schemaClause {schema : Option String} :
    blanks (schemaClause schema) = blanks (schemaClause (schema.map fun _ => "")) := by
  cases schema <;> rfl

theorem blanks_objectPhrase {objectType : ObjectType} {schema object : String} :
    blanks [objectPhrase objectType schema object] = blanks [objectPhrase objectType "" ""] := by
  cases objectType <;> rfl

theorem blanks_identifier {name : String} :
    blanks [[.identifier name]] = blanks [[.identifier ""]] := rfl

theorem blanks_options {options : RoleOptions} :
    blanks options.phrases = blanks options.blank.phrases := by
  cases options with
  | mk login password attributes validUntil => cases password <;> rfl

/-- The keywords of a command do not depend on its names and texts, and neither does where
those stand. -/
theorem Command.blanks_tokens (command : Command) :
    command.tokens.map Token.blank = command.blank.tokens.map Token.blank := by
  have start : ∀ command : Command, command.tokens.map Token.blank = blanks command.phrases :=
    fun _ => rfl
  rw [start, start]
  cases command with
  | commentOnRole name comment => cases comment <;> rfl
  | createRole name options inRole members =>
      simp only [phrases, blank, blanks_append]
      rw [blanks_identifier, blanks_options, @blanks_listClause _ inRole,
        @blanks_listClause _ members]
  | alterRole name options =>
      simp only [phrases, blank, blanks_append]
      rw [blanks_identifier, blanks_options]
  | grantOnObject objectType schema object privileges role =>
      simp only [phrases, blank, blanks_append]
      rw [blanks_objectPhrase, @blanks_identifier role]
  | revokeOnObject objectType schema object privileges role =>
      simp only [phrases, blank, blanks_append]
      rw [blanks_objectPhrase, @blanks_identifier role]
  | grantDefaultPrivileges owner schema objectType privileges role =>
      simp only [phrases, blank, blanks_append]
      rw [blanks_schemaClause, @blanks_identifier owner, @blanks_identifier role]
  | revokeDefaultPrivileges owner schema objectType privileges role =>
      simp only [phrases, blank, blanks_append]
      rw [blanks_schemaClause, @blanks_identifier owner, @blanks_identifier role]
  | _ => rfl

end Keywords

end CatalogSteward.Sql
