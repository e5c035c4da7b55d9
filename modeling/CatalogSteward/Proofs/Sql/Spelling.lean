import CatalogSteward.Proofs.Sql.Command

/-!
# Spellings

Two commands are spelled in the same way only where everything that is spelled
is the same: the lists in a spelling end where they seem to end, no option can be
taken for another one, and the texts of expiries differ where the expiries do.
-/

set_option autoImplicit false

namespace CatalogSteward.Sql

open Lexer Time

/-! ## Lists -/

/-- A list with commas and what follows it are determined by the whole, where what follows
starts neither with a comma nor with what could be an element. -/
theorem commaSeparated_append_inj (isElement : Token → Bool)
    {left right leftRest rightRest : List Token}
    (leftElements : ∀ token ∈ left, isElement token = true)
    (rightElements : ∀ token ∈ right, isElement token = true)
    (leftEnds : ∀ token, leftRest.head? = some token → isElement token = false ∧ token ≠ .comma)
    (rightEnds : ∀ token, rightRest.head? = some token → isElement token = false ∧ token ≠ .comma)
    (same : commaSeparated left ++ leftRest = commaSeparated right ++ rightRest) :
    left = right ∧ leftRest = rightRest := by
  have starts : ∀ (first : Token) (others rest : List Token), isElement first = true →
      (∀ token, rest.head? = some token → isElement token = false ∧ token ≠ .comma) →
        ∀ tokens, rest ≠ commaSeparated (first :: others) ++ tokens := by
    intro first others rest element ends tokens equal
    have head : (commaSeparated (first :: others) ++ tokens).head? = some first := by
      cases others <;> rfl
    have notElement := (ends first (by rw [equal, head])).1
    rw [element] at notElement
    exact Bool.noConfusion notElement
  have goesOn : ∀ rest tokens : List Token,
      (∀ token, rest.head? = some token → isElement token = false ∧ token ≠ .comma) →
        rest ≠ .comma :: tokens := by
    intro rest tokens ends equal
    exact (ends .comma (by rw [equal]; rfl)).2 rfl
  -- Neither list can end before the other one: what follows it would start with an element.
  induction left generalizing right with
  | nil =>
      cases right with
      | nil => exact ⟨rfl, same⟩
      | cons other right =>
          exact absurd same
            (starts other right leftRest (rightElements other List.mem_cons_self) leftEnds _)
  | cons first left ih =>
      obtain ⟨isFirst, areLeft⟩ := List.forall_mem_cons.mp leftElements
      cases right with
      | nil => exact absurd same.symm (starts first left rightRest isFirst rightEnds _)
      | cons other right =>
          obtain ⟨isOther, areRight⟩ := List.forall_mem_cons.mp rightElements
          cases left with
          | nil =>
              cases right with
              | nil =>
                  obtain ⟨equal, rest⟩ := List.cons.inj same
                  exact ⟨by rw [equal], rest⟩
              | cons next right =>
                  exact absurd (List.cons.inj same).2 (goesOn _ _ leftEnds)
          | cons second left =>
              cases right with
              | nil => exact absurd (List.cons.inj same).2.symm (goesOn _ _ rightEnds)
              | cons next right =>
                  obtain ⟨equal, rest⟩ := List.cons.inj same
                  obtain ⟨equals, rests⟩ := ih areLeft areRight (List.cons.inj rest).2
                  exact ⟨by rw [equal, equals], rests⟩

/-- What may follow a list of names: nothing, or a word. -/
def FollowsNames (rest : List Token) : Prop :=
  ∀ token, rest.head? = some token → token.identifier?.isSome = false ∧ token ≠ .comma

theorem followsNames_nil : FollowsNames [] :=
  fun _ none => nomatch none

theorem followsNames_word {text : String} {rest : List Token} :
    FollowsNames (.word text :: rest) := by
  intro token head
  cases head
  exact ⟨rfl, nofun⟩

theorem identifierList_append_inj {left right : List String} {leftRest rightRest : List Token}
    (leftEnds : FollowsNames leftRest) (rightEnds : FollowsNames rightRest)
    (same : identifierList left ++ leftRest = identifierList right ++ rightRest) :
    left = right ∧ leftRest = rightRest := by
  obtain ⟨tokens, rest⟩ := commaSeparated_append_inj (fun token => token.identifier?.isSome)
    (List.forall_mem_map.mpr fun _ _ => rfl) (List.forall_mem_map.mpr fun _ _ => rfl) leftEnds
    rightEnds same
  exact ⟨(List.map_inj_right fun _ _ => Token.identifier.inj).mp tokens, rest⟩

theorem listClause_flatten {keywords : List String} {first : String} {others : List String} :
    (listClause keywords (first :: others)).flatten =
      keywords.map .word ++ identifierList (first :: others) := by
  have spelled : (words keywords).flatten = keywords.map .word := by
    induction keywords with
    | nil => rfl
    | cons keyword keywords ih =>
        rw [words, List.map_cons, List.flatten_cons, List.map_cons, ← ih]
        rfl
  rw [listClause, List.flatten_append, spelled, List.flatten_singleton]

theorem followsNames_listClause {names : List String} :
    FollowsNames (listClause ["ROLE"] names).flatten := by
  cases names with
  | nil => exact followsNames_nil
  | cons name names => exact followsNames_word

theorem memberClause_injective {left right : List String}
    (same : (listClause ["ROLE"] left).flatten = (listClause ["ROLE"] right).flatten) :
    left = right := by
  cases left with
  | nil =>
      cases right with
      | nil => rfl
      | cons name names => exact absurd same nofun
  | cons first others =>
      cases right with
      | nil => exact absurd same nofun
      | cons name names =>
          rw [listClause_flatten, listClause_flatten] at same
          have lists : identifierList (first :: others) ++ [] =
              identifierList (name :: names) ++ [] := by
            rw [List.append_nil, List.append_nil]
            exact (List.cons.inj same).2
          exact (identifierList_append_inj followsNames_nil followsNames_nil lists).1

theorem membershipClauses_injective {left right leftMembers rightMembers : List String}
    (same : (listClause ["IN", "ROLE"] left).flatten ++ (listClause ["ROLE"] leftMembers).flatten =
      (listClause ["IN", "ROLE"] right).flatten ++
        (listClause ["ROLE"] rightMembers).flatten) :
    left = right ∧ leftMembers = rightMembers := by
  have apart : ∀ (members : List String) (tokens : List Token),
      (listClause ["ROLE"] members).flatten ≠ .word "IN" :: tokens := by
    intro members tokens equal
    cases members with
    | nil => exact absurd equal nofun
    | cons member members =>
        exact absurd (Token.word.inj (List.cons.inj equal).1) (by decide)
  cases left with
  | nil =>
      cases right with
      | nil => exact ⟨rfl, memberClause_injective same⟩
      | cons name names =>
          rw [listClause_flatten] at same
          exact absurd same (apart _ _)
  | cons first others =>
      cases right with
      | nil =>
          rw [listClause_flatten] at same
          exact absurd same.symm (apart _ _)
      | cons name names =>
          rw [listClause_flatten, listClause_flatten, List.append_assoc, List.append_assoc] at same
          obtain ⟨groups, members⟩ := identifierList_append_inj followsNames_listClause
            followsNames_listClause (List.cons.inj (List.cons.inj same).2).2
          exact ⟨groups, memberClause_injective members⟩

def Token.privilege? : Token → Option Privilege
  | .word text => Privilege.all.find? fun privilege => privilege.keyword = text
  | _ => none

theorem Token.privilege?_keyword (privilege : Privilege) :
    Token.privilege? (.word privilege.keyword) = some privilege := by
  cases privilege <;> decide

theorem privilegeList_append_inj {left right : List Privilege} {leftRest rightRest : List Token}
    (same : privilegeList left ++ .word "ON" :: leftRest =
      privilegeList right ++ .word "ON" :: rightRest) :
    left = right ∧ leftRest = rightRest := by
  have element : ∀ privileges : List Privilege,
      ∀ token ∈ privileges.map fun privilege => Token.word privilege.keyword,
        token.privilege?.isSome = true :=
    fun _ => List.forall_mem_map.mpr fun privilege _ => by
      rw [Token.privilege?_keyword]
      rfl
  have ends : ∀ (rest : List Token) (token : Token),
      (.word "ON" :: rest : List Token).head? = some token →
        token.privilege?.isSome = false ∧ token ≠ .comma := by
    intro rest token head
    cases head
    exact ⟨by decide, nofun⟩
  obtain ⟨tokens, rest⟩ := commaSeparated_append_inj (fun token => token.privilege?.isSome)
    (element left) (element right) (ends _) (ends _) same
  refine ⟨(List.map_inj_right ?_).mp tokens, (List.cons.inj rest).2⟩
  intro one other equal
  have both : some one = some other := by
    rw [← Token.privilege?_keyword one, equal, Token.privilege?_keyword]
  exact Option.some.inj both

/-! ## Options -/

theorem attributeWord_inj {left right : Bool} {keyword : String} :
    attributeWord left keyword = attributeWord right keyword ↔ left = right := by
  have apart : keyword ≠ "NO" ++ keyword := by
    intro same
    have lengths := congrArg String.length same
    rw [String.length_append] at lengths
    have two : "NO".length = 2 := rfl
    omega
  cases left <;> cases right <;> simp [attributeWord, apart, apart.symm]

theorem expiryText_injective {left right : Option Instant}
    (leftValid : ∀ instant, left = some instant → instant.isValid = true)
    (rightValid : ∀ instant, right = some instant → instant.isValid = true)
    (same : expiryText left = expiryText right) : left = right := by
  have apart : ∀ instant : Instant, instant.rfc3339 .fewest ≠ "infinity" := by
    intro instant equal
    obtain ⟨first, others, spelled, head⟩ := instant.head_rfc3339
    rw [equal] at spelled
    cases spelled
    exact absurd head (by decide)
  cases left with
  | none =>
      cases right with
      | none => rfl
      | some instant => exact absurd same.symm (apart instant)
  | some instant =>
      cases right with
      | none => exact absurd same (apart instant)
      | some other =>
          rw [Instant.rfc3339_injective (leftValid instant rfl) (rightValid other rfl) same]

theorem attributes_append_inj {left right : RoleAttributes} {leftRest rightRest : List Token}
    (same : left.phrases.flatten ++ leftRest = right.phrases.flatten ++ rightRest) :
    left = right ∧ leftRest = rightRest := by
  have shape : ∀ attributes : RoleAttributes, attributes.phrases.flatten =
      [.word (attributeWord attributes.superuser "SUPERUSER"),
        .word (attributeWord attributes.createdb "CREATEDB"),
        .word (attributeWord attributes.createrole "CREATEROLE"),
        .word (attributeWord attributes.inherit "INHERIT"),
        .word (attributeWord attributes.replication "REPLICATION"),
        .word (attributeWord attributes.bypassrls "BYPASSRLS"),
        .word "CONNECTION", .word "LIMIT", .integer attributes.connectionLimit.toInt] :=
    fun _ => rfl
  simp only [shape, List.cons_append, List.nil_append, List.cons.injEq, Token.word.injEq,
    Token.integer.injEq, attributeWord_inj, Int32.toInt_inj, true_and] at same
  obtain ⟨superuser, createdb, createrole, inherit, replication, bypassrls, limit, rest⟩ := same
  cases left
  cases right
  simp only at superuser createdb createrole inherit replication bypassrls limit
  exact ⟨by rw [superuser, createdb, createrole, inherit, replication, bypassrls, limit], rest⟩

theorem password_append_inj {left right : PasswordChange} {leftAttributes rightAttributes :
      RoleAttributes} {leftRest rightRest : List Token}
    (same : left.phrases.flatten ++ (leftAttributes.phrases.flatten ++ leftRest) =
      right.phrases.flatten ++ (rightAttributes.phrases.flatten ++ rightRest)) :
    left = right ∧ leftAttributes.phrases.flatten ++ leftRest =
      rightAttributes.phrases.flatten ++ rightRest := by
  have apart : ∀ (attributes : RoleAttributes) (rest tokens : List Token),
      attributes.phrases.flatten ++ rest ≠ .word "PASSWORD" :: tokens := by
    intro attributes rest tokens equal
    have words : attributeWord attributes.superuser "SUPERUSER" = "PASSWORD" :=
      Token.word.inj (List.cons.inj equal).1
    have differ : ∀ given : Bool, attributeWord given "SUPERUSER" ≠ "PASSWORD" := by decide
    exact differ _ words
  cases left with
  | keep =>
      cases right with
      | keep => exact ⟨rfl, same⟩
      | set password => exact absurd same (apart _ _ _)
      | clear => exact absurd same (apart _ _ _)
  | set password =>
      cases right with
      | keep => exact absurd same.symm (apart _ _ _)
      | set other =>
          obtain ⟨-, equal⟩ := List.cons.inj same
          obtain ⟨texts, rest⟩ := List.cons.inj equal
          exact ⟨by rw [Token.literal.inj texts], rest⟩
      | clear => exact absurd (List.cons.inj (List.cons.inj same).2).1 nofun
  | clear =>
      cases right with
      | keep => exact absurd same.symm (apart _ _ _)
      | set password => exact absurd (List.cons.inj (List.cons.inj same).2).1 nofun
      | clear => exact ⟨rfl, (List.cons.inj (List.cons.inj same).2).2⟩

/-- The expiry of options, where it has one, is a point in time. -/
def RoleOptions.IsValid (options : RoleOptions) : Prop :=
  ∀ instant, options.validUntil = some instant → instant.isValid = true

/-- Options and what follows them are determined by the whole. -/
theorem options_append_inj {left right : RoleOptions} {leftRest rightRest : List Token}
    (leftValid : left.IsValid) (rightValid : right.IsValid)
    (same : left.phrases.flatten ++ leftRest = right.phrases.flatten ++ rightRest) :
    left = right ∧ leftRest = rightRest := by
  have shape : ∀ (options : RoleOptions) (rest : List Token), options.phrases.flatten ++ rest =
      .word (attributeWord options.login "LOGIN") :: (options.password.phrases.flatten ++
        (options.attributes.phrases.flatten ++
          .word "VALID" :: .word "UNTIL" :: .literal (expiryText options.validUntil) :: rest)) := by
    intro options rest
    rw [RoleOptions.phrases, List.flatten_append, List.flatten_append, List.flatten_append,
      List.flatten_append, List.append_assoc, List.append_assoc, List.append_assoc,
      List.append_assoc]
    rfl
  rw [shape, shape, List.cons.injEq, Token.word.injEq, attributeWord_inj] at same
  obtain ⟨login, same⟩ := same
  obtain ⟨password, same⟩ := password_append_inj same
  obtain ⟨attributes, same⟩ := attributes_append_inj same
  simp only [List.cons.injEq, Token.literal.injEq, true_and] at same
  obtain ⟨expiry, rest⟩ := same
  have validUntil := expiryText_injective leftValid rightValid expiry
  cases left
  cases right
  simp only at login password attributes validUntil
  exact ⟨by rw [login, password, attributes, validUntil], rest⟩

/-! ## Commands -/

namespace Command

/-- The expiry that a command sets, where it sets one, is a point in time. -/
def IsValid : Command → Prop
  | .createRole _ options _ _ => options.IsValid
  | .alterRole _ options => options.IsValid
  | _ => True

/-- The command without what is not spelled: the schema of an object that has none. -/
def spelled : Command → Command
  | .grantOnObject objectType schema object privileges role =>
      .grantOnObject objectType (if objectType.isSchemaQualified then schema else "") object
        privileges role
  | .revokeOnObject objectType schema object privileges role =>
      .revokeOnObject objectType (if objectType.isSchemaQualified then schema else "") object
        privileges role
  | command => command

end Command

theorem objectPhrase_append_inj {objectType : ObjectType} {schema object otherSchema
      otherObject : String} {rest otherRest : List Token}
    (same : objectPhrase objectType schema object ++ rest =
      objectPhrase objectType otherSchema otherObject ++ otherRest) :
    (if objectType.isSchemaQualified then schema else "") =
        (if objectType.isSchemaQualified then otherSchema else "") ∧
      object = otherObject ∧ rest = otherRest := by
  rw [objectPhrase, objectPhrase] at same
  cases qualified : objectType.isSchemaQualified with
  | false =>
      rw [qualified] at same
      obtain ⟨name, rest⟩ := List.cons.inj same
      exact ⟨rfl, Token.identifier.inj name, rest⟩
  | true =>
      rw [qualified] at same
      obtain ⟨schemas, names⟩ := List.cons.inj same
      obtain ⟨name, rest⟩ := List.cons.inj (List.cons.inj names).2
      exact ⟨Token.identifier.inj schemas, Token.identifier.inj name, rest⟩

theorem schemaClause_append_inj {left right : Option String} {leftWord rightWord : String}
    {leftRest rightRest : List Token} (leftOther : leftWord ≠ "IN") (rightOther : rightWord ≠ "IN")
    (same : (schemaClause left).flatten ++ .word leftWord :: leftRest =
      (schemaClause right).flatten ++ .word rightWord :: rightRest) :
    left = right ∧ leftWord = rightWord ∧ leftRest = rightRest := by
  cases left with
  | none =>
      cases right with
      | none =>
          obtain ⟨word, rest⟩ := List.cons.inj same
          exact ⟨rfl, Token.word.inj word, rest⟩
      | some schema => exact absurd (Token.word.inj (List.cons.inj same).1) leftOther
  | some schema =>
      cases right with
      | none => exact absurd (Token.word.inj (List.cons.inj same).1).symm rightOther
      | some other =>
          obtain ⟨name, rest⟩ := List.cons.inj (List.cons.inj (List.cons.inj same).2).2
          obtain ⟨word, rest⟩ := List.cons.inj rest
          exact ⟨by rw [Token.identifier.inj name], Token.word.inj word, rest⟩

theorem FutureObjectType.keyword_injective {left right : FutureObjectType}
    (same : left.keyword = right.keyword) : left = right := by
  cases left <;> cases right <;> simp_all [FutureObjectType.keyword]

theorem ObjectType.keyword_injective {left right : ObjectType}
    (same : left.keyword = right.keyword) : left = right := by
  cases left <;> cases right <;> simp_all [ObjectType.keyword]

theorem onObject_append_inj {left right : List Privilege} {leftType rightType : ObjectType}
    {leftSchema rightSchema leftObject rightObject direction leftRole rightRole : String}
    (same : privilegeList left ++ .word "ON" :: .word leftType.keyword ::
        (objectPhrase leftType leftSchema leftObject ++
          [.word direction, .identifier leftRole]) =
      privilegeList right ++ .word "ON" :: .word rightType.keyword ::
        (objectPhrase rightType rightSchema rightObject ++
          [.word direction, .identifier rightRole])) :
    left = right ∧ leftType = rightType ∧
      (if leftType.isSchemaQualified then leftSchema else "") =
        (if rightType.isSchemaQualified then rightSchema else "") ∧
      leftObject = rightObject ∧ leftRole = rightRole := by
  obtain ⟨privileges, same⟩ := privilegeList_append_inj same
  obtain ⟨types, same⟩ := List.cons.inj same
  have type := ObjectType.keyword_injective (Token.word.inj types)
  subst type
  obtain ⟨schema, object, same⟩ := objectPhrase_append_inj same
  exact ⟨privileges, rfl, schema, object,
    Token.identifier.inj (List.cons.inj (List.cons.inj same).2).1⟩

theorem privilegeList_append_ne {privileges : List Privilege} {name : String}
    {rest tokens : List Token} :
    privilegeList privileges ++ .word "ON" :: rest ≠ .identifier name :: tokens := by
  intro same
  cases privileges with
  | nil => exact absurd (List.cons.inj same).1 nofun
  | cons first others =>
      cases others with
      | nil => exact absurd (List.cons.inj same).1 nofun
      | cons second others => exact absurd (List.cons.inj same).1 nofun

namespace Command

theorem tokens_createRole {name : String} {options : RoleOptions} {inRole members : List String} :
    (createRole name options inRole members).tokens =
      .word "CREATE" :: .word "ROLE" :: .identifier name :: .word "WITH" ::
        (options.phrases.flatten ++
          ((listClause ["IN", "ROLE"] inRole).flatten ++
            (listClause ["ROLE"] members).flatten)) := by
  simp only [tokens, phrases, List.flatten_append, List.append_assoc]
  rfl

theorem tokens_alterRole {name : String} {options : RoleOptions} :
    (alterRole name options).tokens =
      .word "ALTER" :: .word "ROLE" :: .identifier name :: .word "WITH" ::
        (options.phrases.flatten ++ []) := by
  simp only [tokens, phrases, List.flatten_append, List.append_assoc, List.append_nil]
  rfl

theorem tokens_grantOnObject {objectType : ObjectType} {schema object role : String}
    {privileges : List Privilege} :
    (grantOnObject objectType schema object privileges role).tokens =
      .word "GRANT" :: (privilegeList privileges ++ .word "ON" :: .word objectType.keyword ::
        (objectPhrase objectType schema object ++ [.word "TO", .identifier role])) := by
  simp only [tokens, phrases, List.flatten_append, List.append_assoc, List.flatten_singleton]
  rfl

theorem tokens_revokeOnObject {objectType : ObjectType} {schema object role : String}
    {privileges : List Privilege} :
    (revokeOnObject objectType schema object privileges role).tokens =
      .word "REVOKE" :: (privilegeList privileges ++ .word "ON" :: .word objectType.keyword ::
        (objectPhrase objectType schema object ++ [.word "FROM", .identifier role])) := by
  simp only [tokens, phrases, List.flatten_append, List.append_assoc, List.flatten_singleton]
  rfl

def defaultTokens (verb direction owner : String) (schema : Option String)
    (objectType : FutureObjectType) (privileges : List Privilege) (role : String) : List Token :=
  .word "ALTER" :: .word "DEFAULT" :: .word "PRIVILEGES" :: .word "FOR" :: .word "ROLE" ::
    .identifier owner :: ((schemaClause schema).flatten ++ .word verb ::
      (privilegeList privileges ++ .word "ON" ::
        [.word objectType.keyword, .word direction, .identifier role]))

theorem tokens_grantDefaultPrivileges {owner role : String} {schema : Option String}
    {objectType : FutureObjectType} {privileges : List Privilege} :
    (grantDefaultPrivileges owner schema objectType privileges role).tokens =
      defaultTokens "GRANT" "TO" owner schema objectType privileges role := by
  simp only [tokens, phrases, List.flatten_append, List.append_assoc, List.flatten_singleton]
  rfl

theorem tokens_revokeDefaultPrivileges {owner role : String} {schema : Option String}
    {objectType : FutureObjectType} {privileges : List Privilege} :
    (revokeDefaultPrivileges owner schema objectType privileges role).tokens =
      defaultTokens "REVOKE" "FROM" owner schema objectType privileges role := by
  simp only [tokens, phrases, List.flatten_append, List.append_assoc, List.flatten_singleton]
  rfl

theorem defaultTokens_injective {verb direction owner otherVerb otherDirection otherOwner : String}
    {schema otherSchema : Option String} {objectType otherType : FutureObjectType}
    {privileges others : List Privilege} {role otherRole : String}
    (isVerb : verb ≠ "IN") (isVerbToo : otherVerb ≠ "IN")
    (same : defaultTokens verb direction owner schema objectType privileges role =
      defaultTokens otherVerb otherDirection otherOwner otherSchema otherType others otherRole) :
    verb = otherVerb ∧ owner = otherOwner ∧ schema = otherSchema ∧ objectType = otherType ∧
      privileges = others ∧ role = otherRole := by
  simp only [defaultTokens, List.cons.injEq, Token.identifier.injEq, true_and] at same
  obtain ⟨owners, same⟩ := same
  obtain ⟨schemas, verbs, same⟩ := schemaClause_append_inj isVerb isVerbToo same
  obtain ⟨lists, same⟩ := privilegeList_append_inj same
  simp only [List.cons.injEq, Token.word.injEq, Token.identifier.injEq, and_true] at same
  obtain ⟨types, -, roles⟩ := same
  exact ⟨verbs, owners, schemas, FutureObjectType.keyword_injective types, lists, roles⟩

/-- Commands with the same tokens are the same but for what is not spelled. -/
theorem spelled_eq_of_tokens_eq {left right : Command} (leftValid : left.IsValid)
    (rightValid : right.IsValid) (same : left.tokens = right.tokens) :
    left.spelled = right.spelled := by
  cases left with
  | createDatabase name =>
      cases right with
      | createDatabase other => simp_all [tokens, phrases, words]
      | _ => simp [tokens, phrases, words] at same
  | alterDatabaseOwner name owner =>
      cases right with
      | alterDatabaseOwner other otherOwner => simp_all [tokens, phrases, words]
      | _ => simp [tokens, phrases, words] at same
  | dropDatabase name =>
      cases right with
      | dropDatabase other => simp_all [tokens, phrases, words]
      | _ => simp [tokens, phrases, words] at same
  | createSchema name =>
      cases right with
      | createSchema other => simp_all [tokens, phrases, words]
      | _ => simp [tokens, phrases, words] at same
  | alterSchemaOwner name owner =>
      cases right with
      | alterSchemaOwner other otherOwner => simp_all [tokens, phrases, words]
      | _ => simp [tokens, phrases, words] at same
  | dropSchema name =>
      cases right with
      | dropSchema other => simp_all [tokens, phrases, words]
      | _ => simp [tokens, phrases, words] at same
  | createRole name options inRole members =>
      cases right with
      | createRole other otherOptions otherGroups otherMembers =>
          simp only [tokens_createRole, List.cons.injEq, Token.identifier.injEq, true_and] at same
          obtain ⟨names, same⟩ := same
          obtain ⟨rfl, clauses⟩ := options_append_inj leftValid rightValid same
          obtain ⟨rfl, rfl⟩ := membershipClauses_injective clauses
          rw [names]
      | _ => simp [tokens, phrases, words] at same
  | alterRole name options =>
      cases right with
      | alterRole other otherOptions =>
          simp only [tokens_alterRole, List.cons.injEq, Token.identifier.injEq, true_and] at same
          obtain ⟨names, same⟩ := same
          obtain ⟨rfl, -⟩ := options_append_inj leftValid rightValid same
          rw [names]
      | _ => simp [tokens, phrases, words] at same
  | dropRole name =>
      cases right with
      | dropRole other => simp_all [tokens, phrases, words]
      | _ => simp [tokens, phrases, words] at same
  | commentOnRole name comment =>
      cases right with
      | commentOnRole other otherComment =>
          cases comment <;> cases otherComment <;> simp_all [tokens, phrases, words]
      | _ => simp [tokens, phrases, words] at same
  | grantMembership group member =>
      cases right with
      | grantMembership other otherMember => simp_all [tokens, phrases, words]
      -- Both start with the same word, which a name follows in one and a privilege in the other.
      | grantOnObject objectType schema object privileges role =>
          rw [tokens_grantOnObject] at same
          exact absurd (List.cons.inj same).2.symm privilegeList_append_ne
      | _ => simp [tokens, phrases, words] at same
  | revokeMembership group member =>
      cases right with
      | revokeMembership other otherMember => simp_all [tokens, phrases, words]
      | revokeOnObject objectType schema object privileges role =>
          rw [tokens_revokeOnObject] at same
          exact absurd (List.cons.inj same).2.symm privilegeList_append_ne
      | _ => simp [tokens, phrases, words] at same
  | grantOnObject objectType schema object privileges role =>
      cases right with
      | grantOnObject otherType otherSchema otherObject others otherRole =>
          rw [tokens_grantOnObject, tokens_grantOnObject] at same
          obtain ⟨privileges, rfl, schemas, objects, roles⟩ :=
            onObject_append_inj (List.cons.inj same).2
          simp only [spelled, privileges, schemas, objects, roles]
      | grantMembership other otherMember =>
          rw [tokens_grantOnObject] at same
          exact absurd (List.cons.inj same).2 privilegeList_append_ne
      | _ => simp [tokens, phrases, words] at same
  | revokeOnObject objectType schema object privileges role =>
      cases right with
      | revokeOnObject otherType otherSchema otherObject others otherRole =>
          rw [tokens_revokeOnObject, tokens_revokeOnObject] at same
          obtain ⟨privileges, rfl, schemas, objects, roles⟩ :=
            onObject_append_inj (List.cons.inj same).2
          simp only [spelled, privileges, schemas, objects, roles]
      | revokeMembership other otherMember =>
          rw [tokens_revokeOnObject] at same
          exact absurd (List.cons.inj same).2 privilegeList_append_ne
      | _ => simp [tokens, phrases, words] at same
  | grantDefaultPrivileges owner schema objectType privileges role =>
      cases right with
      | grantDefaultPrivileges otherOwner otherSchema otherType others otherRole =>
          rw [tokens_grantDefaultPrivileges, tokens_grantDefaultPrivileges] at same
          obtain ⟨-, rfl, rfl, rfl, rfl, rfl⟩ :=
            defaultTokens_injective (by decide) (by decide) same
          rfl
      | revokeDefaultPrivileges otherOwner otherSchema otherType others otherRole =>
          rw [tokens_grantDefaultPrivileges, tokens_revokeDefaultPrivileges] at same
          exact absurd (defaultTokens_injective (by decide) (by decide) same).1 (by decide)
      | _ => simp [tokens, phrases, words] at same
  | revokeDefaultPrivileges owner schema objectType privileges role =>
      cases right with
      | revokeDefaultPrivileges otherOwner otherSchema otherType others otherRole =>
          rw [tokens_revokeDefaultPrivileges, tokens_revokeDefaultPrivileges] at same
          obtain ⟨-, rfl, rfl, rfl, rfl, rfl⟩ :=
            defaultTokens_injective (by decide) (by decide) same
          rfl
      | grantDefaultPrivileges otherOwner otherSchema otherType others otherRole =>
          rw [tokens_revokeDefaultPrivileges, tokens_grantDefaultPrivileges] at same
          exact absurd (defaultTokens_injective (by decide) (by decide) same).1 (by decide)
      | _ => simp [tokens, phrases, words] at same

end Command

end CatalogSteward.Sql
