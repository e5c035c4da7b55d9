import CatalogSteward.ObjectType
import CatalogSteward.Sql.Token
import CatalogSteward.Time.Rfc3339

/-!
# Commands

What the server can be told to do, and how each command is spelled. A command
that sets a password has a second spelling that hides it.
-/

set_option autoImplicit false

namespace CatalogSteward.Sql

open Time

/-- The attributes of a role that are switched or counted. -/
structure RoleAttributes where
  superuser : Bool
  createdb : Bool
  createrole : Bool
  inherit : Bool
  replication : Bool
  bypassrls : Bool
  connectionLimit : Int32
  deriving DecidableEq, Repr

/-- What a command does to the password of a role. -/
inductive PasswordChange where
  | keep
  | set (password : String)
  | clear
  deriving DecidableEq, Repr

/-- Everything that a command says about a role itself; without an expiry it never expires. -/
structure RoleOptions where
  login : Bool
  password : PasswordChange
  attributes : RoleAttributes
  validUntil : Option Instant
  deriving DecidableEq, Repr

inductive Command where
  | createDatabase (name : String)
  | alterDatabaseOwner (name owner : String)
  | dropDatabase (name : String)
  | createSchema (name : String)
  | alterSchemaOwner (name owner : String)
  | dropSchema (name : String)
  | createRole (name : String) (options : RoleOptions) (inRole members : List String)
  | alterRole (name : String) (options : RoleOptions)
  | dropRole (name : String)
  | commentOnRole (name : String) (comment : Option String)
  | grantMembership (group member : String)
  | revokeMembership (group member : String)
  | grantOnObject (objectType : ObjectType) (schema object : String)
      (privileges : List Privilege) (role : String)
  | revokeOnObject (objectType : ObjectType) (schema object : String)
      (privileges : List Privilege) (role : String)
  | grantDefaultPrivileges (owner : String) (schema : Option String)
      (objectType : FutureObjectType) (privileges : List Privilege) (role : String)
  | revokeDefaultPrivileges (owner : String) (schema : Option String)
      (objectType : FutureObjectType) (privileges : List Privilege) (role : String)
  deriving DecidableEq, Repr

/-- The keyword of an attribute that is given, or of one that is not. -/
def attributeWord (given : Bool) (keyword : String) : String :=
  if given then keyword else "NO" ++ keyword

def PasswordChange.phrases : PasswordChange → List Phrase
  | .keep => []
  | .set password => [[.word "PASSWORD"], [.literal password]]
  | .clear => words ["PASSWORD", "NULL"]

def hiddenPassword : String := "********"

def PasswordChange.hidden : PasswordChange → PasswordChange
  | .keep => .keep
  | .set _ => .set hiddenPassword
  | .clear => .clear

def expiryText : Option Instant → String
  | some instant => instant.rfc3339 .fewest
  | none => "infinity"

def RoleAttributes.phrases (attributes : RoleAttributes) : List Phrase :=
  words
    [attributeWord attributes.superuser "SUPERUSER",
      attributeWord attributes.createdb "CREATEDB",
      attributeWord attributes.createrole "CREATEROLE",
      attributeWord attributes.inherit "INHERIT",
      attributeWord attributes.replication "REPLICATION",
      attributeWord attributes.bypassrls "BYPASSRLS",
      "CONNECTION", "LIMIT"] ++
    [[.integer attributes.connectionLimit.toInt]]

def RoleOptions.phrases (options : RoleOptions) : List Phrase :=
  words [attributeWord options.login "LOGIN"] ++ options.password.phrases ++
    options.attributes.phrases ++ words ["VALID", "UNTIL"] ++
    [[.literal (expiryText options.validUntil)]]

def RoleOptions.hidden (options : RoleOptions) : RoleOptions :=
  { options with password := options.password.hidden }

def privilegeList (privileges : List Privilege) : Phrase :=
  commaSeparated (privileges.map fun privilege => .word privilege.keyword)

def objectPhrase (objectType : ObjectType) (schema object : String) : Phrase :=
  if objectType.isSchemaQualified then qualified schema object else [.identifier object]

/-- A clause that names a list, left out when the list is empty. -/
def listClause (keywords names : List String) : List Phrase :=
  match names with
  | [] => []
  | _ :: _ => words keywords ++ [identifierList names]

def schemaClause : Option String → List Phrase
  | none => []
  | some schema => words ["IN", "SCHEMA"] ++ [[.identifier schema]]

namespace Command

def phrases : Command → List Phrase
  | .createDatabase name => words ["CREATE", "DATABASE"] ++ [[.identifier name]]
  | .alterDatabaseOwner name owner =>
      words ["ALTER", "DATABASE"] ++ [[.identifier name]] ++ words ["OWNER", "TO"] ++
        [[.identifier owner]]
  | .dropDatabase name =>
      words ["DROP", "DATABASE", "IF", "EXISTS"] ++ [[.identifier name]]
  | .createSchema name => words ["CREATE", "SCHEMA"] ++ [[.identifier name]]
  | .alterSchemaOwner name owner =>
      words ["ALTER", "SCHEMA"] ++ [[.identifier name]] ++ words ["OWNER", "TO"] ++
        [[.identifier owner]]
  | .dropSchema name => words ["DROP", "SCHEMA", "IF", "EXISTS"] ++ [[.identifier name]]
  | .createRole name options inRole members =>
      words ["CREATE", "ROLE"] ++ [[.identifier name]] ++ words ["WITH"] ++
        options.phrases ++ listClause ["IN", "ROLE"] inRole ++ listClause ["ROLE"] members
  | .alterRole name options =>
      words ["ALTER", "ROLE"] ++ [[.identifier name]] ++ words ["WITH"] ++ options.phrases
  | .dropRole name => words ["DROP", "ROLE", "IF", "EXISTS"] ++ [[.identifier name]]
  | .commentOnRole name comment =>
      words ["COMMENT", "ON", "ROLE"] ++ [[.identifier name]] ++ words ["IS"] ++
        [match comment with
          | some text => [.literal text]
          | none => [.word "NULL"]]
  | .grantMembership group member =>
      words ["GRANT"] ++ [[.identifier group]] ++ words ["TO"] ++ [[.identifier member]]
  | .revokeMembership group member =>
      words ["REVOKE"] ++ [[.identifier group]] ++ words ["FROM"] ++ [[.identifier member]]
  | .grantOnObject objectType schema object privileges role =>
      words ["GRANT"] ++ [privilegeList privileges] ++ words ["ON", objectType.keyword] ++
        [objectPhrase objectType schema object] ++ words ["TO"] ++ [[.identifier role]]
  | .revokeOnObject objectType schema object privileges role =>
      words ["REVOKE"] ++ [privilegeList privileges] ++ words ["ON", objectType.keyword] ++
        [objectPhrase objectType schema object] ++ words ["FROM"] ++ [[.identifier role]]
  | .grantDefaultPrivileges owner schema objectType privileges role =>
      words ["ALTER", "DEFAULT", "PRIVILEGES", "FOR", "ROLE"] ++ [[.identifier owner]] ++
        schemaClause schema ++ words ["GRANT"] ++ [privilegeList privileges] ++
        words ["ON", objectType.keyword, "TO"] ++ [[.identifier role]]
  | .revokeDefaultPrivileges owner schema objectType privileges role =>
      words ["ALTER", "DEFAULT", "PRIVILEGES", "FOR", "ROLE"] ++ [[.identifier owner]] ++
        schemaClause schema ++ words ["REVOKE"] ++ [privilegeList privileges] ++
        words ["ON", objectType.keyword, "FROM"] ++ [[.identifier role]]

def tokens (command : Command) : List Token :=
  command.phrases.flatten

def text (command : Command) : String :=
  spell command.phrases

def hidden : Command → Command
  | .createRole name options inRole members => .createRole name options.hidden inRole members
  | .alterRole name options => .alterRole name options.hidden
  | command => command

def newPassword? : Command → Option String
  | .createRole _ options _ _ =>
      match options.password with
      | .set password => some password
      | _ => none
  | .alterRole _ options =>
      match options.password with
      | .set password => some password
      | _ => none
  | _ => none

end Command

end CatalogSteward.Sql
