import CatalogSteward.Catalog.RoleState
import CatalogSteward.ObjectType
import CatalogSteward.Sql.Token

/-!
# Catalog queries

What the program asks the catalog of a server. Names are always parameters.
Those that the server casts to a role or a schema are quoted first, as the cast
folds the case of a name that is not.
-/

set_option autoImplicit false

namespace CatalogSteward

open Sql

/-- The objects whose privileges are looked at: a database, a schema, or the relations of some
kinds in a schema. -/
inductive ObjectScope where
  | database (name : String)
  | schema (name : String)
  | relations (kinds : List String) (schema : String)
  deriving DecidableEq, Repr

inductive Query where
  | versionNumber
  | versionText
  | databaseOwner (name : String)
  | schemaOwner (name : String)
  | role (name : String)
  | rolesAbove (name : String)
  | rolesBelow (name : String)
  | ownership (scope : ObjectScope) (objects : List String) (grantee : String)
  | privileges (scope : ObjectScope) (grantee : String)
  | defaultPrivileges (owner : String) (schema : Option String)
      (objectType : FutureObjectType) (grantee : String)
  deriving DecidableEq, Repr

inductive Parameter where
  | text (value : String)
  | texts (values : List String)
  deriving DecidableEq, Repr

namespace Query

/-- The rows that answer a query, with their columns read. Ownership is a row for each object
that exists, privileges a row for each object, privilege and grantor. -/
def Rows : Query → Type
  | .versionNumber => String
  | .versionText => String
  | .databaseOwner _ => Option String
  | .schemaOwner _ => Option String
  | .role _ => Option RoleRow
  | .rolesAbove _ => List String
  | .rolesBelow _ => List String
  | .ownership _ _ _ => List (String × Bool)
  | .privileges _ _ => List (String × String)
  | .defaultPrivileges _ _ _ _ => List String

def line (parts : List String) : String :=
  " ".intercalate parts

def literalList (values : List String) : String :=
  "(" ++ phraseText (commaSeparated (values.map .literal)) ++ ")"

/-- The text of a query for memberships: the names in one column, where the other has the name
that is asked for. -/
def membershipText (column condition : String) : String :=
  line
    ["select distinct", column ++ ".rolname::text as name",
      "from pg_catalog.pg_auth_members m",
      "join pg_catalog.pg_roles g on g.oid = m.roleid",
      "join pg_catalog.pg_roles r on r.oid = m.member",
      "where", condition ++ ".rolname = $1", "order by 1"]

def ownershipText (objects : List String) : ObjectScope → String
  | .database _ =>
      line
        ["select d.datname::text as object, (d.datdba = $1::text::regrole) as is_owner",
          "from pg_catalog.pg_database d", "where d.datname = $2"]
  | .schema _ =>
      line
        ["select n.nspname::text as object, (n.nspowner = $1::text::regrole) as is_owner",
          "from pg_catalog.pg_namespace n", "where n.nspname = $2"]
  | .relations kinds _ =>
      line
        (["select c.relname::text as object, (c.relowner = $1::text::regrole) as is_owner",
            "from pg_catalog.pg_class c",
            "where c.relnamespace = $2::text::regnamespace",
            "and c.relkind in", literalList kinds] ++
          if objects.isEmpty then [] else ["and c.relname::text = any($3::text[])"])

def privilegesText : ObjectScope → String
  | .database _ =>
      line
        ["select d.datname::text as object, a.privilege_type",
          "from pg_catalog.pg_database d", "cross join lateral aclexplode(d.datacl) a",
          "where d.datname = $1", "and a.grantee = $2::text::regrole"]
  | .schema _ =>
      line
        ["select n.nspname::text as object, a.privilege_type",
          "from pg_catalog.pg_namespace n", "cross join lateral aclexplode(n.nspacl) a",
          "where n.nspname = $1", "and a.grantee = $2::text::regrole"]
  | .relations kinds _ =>
      line
        ["select c.relname::text as object, a.privilege_type",
          "from pg_catalog.pg_class c", "cross join lateral aclexplode(c.relacl) a",
          "where c.relnamespace = $1::text::regnamespace",
          "and c.relkind in", literalList kinds, "and a.grantee = $2::text::regrole"]

/-- The schema that the defaults are asked for; those for schemas are kept for none. -/
def askedSchema (schema : Option String) (objectType : FutureObjectType) : Option String :=
  schema.filter fun _ => objectType.isSchemaScoped

def defaultPrivilegesText (schema : Option String) (objectType : FutureObjectType) : String :=
  line
    (["select a.privilege_type", "from pg_catalog.pg_default_acl d",
        "cross join lateral aclexplode(d.defaclacl) a",
        "where d.defaclrole = $1::text::regrole",
        "and d.defaclobjtype =", quoteLiteral objectType.catalogCode] ++
      match askedSchema schema objectType with
      | some _ =>
          ["and d.defaclnamespace = $2::text::regnamespace",
            "and a.grantee = $3::text::regrole"]
      | none => ["and a.grantee = $2::text::regrole"])

def text : Query → String
  | .versionNumber => "select current_setting('server_version_num')"
  | .versionText => "select version()"
  | .databaseOwner _ =>
      line
        ["select pg_get_userbyid(d.datdba)::text as owner",
          "from pg_catalog.pg_database d", "where d.datname = $1"]
  | .schemaOwner _ =>
      line
        ["select pg_get_userbyid(n.nspowner)::text as owner",
          "from pg_catalog.pg_namespace n", "where n.nspname = $1"]
  | .role _ =>
      line
        ["select a.rolcanlogin, a.rolsuper, a.rolcreatedb, a.rolcreaterole, a.rolinherit,",
          "a.rolreplication, a.rolbypassrls, a.rolconnlimit, a.rolvaliduntil, a.rolpassword,",
          "shobj_description(a.oid, 'pg_authid') as comment",
          "from pg_catalog.pg_authid a", "where a.rolname = $1"]
  | .rolesAbove _ => membershipText "g" "r"
  | .rolesBelow _ => membershipText "r" "g"
  | .ownership scope objects _ => ownershipText objects scope
  | .privileges scope _ => privilegesText scope
  | .defaultPrivileges _ schema objectType _ => defaultPrivilegesText schema objectType

/-- The name of a scope as a parameter; a schema that holds relations is cast and therefore
quoted. -/
def scopeParameter : ObjectScope → Parameter
  | .database name => .text name
  | .schema name => .text name
  | .relations _ schema => .text (quoteIdentifier schema)

def castParameter (name : String) : Parameter :=
  .text (quoteIdentifier name)

def parameters : Query → List Parameter
  | .versionNumber => []
  | .versionText => []
  | .databaseOwner name => [.text name]
  | .schemaOwner name => [.text name]
  | .role name => [.text name]
  | .rolesAbove name => [.text name]
  | .rolesBelow name => [.text name]
  | .ownership scope objects grantee =>
      [castParameter grantee, scopeParameter scope] ++
        match scope with
        | .relations _ _ => if objects.isEmpty then [] else [.texts objects]
        | _ => []
  | .privileges scope grantee => [scopeParameter scope, castParameter grantee]
  | .defaultPrivileges owner schema objectType grantee =>
      [castParameter owner] ++ ((askedSchema schema objectType).map castParameter).toList ++
        [castParameter grantee]

end Query

end CatalogSteward
