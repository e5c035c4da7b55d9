import CatalogSteward.ObjectType
import CatalogSteward.Sql.Token
import CatalogSteward.Time.Rfc3339

/-!
# Rejections

Why a declaration cannot be planned.
-/

set_option autoImplicit false

namespace CatalogSteward

open Sql Time

def shownObject (objectType : ObjectType) (schema object : String) : String :=
  phraseText
    (if objectType.isSchemaQualified then qualified schema object else [.identifier object])

def shownObjects (objectType : ObjectType) (schema : String) (objects : List String) : String :=
  "\n" ++ "\n  • ".intercalate (objects.map (shownObject objectType schema))

/-- Why a declaration cannot be planned. -/
inductive Rejection where
  | invalidExpiry (given : String) (fault : Rfc3339Fault)
  | noPrivileges (kind resource : String)
  | noSchema (kind objectType resource : String)
  | illegalPrivileges (kind resource objectType : String) (illegal legal : List Privilege)
  | newerServerNeeded (resource : String) (serverVersion : Nat)
      (required : List (String × Nat))
  | missingObjects (objectType : ObjectType) (resource schema : String)
      (objects : List String)
  deriving DecidableEq, Repr

def Rejection.message : Rejection → String
  | .invalidExpiry given fault => "Invalid flags.validUntil " ++ given ++ ": " ++ fault.message
  | .noPrivileges kind resource =>
      kind ++ " does not list any privileges [resource=" ++ resource ++ "]"
  | .noSchema kind objectType resource =>
      kind ++ " requires a schema for objectType " ++ objectType ++ " [resource=" ++
        resource ++ "]"
  | .illegalPrivileges kind resource objectType illegal legal =>
      kind ++ " contains invalid privileges for the specified objectType. [resource=" ++
        resource ++ ", objectType=" ++ objectType ++ ", invalidPrivileges=" ++
        Privilege.listText illegal ++ ", allowedPrivilegesForObjectType=" ++
        Privilege.listText legal ++ "]"
  | .newerServerNeeded resource serverVersion required =>
      "The following privileges require a newer PostgreSQL version (current: " ++
        toString serverVersion ++ "): \x7b" ++
        ", ".intercalate
          (required.map fun entry => entry.1 ++ "=" ++ toString entry.2) ++
        "\x7d [resource=" ++ resource ++ "]"
  | .missingObjects objectType resource schema objects =>
      "Did not grant or revoke any privileges as the listed " ++ objectType.name ++
        " objects do not exist [resource=" ++ resource ++ "]" ++
        shownObjects objectType schema objects

end CatalogSteward
