import CatalogSteward.Rejection
import CatalogSteward.Sql.Statement

/-!
# Plans

A plan is the commands that make the server agree with a declaration, and a
remark on what was found. A plan without commands says that it agrees already.
-/

set_option autoImplicit false

namespace CatalogSteward

open Sql

/-- An object that has an owner and that a declaration creates. -/
inductive OwnedKind where
  | database
  | schema
  deriving DecidableEq, Repr

def OwnedKind.name : OwnedKind → String
  | .database => "Database"
  | .schema => "Schema"

/-- A part of a role that can differ from its declaration. -/
inductive RoleAspect where
  | login
  | password
  | flags
  | membership
  | comment
  deriving DecidableEq, Repr

def RoleAspect.name : RoleAspect → String
  | .login => "login"
  | .password => "password"
  | .flags => "flags"
  | .membership => "membership"
  | .comment => "comment"

inductive Remark where
  | ownerChanged (kind : OwnedKind) (previous next : String)
  | roleUpdated (aspects : List RoleAspect)
  | ownsTargets (objectType : ObjectType) (resource schema : String) (objects : List String)
  deriving DecidableEq, Repr

def Remark.message : Remark → String
  | .ownerChanged kind previous next =>
      kind.name ++ " owner changed [previousOwner=" ++ previous ++ ", newOwner=" ++ next ++ "]"
  | .roleUpdated aspects =>
      "Role updated [changed=" ++ ", ".intercalate (aspects.map RoleAspect.name) ++ "]"
  | .ownsTargets objectType resource schema objects =>
      "The role is the owner of the listed " ++ objectType.name ++
        " objects and thus we did not need to grant or revoke any privileges from them. " ++
        "[resource=" ++ resource ++ "]" ++ shownObjects objectType schema objects

/-- The commands that make the server agree with a declaration. -/
structure Plan where
  commands : List Command
  remark : Option Remark
  deriving DecidableEq, Repr

namespace Plan

def nothing : Plan :=
  ⟨[], none⟩

def isConverged (plan : Plan) : Bool :=
  plan.commands.isEmpty

def statements (plan : Plan) : List Statement :=
  plan.commands.map Command.statement

def message (plan : Plan) : Option String :=
  plan.remark.map Remark.message

end Plan

end CatalogSteward
