import CatalogSteward.Catalog.RoleState
import CatalogSteward.Difference
import CatalogSteward.Plan
import CatalogSteward.Resource.Role
import CatalogSteward.Text.Blank
import CatalogSteward.Text.LowerCase
import CatalogSteward.Verifier

/-!
# Plans for roles

A role agrees with its declaration when its login, password, attributes,
memberships and comment do. Where login, password, attributes or memberships
differ, one command asserts all attributes anew, and memberships are revoked
and granted after it.
-/

set_option autoImplicit false

namespace CatalogSteward

open Sql Time

/-- The names in the order of what they are folded to, and in their own order where that is the
same. Equal names then stand together, and one of each is kept. -/
def canonicalNames (fold : String → String) (names : List String) : List String :=
  (names.mergeSort fun left right =>
    compare (fold left) (fold right) |>.then (compare left right) |>.isLE).eraseReps

/-- The names of members in order, whatever their case, each once. -/
def canonicalMembers (names : List String) : List String :=
  canonicalNames Text.lowerCase names

/-- The instant that a declared expiry names; a blank one names none. -/
def parseExpiry (declared : Option String) : Except Rejection (Option Instant) :=
  match Text.nonBlank? declared with
  | none => .ok none
  | some given =>
      match parseRfc3339 (Text.trim given) with
      | .ok instant => .ok (some instant)
      | .error fault => .error (.invalidExpiry given fault)

/-- Whether two expiries are the same to the microsecond, which is all the server keeps. -/
def sameExpiry (left right : Option Instant) : Bool :=
  left.map Instant.microseconds == right.map Instant.microseconds

namespace RoleDeclaration

def options (declaration : RoleDeclaration) (password : PasswordChange)
    (validUntil : Option Instant) : RoleOptions :=
  ⟨declaration.login, password, declaration.flags.attributes, validUntil⟩

/-- The comment that is declared, unless it is blank. -/
def declaredComment (declaration : RoleDeclaration) : Option String :=
  Text.nonBlank? declaration.comment

def creation (declaration : RoleDeclaration) (password : Option String)
    (validUntil : Option Instant) : Plan :=
  let change :=
    match password, declaration.login with
    | some password, true => .set password
    | _, _ => .keep
  let comments :=
    match declaration.declaredComment with
    | some comment => [Command.commentOnRole declaration.name (some comment)]
    | none => []
  ⟨.createRole declaration.name (declaration.options change validUntil)
      (canonicalMembers declaration.flags.inRole)
      (canonicalMembers declaration.flags.members) :: comments,
    none⟩

/-- Whether the password of an existing role is the declared one. A role without login has
none to compare. -/
def passwordAgrees (declaration : RoleDeclaration) (password : Option String)
    (current : RoleState) : Bool :=
  match password, declaration.login with
  | some password, true => passwordMatches current.verifier password declaration.name
  | _, _ => true

def passwordChange (declaration : RoleDeclaration) (password : Option String)
    (agrees : Bool) : PasswordChange :=
  if declaration.login then
    match password, agrees with
    | some password, false => .set password
    | _, _ => .keep
  else
    .clear

def attributesAgree (declaration : RoleDeclaration) (validUntil : Option Instant)
    (current : RoleState) : Bool :=
  declaration.flags.attributes == current.attributes &&
    sameExpiry validUntil current.validUntil

def parentChanges (declaration : RoleDeclaration) (current : RoleState) : Difference String :=
  .between (.ofList current.inRole) (.ofList declaration.flags.inRole)

def memberChanges (declaration : RoleDeclaration) (current : RoleState) : Difference String :=
  .between (.ofList current.members) (.ofList declaration.flags.members)

/-- The commands that change memberships: first those of the role, then those in it. -/
def membershipCommands (declaration : RoleDeclaration) (current : RoleState) : List Command :=
  let name := declaration.name
  let parents := declaration.parentChanges current
  let members := declaration.memberChanges current
  (parents.surplus.map fun parent => .revokeMembership parent name) ++
    (parents.lacking.map fun parent => .grantMembership parent name) ++
    (members.surplus.map fun member => .revokeMembership name member) ++
    (members.lacking.map fun member => .grantMembership name member)

def repair (declaration : RoleDeclaration) (password : Option String)
    (validUntil : Option Instant) (current : RoleState) : Plan :=
  let loginAgrees := current.login == declaration.login
  let passwordAgrees := declaration.passwordAgrees password current
  let attributesAgree := declaration.attributesAgree validUntil current
  let membershipAgrees :=
    (declaration.parentChanges current).isEmpty && (declaration.memberChanges current).isEmpty
  let commentAgrees := declaration.declaredComment == Text.nonBlank? current.comment
  let optionsAgree := loginAgrees && passwordAgrees && attributesAgree && membershipAgrees
  if optionsAgree && commentAgrees then .nothing
  else
    let change := declaration.passwordChange password passwordAgrees
    let alteration :=
      if optionsAgree then []
      else [Command.alterRole declaration.name (declaration.options change validUntil)]
    let comments :=
      if commentAgrees then []
      else [Command.commentOnRole declaration.name declaration.declaredComment]
    let aspects : List (Bool × RoleAspect) :=
      [(loginAgrees, .login), (passwordAgrees, .password), (attributesAgree, .flags),
        (membershipAgrees, .membership), (commentAgrees, .comment)]
    ⟨alteration ++ declaration.membershipCommands current ++ comments,
      some (.roleUpdated ((aspects.filter fun aspect => !aspect.1).map Prod.snd))⟩

def plan (declaration : RoleDeclaration) (password : Option String)
    (current : Option RoleState) : Except Rejection Plan := do
  let validUntil ← parseExpiry declaration.flags.validUntil
  match current with
  | none => pure (declaration.creation password validUntil)
  | some state => pure (declaration.repair password validUntil state)

end RoleDeclaration

end CatalogSteward
