import CatalogSteward.Sql.Command

/-!
# Observed roles

What the catalog says about a role that exists.
-/

set_option autoImplicit false

namespace CatalogSteward

open Sql Time

/-- A point in time as the server keeps it, which may lie before or after all others. -/
inductive ServerInstant where
  | beforeAll
  | at (instant : Instant)
  | afterAll
  deriving DecidableEq, Repr

/-- When a password stops working. One after all others never does; one before all others
reads as the earliest instant, which no declaration names. -/
def ServerInstant.expiry : ServerInstant → Option Instant
  | .beforeAll => some .earliest
  | .at instant => some instant
  | .afterAll => none

structure RoleState where
  login : Bool
  attributes : RoleAttributes
  validUntil : Option Instant
  verifier : Option String
  comment : Option String
  inRole : List String
  members : List String
  deriving DecidableEq, Repr

/-- The row of a role in the catalog. The memberships are kept elsewhere. -/
structure RoleRow where
  login : Bool
  attributes : RoleAttributes
  validUntil : Option ServerInstant
  verifier : Option String
  comment : Option String
  deriving DecidableEq, Repr

def RoleRow.state (row : RoleRow) (inRole members : List String) : RoleState :=
  { login := row.login
    attributes := row.attributes
    validUntil := row.validUntil.bind ServerInstant.expiry
    verifier := row.verifier
    comment := row.comment
    inRole := inRole
    members := members }

end CatalogSteward
