import CatalogSteward.Json.Record
import Std.Data.ExtTreeSet

/-!
# Privileges

The privileges that can be granted on objects, in the order in which lists of
them are written.
-/

set_option autoImplicit false

namespace CatalogSteward

inductive Privilege where
  | select
  | insert
  | update
  | delete
  | truncate
  | references
  | trigger
  | create
  | connect
  | temporary
  | usage
  | maintain
  deriving DecidableEq, Repr

namespace Privilege

def all : List Privilege :=
  [.select, .insert, .update, .delete, .truncate, .references, .trigger, .create, .connect,
    .temporary, .usage, .maintain]

def place : Privilege → Nat
  | .select => 0
  | .insert => 1
  | .update => 2
  | .delete => 3
  | .truncate => 4
  | .references => 5
  | .trigger => 6
  | .create => 7
  | .connect => 8
  | .temporary => 9
  | .usage => 10
  | .maintain => 11

instance : Ord Privilege := ⟨compareOn place⟩

instance : Std.TransOrd Privilege :=
  inferInstanceAs (Std.TransCmp (compareOn place))

theorem place_injective {left right : Privilege} (same : left.place = right.place) :
    left = right := by
  cases left <;> cases right <;> simp_all [place]

instance : Std.LawfulEqOrd Privilege where
  compare_self := Std.ReflOrd.compare_self (α := Nat)
  eq_of_compare same := place_injective (Std.LawfulEqOrd.eq_of_compare (α := Nat) same)

def keyword : Privilege → String
  | .select => "SELECT"
  | .insert => "INSERT"
  | .update => "UPDATE"
  | .delete => "DELETE"
  | .truncate => "TRUNCATE"
  | .references => "REFERENCES"
  | .trigger => "TRIGGER"
  | .create => "CREATE"
  | .connect => "CONNECT"
  | .temporary => "TEMPORARY"
  | .usage => "USAGE"
  | .maintain => "MAINTAIN"

def name : Privilege → String
  | .select => "select"
  | .insert => "insert"
  | .update => "update"
  | .delete => "delete"
  | .truncate => "truncate"
  | .references => "references"
  | .trigger => "trigger"
  | .create => "create"
  | .connect => "connect"
  | .temporary => "temporary"
  | .usage => "usage"
  | .maintain => "maintain"

/-- The first major version of the server that knows a privilege, where not all do. -/
def minimumVersion? : Privilege → Option Nat
  | .maintain => some 17
  | _ => none

/-- The privilege that an access control list reports, in either case of the ASCII letters.
Privileges that are not managed have no reading. -/
def ofAcl? (reported : String) : Option Privilege :=
  let folded := reported.map Char.toUpper
  if folded = "TEMP" then some .temporary
  else all.find? fun privilege => privilege.keyword = folded

def ofJson? : Json → Option Privilege :=
  Json.variant? (all.map fun privilege => (privilege.name, privilege))

def toJson (privilege : Privilege) : Json :=
  .string privilege.name

def listText (privileges : List Privilege) : String :=
  "[" ++ ", ".intercalate (privileges.map keyword) ++ "]"

end Privilege

abbrev PrivilegeSet := Std.ExtTreeSet Privilege

end CatalogSteward
