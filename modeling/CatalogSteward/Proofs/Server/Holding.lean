import CatalogSteward.Proofs.Server.State

/-!
# What roles hold

The privileges and the memberships of a server one by one. A command that
creates and drops nothing gives what it names, if it is a grant, and takes away
what it names, if it is a revocation; the rest stays as it was.
-/

set_option autoImplicit false

namespace CatalogSteward

open Sql

/-- One thing that a role holds or not: a privilege on an object, a privilege that an owner hands
to it by default, a role that it is in, or a role that is in it. -/
inductive Holding where
  | privilege (securable : Securable) (role : String) (privilege : Privilege)
  | byDefault (home : String) (place : DefaultPlace) (owner role : String)
      (privilege : Privilege)
  | group (role group : String)
  | member (role member : String)

/-- Two holdings belong to one set: the privileges of a role on one object, those that one owner
hands to it by default in one place, or one of its lists of memberships. -/
inductive Holding.Beside : Holding → Holding → Prop where
  | privilege (securable : Securable) (role : String) (privilege other : Privilege) :
      Beside (.privilege securable role privilege) (.privilege securable role other)
  | byDefault (home : String) (place : DefaultPlace) (owner role : String)
      (privilege other : Privilege) :
      Beside (.byDefault home place owner role privilege) (.byDefault home place owner role other)
  | group (role group other : String) : Beside (.group role group) (.group role other)
  | member (role member other : String) : Beside (.member role member) (.member role other)

def ServerState.Holds (state : ServerState) : Holding → Prop
  | .privilege securable role privilege => privilege ∈ state.access securable role
  | .byDefault home place owner role privilege =>
      privilege ∈ state.defaults home place owner role
  | .group role group => ∃ found, state.roles role = some found ∧ group ∈ found.inRole
  | .member role member => ∃ found, state.roles role = some found ∧ member ∈ found.members

/-- The holdings that a command of a session in a database grants or revokes. -/
def Sql.Command.Names (database : String) (command : Command) (holding : Holding) : Prop :=
  match command with
  | .grantOnObject objectType schema object privileges role
  | .revokeOnObject objectType schema object privileges role =>
      ∃ privilege ∈ privileges,
        holding = .privilege (objectType.securable database schema object) role privilege
  | .grantDefaultPrivileges owner schema objectType privileges role
  | .revokeDefaultPrivileges owner schema objectType privileges role =>
      ∃ privilege ∈ privileges, ∃ place : DefaultPlace, place.objectType = objectType ∧
        place.schema = schema ∧ holding = .byDefault database place owner role privilege
  | .grantMembership group member | .revokeMembership group member =>
      holding = .group member group ∨ holding = .member group member
  | _ => False

namespace Sql.Command

def isGrant : Command → Bool
  | .grantOnObject _ _ _ _ _ | .grantDefaultPrivileges _ _ _ _ _ | .grantMembership _ _ => true
  | _ => false

/-- Whether databases, schemas or roles come or go with a command. -/
def createsOrDrops : Command → Bool
  | .createDatabase _ | .dropDatabase _ | .createSchema _ | .dropSchema _ => true
  | .createRole _ _ _ _ | .dropRole _ => true
  | _ => false

variable {database user role : String} {command : Command} {before after : ServerState}

namespace Executes

theorem mem_access_iff (executes : command.Executes database user before after)
    (stays : command.createsOrDrops = false) (securable : Securable) (privilege : Privilege) :
    privilege ∈ after.access securable role ↔
      if command.isGrant then
        privilege ∈ before.access securable role ∨
          command.Names database (.privilege securable role privilege)
      else
        privilege ∈ before.access securable role ∧
          ¬command.Names database (.privilege securable role privilege) := by
  have named (target : Securable) (grantee : String) (privileges : List Privilege) :
      (∃ given ∈ privileges, Holding.privilege securable role privilege =
          .privilege target grantee given) ↔
        (securable = target ∧ role = grantee) ∧ privilege ∈ privileges := by
    simp only [Holding.privilege.injEq]
    constructor
    · rintro ⟨given, member, rfl, rfl, rfl⟩
      exact ⟨⟨rfl, rfl⟩, member⟩
    · rintro ⟨⟨rfl, rfl⟩, member⟩
      exact ⟨privilege, member, rfl, rfl, rfl⟩
  rw [executes.access]
  cases command with
  | grantOnObject =>
      simp only [Access.mem_onAccess_grantOnObject, isGrant, Names, named, ↓reduceIte]
  | revokeOnObject =>
      simp only [Access.mem_onAccess_revokeOnObject, isGrant, Names, named, Bool.false_eq_true,
        ↓reduceIte]
  | createDatabase | dropDatabase | createSchema | dropSchema | createRole | dropRole =>
      cases stays
  | _ => simp [onAccess, isGrant, Names]

theorem mem_defaults_iff (executes : command.Executes database user before after)
    (stays : command.createsOrDrops = false) (home : String) (place : DefaultPlace)
    (owner : String) (privilege : Privilege) :
    privilege ∈ after.defaults home place owner role ↔
      if command.isGrant then
        privilege ∈ before.defaults home place owner role ∨
          command.Names database (.byDefault home place owner role privilege)
      else
        privilege ∈ before.defaults home place owner role ∧
          ¬command.Names database (.byDefault home place owner role privilege) := by
  have named (giver : String) (schema : Option String) (objectType : FutureObjectType)
      (privileges : List Privilege) (grantee : String) :
      (∃ given ∈ privileges, ∃ other : DefaultPlace, other.objectType = objectType ∧
          other.schema = schema ∧ Holding.byDefault home place owner role privilege =
            .byDefault database other giver grantee given) ↔
        (home = database ∧ place.objectType = objectType ∧ place.schema = schema ∧
          owner = giver ∧ role = grantee) ∧ privilege ∈ privileges := by
    simp only [Holding.byDefault.injEq]
    constructor
    · rintro ⟨given, member, other, objectType, schema, rfl, rfl, rfl, rfl, rfl⟩
      exact ⟨⟨rfl, objectType, schema, rfl, rfl⟩, member⟩
    · rintro ⟨⟨rfl, objectType, schema, rfl, rfl⟩, member⟩
      exact ⟨privilege, member, place, objectType, schema, rfl, rfl, rfl, rfl, rfl⟩
  rw [executes.defaults]
  cases command with
  | grantDefaultPrivileges =>
      simp only [onDefaults, isGrant, Names, named, ↓reduceIte]
      split
      · next here => simp [here]
      · next elsewhere => simp [elsewhere]
  | revokeDefaultPrivileges =>
      simp only [onDefaults, isGrant, Names, named, Bool.false_eq_true, ↓reduceIte]
      split
      · next here => simp [here]
      · next elsewhere => simp [elsewhere]
  | createDatabase | dropDatabase | createSchema | dropSchema | createRole | dropRole =>
      cases stays
  | _ => simp [onDefaults, isGrant, Names]

/-- A list of memberships of a role has what it had, and the membership that a command grants, or
had and was not revoked. Each entry of such a list is a group and its member, one of which is the
role. -/
theorem mem_listed_iff {listed : RoleState → List String} {other : String}
    (executes : command.Executes database user before after) (pair : String × String)
    (stays : command.createsOrDrops = false) (about : role = pair.1 ∨ role = pair.2)
    (joined : ∀ found pairs,
      other ∈ listed (RoleState.join role pairs found) ↔ other ∈ listed found ∨ pair ∈ pairs)
    (left : ∀ found pairs,
      other ∈ listed (RoleState.leave role pairs found) ↔ other ∈ listed found ∧ pair ∉ pairs)
    (altered : ∀ found options verifier,
      listed (RoleState.withOptions found options verifier) = listed found)
    (described : ∀ (found : RoleState) comment,
      listed { found with comment := comment } = listed found) :
    (∃ found, after.roles role = some found ∧ other ∈ listed found) ↔
      if command.isGrant then
        (∃ found, before.roles role = some found ∧ other ∈ listed found) ∨
          command = .grantMembership pair.1 pair.2
      else
        (∃ found, before.roles role = some found ∧ other ∈ listed found) ∧
          command ≠ .revokeMembership pair.1 pair.2 := by
  have step := executes.roles role
  cases command with
  | grantMembership group member =>
      have there : pair = (group, member) → (before.roles role).isSome := by
        rintro rfl
        rcases about with rfl | rfl
        · exact executes.possible.1
        · exact executes.possible.2
      have same : pair = (group, member) ↔
          Command.grantMembership group member = .grantMembership pair.1 pair.2 := by
        rw [Command.grantMembership.injEq, Prod.ext_iff, eq_comm, @eq_comm _ pair.2]
      rw [step.2, isGrant, if_pos rfl, ← same]
      cases stored : before.roles role with
      | none =>
          rw [stored] at there
          simpa using there
      | some found => simp [joined]
  | revokeMembership group member =>
      have same : pair ≠ (group, member) ↔
          Command.revokeMembership group member ≠ .revokeMembership pair.1 pair.2 := by
        rw [ne_eq, ne_eq, Command.revokeMembership.injEq, Prod.ext_iff, eq_comm,
          @eq_comm _ pair.2]
      rw [show after.roles role = _ from step, ← same]
      cases before.roles role with
      | none => simp [isGrant]
      | some found => simp [isGrant, left]
  | alterRole name options =>
      simp only [OnRole] at step
      split at step
      · obtain ⟨found, verifier, stored, -, changed⟩ := step
        simp [stored, changed, isGrant, altered]
      · simp [step, isGrant]
  | commentOnRole name comment =>
      simp only [OnRole] at step
      split at step
      · obtain ⟨found, stored, changed⟩ := step
        simp [stored, changed, isGrant, described]
      · simp [step, isGrant]
  | createDatabase | dropDatabase | createSchema | dropSchema | createRole | dropRole =>
      cases stays
  | _ => simp [show after.roles role = before.roles role from step, isGrant]

/-- What is held after a command that creates and drops nothing: what was held, with what it names
if it is a grant, and without what it names otherwise. -/
theorem holds_iff (executes : command.Executes database user before after)
    (stays : command.createsOrDrops = false) (holding : Holding) :
    after.Holds holding ↔
      if command.isGrant then before.Holds holding ∨ command.Names database holding
      else before.Holds holding ∧ ¬command.Names database holding := by
  cases holding with
  | privilege securable role privilege => exact executes.mem_access_iff stays securable privilege
  | byDefault home place owner role privilege =>
      exact executes.mem_defaults_iff stays home place owner privilege
  | group role group =>
      refine (executes.mem_listed_iff (group, role) stays (.inr rfl)
        (fun _ _ => RoleState.mem_inRole_join) (fun _ _ => RoleState.mem_inRole_leave)
        (fun _ _ _ => rfl) fun _ _ => rfl).trans ?_
      cases command <;> simp [isGrant, Names, ServerState.Holds, and_comm, eq_comm]
  | member role member =>
      refine (executes.mem_listed_iff (role, member) stays (.inl rfl)
        (fun _ _ => RoleState.mem_members_join) (fun _ _ => RoleState.mem_members_leave)
        (fun _ _ _ => rfl) fun _ _ => rfl).trans ?_
      cases command <;> simp [isGrant, Names, ServerState.Holds, eq_comm]

end Executes

end Sql.Command

end CatalogSteward
