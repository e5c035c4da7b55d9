import CatalogSteward.Plan.Privileges
import CatalogSteward.Proofs.Difference
import CatalogSteward.Proofs.Fallible
import CatalogSteward.Proofs.Server.State

/-!
# Plans for default privileges

After the commands of a plan the owner hands exactly the declared privileges to
the role, in the one place that the declaration is about.
-/

set_option autoImplicit false

namespace CatalogSteward

open Sql

namespace DefaultPrivilegeDeclaration

/-- The key that a declaration is about: the future objects of its type that its owner creates in
its database, in the declared schema unless they are schemas, and its role. -/
structure Concerns (declaration : DefaultPrivilegeDeclaration) (database home : String)
    (place : DefaultPlace) (owner role : String) : Prop where
  home : home = database
  objectType : place.objectType = declaration.objectType
  schema : place.schema = if declaration.objectType = .schema then none else declaration.schema
  owner : owner = declaration.owner
  role : role = declaration.role

def place (declaration : DefaultPrivilegeDeclaration) : DefaultPlace where
  objectType := declaration.objectType
  schema := declaration.scopedSchema
  outside := by
    intro schemas
    rw [scopedSchema, schemas]
    rfl

def handed (declaration : DefaultPrivilegeDeclaration) (database : String)
    (state : ServerState) : PrivilegeSet :=
  state.defaults database declaration.place declaration.owner declaration.role

def commands (declaration : DefaultPrivilegeDeclaration) (current : PrivilegeSet) :
    List Command :=
  let difference := Difference.between current declaration.desired
  declaration.revoke difference.surplus ++ declaration.grant difference.lacking

/-- A command grants or revokes default privileges for the future objects that a declaration is
about, for its owner and its role. -/
def IsAbout (declaration : DefaultPrivilegeDeclaration) (command : Command) : Prop :=
  ∃ privileges,
    command = .grantDefaultPrivileges declaration.owner declaration.scopedSchema
        declaration.objectType privileges declaration.role ∨
      command = .revokeDefaultPrivileges declaration.owner declaration.scopedSchema
        declaration.objectType privileges declaration.role

variable {declaration : DefaultPrivilegeDeclaration} {database user : String}
  {before after : ServerState} {privileges : List Privilege} {current : PrivilegeSet}

theorem scopedSchema_eq (declaration : DefaultPrivilegeDeclaration) :
    declaration.scopedSchema =
      if declaration.objectType = .schema then none else declaration.schema := by
  unfold scopedSchema
  cases declaration.objectType <;> rfl

theorem Concerns.place_eq {home owner role : String} {place : DefaultPlace}
    (concerns : declaration.Concerns database home place owner role) :
    place = declaration.place := by
  obtain ⟨objectType, schema, outside⟩ := place
  have sameType := concerns.objectType
  have sameSchema := concerns.schema
  rw [← scopedSchema_eq] at sameSchema
  dsimp only at sameType sameSchema
  subst sameType sameSchema
  rfl

/-- A declaration that passed the checks names a schema unless it is about schemas. -/
theorem objectType_of_validate {resource : String}
    (valid : declaration.validate resource = .ok ())
    (unscoped : declaration.scopedSchema = none) : declaration.objectType = .schema := by
  rw [scopedSchema] at unscoped
  rw [validate] at valid
  cases objectType : declaration.objectType with
  | schema => rfl
  | table | sequence =>
      rw [objectType] at unscoped
      have absent : declaration.schema = none := unscoped
      rw [objectType, absent, checkDeclared] at valid
      split at valid
      · exact nomatch valid
      · exact nomatch valid

/-- A plan is made where the server knows every privilege, and it is determined by the
declaration and what was observed. -/
theorem plan_eq_ok_iff {resource : String} {serverVersion : Nat} {plan : Plan} :
    declaration.plan resource serverVersion current = .ok plan ↔
      checkServerVersion resource serverVersion declaration.privileges = .ok () ∧
        plan = ⟨declaration.commands current, none⟩ := by
  rw [DefaultPrivilegeDeclaration.plan, Fallible.check_bind_eq_ok_iff]
  simp only [pure, Except.pure, Except.ok.injEq, commands, eq_comm]

theorem mem_revoke_iff {command : Command} :
    command ∈ declaration.revoke privileges ↔
      privileges ≠ [] ∧
        command = .revokeDefaultPrivileges declaration.owner declaration.scopedSchema
          declaration.objectType privileges declaration.role := by
  cases privileges with
  | nil => simp [revoke]
  | cons first rest => simp [revoke]

theorem mem_grant_iff {command : Command} :
    command ∈ declaration.grant privileges ↔
      privileges ≠ [] ∧
        command = .grantDefaultPrivileges declaration.owner declaration.scopedSchema
          declaration.objectType privileges declaration.role := by
  cases privileges with
  | nil => simp [grant]
  | cons first rest => simp [grant]

theorem IsAbout.isAboutPrivileges {command : Command} (about : declaration.IsAbout command) :
    command.isAboutPrivileges = true := by
  rcases about with ⟨given, rfl | rfl⟩
  · rfl
  · rfl

theorem isAbout_of_mem_revoke {command : Command}
    (member : command ∈ declaration.revoke privileges) : declaration.IsAbout command :=
  ⟨privileges, .inr (mem_revoke_iff.mp member).2⟩

theorem isAbout_of_mem_commands {command : Command}
    (member : command ∈ declaration.commands current) : declaration.IsAbout command := by
  rcases List.mem_append.mp member with surplus | lacking
  · exact isAbout_of_mem_revoke surplus
  · exact ⟨_, .inl (mem_grant_iff.mp lacking).2⟩

theorem isAboutPrivileges_of_mem_commands {command : Command}
    (member : command ∈ declaration.commands current) : command.isAboutPrivileges = true :=
  (isAbout_of_mem_commands member).isAboutPrivileges

theorem mem_handed_after_revoke {privilege : Privilege}
    (run : InOrder (Command.Executes database user) (declaration.revoke privileges) before
      after) :
    privilege ∈ declaration.handed database after ↔
      privilege ∈ declaration.handed database before ∧ privilege ∉ privileges := by
  cases privileges with
  | nil =>
      rw [InOrder.nil_iff.mp run]
      simp only [List.not_mem_nil, not_false_eq_true, and_true]
  | cons first rest =>
      have executes := InOrder.singleton_iff.mp run
      rw [handed, executes.defaults, Command.onDefaults,
        if_pos ⟨rfl, rfl, rfl, rfl, rfl⟩, Std.ExtTreeSet.mem_diff_iff, Std.ExtTreeSet.mem_ofList,
        List.contains_iff_mem]
      rfl

/-- A revocation of everything that is handed over, and maybe of more, leaves nothing. -/
theorem handed_after_revoke_eq_empty
    (seen : ∀ privilege, privilege ∈ declaration.handed database before →
      privilege ∈ privileges)
    (run : InOrder (Command.Executes database user) (declaration.revoke privileges) before
      after) :
    declaration.handed database after = ∅ := by
  apply Std.ExtTreeSet.ext_mem
  intro privilege
  rw [mem_handed_after_revoke run]
  constructor
  · intro kept
    obtain ⟨held, spared⟩ := kept
    exact absurd (seen privilege held) spared
  · exact fun impossible => absurd impossible Std.ExtTreeSet.not_mem_empty

theorem mem_handed_after_grant {privilege : Privilege}
    (run : InOrder (Command.Executes database user) (declaration.grant privileges) before
      after) :
    privilege ∈ declaration.handed database after ↔
      privilege ∈ declaration.handed database before ∨ privilege ∈ privileges := by
  cases privileges with
  | nil =>
      rw [InOrder.nil_iff.mp run]
      simp only [List.not_mem_nil, or_false]
  | cons first rest =>
      have executes := InOrder.singleton_iff.mp run
      rw [handed, executes.defaults, Command.onDefaults,
        if_pos ⟨rfl, rfl, rfl, rfl, rfl⟩, Std.ExtTreeSet.mem_union_iff,
        Std.ExtTreeSet.mem_ofList, List.contains_iff_mem]
      rfl

theorem handed_after_commands
    (run : InOrder (Command.Executes database user)
      (declaration.commands (declaration.handed database before)) before after) :
    declaration.handed database after = declaration.desired := by
  obtain ⟨between, revoked, granted⟩ := InOrder.append_iff.mp run
  apply Std.ExtTreeSet.ext_mem
  intro privilege
  rw [mem_handed_after_grant granted, mem_handed_after_revoke revoked,
    Difference.mem_surplus_between, Difference.mem_lacking_between]
  grind

theorem commands_desired : declaration.commands declaration.desired = [] := by
  have nothing := Difference.isEmpty_between_iff.mpr (Eq.refl declaration.desired)
  rw [Difference.isEmpty, Bool.and_eq_true, List.isEmpty_iff, List.isEmpty_iff] at nothing
  rw [commands, nothing.1, nothing.2]
  rfl

end DefaultPrivilegeDeclaration

end CatalogSteward
