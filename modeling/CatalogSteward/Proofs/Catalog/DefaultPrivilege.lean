import CatalogSteward.Proofs.Catalog.Observation
import CatalogSteward.Proofs.Path
import CatalogSteward.Proofs.Plan.DefaultPrivilege

/-!
# Default privileges are read where they are written

What an owner hands to a role by default is kept under the type of the objects
and, for all but schemas, the schema that they are in. A valid declaration is
checked, read and written under the same key, so that what was planned is found
when it is read again, and nothing under any other key has changed.
-/

set_option autoImplicit false

namespace CatalogSteward

open Sql

/-- A look of a session at a state of a server may find a value: it ends with the value, and every
question that it asks is answered as the server has it. -/
def Attempt.Finds {α : Type} (attempt : Attempt α) (database : String) (state : ServerState)
    (value : α) : Prop :=
  ∃ interactions, attempt.Path interactions (.ok value) ∧
    ∀ (question : Query) (rows : question.Rows),
      ⟨.query question, Except.ok rows⟩ ∈ interactions → question.IsAnswered state database rows

namespace DefaultPrivilegeDeclaration

/-- After a state a declaration is read as the given privileges, which are what is kept under its
key, and nothing else is different from a state before. -/
structure IsLeft (declaration : DefaultPrivilegeDeclaration) (database : String)
    (before after : ServerState) (privileges : PrivilegeSet) : Prop where
  readable : ∃ current, declaration.observe.Finds database after current
  read : ∀ current, declaration.observe.Finds database after current → current = privileges
  changed : ∀ home place owner role, declaration.Concerns database home place owner role →
    after.defaults home place owner role = privileges
  kept : ∀ home place owner role, ¬declaration.Concerns database home place owner role →
    after.defaults home place owner role = before.defaults home place owner role
  access : after.access = before.access
  objects : before.SameObjects after

/-- Commands can be carried out, and however the server carries them out, they leave the given
privileges under the key of a declaration. -/
structure Leaves (declaration : DefaultPrivilegeDeclaration) (database user : String)
    (commands : List Command) (before : ServerState) (privileges : PrivilegeSet) : Prop where
  possible : ∃ after, InOrder (Command.Executes database user) commands before after
  left : ∀ after, InOrder (Command.Executes database user) commands before after →
    declaration.IsLeft database before after privileges

variable {declaration : DefaultPrivilegeDeclaration} {database user resource : String}
  {state before after : ServerState} {current privileges : PrivilegeSet} {command : Command}
  {commands : List Command}

/-! ## Reading -/

theorem IsShown.eq_handed (valid : declaration.validate resource = .ok ())
    (shown : declaration.IsShown database state current) :
    current = declaration.handed database state := by
  apply Std.ExtTreeSet.ext_mem
  intro privilege
  rw [shown.current]
  constructor
  · rintro ⟨⟨objectType, schema, outside⟩, rfl, asked, held⟩
    have here : schema = declaration.scopedSchema := by
      rcases asked with none | same
      · rw [none]
        exact outside (objectType_of_validate valid none)
      · exact same
    subst here
    exact held
  · intro held
    exact ⟨declaration.place, rfl, .inr rfl, held⟩

/-- What is kept under other keys does not depend on the commands about a declaration. -/
theorem IsAbout.onDefaults_eq (about : declaration.IsAbout command) {home owner role : String}
    {place : DefaultPlace}
    (apart : ¬declaration.Concerns database home place owner role) :
    command.onDefaults database home place owner role privileges = privileges := by
  have elsewhere : ¬(home = database ∧ place.objectType = declaration.objectType ∧
      place.schema = declaration.scopedSchema ∧ owner = declaration.owner ∧
        role = declaration.role) := by
    rintro ⟨home, objectType, schema, owner, role⟩
    exact apart ⟨home, objectType, schema.trans declaration.scopedSchema_eq, owner, role⟩
  rcases about with ⟨given, rfl | rfl⟩
  · exact if_neg elsewhere
  · exact if_neg elsewhere

/-! ## Carrying out -/

theorem IsAbout.exists_executes (about : declaration.IsAbout command)
    (resolves : before.hasSchema database declaration.scopedSchema ∧
      (before.roles declaration.owner).isSome ∧ (before.roles declaration.role).isSome) :
    ∃ after, command.Executes database user before after := by
  refine ⟨{ before with
    defaults := fun home place owner role =>
      command.onDefaults database home place owner role (before.defaults home place owner role) },
    ?_⟩
  have possible : declaration.objectType = .schema → declaration.scopedSchema = none := by
    intro schemas
    rw [scopedSchema_eq, if_pos schemas]
  rcases about with ⟨given, rfl | rfl⟩
  · exact ⟨⟨possible, resolves⟩, rfl, rfl, rfl, rfl, fun _ => rfl, rfl, fun _ _ _ _ => rfl⟩
  · exact ⟨⟨possible, resolves⟩, rfl, rfl, rfl, rfl, fun _ => rfl, rfl, fun _ _ _ _ => rfl⟩

/-- Commands about a declaration that could be read can be carried out: none of them makes its
owner, its role or its schema go away. -/
theorem runnable_of_isAbout (about : ∀ command ∈ commands, declaration.IsAbout command)
    (resolves : before.hasSchema database declaration.scopedSchema ∧
      (before.roles declaration.owner).isSome ∧ (before.roles declaration.role).isSome) :
    Runnable database user commands before := by
  intro done command rest between order run
  subst order
  have same := run.sameObjects fun other member =>
    (about other (List.mem_append_left _ member)).isAboutPrivileges
  rw [← same.hasSchema_eq, ← same.roles] at resolves
  exact (about command (List.mem_append_right _ List.mem_cons_self)).exists_executes resolves

theorem commands_eq_nil_iff : declaration.commands current = [] ↔ current = declaration.desired := by
  unfold commands
  rw [List.append_eq_nil_iff, ← Difference.isEmpty_between_iff, Difference.isEmpty,
    Bool.and_eq_true, List.isEmpty_iff, List.isEmpty_iff]
  simp [revoke, grant]

/-! ## Plans and their revocation -/

end DefaultPrivilegeDeclaration

end CatalogSteward
