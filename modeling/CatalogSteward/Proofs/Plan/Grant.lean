import CatalogSteward.Plan.Privileges
import CatalogSteward.Proofs.Difference
import CatalogSteward.Proofs.Fallible
import CatalogSteward.Proofs.Server.Access

/-!
# Plans for grants

What the commands of a plan do to the access of the grantee. On every target
that it does not own it holds the declared privileges afterwards, on its own
targets what it held before, and elsewhere in the scope nothing; and a plan
without commands is made exactly where that is so already.
-/

set_option autoImplicit false

namespace CatalogSteward

open Sql

namespace GrantDeclaration

/-- The objects that a grant is about: the declared database or schema, the listed objects, or
every object that exists where none is listed. -/
def IsTarget (declaration : GrantDeclaration) (observed : GrantObservation)
    (object : String) : Prop :=
  match declaration.objectType with
  | .database => object = declaration.database
  | .schema => object = declaration.schemaName
  | _ =>
      (declaration.objects = [] ∧ object ∈ observed.ownership) ∨
        object ∈ declaration.objects

def securable (declaration : GrantDeclaration) (database object : String) : Securable :=
  declaration.objectType.securable database declaration.schemaName object

/-- What the grantee holds on the object of a name in the scope of a grant. -/
def held (declaration : GrantDeclaration) (database : String) (access : Access)
    (object : String) : PrivilegeSet :=
  access (declaration.securable database object) declaration.role

/-- The grantee holds what is declared on every target that it does not own, and nothing on
objects of the scope that are no targets. -/
structure Holds (declaration : GrantDeclaration) (observed : GrantObservation)
    (held : String → PrivilegeSet) : Prop where
  onTargets : ∀ object, declaration.IsTarget observed object →
    observed.ownership.getD object false = false →
      held object = .ofList declaration.privileges
  elsewhere : ∀ object, ¬declaration.IsTarget observed object → held object = ∅

def IsAbout (declaration : GrantDeclaration) (command : Command) : Prop :=
  ∃ object privileges,
    command = .grantOnObject declaration.objectType declaration.schemaName object privileges
        declaration.role ∨
      command = .revokeOnObject declaration.objectType declaration.schemaName object privileges
        declaration.role

def commands (declaration : GrantDeclaration) (observed : GrantObservation) : List Command :=
  ((declaration.targets observed).filter fun object => !owns observed object).flatMap
      (declaration.adjust observed.current) ++
    declaration.revokeElsewhere (declaration.targets observed) observed.current

/-- The remark of a plan: the targets that the grantee owns, where there are any. -/
def remark (declaration : GrantDeclaration) (resource : String)
    (observed : GrantObservation) : Option Remark :=
  let owned := (declaration.targets observed).filter (owns observed)
  if owned.isEmpty then none
  else some (.ownsTargets declaration.objectType resource declaration.schemaName owned)

variable {declaration : GrantDeclaration} {observed : GrantObservation}

theorem mem_targets_iff {object : String} :
    object ∈ declaration.targets observed ↔ declaration.IsTarget observed object := by
  unfold targets explicitTargets IsTarget
  cases declaration.objectType with
  | database => simp only [Option.getD_some, List.mem_singleton]
  | schema => simp only [Option.getD_some, List.mem_singleton]
  | table | sequence =>
      cases listed : declaration.objects with
      | nil =>
          simp only [List.isEmpty_nil, ↓reduceIte, Option.getD_none, Std.ExtTreeMap.mem_keys,
            true_and, List.not_mem_nil, or_false]
      | cons first rest =>
          simp only [List.isEmpty_cons, Bool.false_eq_true, ↓reduceIte, Option.getD_some,
            Std.ExtTreeSet.mem_toList, Std.ExtTreeSet.mem_ofList, List.contains_iff_mem,
            reduceCtorEq, false_and, false_or]

/-- A plan is made where the server knows every privilege and every target exists, and it is
determined by the declaration and the observation. -/
theorem plan_eq_ok_iff {resource : String} {serverVersion : Nat} {plan : Plan} :
    declaration.plan resource serverVersion observed = .ok plan ↔
      checkServerVersion resource serverVersion declaration.privileges = .ok () ∧
        (∀ object, declaration.IsTarget observed object → object ∈ observed.ownership) ∧
          plan = ⟨declaration.commands observed, declaration.remark resource observed⟩ := by
  have missing :
      ((declaration.targets observed).filter
          fun target => !observed.ownership.contains target).isEmpty = true ↔
        ∀ object, declaration.IsTarget observed object → object ∈ observed.ownership := by
    simp only [List.isEmpty_iff, List.filter_eq_nil_iff, Bool.not_eq_true', Bool.not_eq_false,
      mem_targets_iff, Std.ExtTreeMap.mem_iff_contains]
  rw [GrantDeclaration.plan, ← missing, Fallible.check_bind_eq_ok_iff]
  apply and_congr_right'
  simp only [pure, Except.pure, List.partition_eq_filter_filter]
  split
  · next empty =>
      simp only [empty, true_and, Except.ok.injEq]
      exact eq_comm
  · next present => simp only [present, reduceCtorEq, false_and, Bool.false_eq_true]

theorem mem_revokeOn_iff {command : Command} {object : String} {privileges : List Privilege} :
    command ∈ declaration.revokeOn object privileges ↔
      privileges ≠ [] ∧
        command = .revokeOnObject declaration.objectType declaration.schemaName object privileges
          declaration.role := by
  cases privileges with
  | nil => simp [revokeOn]
  | cons first rest => simp [revokeOn]

theorem mem_grantOn_iff {command : Command} {object : String} {privileges : List Privilege} :
    command ∈ declaration.grantOn object privileges ↔
      privileges ≠ [] ∧
        command = .grantOnObject declaration.objectType declaration.schemaName object privileges
          declaration.role := by
  cases privileges with
  | nil => simp [grantOn]
  | cons first rest => simp [grantOn]

theorem isAbout_of_mem_commands {command : Command}
    (member : command ∈ declaration.commands observed) : declaration.IsAbout command := by
  rcases List.mem_append.mp member with adjusted | elsewhere
  · obtain ⟨object, -, adjusted⟩ := List.mem_flatMap.mp adjusted
    rcases List.mem_append.mp adjusted with surplus | lacking
    · exact ⟨object, _, .inr (mem_revokeOn_iff.mp surplus).2⟩
    · exact ⟨object, _, .inl (mem_grantOn_iff.mp lacking).2⟩
  · obtain ⟨entry, -, elsewhere⟩ := List.mem_flatMap.mp elsewhere
    split at elsewhere
    · exact absurd elsewhere List.not_mem_nil
    · exact ⟨entry.1, _, .inr (mem_revokeOn_iff.mp elsewhere).2⟩

theorem revokeOn_eq_nil_iff {object : String} {privileges : List Privilege} :
    declaration.revokeOn object privileges = [] ↔ privileges = [] := by
  simp only [revokeOn, ite_eq_left_iff, List.cons_ne_nil, imp_false, Decidable.not_not,
    List.isEmpty_iff]

theorem grantOn_eq_nil_iff {object : String} {privileges : List Privilege} :
    declaration.grantOn object privileges = [] ↔ privileges = [] := by
  simp only [grantOn, ite_eq_left_iff, List.cons_ne_nil, imp_false, Decidable.not_not,
    List.isEmpty_iff]

theorem adjust_eq_nil_iff {current : ObjectPrivileges} {object : String} :
    declaration.adjust current object = [] ↔ current.getD object ∅ = declaration.desired := by
  rw [adjust, List.append_eq_nil_iff, revokeOn_eq_nil_iff, grantOn_eq_nil_iff,
    ← Difference.isEmpty_between_iff, Difference.isEmpty, Bool.and_eq_true, List.isEmpty_iff,
    List.isEmpty_iff]

theorem revokeElsewhere_eq_nil_iff {targets : List String} {current : ObjectPrivileges} :
    declaration.revokeElsewhere targets current = [] ↔
      ∀ object, object ∉ targets → current.getD object ∅ = ∅ := by
  simp only [revokeElsewhere, List.flatMap_eq_nil_iff, List.contains_iff_mem, ite_eq_left_iff,
    revokeOn_eq_nil_iff, Std.ExtTreeSet.toList_eq_nil_iff, Prod.forall,
    Std.ExtTreeMap.mem_toList_iff_getElem?_eq_some]
  constructor
  · intro empty object target
    cases entry : current[object]? with
    | none => rw [Std.ExtTreeMap.getD_eq_getD_getElem?, entry, Option.getD_none]
    | some privileges =>
        rw [Std.ExtTreeMap.getD_eq_getD_getElem?, entry, Option.getD_some]
        exact empty object privileges entry target
  · intro empty object privileges entry target
    have nothing := empty object target
    rw [Std.ExtTreeMap.getD_eq_getD_getElem?, entry, Option.getD_some] at nothing
    exact nothing

theorem commands_eq_nil_iff :
    declaration.commands observed = [] ↔
      declaration.Holds observed fun object => observed.current.getD object ∅ := by
  simp only [commands, List.append_eq_nil_iff, List.flatMap_eq_nil_iff, List.mem_filter,
    adjust_eq_nil_iff, revokeElsewhere_eq_nil_iff, mem_targets_iff, owns, Bool.not_eq_true',
    and_imp]
  exact ⟨fun both => ⟨both.1, both.2⟩, fun holds => ⟨holds.onTargets, holds.elsewhere⟩⟩

section Effects

variable {database : String} {access : Access}

theorem mem_held_after_revokeOn {object other : String} {privileges : List Privilege}
    {privilege : Privilege} :
    privilege ∈ declaration.held database
        (access.after database (declaration.revokeOn object privileges)) other ↔
      privilege ∈ declaration.held database access other ∧
        ¬(other = object ∧ privilege ∈ privileges) := by
  cases privileges with
  | nil => simp only [revokeOn, List.isEmpty_nil, ↓reduceIte, Access.after_nil,
      List.not_mem_nil, and_false, not_false_eq_true, and_true]
  | cons first rest =>
      simp only [revokeOn, List.isEmpty_cons, Bool.false_eq_true, ↓reduceIte, Access.after_cons,
        Access.after_nil, held, securable, Access.mem_onAccess_revokeOnObject,
        ObjectType.securable_inj, and_true]

theorem mem_held_after_grantOn {object other : String} {privileges : List Privilege}
    {privilege : Privilege} :
    privilege ∈ declaration.held database
        (access.after database (declaration.grantOn object privileges)) other ↔
      privilege ∈ declaration.held database access other ∨
        other = object ∧ privilege ∈ privileges := by
  cases privileges with
  | nil => simp only [grantOn, List.isEmpty_nil, ↓reduceIte, Access.after_nil,
      List.not_mem_nil, and_false, or_false]
  | cons first rest =>
      simp only [grantOn, List.isEmpty_cons, Bool.false_eq_true, ↓reduceIte, Access.after_cons,
        Access.after_nil, held, securable, Access.mem_onAccess_grantOnObject,
        ObjectType.securable_inj, and_true]

/-- Adjusting an object takes away what it has too much of and adds what it lacks, and leaves
every other object alone. -/
theorem mem_held_after_adjust {current : ObjectPrivileges} {object other : String}
    {privilege : Privilege} :
    privilege ∈ declaration.held database
        (access.after database (declaration.adjust current object)) other ↔
      if other = object then
        (privilege ∈ declaration.held database access other ∧
            ¬(privilege ∈ current.getD object ∅ ∧ privilege ∉ declaration.desired)) ∨
          (privilege ∈ declaration.desired ∧ privilege ∉ current.getD object ∅)
      else privilege ∈ declaration.held database access other := by
  simp only [adjust, Access.after_append, mem_held_after_grantOn, mem_held_after_revokeOn,
    Difference.mem_surplus_between, Difference.mem_lacking_between]
  split
  · next same => simp only [same, true_and]
  · next different => simp only [different, false_and, not_false_eq_true, and_true, or_false]

/-- Adjusting some objects gives each of them the desired privileges, where the observation is
right about those that were not adjusted before, and leaves every other object alone. -/
theorem held_after_adjustAll {current : ObjectPrivileges} {objects : List String}
    (observedOrDone : ∀ object ∈ objects,
      declaration.held database access object = current.getD object ∅ ∨
        declaration.held database access object = declaration.desired) (other : String) :
    declaration.held database
        (access.after database (objects.flatMap (declaration.adjust current))) other =
      if other ∈ objects then declaration.desired
      else declaration.held database access other := by
  -- An object may be listed again: it has the desired privileges then, whatever was observed.
  induction objects generalizing access with
  | nil => rfl
  | cons object rest ih =>
      have adjusted : declaration.held database
          (access.after database (declaration.adjust current object)) object =
            declaration.desired := by
        apply Std.ExtTreeSet.ext_mem
        intro privilege
        rw [mem_held_after_adjust, if_pos rfl]
        rcases observedOrDone object List.mem_cons_self with same | same
        · rw [same]
          grind
        · rw [same]
          grind
      have kept : ∀ another, another ≠ object → declaration.held database
          (access.after database (declaration.adjust current object)) another =
            declaration.held database access another := by
        intro another different
        apply Std.ExtTreeSet.ext_mem
        intro privilege
        rw [mem_held_after_adjust, if_neg different]
      rw [List.flatMap_cons, Access.after_append, ih]
      · by_cases first : other = object
        · subst first
          simp only [adjusted, List.mem_cons, true_or, ↓reduceIte, ite_self]
        · simp only [kept other first, List.mem_cons, first, false_or]
      · intro another member
        by_cases first : another = object
        · subst first
          exact .inr adjusted
        · rw [kept another first]
          exact observedOrDone another (List.mem_cons_of_mem _ member)

theorem mem_held_after_revokeEntries {targets : List String}
    {entries : List (String × PrivilegeSet)} {other : String} {privilege : Privilege} :
    privilege ∈ declaration.held database
        (access.after database (entries.flatMap fun entry =>
          if targets.contains entry.1 then []
          else declaration.revokeOn entry.1 entry.2.toList)) other ↔
      privilege ∈ declaration.held database access other ∧
        ¬∃ entry ∈ entries, other = entry.1 ∧ other ∉ targets ∧ privilege ∈ entry.2 := by
  induction entries generalizing access with
  | nil => simp only [List.flatMap_nil, Access.after_nil, List.not_mem_nil, false_and,
      exists_false, not_false_eq_true, and_true]
  | cons entry rest ih =>
      rw [List.flatMap_cons, Access.after_append, ih]
      by_cases target : entry.1 ∈ targets
      · simp only [List.contains_iff_mem, target, ↓reduceIte, Access.after_nil, List.mem_cons,
          exists_eq_or_imp]
        have none : ¬(other = entry.1 ∧ other ∉ targets ∧ privilege ∈ entry.2) :=
          fun both => both.2.1 (both.1 ▸ target)
        simp only [none, false_or]
      · simp only [List.contains_iff_mem, target, ↓reduceIte, mem_held_after_revokeOn,
          Std.ExtTreeSet.mem_toList, List.mem_cons, exists_eq_or_imp]
        have there : other = entry.1 → other ∉ targets := fun same => same ▸ target
        grind

theorem held_after_revokeElsewhere {targets : List String} {current : ObjectPrivileges}
    {other : String} (shown : other ∉ targets →
      declaration.held database access other = current.getD other ∅) :
    declaration.held database
        (access.after database (declaration.revokeElsewhere targets current)) other =
      if other ∈ targets then declaration.held database access other else ∅ := by
  apply Std.ExtTreeSet.ext_mem
  intro privilege
  rw [revokeElsewhere, mem_held_after_revokeEntries]
  by_cases target : other ∈ targets
  · simp only [target, not_true_eq_false, false_and, and_false, exists_false, not_false_eq_true,
      and_true, ↓reduceIte]
  · simp only [target, not_false_eq_true, true_and, ↓reduceIte, Std.ExtTreeSet.not_mem_empty,
      iff_false, not_and, Decidable.not_not, shown target]
    intro present
    cases entry : current[other]? with
    | none =>
        rw [Std.ExtTreeMap.getD_eq_getD_getElem?, entry] at present
        exact absurd present Std.ExtTreeSet.not_mem_empty
    | some privileges =>
        rw [Std.ExtTreeMap.getD_eq_getD_getElem?, entry] at present
        exact ⟨(other, privileges),
          Std.ExtTreeMap.mem_toList_iff_getElem?_eq_some.mpr entry, rfl, present⟩

/-- Commands about one role and one type of object in one schema leave the privileges of other
roles and those on other objects alone. -/
theorem after_eq_of_unrelated {commands : List Command} {securable : Securable} {role : String}
    (related : ∀ command ∈ commands, declaration.IsAbout command)
    (unrelated : role = declaration.role →
      ∀ object, securable ≠ declaration.securable database object) :
    access.after database commands securable role = access securable role := by
  induction commands generalizing access with
  | nil => rfl
  | cons command rest ih =>
      rw [Access.after_cons, ih fun other member => related other (List.mem_cons_of_mem _ member)]
      obtain ⟨object, privileges, same⟩ := related command List.mem_cons_self
      apply Std.ExtTreeSet.ext_mem
      intro privilege
      have apart : ¬(securable = declaration.objectType.securable database
          declaration.schemaName object ∧ role = declaration.role) :=
        fun both => unrelated both.2 object both.1
      rcases same with same | same
      · rw [same, Access.mem_onAccess_grantOnObject]
        simp only [apart, false_and, or_false]
      · rw [same, Access.mem_onAccess_revokeOnObject]
        simp only [apart, false_and, not_false_eq_true, and_true]

/-- What the grantee holds on an object after the commands of a plan: what is declared on a
target that it does not own, what it held before on one that it owns, and nothing elsewhere. The
observation has to be right about the targets and about the object. -/
theorem held_after_commands {object : String}
    (shown : ∀ other, declaration.IsTarget observed other ∨ other = object →
      declaration.held database access other = observed.current.getD other ∅) :
    declaration.held database (access.after database (declaration.commands observed)) object =
      if object ∈ declaration.targets observed then
        if owns observed object then declaration.held database access object
        else declaration.desired
      else ∅ := by
  have accurate : ∀ object ∈ (declaration.targets observed).filter fun object =>
        !owns observed object,
      declaration.held database access object = observed.current.getD object ∅ ∨
        declaration.held database access object = declaration.desired :=
    fun object member =>
      .inl (shown object (.inl (mem_targets_iff.mp (List.mem_filter.mp member).1)))
  have adjusted := held_after_adjustAll accurate
  have untouched : object ∉ declaration.targets observed →
      declaration.held database
          (access.after database
            (((declaration.targets observed).filter fun object => !owns observed object).flatMap
              (declaration.adjust observed.current))) object =
        observed.current.getD object ∅ := by
    intro target
    rw [adjusted, if_neg fun member => target (List.mem_filter.mp member).1,
      shown object (.inr rfl)]
  rw [commands, Access.after_append, held_after_revokeElsewhere untouched, adjusted]
  by_cases target : object ∈ declaration.targets observed
  · cases owned : owns observed object with
    | false => simp only [target, owned, List.mem_filter, Bool.not_false, and_self, ↓reduceIte,
        Bool.false_eq_true]
    | true => simp only [target, owned, List.mem_filter, Bool.not_true, Bool.false_eq_true,
        and_false, ↓reduceIte]
  · simp only [target, ↓reduceIte]

end Effects

/-- Where a plan is made from what the grantee holds, its commands give the grantee exactly the
declared privileges on every target that it does not own and none elsewhere in the scope of the
grant. Targets that it owns, other roles and other objects keep what they had; and there are no
commands exactly where all of this is so already. -/
theorem plan_grants_declared {resource : String} {serverVersion : Nat} {plan : Plan}
    {database : String} {access : Access}
    (planned : declaration.plan resource serverVersion observed = .ok plan)
    (shown : ∀ object,
      declaration.held database access object = observed.current.getD object ∅) :
    declaration.Holds observed
        (declaration.held database (access.after database plan.commands)) ∧
      (∀ object, declaration.IsTarget observed object →
        observed.ownership.getD object false = true →
          declaration.held database (access.after database plan.commands) object =
            declaration.held database access object) ∧
      (∀ securable role,
        (role = declaration.role →
          ∀ object, securable ≠ declaration.securable database object) →
          access.after database plan.commands securable role = access securable role) ∧
      (plan.commands = [] ↔
        declaration.Holds observed fun object => observed.current.getD object ∅) := by
  obtain ⟨-, -, rfl⟩ := plan_eq_ok_iff.mp planned
  have after : ∀ object, _ := fun object =>
    @held_after_commands declaration observed database access object fun other _ => shown other
  refine ⟨⟨?_, ?_⟩, ?_, ?_, commands_eq_nil_iff⟩
  · intro object target notOwned
    rw [after, if_pos (mem_targets_iff.mpr target), owns, notOwned]
    rfl
  · intro object elsewhere
    rw [after, if_neg fun target => elsewhere (mem_targets_iff.mp target)]
  · intro object target owned
    rw [after, if_pos (mem_targets_iff.mpr target), owns, owned]
    rfl
  · intro securable role unrelated
    exact after_eq_of_unrelated (fun _ => isAbout_of_mem_commands) unrelated

private def readings : GrantDeclaration where
  cluster := ⟨"main", none⟩
  database := "app"
  role := "reader"
  schema := some "data"
  objectType := .table
  objects := ["readings", "own", "readings"]
  privileges := [.select]

/-- The grantee holds another privilege on one table, owns the other, and holds what is declared
on a table that is not listed. -/
private def drifted : GrantObservation where
  ownership := .ofList [("readings", false), ("own", true)]
  current :=
    .ofList
      [("readings", Std.ExtTreeSet.ofList [Privilege.insert]),
        ("gone", Std.ExtTreeSet.ofList [Privilege.select])]

private def driftedAccess : Access := fun securable role =>
  match securable with
  | .table "app" "data" object => if role = "reader" then drifted.current.getD object ∅ else ∅
  | _ => ∅

private def readingsPlan : Plan where
  commands :=
    [.revokeOnObject .table "data" "readings" [.insert] "reader",
      .grantOnObject .table "data" "readings" [.select] "reader",
      .revokeOnObject .table "data" "gone" [.select] "reader"]
  remark := some (.ownsTargets .table "ns/readings" "data" ["own"])

private theorem plan_readings :
    readings.plan "ns/readings" 16 drifted = .ok readingsPlan := by
  refine plan_eq_ok_iff.mpr ⟨rfl, ?_, by decide +kernel⟩
  intro object target
  rw [← mem_targets_iff] at target
  revert object
  decide +kernel

theorem plan_grants_declared_on_readings :
    (readings.plan "ns/readings" 16 drifted = .ok readingsPlan ∧
        ∀ object,
          readings.held "app" driftedAccess object = drifted.current.getD object ∅) ∧
      readings.Holds drifted
        (readings.held "app" (driftedAccess.after "app" readingsPlan.commands)) :=
  ⟨⟨plan_readings, fun _ => rfl⟩, (plan_grants_declared plan_readings fun _ => rfl).1⟩

end GrantDeclaration

end CatalogSteward
