import CatalogSteward.Catalog.Observation
import CatalogSteward.Proofs.Plan.Grant

/-!
# Privileges that rows report

The rows about access name an object and a privilege, once for everyone who
granted it and in no order. What is collected from them is a relation of objects
and managed privileges. An object of which no row names a managed privilege is
not in it, and so nothing is ever revoked on such an object.
-/

set_option autoImplicit false

namespace CatalogSteward

open Sql

namespace Privilege

/-- A text names a privilege by its keyword, or the temporary one by the short form of it, in
either case of the ASCII letters. -/
def IsNamed (reported : String) (privilege : Privilege) : Prop :=
  reported.map Char.toUpper = privilege.keyword ∨
    privilege = .temporary ∧ reported.map Char.toUpper = "TEMP"

instance (reported : String) (privilege : Privilege) : Decidable (IsNamed reported privilege) :=
  inferInstanceAs (Decidable (_ ∨ _))

theorem ofAcl?_eq_some_iff {reported : String} {privilege : Privilege} :
    ofAcl? reported = some privilege ↔ IsNamed reported privilege := by
  unfold ofAcl? IsNamed
  generalize reported.map Char.toUpper = folded
  dsimp only
  split
  · next short =>
      subst short
      constructor
      · intro found
        cases found
        exact .inr ⟨rfl, rfl⟩
      · intro named
        obtain named | ⟨rfl, -⟩ := named
        · cases privilege <;> exact absurd named (by decide)
        · rfl
  · next long =>
      constructor
      · intro found
        have named := List.find?_some found
        exact .inl (of_decide_eq_true named).symm
      · intro named
        obtain rfl | ⟨-, short⟩ := named
        · cases privilege <;> rfl
        · exact absurd short long

end Privilege

/-- Some row names a managed privilege on an object. -/
def IsReported (rows : List (String × String)) (object : String) (privilege : Privilege) : Prop :=
  ∃ reported, (object, reported) ∈ rows ∧ privilege.IsNamed reported

variable {rows : List (String × String)} {object : String} {privilege : Privilege}

theorem isReported_nil : ¬IsReported [] object privilege :=
  fun ⟨_, member, _⟩ => List.not_mem_nil member

theorem isReported_cons {row : String × String} :
    IsReported (row :: rows) object privilege ↔
      row.1 = object ∧ privilege.IsNamed row.2 ∨ IsReported rows object privilege := by
  simp only [IsReported, List.mem_cons, Prod.ext_iff]
  constructor
  · intro some
    obtain ⟨reported, ⟨rfl, rfl⟩ | member, named⟩ := some
    · exact .inl ⟨rfl, named⟩
    · exact .inr ⟨reported, member, named⟩
  · intro some
    obtain ⟨rfl, named⟩ | ⟨reported, member, named⟩ := some
    · exact ⟨row.2, .inl ⟨rfl, rfl⟩, named⟩
    · exact ⟨reported, .inr member, named⟩

theorem isReported_congr {others : List (String × String)}
    (same : ∀ row, row ∈ rows ↔ row ∈ others) :
    IsReported rows object privilege ↔ IsReported others object privilege := by
  simp only [IsReported, same]

/-! ## Collecting -/

/-- A row adds the privilege that it names, if that is managed, to those of its object, and
leaves those of other objects alone. -/
theorem mem_getD_addReported {held : ObjectPrivileges} {row : String × String} :
    privilege ∈ (held.addReported row).getD object ∅ ↔
      privilege ∈ held.getD object ∅ ∨ row.1 = object ∧ privilege.IsNamed row.2 := by
  rw [← Privilege.ofAcl?_eq_some_iff]
  unfold ObjectPrivileges.addReported
  cases spelled : Privilege.ofAcl? row.2 with
  | none =>
      simp only [Std.ExtTreeMap.getD_insert, Std.LawfulEqCmp.compare_eq_iff_eq, reduceCtorEq,
        and_false, or_false]
      split
      · next same => rw [same]
      · next different => rfl
  | some other =>
      simp only [Std.ExtTreeMap.getD_insert, Std.LawfulEqCmp.compare_eq_iff_eq,
        Option.some.injEq]
      split
      · next same =>
          subst same
          simp only [Std.ExtTreeSet.mem_insert, Std.LawfulEqCmp.compare_eq_iff_eq, true_and,
            or_comm]
      · next different => simp only [different, false_and, or_false]

/-- A map that is added to while the rows are gone through holds what it held before, and what
the rows so far reported. It has objects without privileges as well. -/
theorem mem_getD_addAllReported {held : ObjectPrivileges} :
    privilege ∈ (rows.foldl ObjectPrivileges.addReported held).getD object ∅ ↔
      privilege ∈ held.getD object ∅ ∨ IsReported rows object privilege := by
  induction rows generalizing held with
  | nil => rw [List.foldl_nil, iff_false_intro isReported_nil, or_false]
  | cons row rest ih =>
      rw [List.foldl_cons, ih, mem_getD_addReported, isReported_cons, or_assoc]

/-- Leaving out the objects without privileges takes no privilege away. -/
theorem mem_getD_collectPrivileges :
    privilege ∈ (collectPrivileges rows).getD object ∅ ↔ IsReported rows object privilege := by
  have gone : privilege ∈ (rows.foldl ObjectPrivileges.addReported ∅).getD object ∅ ↔
      IsReported rows object privilege := by
    rw [mem_getD_addAllReported, Std.ExtTreeMap.getD_empty]
    exact or_iff_right Std.ExtTreeSet.not_mem_empty
  rw [← gone, collectPrivileges, Std.ExtTreeMap.getD_filter', Std.ExtTreeMap.getD_eq_getD_getElem?]
  cases (rows.foldl ObjectPrivileges.addReported ∅)[object]? with
  | none => rfl
  | some privileges =>
      rw [Option.filter_some]
      split
      · rfl
      · next empty =>
          rw [Bool.not_eq_true, Bool.not_eq_false', Std.ExtTreeSet.isEmpty_iff] at empty
          rw [empty]
          rfl

theorem ne_empty_of_collected {privileges : PrivilegeSet}
    (found : (collectPrivileges rows)[object]? = some privileges) : privileges ≠ ∅ := by
  rw [collectPrivileges, Std.ExtTreeMap.getElem?_filter', Option.filter_eq_some_iff] at found
  intro empty
  rw [empty] at found
  cases found.2

/-- An object is in the map with the privileges that the rows report on it, where there are any. -/
theorem getElem?_collectPrivileges {privileges : PrivilegeSet} :
    (collectPrivileges rows)[object]? = some privileges ↔
      privileges ≠ ∅ ∧ ∀ privilege, privilege ∈ privileges ↔ IsReported rows object privilege := by
  constructor
  · intro found
    refine ⟨ne_empty_of_collected found, fun privilege => ?_⟩
    rw [← mem_getD_collectPrivileges, Std.ExtTreeMap.getD_eq_getD_getElem?, found, Option.getD_some]
  · intro described
    obtain ⟨some, reported⟩ := described
    have same : (collectPrivileges rows).getD object ∅ = privileges := by
      apply Std.ExtTreeSet.ext_mem
      intro privilege
      rw [mem_getD_collectPrivileges, reported]
    rw [Std.ExtTreeMap.getD_eq_getD_getElem?] at same
    cases found : (collectPrivileges rows)[object]? with
    | none =>
        rw [found] at same
        exact absurd same.symm some
    | some others =>
        rw [found] at same
        exact congrArg _ same

theorem mem_collectPrivileges_iff :
    object ∈ collectPrivileges rows ↔ ∃ privilege, IsReported rows object privilege := by
  rw [Std.ExtTreeMap.mem_iff_isSome_getElem?, Option.isSome_iff_exists]
  constructor
  · intro present
    obtain ⟨privileges, found⟩ := present
    obtain ⟨some, reported⟩ := getElem?_collectPrivileges.mp found
    rw [Ne, Std.ExtTreeSet.eq_empty_iff_forall_not_mem, Classical.not_forall_not] at some
    obtain ⟨privilege, member⟩ := some
    exact ⟨privilege, (reported privilege).mp member⟩
  · intro some
    obtain ⟨privilege, reported⟩ := some
    rw [← mem_getD_collectPrivileges, Std.ExtTreeMap.getD_eq_getD_getElem?] at reported
    cases found : (collectPrivileges rows)[object]? with
    | none =>
        rw [found] at reported
        exact absurd reported Std.ExtTreeSet.not_mem_empty
    | some privileges => exact ⟨privileges, rfl⟩

theorem collectPrivileges_congr {others : List (String × String)}
    (same : ∀ row, row ∈ rows ↔ row ∈ others) :
    collectPrivileges rows = collectPrivileges others := by
  apply Std.ExtTreeMap.ext_getElem?
  intro object
  apply Option.ext
  intro privileges
  simp only [getElem?_collectPrivileges, isReported_congr same]

/-! ## Revoking -/

namespace GrantDeclaration

variable {declaration : GrantDeclaration} {observed : GrantObservation}
  {current : ObjectPrivileges} {objectType : ObjectType} {schema role : String}
  {privileges : List Privilege}

theorem held_of_mem_revokeOn {other : String} {held : List Privilege}
    (member : .revokeOnObject objectType schema object privileges role ∈
      declaration.revokeOn other held) :
    other = object ∧ held = privileges ∧ privileges ≠ [] := by
  obtain ⟨some, same⟩ := mem_revokeOn_iff.mp member
  cases same
  exact ⟨rfl, rfl, some⟩

theorem held_of_mem_revokeElsewhere {targets : List String}
    (member : .revokeOnObject objectType schema object privileges role ∈
      declaration.revokeElsewhere targets current) :
    privileges ≠ [] ∧ ∀ privilege ∈ privileges, privilege ∈ current.getD object ∅ := by
  obtain ⟨entry, found, member⟩ := List.mem_flatMap.mp member
  split at member
  · exact absurd member List.not_mem_nil
  · obtain ⟨rfl, rfl, some⟩ := held_of_mem_revokeOn member
    refine ⟨some, fun privilege held => ?_⟩
    rw [Std.ExtTreeMap.getD_eq_getD_getElem?,
      Std.ExtTreeMap.mem_toList_iff_getElem?_eq_some.mp found]
    exact Std.ExtTreeSet.mem_toList.mp held

theorem held_of_mem_revokeAll
    (member : .revokeOnObject objectType schema object privileges role ∈
      declaration.revokeAll current) :
    privileges ≠ [] ∧ ∀ privilege ∈ privileges, privilege ∈ current.getD object ∅ := by
  have elsewhere : _ ∈ declaration.revokeElsewhere [] current := member
  exact held_of_mem_revokeElsewhere elsewhere

/-- The commands of a plan revoke nothing that was not observed to be held. -/
theorem held_of_mem_commands
    (member : .revokeOnObject objectType schema object privileges role ∈
      declaration.commands observed) :
    privileges ≠ [] ∧ ∀ privilege ∈ privileges, privilege ∈ observed.current.getD object ∅ := by
  cases List.mem_append.mp member with
  | inr elsewhere => exact held_of_mem_revokeElsewhere elsewhere
  | inl adjusted =>
      obtain ⟨target, -, adjusted⟩ := List.mem_flatMap.mp adjusted
      cases List.mem_append.mp adjusted with
      | inl surplus =>
          obtain ⟨rfl, rfl, some⟩ := held_of_mem_revokeOn surplus
          exact ⟨some, fun _ member => (Difference.mem_surplus_between.mp member).1⟩
      | inr lacking => cases (mem_grantOn_iff.mp lacking).2

end GrantDeclaration

/-! ## The relation that rows report -/

/-- What is collected is the relation that the rows report. An object is in the map exactly where
some row names a managed privilege on it, and then with exactly the privileges that are named; a
keyword is read in either case, and the temporary privilege in either spelling. The same rows in
another order or with repetitions come to the same. On an object of which no row names a managed
privilege nothing is revoked, neither by the plan for a grant nor by its cleanup. -/
theorem reported_privileges_are_collected (rows : List (String × String)) :
    (∀ reported privilege,
        Privilege.ofAcl? reported = some privilege ↔ Privilege.IsNamed reported privilege) ∧
      (∀ object privileges,
        (collectPrivileges rows)[object]? = some privileges ↔
          privileges ≠ ∅ ∧
            ∀ privilege, privilege ∈ privileges ↔ IsReported rows object privilege) ∧
      (∀ object,
        object ∈ collectPrivileges rows ↔ ∃ privilege, IsReported rows object privilege) ∧
      (∀ others, (∀ row, row ∈ others ↔ row ∈ rows) →
        collectPrivileges others = collectPrivileges rows) ∧
      ∀ object, (∀ privilege, ¬IsReported rows object privilege) →
        ∀ (declaration : GrantDeclaration) objectType schema privileges role,
          (∀ resource serverVersion ownership plan,
            declaration.plan resource serverVersion ⟨ownership, collectPrivileges rows⟩ =
                .ok plan →
              .revokeOnObject objectType schema object privileges role ∉ plan.commands) ∧
            .revokeOnObject objectType schema object privileges role ∉
              declaration.revokeAll (collectPrivileges rows) := by
  refine ⟨fun _ _ => Privilege.ofAcl?_eq_some_iff, fun _ _ => getElem?_collectPrivileges,
    fun _ => mem_collectPrivileges_iff, fun _ => collectPrivileges_congr, ?unmanaged⟩
  intro object unmanaged declaration objectType schema privileges role
  have unheld : ¬(privileges ≠ [] ∧
      ∀ privilege ∈ privileges, privilege ∈ (collectPrivileges rows).getD object ∅) := by
    intro revoked
    obtain ⟨some, held⟩ := revoked
    obtain ⟨privilege, member⟩ := List.exists_mem_of_ne_nil privileges some
    exact unmanaged privilege (mem_getD_collectPrivileges.mp (held privilege member))
  constructor
  · intro resource serverVersion ownership plan planned member
    obtain ⟨-, -, rfl⟩ := GrantDeclaration.plan_eq_ok_iff.mp planned
    exact unheld (GrantDeclaration.held_of_mem_commands member)
  · intro member
    exact unheld (GrantDeclaration.held_of_mem_revokeAll member)

/-! Two roles granted the same privilege on the tools, in two spellings; on the lathe there is
nothing but a privilege that is not managed. -/

private def workshop : GrantDeclaration :=
  ⟨⟨"main", none⟩, "works", "apprentice", some "floor", .table, ["tools"], [.select]⟩

private def workshopRows : List (String × String) :=
  [("tools", "SELECT"), ("lathe", "ALTER SYSTEM"), ("tools", "select"), ("tools", "TEMP")]

theorem reported_privileges_are_collected_in_workshop :
    ((∀ row, row ∈ ("tools", "TEMP") :: workshopRows.reverse ↔ row ∈ workshopRows) ∧
        ∀ privilege, ¬IsReported workshopRows "lathe" privilege) ∧
      (collectPrivileges workshopRows)["tools"]? = some (.ofList [Privilege.select, .temporary]) ∧
        "lathe" ∉ collectPrivileges workshopRows ∧
          collectPrivileges (("tools", "TEMP") :: workshopRows.reverse) =
              collectPrivileges workshopRows ∧
            .revokeOnObject .table "floor" "lathe" [.select] "apprentice" ∉
              workshop.revokeAll (collectPrivileges workshopRows) := by
  have same : ∀ row, row ∈ ("tools", "TEMP") :: workshopRows.reverse ↔ row ∈ workshopRows := by
    intro row
    simp only [workshopRows, List.reverse_cons, List.reverse_nil, List.nil_append,
      List.cons_append, List.mem_cons, List.not_mem_nil]
    grind
  have unmanaged : ∀ privilege, ¬IsReported workshopRows "lathe" privilege := by
    intro privilege some
    obtain ⟨reported, member, named⟩ := some
    have only : reported = "ALTER SYSTEM" := by
      simpa [workshopRows] using member
    subst only
    revert named
    cases privilege <;> decide +kernel
  obtain ⟨-, held, present, alike, untouched⟩ := reported_privileges_are_collected workshopRows
  refine ⟨⟨same, unmanaged⟩, by decide +kernel, ?_, alike _ same,
    (untouched "lathe" unmanaged workshop _ _ _ _).2⟩
  rw [present]
  exact fun ⟨privilege, reported⟩ => unmanaged privilege reported

end CatalogSteward
