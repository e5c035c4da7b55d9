import CatalogSteward.Difference

/-!
# Differences of sets

The elements of a difference are exactly those that one set has and the other
does not, and a difference is empty only between equal sets.
-/

set_option autoImplicit false

namespace CatalogSteward.Difference

variable {α : Type} [Ord α] [Std.TransOrd α] [Std.LawfulEqOrd α]

theorem mem_elementsWithout {set other : Std.ExtTreeSet α} {element : α} :
    element ∈ elementsWithout set other ↔ element ∈ set ∧ element ∉ other := by
  simp only [elementsWithout, List.mem_filter, Std.ExtTreeSet.mem_toList,
    Std.ExtTreeSet.mem_iff_contains, Bool.not_eq_true', Bool.not_eq_true]

@[simp] theorem mem_surplus_between {current desired : Std.ExtTreeSet α} {element : α} :
    element ∈ (between current desired).surplus ↔ element ∈ current ∧ element ∉ desired :=
  mem_elementsWithout

@[simp] theorem mem_lacking_between {current desired : Std.ExtTreeSet α} {element : α} :
    element ∈ (between current desired).lacking ↔ element ∈ desired ∧ element ∉ current :=
  mem_elementsWithout

theorem nodup_elementsWithout {set other : Std.ExtTreeSet α} :
    (elementsWithout set other).Nodup := by
  apply List.Pairwise.sublist List.filter_sublist
  apply Std.ExtTreeSet.distinct_toList.imp
  intro element another different same
  exact different (Std.LawfulEqOrd.compare_eq_iff_eq.mpr same)

theorem elementsWithout_eq_nil_iff {set other : Std.ExtTreeSet α} :
    elementsWithout set other = [] ↔ ∀ element, element ∈ set → element ∈ other := by
  rw [List.eq_nil_iff_forall_not_mem]
  constructor
  · intro none element present
    exact Decidable.byContradiction fun absent =>
      none element (mem_elementsWithout.mpr ⟨present, absent⟩)
  · intro within element member
    obtain ⟨present, absent⟩ := mem_elementsWithout.mp member
    exact absent (within element present)

theorem isEmpty_between_iff {current desired : Std.ExtTreeSet α} :
    (between current desired).isEmpty = true ↔ current = desired := by
  simp only [isEmpty, between, Bool.and_eq_true, List.isEmpty_iff, elementsWithout_eq_nil_iff]
  constructor
  · intro both
    exact Std.ExtTreeSet.ext_mem fun element => ⟨both.1 element, both.2 element⟩
  · intro same
    subst same
    exact ⟨fun _ present => present, fun _ present => present⟩

end CatalogSteward.Difference
