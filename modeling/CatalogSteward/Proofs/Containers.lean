import CatalogSteward.Difference
import Std.Data.ExtTreeMap

/-!
# Sets and maps that are made of lists

A set made of a list holds its elements, and a map made of rows the value of
each key, if its rows agree about it. Neither depends on the order of the list,
nor on how often something is in it.
-/

set_option autoImplicit false

namespace CatalogSteward

variable {α β : Type} [Ord α] [Std.TransOrd α] [Std.LawfulEqOrd α] [DecidableEq α]

theorem mem_ofList_iff {elements : List α} {element : α} :
    element ∈ (Std.ExtTreeSet.ofList elements : Std.ExtTreeSet α) ↔ element ∈ elements := by
  rw [Std.ExtTreeSet.mem_ofList, List.contains_iff_mem]

theorem ofList_eq_ofList_iff {left right : List α} :
    (Std.ExtTreeSet.ofList left : Std.ExtTreeSet α) = .ofList right ↔
      ∀ element, element ∈ left ↔ element ∈ right := by
  constructor
  · intro same element
    rw [← mem_ofList_iff, same, mem_ofList_iff]
  · intro same
    apply Std.ExtTreeSet.ext_mem
    intro element
    rw [mem_ofList_iff, mem_ofList_iff]
    exact same element

theorem getElem?_ofList_eq_some_iff {rows : List (α × β)} {key : α} {value : β}
    (agreed : ∀ left right, (key, left) ∈ rows → (key, right) ∈ rows → left = right) :
    (Std.ExtTreeMap.ofList rows : Std.ExtTreeMap α β)[key]? = some value ↔
      (key, value) ∈ rows := by
  rw [Std.ExtTreeMap.ofList_eq_insertMany_empty, Std.ExtTreeMap.getElem?_insertMany_list,
    List.findSomeRev?_eq_findSome?_reverse, Std.ExtTreeMap.getElem?_empty, Option.or_none]
  cases result : rows.reverse.findSome? fun row =>
      if compare row.1 key = .eq then some row.2 else none with
  | none =>
      simp only [reduceCtorEq, false_iff]
      intro member
      have absent := List.findSome?_eq_none_iff.mp result (key, value)
        (List.mem_reverse.mpr member)
      simp only [Std.ReflCmp.compare_self, ↓reduceIte, reduceCtorEq] at absent
  | some other =>
      obtain ⟨row, member, same⟩ := List.exists_of_findSome?_eq_some result
      simp only [Std.LawfulEqCmp.compare_eq_iff_eq, Option.ite_none_right_eq_some,
        Option.some.injEq] at same
      obtain ⟨rfl, rfl⟩ := same
      have member : (row.1, row.2) ∈ rows := List.mem_reverse.mp member
      rw [Option.some.injEq]
      constructor
      · intro same
        exact same ▸ member
      · intro other
        exact agreed _ _ member other

/-- Rows that agree make one map, in whatever order and however often they are listed. -/
theorem ofRows_eq {left right : List (α × β)} (same : ∀ row, row ∈ left ↔ row ∈ right)
    (agreed : ∀ key value other, (key, value) ∈ left → (key, other) ∈ left → value = other) :
    (Std.ExtTreeMap.ofList left : Std.ExtTreeMap α β) = .ofList right := by
  apply Std.ExtTreeMap.ext_getElem?
  intro key
  apply Option.ext
  intro value
  rw [getElem?_ofList_eq_some_iff (agreed key), getElem?_ofList_eq_some_iff]
  · exact same (key, value)
  · intro value other first second
    exact agreed key value other ((same _).mpr first) ((same _).mpr second)

end CatalogSteward
