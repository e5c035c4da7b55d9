import CatalogSteward.Proofs.Containers

/-!
# Listings

A list of everything that meets a condition, each once and in ascending order.
There is one such list. A set or a map lists what is in it, and a list that is
in order lists its own elements once its repetitions are dropped: where only
equal elements have one place in the order, they stand together.
-/

set_option autoImplicit false

namespace CatalogSteward

/-- A list of everything that meets a condition, each once and in ascending order. -/
structure IsListing {α : Type} (order : α → α → Ordering) (condition : α → Prop)
    (elements : List α) : Prop where
  mem_iff : ∀ element, element ∈ elements ↔ condition element
  ascending : elements.Pairwise fun first second => order first second = .lt

namespace IsListing

variable {α : Type} {order : α → α → Ordering} {condition : α → Prop}
  {elements others : List α}

theorem congr {other : α → Prop} (lists : IsListing order condition elements)
    (same : ∀ element, condition element ↔ other element) : IsListing order other elements :=
  ⟨fun element => (lists.mem_iff element).trans (same element), lists.ascending⟩

theorem filter (lists : IsListing order condition elements) (kept : α → Bool) :
    IsListing order (fun element => condition element ∧ kept element = true)
      (elements.filter kept) where
  mem_iff element := by rw [List.mem_filter, lists.mem_iff]
  ascending := lists.ascending.filter kept

theorem nodup [Std.ReflCmp order] (lists : IsListing order condition elements) :
    elements.Nodup := by
  apply lists.ascending.imp
  intro first second before same
  have equal : order first second = .eq := same ▸ Std.ReflCmp.compare_self
  cases before.symm.trans equal

/-- There is one list of what meets a condition. -/
theorem eq [Std.TransCmp order] (lists : IsListing order condition elements)
    (again : IsListing order condition others) : elements = others := by
  have perm : elements.Perm others := by
    apply (List.perm_ext_iff_of_nodup lists.nodup again.nodup).mpr
    intro element
    rw [lists.mem_iff, again.mem_iff]
  apply perm.eq_of_pairwise _ lists.ascending again.ascending
  intro first second _ _ before after
  rw [Std.OrientedCmp.gt_of_lt before] at after
  cases after

theorem eq_nil_iff (lists : IsListing order condition elements) :
    elements = [] ↔ ∀ element, ¬condition element := by
  rw [List.eq_nil_iff_forall_not_mem]
  exact forall_congr' fun element => not_congr (lists.mem_iff element)

end IsListing

/-! ## Sets and maps -/

section Containers

variable {α β : Type} [Ord α] [Std.TransOrd α] [Std.LawfulEqOrd α] [DecidableEq α]

theorem isListing_ofList (elements : List α) :
    IsListing compare (· ∈ elements)
      (Std.ExtTreeSet.ofList elements : Std.ExtTreeSet α).toList where
  mem_iff _ := by rw [Std.ExtTreeSet.mem_toList, mem_ofList_iff]
  ascending := Std.ExtTreeSet.ordered_toList

theorem isListing_ofRows {rows : List (α × β)}
    (agreed : ∀ key value other, (key, value) ∈ rows → (key, other) ∈ rows → value = other) :
    IsListing (compareOn Prod.fst) (· ∈ rows)
      (Std.ExtTreeMap.ofList rows : Std.ExtTreeMap α β).toList where
  mem_iff row := by
    rw [Std.ExtTreeMap.mem_toList_iff_getElem?_eq_some, getElem?_ofList_eq_some_iff (agreed row.1)]
  ascending := Std.ExtTreeMap.ordered_keys_toList

end Containers

/-! ## Lists in order -/

section Repetitions

variable {α : Type} [DecidableEq α]

private theorem eraseReps_loop (first : α) (rest kept : List α) :
    List.eraseRepsBy.loop (· == ·) first rest kept =
      kept.reverse ++ (first :: rest).eraseReps := by
  show _ = kept.reverse ++ List.eraseRepsBy.loop (· == ·) first rest []
  induction rest generalizing first kept with
  | nil => simp only [List.eraseRepsBy.loop, List.reverse_cons, List.reverse_nil, List.nil_append]
  | cons second rest ih =>
      simp only [List.eraseRepsBy.loop]
      split
      · exact ih first kept
      · rw [ih second (first :: kept), ih second [first], List.reverse_cons, List.append_assoc]
        rfl

theorem eraseReps_cons_cons (first second : α) (rest : List α) :
    (first :: second :: rest).eraseReps =
      if first = second then (second :: rest).eraseReps
      else first :: (second :: rest).eraseReps := by
  show List.eraseRepsBy.loop (· == ·) first (second :: rest) [] = _
  rw [List.eraseRepsBy.loop, eraseReps_loop, eraseReps_loop]
  by_cases same : first = second
  · rw [same, beq_self_eq_true, if_pos rfl]
    rfl
  · rw [beq_eq_false_iff_ne.mpr same, if_neg same]
    rfl

/-- The repetitions in a list that is in order stand together. -/
theorem isListing_eraseReps {order : α → α → Ordering} [Std.TransCmp order]
    [Std.LawfulEqCmp order] {elements : List α}
    (inOrder : elements.Pairwise fun first second => (order first second).isLE = true) :
    IsListing order (· ∈ elements) elements.eraseReps := by
  induction elements with
  | nil => exact ⟨fun _ => Iff.rfl, .nil⟩
  | cons first rest ih =>
      obtain ⟨firstLeast, restInOrder⟩ := List.pairwise_cons.mp inOrder
      cases rest with
      | nil => exact ⟨fun _ => Iff.rfl, List.pairwise_singleton _ _⟩
      | cons second rest =>
          have listed := ih restInOrder
          rw [eraseReps_cons_cons]
          split
          · next same =>
              apply listed.congr
              intro element
              rw [same, List.mem_cons, List.mem_cons, List.mem_cons, or_self_left]
          · next different =>
              refine ⟨fun element => ?_, List.pairwise_cons.mpr ⟨?_, listed.ascending⟩⟩
              · rw [List.mem_cons, List.mem_cons, listed.mem_iff]
              · intro later member
                -- The first element is before the second one, and no later one is before that.
                have before : order first second = .lt := by
                  cases Ordering.isLE_iff_eq_lt_or_eq_eq.mp (firstLeast second List.mem_cons_self) with
                  | inl before => exact before
                  | inr same => exact absurd (Std.LawfulEqCmp.eq_of_compare same) different
                rcases List.mem_cons.mp ((listed.mem_iff later).mp member) with rfl | member
                · exact before
                · exact Std.TransCmp.lt_of_lt_of_isLE before
                    ((List.pairwise_cons.mp restInOrder).1 later member)

end Repetitions

end CatalogSteward
