import CatalogSteward.Plan.Role
import CatalogSteward.Proofs.Listing

/-!
# Canonical lists of names

A canonical list of names is determined by which names are in it. Whatever the
names are folded to before they are compared, names that are folded alike are
all kept, since equal places in the order are taken by equal names only.
-/

set_option autoImplicit false

namespace CatalogSteward

/-- Names in the order of what they are folded to, and in their own order where that is the same. -/
def nameOrder (fold : String → String) : String → String → Ordering :=
  compareLex (compareOn fold) compare

instance (fold : String → String) : Std.TransCmp (nameOrder fold) :=
  inferInstanceAs (Std.TransCmp (compareLex (compareOn fold) compare))

/-- Only equal names have one place in the order. -/
instance (fold : String → String) : Std.LawfulEqCmp (nameOrder fold) where
  eq_of_compare same := Std.LawfulEqCmp.eq_of_compare (Ordering.then_eq_eq.mp same).2

variable {fold : String → String} {names left right : List String} {name : String}

theorem nameOrder_eq_lt_iff {first second : String} :
    nameOrder fold first second = .lt ↔
      fold first < fold second ∨ fold first = fold second ∧ first < second := by
  have precedes : ∀ first second : String, compare first second = .lt ↔ first < second :=
    fun _ _ => compareOfLessAndEq_eq_lt
  have folded : compareOn fold first second = compare (fold first) (fold second) := rfl
  rw [nameOrder, compareLex, Ordering.then_eq_lt, folded, precedes, precedes,
    Std.LawfulEqCmp.compare_eq_iff_eq]

theorem pairwise_mergeSort_names :
    (names.mergeSort fun first second => (nameOrder fold first second).isLE).Pairwise
      fun first second => (nameOrder fold first second).isLE = true := by
  apply List.pairwise_mergeSort
  · exact fun _ _ _ => Std.TransCmp.isLE_trans
  · intro first second
    have swapped : nameOrder fold second first = (nameOrder fold first second).swap :=
      Std.OrientedCmp.eq_swap
    rw [swapped]
    cases nameOrder fold first second <;> rfl

/-- The canonical list of some names lists them. -/
theorem isListing_canonicalNames :
    IsListing (nameOrder fold) (· ∈ names) (canonicalNames fold names) := by
  have listed := isListing_eraseReps (@pairwise_mergeSort_names fold names)
  exact listed.congr fun _ => List.mem_mergeSort

theorem mem_canonicalNames : name ∈ canonicalNames fold names ↔ name ∈ names :=
  isListing_canonicalNames.mem_iff name

/-- Names that are in two lists alike, however often and in whatever order, have one canonical
list. -/
theorem canonicalNames_eq_iff :
    canonicalNames fold left = canonicalNames fold right ↔
      ∀ name, name ∈ left ↔ name ∈ right := by
  constructor
  · intro same name
    rw [← @mem_canonicalNames fold left, same, mem_canonicalNames]
  · intro same
    exact isListing_canonicalNames.eq
      (isListing_canonicalNames.congr fun name => (same name).symm)

theorem count_canonicalNames :
    (canonicalNames fold names).count name = if name ∈ names then 1 else 0 := by
  simp only [isListing_canonicalNames.nodup.count, mem_canonicalNames]

theorem ascending_canonicalNames :
    (canonicalNames fold names).Pairwise fun first second =>
      fold first < fold second ∨ fold first = fold second ∧ first < second :=
  isListing_canonicalNames.ascending.imp nameOrder_eq_lt_iff.mp

/-- Canonical lists are canonical. Whatever names are folded to before they are compared, lists
have one canonical list exactly where the same names are in them. It has each of those names once,
so that names which are folded alike are all kept, in ascending order of what they are folded to
and then of the names themselves; and it is its own canonical list. The members of a role are
listed so, folded to lower case. -/
theorem canonical_lists_are_canonical :
    canonicalMembers = canonicalNames Text.lowerCase ∧
      ∀ fold : String → String,
        (∀ left right,
          canonicalNames fold left = canonicalNames fold right ↔
            ∀ name, name ∈ left ↔ name ∈ right) ∧
          ∀ names,
            (∀ name, (canonicalNames fold names).count name = if name ∈ names then 1 else 0) ∧
              ((canonicalNames fold names).Pairwise fun first second =>
                fold first < fold second ∨ fold first = fold second ∧ first < second) ∧
                canonicalNames fold (canonicalNames fold names) = canonicalNames fold names := by
  refine ⟨rfl, fun fold => ⟨fun _ _ => canonicalNames_eq_iff, fun names => ⟨?once, ?order, ?again⟩⟩⟩
  case once => exact fun _ => count_canonicalNames
  case order => exact ascending_canonicalNames
  case again => exact canonicalNames_eq_iff.mpr fun _ => mem_canonicalNames

end CatalogSteward
