import Std.Data.ExtTreeSet

/-!
# Differences of sets

What has to be taken away from a set, and what has to be added to it, to make
it another one; both in ascending order.
-/

set_option autoImplicit false

namespace CatalogSteward

abbrev NameSet := Std.ExtTreeSet String

/-- The elements that one set has and another is not to have, and those it lacks. -/
structure Difference (α : Type) where
  surplus : List α
  lacking : List α
  deriving DecidableEq, Repr

namespace Difference

/-- The elements of a set that another does not have, in ascending order. -/
def elementsWithout {α : Type} [Ord α] [Std.TransOrd α] (set other : Std.ExtTreeSet α) :
    List α :=
  set.toList.filter fun element => !other.contains element

def between {α : Type} [Ord α] [Std.TransOrd α] (current desired : Std.ExtTreeSet α) :
    Difference α :=
  ⟨elementsWithout current desired, elementsWithout desired current⟩

def isEmpty {α : Type} (difference : Difference α) : Bool :=
  difference.surplus.isEmpty && difference.lacking.isEmpty

end Difference

end CatalogSteward
