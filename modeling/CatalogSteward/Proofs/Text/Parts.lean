import CatalogSteward.Text.Blank
import CatalogSteward.Text.Split

/-!
# Characters and parts of text

Where a text is split, and which texts begin as asked for. A text that begins
with something visible is not blank.
-/

set_option autoImplicit false

namespace CatalogSteward.Text

/-- A character outside of ASCII does not come before one inside. -/
theorem not_le_of_foreign {character bound : Char} (foreign : 128 ≤ character.toNat)
    (ascii : bound.toNat < 128) : ¬character ≤ bound := by
  intro below
  have ordered : character.toNat ≤ bound.toNat := UInt32.le_iff_toNat_le.mp below
  omega

theorem isSpace_of_isDigit {character : Char} (digit : character.isDigit = true) :
    isSpace character = false := by
  simp only [Char.isDigit, Bool.and_eq_true, decide_eq_true_eq, UInt32.le_iff_toNat_le] at digit
  have bounds : 48 ≤ character.toNat ∧ character.toNat ≤ 57 := digit
  simp only [isSpace, Bool.or_eq_false_iff, Bool.and_eq_false_iff, decide_eq_false_iff_not,
    beq_eq_false_iff_ne, ne_eq]
  omega

theorem nonBlank?_of_head {first : Char} {rest : List Char} (visible : isSpace first = false) :
    nonBlank? (some (String.ofList (first :: rest))) = some (String.ofList (first :: rest)) := by
  simp only [nonBlank?, isBlank, Option.filter_some, String.toList_ofList, List.all_cons, visible,
    Bool.false_and, Bool.not_false, ↓reduceIte]

theorem trim_eq_self {text : String} {first last : Char} {others before : List Char}
    (begins : text.toList = first :: others) (ends : text.toList = before ++ [last])
    (visible : isSpace first = false) (visibleToo : isSpace last = false) : trim text = text := by
  rw [trim, trimBy, begins, List.dropWhile_cons_of_neg (Bool.eq_false_iff.mp visible), ← begins,
    ends, List.reverse_append, List.reverse_singleton, List.singleton_append,
    List.dropWhile_cons_of_neg (Bool.eq_false_iff.mp visibleToo), List.reverse_cons,
    List.reverse_reverse, ← ends, String.ofList_toList]

theorem after?_append {beginning text : List Char} :
    after? beginning (beginning ++ text) = some text := by
  induction beginning with
  | nil => rfl
  | cons expected beginning ih => simp only [List.cons_append, after?, ↓reduceIte, ih]

theorem after?_eq_some_iff {beginning text rest : List Char} :
    after? beginning text = some rest ↔ text = beginning ++ rest := by
  constructor
  · intro found
    induction beginning generalizing text with
    | nil =>
        cases found
        rfl
    | cons expected beginning ih =>
        cases text with
        | nil => cases found
        | cons first text =>
            simp only [after?, Option.ite_none_right_eq_some] at found
            obtain ⟨rfl, found⟩ := found
            rw [ih found, List.cons_append]
  · intro written
    rw [written]
    exact after?_append

theorem splitFirst?_append {mark : Char} {left : List Char} (absent : mark ∉ left)
    (right : List Char) : splitFirst? mark (left ++ mark :: right) = some (left, right) := by
  induction left with
  | nil => rw [List.nil_append, splitFirst?, if_pos rfl]
  | cons first rest ih =>
      rw [List.mem_cons, not_or] at absent
      obtain ⟨different, absent⟩ := absent
      rw [List.cons_append, splitFirst?, if_neg (Ne.symm different), ih absent]
      rfl

/-- A text is split into what stands before its first mark and what stands after it. -/
theorem splitFirst?_eq_some_iff {mark : Char} {text left right : List Char} :
    splitFirst? mark text = some (left, right) ↔ mark ∉ left ∧ text = left ++ mark :: right := by
  constructor
  · intro parted
    induction text generalizing left with
    | nil => cases parted
    | cons first rest ih =>
        rw [splitFirst?] at parted
        split at parted
        case isTrue same =>
          cases parted
          rw [same]
          exact ⟨List.not_mem_nil, rfl⟩
        case isFalse different =>
          simp only [Option.map_eq_some_iff, Prod.mk.injEq] at parted
          obtain ⟨⟨before, after⟩, others, rfl, rfl⟩ := parted
          obtain ⟨absent, rfl⟩ := ih others
          exact ⟨List.not_mem_cons_of_ne_of_not_mem (Ne.symm different) absent, rfl⟩
  · intro both
    obtain ⟨absent, written⟩ := both
    rw [written]
    exact splitFirst?_append absent right

end CatalogSteward.Text
