import CatalogSteward.Decimal.Unsigned

/-!
# Reading decimal digits back

A number up to the bound is read back from its digits, and from no other text
but digits with a plus before them.
-/

set_option autoImplicit false

namespace CatalogSteward.Decimal

theorem digitValue?_of_isDigit {character : Char} (digit : character.isDigit = true) :
    digitValue? character = some (character.toNat - '0'.toNat) := by
  have bounds : '0' ≤ character ∧ character ≤ '9' := by
    simpa [Char.isDigit, Char.le_def] using digit
  rw [digitValue?, if_pos bounds]

theorem digitsFrom?_of_isDigit {characters : List Char}
    (digits : ∀ character ∈ characters, character.isDigit = true) (number : Nat) :
    digitsFrom? number characters = some (Nat.ofDigitChars 10 characters number) := by
  induction characters generalizing number with
  | nil => rw [digitsFrom?, Nat.ofDigitChars_nil]
  | cons first rest ih =>
      obtain ⟨digit, digits⟩ := List.forall_mem_cons.mp digits
      rw [digitsFrom?, digitValue?_of_isDigit digit, Nat.ofDigitChars_cons, Nat.mul_comm 10]
      exact ih digits _

/-! ## Only spellings are read -/

/-- Digits, with a plus before them or without, that spell a number up to a bound. -/
def Spells (bound : Nat) (characters : List Char) (number : Nat) : Prop :=
  ∃ digits, (characters = digits ∨ characters = '+' :: digits) ∧ digits ≠ [] ∧
    (∀ character ∈ digits, character.isDigit = true) ∧
      Nat.ofDigitChars 10 digits 0 = number ∧ number ≤ bound

/-- A mark that is neither a digit nor a plus does not occur in a spelling. -/
theorem Spells.notMem {mark : Char} {bound number : Nat} {characters : List Char}
    (spelled : Spells bound characters number) (notDigit : mark.isDigit = false)
    (notPlus : mark ≠ '+') : mark ∉ characters := by
  obtain ⟨digits, written, -, isDigit, -⟩ := spelled
  have absent : mark ∉ digits := by
    intro member
    rw [isDigit mark member] at notDigit
    cases notDigit
  cases written with
  | inl plain =>
      rw [plain]
      exact absent
  | inr signed =>
      rw [signed]
      exact List.not_mem_cons_of_ne_of_not_mem notPlus absent

theorem isDigit_of_digitsFrom? {characters : List Char} {start number : Nat}
    (read : digitsFrom? start characters = some number) :
    ∀ character ∈ characters, character.isDigit = true := by
  induction characters generalizing start with
  | nil => simp
  | cons first rest ih =>
      rw [digitsFrom?] at read
      split at read
      case h_1 => cases read
      case h_2 value valued =>
        rw [digitValue?, Option.ite_none_right_eq_some] at valued
        have digit : first.isDigit = true := by
          simpa [Char.isDigit, Char.le_def] using valued.1
        exact List.forall_mem_cons.mpr ⟨digit, ih read⟩

theorem digits?_eq_some_iff {characters : List Char} {number : Nat} :
    digits? characters = some number ↔
      characters ≠ [] ∧ (∀ character ∈ characters, character.isDigit = true) ∧
        Nat.ofDigitChars 10 characters 0 = number := by
  cases characters with
  | nil => simp [digits?]
  | cons first rest =>
      constructor
      · intro read
        have digits := isDigit_of_digitsFrom? read
        rw [digits?, digitsFrom?_of_isDigit digits, Option.some.injEq] at read
        · exact ⟨List.cons_ne_nil first rest, digits, read⟩
        · exact List.cons_ne_nil first rest
      · intro spelled
        obtain ⟨-, digits, value⟩ := spelled
        rw [digits?, digitsFrom?_of_isDigit digits, value]
        exact List.cons_ne_nil first rest

theorem eq_or_eq_cons_of_withoutPlus (characters : List Char) :
    characters = withoutPlus characters ∨ characters = '+' :: withoutPlus characters := by
  unfold withoutPlus
  split
  · exact .inr rfl
  · exact .inl rfl

theorem withoutPlus_of_isDigit {digits : List Char}
    (isDigit : ∀ character ∈ digits, character.isDigit = true) : withoutPlus digits = digits := by
  unfold withoutPlus
  split
  case h_1 rest => exact absurd (isDigit '+' List.mem_cons_self) (by decide)
  case h_2 => rfl

theorem unsigned?_eq_some_iff {bound number : Nat} {characters : List Char} :
    unsigned? bound characters = some number ↔ Spells bound characters number := by
  simp only [unsigned?, Option.filter_eq_some_iff, digits?_eq_some_iff, decide_eq_true_eq]
  constructor
  · intro read
    obtain ⟨⟨notEmpty, isDigit, value⟩, within⟩ := read
    exact ⟨_, eq_or_eq_cons_of_withoutPlus characters, notEmpty, isDigit, value, within⟩
  · intro spelled
    obtain ⟨digits, rfl | rfl, notEmpty, isDigit, value, within⟩ := spelled
    · rw [withoutPlus_of_isDigit isDigit]
      exact ⟨⟨notEmpty, isDigit, value⟩, within⟩
    · exact ⟨⟨notEmpty, isDigit, value⟩, within⟩

/-! ## Digits of a number -/

theorem isDigit_of_mem_toDigits {number : Nat} :
    ∀ character ∈ Nat.toDigits 10 number, character.isDigit = true :=
  fun _ member => Nat.isDigit_of_mem_toDigits (by decide) (by decide) member

theorem spells_toDigits {bound number : Nat} (within : number ≤ bound) :
    Spells bound (Nat.toDigits 10 number) number :=
  ⟨_, .inl rfl, Nat.toDigits_ne_nil, isDigit_of_mem_toDigits, Nat.ofDigitChars_ten_toDigits,
    within⟩

end CatalogSteward.Decimal
