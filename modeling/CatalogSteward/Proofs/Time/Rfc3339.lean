import CatalogSteward.Proofs.Time.Calendar
import CatalogSteward.Time.Rfc3339

/-!
# Texts of instants

The text of an instant with its whole fraction denotes that instant alone: two
instants that are written in the same way are equal, in every year and also in
leap seconds.
-/

set_option autoImplicit false

namespace CatalogSteward.Time

/-! ## Digits -/

/-- What comes before the first character that is no digit, and what comes from there on, are
determined by the whole. -/
theorem digits_append_inj {left right leftRest rightRest : List Char}
    (leftDigits : ∀ character ∈ left, character.isDigit = true)
    (rightDigits : ∀ character ∈ right, character.isDigit = true)
    (leftEnds : ∀ character, leftRest.head? = some character → character.isDigit = false)
    (rightEnds : ∀ character, rightRest.head? = some character → character.isDigit = false)
    (same : left ++ leftRest = right ++ rightRest) : left = right ∧ leftRest = rightRest := by
  induction left generalizing right with
  | nil =>
      cases right with
      | nil => exact ⟨rfl, same⟩
      | cons digit right =>
          have ends := leftEnds digit (by rw [← List.nil_append leftRest, same]; rfl)
          rw [rightDigits digit List.mem_cons_self] at ends
          exact absurd ends Bool.true_eq_false.mp
  | cons digit left ih =>
      cases right with
      | nil =>
          have ends := rightEnds digit (by rw [← List.nil_append rightRest, ← same]; rfl)
          rw [leftDigits digit List.mem_cons_self] at ends
          exact absurd ends Bool.true_eq_false.mp
      | cons other right =>
          rw [List.cons_append, List.cons_append, List.cons.injEq] at same
          obtain ⟨first, others⟩ := ih (List.forall_mem_cons.mp leftDigits).2
            (List.forall_mem_cons.mp rightDigits).2 same.2
          exact ⟨by rw [same.1, first], others⟩

theorem padded_isDigit {width value : Nat} :
    ∀ character ∈ (padded width value).toList, character.isDigit = true := by
  intro character member
  rw [padded, String.toList_ofList, List.mem_append] at member
  rcases member with zero | digit
  · rw [List.eq_of_mem_replicate zero]
    rfl
  · exact Nat.isDigit_of_mem_toDigits (by decide) (by decide) digit

theorem ofDigitChars_padded {width value : Nat} :
    Nat.ofDigitChars 10 (padded width value).toList 0 = value := by
  rw [padded, String.toList_ofList, Nat.ofDigitChars_append, Nat.ofDigitChars_replicate_zero,
    Nat.mul_zero, Nat.ofDigitChars_ten_toDigits]

theorem padded_injective {width left right : Nat}
    (same : (padded width left).toList = (padded width right).toList) : left = right := by
  rw [← @ofDigitChars_padded width left, same, ofDigitChars_padded]

theorem length_padded {width value : Nat} (positive : 0 < width) (fits : value < 10 ^ width) :
    (padded width value).toList.length = width := by
  have short := (Nat.length_toDigits_le_iff (b := 10) (by decide) positive).mpr fits
  rw [padded, String.toList_ofList, List.length_append, List.length_replicate]
  omega

theorem padded_append_inj {width left right : Nat} {mark : Char} {leftRest rightRest : List Char}
    (notDigit : mark.isDigit = false)
    (same : (padded width left).toList ++ mark :: leftRest =
      (padded width right).toList ++ mark :: rightRest) :
    left = right ∧ leftRest = rightRest := by
  have ends : ∀ rest : List Char, ∀ character,
      (mark :: rest).head? = some character → character.isDigit = false := by
    intro rest character head
    cases head
    exact notDigit
  obtain ⟨digits, rest⟩ := digits_append_inj padded_isDigit padded_isDigit (ends _) (ends _) same
  exact ⟨padded_injective digits, (List.cons.inj rest).2⟩

/-! ## Fractions -/

namespace Rfc3339

theorem digit?_of_isDigit {character : Char} (digit : character.isDigit = true) :
    digit? character = some (character.toNat - '0'.toNat) := by
  have bounds : ('0' ≤ character && character ≤ '9') = true := by
    simp only [Char.isDigit, Bool.and_eq_true, decide_eq_true_eq] at digit
    simp only [Char.le_def, Bool.and_eq_true, decide_eq_true_eq]
    exact digit
  rw [digit?, if_pos bounds]

theorem nanosecondsOf_eq {digits : List Char} {last : Nat}
    (isDigit : ∀ character ∈ digits, character.isDigit = true) :
    nanosecondsOf (10 ^ (last + (digits.length - 1))) digits =
      Nat.ofDigitChars 10 digits 0 * 10 ^ last := by
  induction digits with
  | nil => rw [nanosecondsOf, Nat.ofDigitChars_nil, Nat.zero_mul]
  | cons first others ih =>
      obtain ⟨digit, isDigit⟩ := List.forall_mem_cons.mp isDigit
      have weight : nanosecondsOf (10 ^ (last + others.length) / 10) others =
          Nat.ofDigitChars 10 others 0 * 10 ^ last := by
        cases others with
        | nil => rw [nanosecondsOf, Nat.ofDigitChars_nil, Nat.zero_mul]
        | cons second others =>
            rw [← ih isDigit, List.length_cons, Nat.add_sub_cancel, ← Nat.add_assoc,
              Nat.pow_succ, Nat.mul_div_cancel _ (by decide)]
      have value : Nat.ofDigitChars 10 (first :: others) 0 =
          10 ^ others.length * (first.toNat - '0'.toNat) + Nat.ofDigitChars 10 others 0 := by
        rw [Nat.ofDigitChars_cons, Nat.mul_zero, Nat.zero_add]
        exact Nat.ofDigitChars_eq_ofDigitChars_zero
      rw [nanosecondsOf, digit?_of_isDigit digit, Option.getD_some, List.length_cons,
        Nat.add_sub_cancel, weight, value, Nat.add_mul, Nat.pow_add]
      ac_rfl

theorem fractionText_spec {nanoseconds : Nat} (some_ : nanoseconds ≠ 0)
    (below : nanoseconds < 1000000000) :
    ∃ digits, (fractionText nanoseconds).toList = '.' :: digits ∧ digits ≠ [] ∧
      (∀ character ∈ digits, character.isDigit = true) ∧
        nanosecondsOf 100000000 digits = nanoseconds := by
  have written : ∀ width last value : Nat, 0 < width → last + width = 9 → value < 10 ^ width →
      value * 10 ^ last = nanoseconds →
      ∃ digits, ("." ++ padded width value).toList = '.' :: digits ∧ digits ≠ [] ∧
        (∀ character ∈ digits, character.isDigit = true) ∧
          nanosecondsOf 100000000 digits = nanoseconds := by
    intro width last value positive total fits counts
    have long := length_padded positive fits
    have weight : (100000000 : Nat) =
        10 ^ (last + ((padded width value).toList.length - 1)) := by
      have exponent : 8 = last + ((padded width value).toList.length - 1) := by
        rw [long]
        omega
      exact (show (100000000 : Nat) = 10 ^ 8 from rfl).trans (congrArg (10 ^ ·) exponent)
    refine ⟨(padded width value).toList, ?_, ?_, padded_isDigit, ?_⟩
    · rw [String.toList_append]
      rfl
    · exact List.length_pos_iff.mp (by rw [long]; exact positive)
    · rw [weight, nanosecondsOf_eq padded_isDigit, ofDigitChars_padded, counts]
  rw [fractionText, if_neg some_]
  split
  · exact written 3 6 _ (by decide) rfl (by omega) (by omega)
  · split
    · exact written 6 3 _ (by decide) rfl (by omega) (by omega)
    · exact written 9 0 _ (by decide) rfl below (by omega)

end Rfc3339

/-- A fraction with the mark of UTC after it is that of one number of nanoseconds. -/
theorem fractionText_injective {left right : Nat} (leftBelow : left < 1000000000)
    (rightBelow : right < 1000000000)
    (same : (fractionText left).toList ++ ['Z'] = (fractionText right).toList ++ ['Z']) :
    left = right := by
  have none : (fractionText 0).toList = [] := rfl
  by_cases leftNone : left = 0
  · by_cases rightNone : right = 0
    · rw [leftNone, rightNone]
    · obtain ⟨digits, spelled, -⟩ := Rfc3339.fractionText_spec rightNone rightBelow
      rw [leftNone, none, spelled] at same
      exact absurd (List.cons.inj same).1 (by decide)
  · obtain ⟨digits, spelled, -, isDigit, counts⟩ := Rfc3339.fractionText_spec leftNone leftBelow
    by_cases rightNone : right = 0
    · rw [rightNone, none, spelled] at same
      exact absurd (List.cons.inj same).1 (by decide)
    · obtain ⟨others, spelledToo, -, areDigits, count⟩ :=
        Rfc3339.fractionText_spec rightNone rightBelow
      have ends : ∀ character, ['Z'].head? = some character → character.isDigit = false := by
        intro character head
        cases head
        rfl
      rw [spelled, spelledToo, List.cons_append, List.cons_append, List.cons.injEq] at same
      obtain ⟨equal, -⟩ := digits_append_inj isDigit areDigits ends ends same.2
      rw [← counts, equal, count]

theorem fractionText_head {nanoseconds : Nat} (below : nanoseconds < 1000000000) :
    ∀ character, ((fractionText nanoseconds).toList ++ ['Z']).head? = some character →
      character.isDigit = false := by
  intro character head
  by_cases none : nanoseconds = 0
  · subst none
    cases head
    rfl
  · obtain ⟨digits, spelled, -⟩ := Rfc3339.fractionText_spec none below
    rw [spelled] at head
    cases head
    rfl

/-! ## Years -/

theorem padded_eq_cons (width value : Nat) :
    ∃ first others, (padded width value).toList = first :: others ∧ first.isDigit = true := by
  cases spelled : (padded width value).toList with
  | nil =>
      rw [padded, String.toList_ofList, List.append_eq_nil_iff] at spelled
      exact absurd spelled.2 Nat.toDigits_ne_nil
  | cons first others =>
      exact ⟨first, others, rfl, padded_isDigit first (spelled ▸ List.mem_cons_self)⟩

/-- A year of at most four digits is written without a sign, and every other one with its own. -/
theorem yearText_cases (year : Int) :
    (0 ≤ year ∧ (yearText year).toList = (padded 4 year.toNat).toList) ∨
      (year < 0 ∧ (yearText year).toList = '-' :: (padded 4 year.natAbs).toList) ∨
        (0 < year ∧ (yearText year).toList = '+' :: (padded 4 year.natAbs).toList) := by
  have plus : "+".toList = ['+'] := rfl
  have minus : "-".toList = ['-'] := rfl
  simp only [yearText, Bool.and_eq_true, decide_eq_true_eq]
  split
  · next plain => exact .inl ⟨plain.1, rfl⟩
  · next signed =>
      by_cases negative : year < 0
      · rw [if_pos negative, String.toList_append, minus]
        exact .inr (.inl ⟨negative, rfl⟩)
      · rw [if_neg negative, String.toList_append, plus]
        exact .inr (.inr ⟨by omega, rfl⟩)

theorem yearText_append_inj {left right : Int} {leftRest rightRest : List Char}
    (same : (yearText left).toList ++ '-' :: leftRest =
      (yearText right).toList ++ '-' :: rightRest) :
    left = right ∧ leftRest = rightRest := by
  have unsigned : ∀ sign : Char, ∀ value : Nat, ∀ text rest : List Char, sign.isDigit = false →
      (padded 4 value).toList ++ rest ≠ sign :: text := by
    intro sign value text rest notDigit equal
    obtain ⟨first, others, spelled, digit⟩ := padded_eq_cons 4 value
    rw [spelled] at equal
    rw [(List.cons.inj equal).1, notDigit] at digit
    exact Bool.false_ne_true digit
  rcases yearText_cases left with ⟨leftSign, spelled⟩ | ⟨leftSign, spelled⟩ | ⟨leftSign, spelled⟩
  · rcases yearText_cases right with ⟨rightSign, also⟩ | ⟨rightSign, also⟩ | ⟨rightSign, also⟩
    · rw [spelled, also] at same
      obtain ⟨number, rest⟩ := padded_append_inj rfl same
      exact ⟨by omega, rest⟩
    · rw [spelled, also] at same
      exact absurd same (unsigned '-' _ _ _ rfl)
    · rw [spelled, also] at same
      exact absurd same (unsigned '+' _ _ _ rfl)
  · rcases yearText_cases right with ⟨rightSign, also⟩ | ⟨rightSign, also⟩ | ⟨rightSign, also⟩
    · rw [spelled, also] at same
      exact absurd same.symm (unsigned '-' _ _ _ rfl)
    · rw [spelled, also] at same
      obtain ⟨number, rest⟩ := padded_append_inj rfl (List.cons.inj same).2
      exact ⟨by omega, rest⟩
    · rw [spelled, also] at same
      exact absurd (List.cons.inj same).1 (by decide)
  · rcases yearText_cases right with ⟨rightSign, also⟩ | ⟨rightSign, also⟩ | ⟨rightSign, also⟩
    · rw [spelled, also] at same
      exact absurd same.symm (unsigned '+' _ _ _ rfl)
    · rw [spelled, also] at same
      exact absurd (List.cons.inj same).1 (by decide)
    · rw [spelled, also] at same
      obtain ⟨number, rest⟩ := padded_append_inj rfl (List.cons.inj same).2
      exact ⟨by omega, rest⟩

/-! ## Instants -/

theorem Instant.toList_rfc3339 (instant : Instant) :
    (instant.rfc3339 .fewest).toList =
      (yearText instant.date.year).toList ++ '-' :: ((padded 2 instant.date.month).toList ++
        '-' :: ((padded 2 instant.date.day).toList ++
          'T' :: ((padded 2 (instant.secondOfDay / 3600)).toList ++
            ':' :: ((padded 2 (instant.secondOfDay / 60 % 60)).toList ++
              ':' :: ((padded 2
                  (instant.secondOfDay % 60 + instant.nanoseconds / 1000000000)).toList ++
                ((fractionText (instant.nanoseconds % 1000000000)).toList ++ ['Z'])))))) := by
  have dash : "-".toList = ['-'] := rfl
  have time : "T".toList = ['T'] := rfl
  have colon : ":".toList = [':'] := rfl
  have zone : "Z".toList = ['Z'] := rfl
  simp only [Instant.rfc3339, String.toList_append, dash, time, colon, zone, List.append_assoc,
    List.cons_append, List.nil_append]

theorem Instant.head_rfc3339 (instant : Instant) :
    ∃ first others, (instant.rfc3339 .fewest).toList = first :: others ∧
      (first.isDigit = true ∨ first = '-' ∨ first = '+') := by
  rw [toList_rfc3339]
  rcases yearText_cases instant.date.year with ⟨-, spelled⟩ | ⟨-, spelled⟩ | ⟨-, spelled⟩
  · obtain ⟨first, others, digits, digit⟩ := padded_eq_cons 4 instant.date.year.toNat
    rw [spelled, digits]
    exact ⟨first, _, rfl, .inl digit⟩
  · rw [spelled]
    exact ⟨'-', _, rfl, .inr (.inl rfl)⟩
  · rw [spelled]
    exact ⟨'+', _, rfl, .inr (.inr rfl)⟩

theorem Instant.rfc3339_injective {left right : Instant} (leftValid : left.isValid = true)
    (rightValid : right.isValid = true)
    (same : left.rfc3339 .fewest = right.rfc3339 .fewest) : left = right := by
  have texts := congrArg String.toList same
  rw [toList_rfc3339, toList_rfc3339] at texts
  obtain ⟨year, texts⟩ := yearText_append_inj texts
  obtain ⟨month, texts⟩ := padded_append_inj rfl texts
  obtain ⟨day, texts⟩ := padded_append_inj rfl texts
  obtain ⟨hour, texts⟩ := padded_append_inj rfl texts
  obtain ⟨minute, texts⟩ := padded_append_inj rfl texts
  obtain ⟨second, texts⟩ := digits_append_inj padded_isDigit padded_isDigit
    (fractionText_head (Nat.mod_lt _ (by decide))) (fractionText_head (Nat.mod_lt _ (by decide)))
    texts
  have fraction := fractionText_injective (Nat.mod_lt _ (by decide)) (Nat.mod_lt _ (by decide))
    texts
  have date : left.date = right.date := by
    cases leftDate : left.date
    cases rightDate : right.date
    simp only [leftDate, rightDate] at year month day
    rw [year, month, day]
  have days := Date.ofDays_injective date
  have clock := padded_injective second
  simp only [isValid, Bool.or_eq_true, Bool.and_eq_true, decide_eq_true_eq] at leftValid rightValid
  simp only [secondOfDay] at hour minute clock
  have seconds : left.seconds = right.seconds := by omega
  have nanoseconds : left.nanoseconds = right.nanoseconds := by omega
  cases left
  cases right
  simp only at seconds nanoseconds
  rw [seconds, nanoseconds]

end CatalogSteward.Time
