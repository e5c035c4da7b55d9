import CatalogSteward.Time.Calendar
import Mathlib.Algebra.GroupWithZero.Nat

/-!
# Days and dates

Every day has a date that exists, and the date has the number of that day, so
that different days have different dates.
-/

set_option autoImplicit false

namespace CatalogSteward.Time

/-! ## Years -/

theorem yearStart_succ (year : Int) :
    yearStart (year + 1) = yearStart year + (monthLengths (isLeapYear year)).sum := by
  have length : ((monthLengths (isLeapYear year)).sum : Int) =
      if isLeapYear year then 366 else 365 := by
    cases isLeapYear year with
    | false => rfl
    | true => rfl
  rw [length]
  simp only [isLeapYear, Bool.and_eq_true, Bool.or_eq_true, decide_eq_true_eq, ne_eq, yearStart]
  split
  · omega
  · omega

theorem yearOf_spec (days : Int) :
    yearStart (yearOf days) ≤ days ∧ days < yearStart (yearOf days + 1) := by
  have notBefore : yearStart (1970 + days * 400 / 146097 - 1) ≤ days := by
    simp only [yearStart]
    omega
  have notAfter : days < yearStart (1970 + days * 400 / 146097 + 1 + 1) := by
    simp only [yearStart]
    omega
  simp only [yearOf]
  split
  · next before =>
      rw [Int.sub_add_cancel]
      exact ⟨notBefore, before⟩
  · next notEarlier =>
      split
      · next later => exact ⟨later, notAfter⟩
      · next within => exact ⟨Int.not_lt.mp notEarlier, Int.not_le.mp within⟩

/-! ## Months -/

/-- An offset into months falls on a day of one of them, with as many days before that month as
the offset says. -/
theorem monthOf_spec {month offset : Nat} {lengths : List Nat} (within : offset < lengths.sum) :
    ∃ index, (monthOf month offset lengths).1 = month + index ∧
      index < lengths.length ∧
      1 ≤ (monthOf month offset lengths).2 ∧
      (monthOf month offset lengths).2 ≤ lengths.getD index 0 ∧
      daysOfMonths index lengths + ((monthOf month offset lengths).2 - 1) = offset := by
  induction lengths generalizing month offset with
  | nil => exact absurd within (Nat.not_lt_zero offset)
  | cons length rest ih =>
      rw [monthOf]
      split
      · next inside =>
          refine ⟨0, rfl, Nat.zero_lt_succ _, Nat.le_add_left 1 offset, inside, ?_⟩
          rw [daysOfMonths, Nat.zero_add, Nat.add_sub_cancel]
      · next beyond =>
          have remaining : offset - length < rest.sum := by
            rw [List.sum_cons] at within
            omega
          obtain ⟨index, isMonth, inYear, first, last, days⟩ := @ih (month + 1) _ remaining
          refine ⟨index + 1, ?_, Nat.succ_lt_succ inYear, first, last, ?_⟩
          · rw [isMonth]
            omega
          · rw [daysOfMonths]
            omega

/-! ## Dates -/

namespace Date

private theorem offset_spec (days : Int) :
    (days - yearStart (yearOf days)).toNat <
      (monthLengths (isLeapYear (yearOf days))).sum := by
  have year := yearOf_spec days
  rw [yearStart_succ] at year
  omega

/-- The date of a day has the number of that day. -/
theorem toDays_ofDays (days : Int) : (ofDays days).toDays = days := by
  obtain ⟨index, isMonth, -, -, -, offset⟩ := @monthOf_spec 1 _ _ (offset_spec days)
  have year := yearOf_spec days
  simp only [ofDays, toDays, lengths, isMonth, Nat.add_sub_cancel_left, offset]
  omega

theorem isValid_ofDays (days : Int) : (ofDays days).isValid = true := by
  obtain ⟨index, isMonth, inYear, first, last, -⟩ := @monthOf_spec 1 _ _ (offset_spec days)
  have twelve : (monthLengths (isLeapYear (yearOf days))).length = 12 := rfl
  simp only [isValid, ofDays, lengths, isMonth, Nat.add_sub_cancel_left, Bool.and_eq_true,
    decide_eq_true_eq]
  exact ⟨⟨⟨by omega, by omega⟩, first⟩, last⟩

theorem ofDays_injective {left right : Int} (same : ofDays left = ofDays right) :
    left = right := by
  rw [← toDays_ofDays left, same, toDays_ofDays]

end Date

end CatalogSteward.Time
