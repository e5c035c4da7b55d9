import CatalogSteward.Health.Metrics

/-!
# Counters

A reconciliation that is recorded adds one to the counter of its labels, and one to that of its
errors if it failed. What is kept for other labels stays as it is.
-/

set_option autoImplicit false

namespace CatalogSteward

namespace Series

variable {α : Type} {labels other : SeriesLabels} {series : Series α} {start : α} {change : α → α}

theorem find?_update_self :
    find? labels (update labels start change series) =
      some (change ((find? labels series).getD start)) := by
  induction series with
  | nil => simp only [update, find?, ↓reduceIte, Option.getD_none]
  | cons entry rest ih =>
      obtain ⟨key, value⟩ := entry
      by_cases same : key = labels
      · simp only [update, same, ↓reduceIte, find?, Option.getD_some]
      · simp only [update, same, ↓reduceIte, find?, ih]

theorem find?_update_of_ne (different : other ≠ labels) :
    find? other (update labels start change series) = find? other series := by
  induction series with
  | nil => simp only [update, find?, different.symm, ↓reduceIte]
  | cons entry rest ih =>
      obtain ⟨key, value⟩ := entry
      by_cases same : key = labels
      · simp only [update, same, ↓reduceIte, find?, different.symm]
      · simp only [update, same, ↓reduceIte, find?, ih]

theorem count_increment {series : Series Nat} :
    (series.increment labels).count other =
      series.count other + if labels = other then 1 else 0 := by
  by_cases same : labels = other
  · subst same
    rw [count, increment, find?_update_self, Option.getD_some, if_pos rfl, count]
  · rw [count, increment, find?_update_of_ne (Ne.symm same), if_neg same, count, Nat.add_zero]

end Series

namespace Metrics

/-- Metrics keep the same for the labels: both counters, and how long it took. -/
structure AgreesOn (labels : SeriesLabels) (metrics other : Metrics) : Prop where
  reconciliations : metrics.reconciliations.find? labels = other.reconciliations.find? labels
  errors : metrics.errors.find? labels = other.errors.find? labels
  durations : metrics.durations.find? labels = other.durations.find? labels

variable {labels other : SeriesLabels} {seconds : Float} {failed : Bool}
  {metrics between before : Metrics}

theorem AgreesOn.refl : metrics.AgreesOn labels metrics :=
  ⟨rfl, rfl, rfl⟩

theorem AgreesOn.trans (agrees : metrics.AgreesOn labels between)
    (earlier : between.AgreesOn labels before) : metrics.AgreesOn labels before where
  reconciliations := agrees.reconciliations.trans earlier.reconciliations
  errors := agrees.errors.trans earlier.errors
  durations := agrees.durations.trans earlier.durations

theorem reconciliations_record :
    (metrics.record labels seconds failed).reconciliations =
      metrics.reconciliations.increment labels := by
  cases failed <;> rfl

theorem errors_record :
    (metrics.record labels seconds failed).errors =
      if failed then metrics.errors.increment labels else metrics.errors := by
  cases failed <;> rfl

theorem durations_record :
    (metrics.record labels seconds failed).durations =
      Series.update labels .empty (Histogram.observe seconds) metrics.durations := by
  cases failed <;> rfl

theorem count_reconciliations_record :
    (metrics.record labels seconds failed).reconciliations.count other =
      metrics.reconciliations.count other + if labels = other then 1 else 0 := by
  rw [reconciliations_record, Series.count_increment]

theorem count_errors_record :
    (metrics.record labels seconds failed).errors.count other =
      metrics.errors.count other + if labels = other ∧ failed = true then 1 else 0 := by
  rw [errors_record]
  cases failed with
  | true => simp only [↓reduceIte, Series.count_increment, and_true]
  | false => simp only [Bool.false_eq_true, ↓reduceIte, and_false, Nat.add_zero]

theorem agreesOn_record (different : other ≠ labels) :
    (metrics.record labels seconds failed).AgreesOn other metrics where
  reconciliations := by
    rw [reconciliations_record, Series.increment, Series.find?_update_of_ne different]
  errors := by
    rw [errors_record]
    split
    · rw [Series.increment, Series.find?_update_of_ne different]
    · rfl
  durations := by
    rw [durations_record, Series.find?_update_of_ne different]

end Metrics

end CatalogSteward
