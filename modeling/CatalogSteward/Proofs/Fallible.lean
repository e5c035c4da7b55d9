/-!
# Steps that may fail

What comes of two steps of which either may fail, and of one step for each
element of a list: the first failure is that of the whole.
-/

set_option autoImplicit false

namespace CatalogSteward.Fallible

variable {Fault State α β : Type}

theorem bind_eq_ok_iff {first : Except Fault α} {next : α → Except Fault β} {value : β} :
    first >>= next = .ok value ↔ ∃ found, first = .ok found ∧ next found = .ok value := by
  cases first with
  | error fault => simp only [bind, Except.bind, reduceCtorEq, false_and, exists_false]
  | ok found => simp only [bind, Except.bind, Except.ok.injEq, exists_eq_left']

theorem bind_eq_error_iff {first : Except Fault α} {next : α → Except Fault β} {fault : Fault} :
    first >>= next = .error fault ↔
      first = .error fault ∨ ∃ found, first = .ok found ∧ next found = .error fault := by
  cases first with
  | error other =>
      simp only [bind, Except.bind, Except.error.injEq, reduceCtorEq, false_and, exists_false,
        or_false]
  | ok found => simp only [bind, Except.bind, Except.ok.injEq, exists_eq_left', reduceCtorEq,
      false_or]

section Checks

variable {check : Except Fault Unit} {next : Unit → Except Fault β}

/-- A check that is passed gives nothing to what comes next. -/
theorem check_bind_eq_ok_iff {value : β} :
    check >>= next = .ok value ↔ check = .ok () ∧ next () = .ok value := by
  rw [bind_eq_ok_iff]
  exact ⟨fun ⟨_, passed⟩ => passed, fun passed => ⟨(), passed⟩⟩

theorem check_bind_eq_error_iff {fault : Fault} :
    check >>= next = .error fault ↔
      check = .error fault ∨ check = .ok () ∧ next () = .error fault := by
  rw [bind_eq_error_iff]
  exact or_congr_right ⟨fun ⟨_, passed⟩ => passed, fun passed => ⟨(), passed⟩⟩

end Checks

variable {step : State → α → Except Fault State} {elements : List α} {start : State}

/-- Where it depends on the elements alone whether a step fails, a run fails for the first element
for which a step does. -/
theorem foldlM_eq_error_iff {fails : α → Fault → Prop} {fault : Fault}
    (failing : ∀ state element other,
      step state element = .error other ↔ fails element other) :
    elements.foldlM step start = .error fault ↔
      ∃ before element after, elements = before ++ element :: after ∧
        (∀ earlier ∈ before, ∀ other, ¬fails earlier other) ∧ fails element fault := by
  induction elements generalizing start with
  | nil => simp [pure, Except.pure]
  | cons first rest ih =>
      rw [List.foldlM_cons, bind_eq_error_iff]
      constructor
      · intro failed
        obtain failed | ⟨state, went, failed⟩ := failed
        · exact ⟨[], first, rest, rfl, fun _ none => absurd none List.not_mem_nil,
            (failing _ _ _).mp failed⟩
        · obtain ⟨before, element, after, rfl, fine, fails⟩ := ih.mp failed
          refine ⟨first :: before, element, after, rfl, List.forall_mem_cons.mpr ⟨?_, fine⟩, fails⟩
          intro other fails
          rw [← failing start, went] at fails
          cases fails
      · intro failed
        obtain ⟨before, element, after, same, fine, fails⟩ := failed
        cases before with
        | nil =>
            cases same
            exact .inl ((failing _ _ _).mpr fails)
        | cons head before =>
            cases same
            obtain ⟨fineFirst, fine⟩ := List.forall_mem_cons.mp fine
            cases went : step start first with
            | error other => exact absurd ((failing _ _ _).mp went) (fineFirst other)
            | ok state => exact .inr ⟨state, rfl, ih.mpr ⟨before, element, after, rfl, fine, fails⟩⟩

end CatalogSteward.Fallible
