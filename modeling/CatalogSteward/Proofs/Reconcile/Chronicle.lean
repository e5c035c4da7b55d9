import CatalogSteward.Proofs.Reconcile.Bookkeeping
import Mathlib.Data.List.Induction

/-!
# What a status tells of the past

Only the last status is kept, and not every status is written. What is stored tells
of all steps even so: the greatest generation that was seen, the last time that the
phase moved, and what the last step came to.
-/

set_option autoImplicit false

namespace CatalogSteward

open Time

/-! ## The greatest generation -/

/-- A generation is the greatest of those that are given, and there is none where none is given. -/
def IsLatestGeneration (generations : List Int64) : Option Int64 → Prop
  | none => generations = []
  | some latest => latest ∈ generations ∧ ∀ generation ∈ generations, generation ≤ latest

theorem IsLatestGeneration.next {generations : List Int64} {observed : Option Int64}
    (latest : IsLatestGeneration generations observed) (current : Option Int64) :
    IsLatestGeneration (generations ++ current.toList)
      (Status.latestGeneration observed current) := by
  cases current with
  | none =>
      rw [Option.toList_none, List.append_nil]
      cases observed with
      | none | some observed => exact latest
  | some current =>
      cases observed with
      | none =>
          rw [show generations = [] from latest]
          refine ⟨List.mem_singleton_self current, fun generation member => ?_⟩
          exact List.mem_singleton.mp member ▸ Int64.le_refl current
      | some observed =>
          obtain ⟨seen, greatest⟩ := latest
          rw [Status.latestGeneration]
          split
          · next older =>
              refine ⟨List.mem_append_right generations (List.mem_singleton_self current),
                fun generation member => ?_⟩
              cases List.mem_append.mp member with
              | inl before =>
                  exact Int64.le_trans (greatest generation before) (Int64.le_of_lt older)
              | inr new => exact List.mem_singleton.mp new ▸ Int64.le_refl current
          · next newer =>
              refine ⟨List.mem_append_left _ seen, fun generation member => ?_⟩
              cases List.mem_append.mp member with
              | inl before => exact greatest generation before
              | inr new => exact List.mem_singleton.mp new ▸ Int64.not_lt.mp newer

namespace StatusStep

/-! ## What is stored after steps -/

/-- What is stored after steps over a resource that had no status. -/
def storedAfter (steps : List StatusStep) : Option Status :=
  steps.foldl storeNews none

/-- The phase that is stored after a step is not the one that was stored before it. The first step
always moves the phase, since nothing was stored. -/
def Moves (earlier : List StatusStep) (step : StatusStep) : Prop :=
  (storedAfter (earlier ++ [step])).map Status.phase ≠ (storedAfter earlier).map Status.phase

/-- The latest of the steps that moved the phase. -/
inductive LatestMove : List StatusStep → StatusStep → Prop where
  | moved {earlier : List StatusStep} {step : StatusStep} (moves : Moves earlier step) :
      LatestMove (earlier ++ [step]) step
  | stayed {earlier : List StatusStep} {step next : StatusStep} (latest : LatestMove earlier step)
      (stays : ¬Moves earlier next) : LatestMove (earlier ++ [next]) step

/-- A status tells of the steps after which it is stored. -/
structure Tells (earlier : List StatusStep) (last : StatusStep) (status : Status) : Prop where
  generation :
    IsLatestGeneration ((earlier ++ [last]).filterMap StatusStep.generation)
      status.observedGeneration
  moved :
    ∃ step, LatestMove (earlier ++ [last]) step ∧
      status.lastPhaseTransitionTime = some (timestamp step.moment)
  phase : status.phase = last.phase
  name : status.name = last.name
  message : status.message = last.message (storedAfter earlier)

variable {earlier : List StatusStep} {last step : StatusStep} {stored : Option Status}
  {status next : Status}

theorem storedAfter_append :
    storedAfter (earlier ++ [last]) = storeNews (storedAfter earlier) last :=
  List.foldl_append

/-! ## One step -/

/-- Whether or not a step writes a status, what is stored after it is what it computed, apart from
the last look. -/
theorem exists_stored (timed : ∀ status, stored = some status →
    status.lastPhaseTransitionTime.isSome = true) (step : StatusStep) :
    ∃ status, storeNews stored step = some status ∧
      status.apartFromProbe = (step.computed stored).apartFromProbe := by
  cases storeNews_eq stored step with
  | inl written => exact ⟨_, written, rfl⟩
  | inr skipped =>
      obtain ⟨unchanged, kept⟩ := skipped
      cases stored with
      | none => exact nomatch unchanged
      | some status =>
          exact ⟨status, kept, apartFromProbe_of_isUnchanged (timed status rfl) unchanged⟩

/-- What a step stores, field by field: it is the same whether the step writes it or finds it. -/
structure Stores (stored : Option Status) (step : StatusStep) (status : Status) : Prop where
  phase : status.phase = step.phase
  name : status.name = step.name
  message : status.message = step.message stored
  generation :
    status.observedGeneration =
      Status.latestGeneration (stored.bind Status.observedGeneration) step.generation
  stayed :
    stored.map Status.phase = some step.phase →
      status.lastPhaseTransitionTime = stored.bind Status.lastPhaseTransitionTime
  moved :
    stored.map Status.phase ≠ some step.phase →
      status.lastPhaseTransitionTime = some (timestamp step.moment)

theorem stores_of_apartFromProbe_eq
    (timed : ∀ status, stored = some status → status.lastPhaseTransitionTime.isSome = true)
    (same : status.apartFromProbe = (step.computed stored).apartFromProbe) :
    Stores stored step status := by
  rw [computed_eq] at same
  simp only [Status.apartFromProbe, Status.setMessage, Status.mk.injEq, Status.setPhase_phase,
    Status.setPhase_name, Status.setPhase_observedGeneration, true_and] at same
  obtain ⟨name, phase, message, time, generation⟩ := same
  refine ⟨phase, name, message, generation.trans ?_, fun stays => time.trans ?_,
    fun moves => time.trans ?_⟩
  · cases stored with
    | none | some before => rfl
  · cases stored with
    | none => cases stays
    | some before => exact Status.setPhase_time (timed before rfl) (Option.some.inj stays).symm
  · rw [Status.setPhase]
    cases stored with
    | none => split <;> rfl
    | some before => rw [if_pos (.inl fun same => moves (congrArg some same))]

/-! ## All steps -/

theorem Tells.timed (tells : Tells earlier last status) :
    status.lastPhaseTransitionTime.isSome = true := by
  obtain ⟨step, _, time⟩ := tells.moved
  exact time ▸ rfl

theorem filterMap_generation_append :
    (earlier ++ [last]).filterMap generation =
      earlier.filterMap generation ++ last.generation.toList := by
  rw [List.filterMap_append, List.filterMap_cons, List.filterMap_nil]
  cases last.generation with
  | none | some generation => rfl

theorem Stores.tells_first (stores : Stores none last status)
    (written : storedAfter [last] = some status) : Tells [] last status where
  generation := by
    have start : IsLatestGeneration [] none := rfl
    rw [stores.generation, filterMap_generation_append]
    exact start.next last.generation
  moved := by
    have moves : Moves [] last := by
      rw [Moves, List.nil_append, written]
      exact Option.some_ne_none _
    exact ⟨last, .moved moves, stores.moved (Option.some_ne_none _).symm⟩
  phase := stores.phase
  name := stores.name
  message := stores.message

theorem Stores.tells_next (stores : Stores (some status) step next)
    (tells : Tells earlier last status) (before : storedAfter (earlier ++ [last]) = some status)
    (written : storedAfter (earlier ++ [last] ++ [step]) = some next) :
    Tells (earlier ++ [last]) step next where
  generation := by
    rw [stores.generation, filterMap_generation_append]
    exact tells.generation.next step.generation
  moved := by
    have moves_iff : Moves (earlier ++ [last]) step ↔ some status.phase ≠ some step.phase := by
      rw [Moves, before, written, Option.map_some, Option.map_some, stores.phase, ne_comm]
    by_cases stays : some status.phase = some step.phase
    · obtain ⟨mover, latest, since⟩ := tells.moved
      exact ⟨mover, .stayed latest fun moves => moves_iff.mp moves stays,
        (stores.stayed stays).trans since⟩
    · exact ⟨step, .moved (moves_iff.mpr stays), stores.moved stays⟩
  phase := stores.phase
  name := stores.name
  message := before ▸ stores.message

/-- After any steps over a resource that had no status, in whatever order their generations and
moments come, some status is stored, and it tells of them: its generation is the greatest that was
seen, its transition time is the moment of the latest step that moved the stored phase, and its
phase, name and message are those that the last step came to. -/
theorem stored_tells_history (earlier : List StatusStep) (last : StatusStep) :
    ∃ status, storedAfter (earlier ++ [last]) = some status ∧ Tells earlier last status := by
  induction earlier using List.reverseRecOn generalizing last with
  | nil =>
      have timed : ∀ status, (none : Option Status) = some status →
          status.lastPhaseTransitionTime.isSome = true := fun _ absent => nomatch absent
      obtain ⟨status, written, same⟩ := exists_stored timed last
      have stores := stores_of_apartFromProbe_eq timed same
      exact ⟨status, written, stores.tells_first written⟩
  | append_singleton earlier step ih =>
      obtain ⟨status, before, tells⟩ := ih step
      have timed : ∀ other, storedAfter (earlier ++ [step]) = some other →
          other.lastPhaseTransitionTime.isSome = true := by
        intro other same
        rw [before, Option.some.injEq] at same
        exact same ▸ tells.timed
      obtain ⟨next, written, same⟩ := exists_stored timed last
      have stores := stores_of_apartFromProbe_eq timed same
      rw [before] at stores
      rw [← storedAfter_append] at written
      exact ⟨next, written, stores.tells_next tells before written⟩

end StatusStep

end CatalogSteward
