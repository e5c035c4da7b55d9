import CatalogSteward.Proofs.Program

/-!
# Paths of programs

A path is one way through a program: its requests, each with the answer to it,
and the value at the end. Any answer is possible on a path; which ones a world
gives, and what becomes of it, is a matter of the interactions alone.
-/

set_option autoImplicit false

namespace CatalogSteward

/-- A request and the answer to it. -/
structure Interaction where
  request : Request
  answer : request.Answer

/-- A world answers interactions in order, each as the one before it left the world. -/
inductive Along {World : Type}
    (answers : World → (request : Request) → request.Answer → World → Prop) :
    World → List Interaction → World → Prop where
  | nil (world : World) : Along answers world [] world
  | cons {before between after : World} {request : Request} {answer : request.Answer}
      {interactions : List Interaction} (first : answers before request answer between)
      (others : Along answers between interactions after) :
      Along answers before (⟨request, answer⟩ :: interactions) after

namespace Along

variable {World : Type} {answers : World → (request : Request) → request.Answer → World → Prop}
  {before after : World} {first second : List Interaction}

theorem nil_iff : Along answers before [] after ↔ after = before := by
  constructor
  · intro along
    cases along
    rfl
  · intro same
    subst same
    exact .nil after

theorem cons_iff {request : Request} {answer : request.Answer} :
    Along answers before (⟨request, answer⟩ :: first) after ↔
      ∃ between, answers before request answer between ∧ Along answers between first after := by
  constructor
  · intro along
    cases along with
    | cons answered others => exact ⟨_, answered, others⟩
  · intro both
    obtain ⟨between, answered, others⟩ := both
    exact .cons answered others

theorem append_iff :
    Along answers before (first ++ second) after ↔
      ∃ between, Along answers before first between ∧ Along answers between second after := by
  induction first generalizing before with
  | nil => simp only [List.nil_append, nil_iff, exists_eq_left]
  | cons interaction rest ih =>
      obtain ⟨request, answer⟩ := interaction
      simp only [List.cons_append, cons_iff, ih]
      constructor
      · intro split
        obtain ⟨middle, answered, between, others, last⟩ := split
        exact ⟨between, ⟨middle, answered, others⟩, last⟩
      · intro split
        obtain ⟨between, ⟨middle, answered, others⟩, last⟩ := split
        exact ⟨middle, answered, between, others, last⟩

theorem singleton_iff {request : Request} {answer : request.Answer} :
    Along answers before [⟨request, answer⟩] after ↔ answers before request answer after := by
  simp only [cons_iff, nil_iff, exists_eq_right']

theorem imp {weaker : World → (request : Request) → request.Answer → World → Prop}
    (along : Along answers before first after)
    (implied : ∀ {before request answer after}, answers before request answer after →
      weaker before request answer after) : Along weaker before first after := by
  induction along with
  | nil world => exact .nil world
  | cons answered others ih => exact .cons (implied answered) ih

/-- What each of the interactions preserves, all of them do. -/
theorem induct {motive : World → Prop} (along : Along answers before first after)
    (start : motive before)
    (preserved : ∀ interaction ∈ first, ∀ before after, motive before →
      answers before interaction.request interaction.answer after → motive after) :
    motive after := by
  induction along with
  | nil world => exact start
  | cons answered others ih =>
      exact ih (preserved _ List.mem_cons_self _ _ start answered) fun interaction member =>
        preserved interaction (List.mem_cons_of_mem _ member)

end Along

/-! ## Programs -/

namespace Program

/-- A path of a program, and the value that it ends with. -/
inductive Path {α : Type} : Program α → List Interaction → α → Prop where
  | done (value : α) : Path (.done value) [] value
  | call {request : Request} {answer : request.Answer} {next : request.Answer → Program α}
      {interactions : List Interaction} {value : α}
      (others : Path (next answer) interactions value) :
      Path (.call request next) (⟨request, answer⟩ :: interactions) value

variable {α β : Type} {program : Program α} {interactions : List Interaction} {value : α}

theorem path_pure_iff {given : α} :
    Path (pure given) interactions value ↔ interactions = [] ∧ value = given := by
  constructor
  · intro path
    cases path
    exact ⟨rfl, rfl⟩
  · intro same
    obtain ⟨rfl, rfl⟩ := same
    exact .done value

theorem path_call_iff {request : Request} {next : request.Answer → Program α} :
    Path (.call request next) interactions value ↔
      ∃ answer rest, interactions = ⟨request, answer⟩ :: rest ∧ (next answer).Path rest value := by
  constructor
  · intro path
    cases path with
    | call others => exact ⟨_, _, rfl, others⟩
  · intro split
    obtain ⟨answer, rest, rfl, others⟩ := split
    exact .call others

theorem path_bind_iff {next : α → Program β} {result : β} :
    (program >>= next).Path interactions result ↔
      ∃ first rest value, interactions = first ++ rest ∧ program.Path first value ∧
        (next value).Path rest result := by
  induction program generalizing interactions with
  | done value =>
      constructor
      · intro path
        exact ⟨[], interactions, value, rfl, .done value, path⟩
      · intro split
        obtain ⟨first, rest, _, rfl, path, others⟩ := split
        cases path
        exact others
  | call request rest ih =>
      show Path (.call request fun answer => rest answer >>= next) interactions result ↔ _
      simp only [path_call_iff, ih]
      constructor
      · intro split
        obtain ⟨answer, _, rfl, first, last, value, rfl, path, others⟩ := split
        exact ⟨_ :: first, last, value, rfl, ⟨answer, first, rfl, path⟩, others⟩
      · intro split
        obtain ⟨_, last, value, rfl, ⟨answer, first, rfl, path⟩, others⟩ := split
        exact ⟨answer, first ++ last, rfl, first, last, value, rfl, path, others⟩

theorem path_map_iff {change : α → β} {result : β} :
    (change <$> program).Path interactions result ↔
      ∃ value, program.Path interactions value ∧ result = change value := by
  rw [map_eq_pure_bind, path_bind_iff]
  simp only [path_pure_iff]
  constructor
  · intro split
    obtain ⟨first, rest, value, rfl, path, rfl, rfl⟩ := split
    exact ⟨value, by rwa [List.append_nil], rfl⟩
  · intro mapped
    obtain ⟨value, path, rfl⟩ := mapped
    exact ⟨interactions, [], value, (List.append_nil _).symm, path, rfl, rfl⟩

/-- A last step that makes no request changes the value and nothing else. -/
theorem path_bind_of_pure {next : α → Program β} {change : α → β} {result : β}
    (quiet : ∀ value, next value = pure (change value)) :
    (program >>= next).Path interactions result ↔
      ∃ value, program.Path interactions value ∧ result = change value := by
  have mapped : program >>= next = change <$> program := by
    rw [funext quiet, bind_pure_comp]
  rw [mapped, path_map_iff]

theorem path_ask_iff {request : Request} {answer : request.Answer} :
    (ask request).Path interactions answer ↔ interactions = [⟨request, answer⟩] := by
  rw [ask, path_call_iff]
  constructor
  · intro split
    obtain ⟨given, rest, rfl, others⟩ := split
    obtain ⟨rfl, rfl⟩ := path_pure_iff.mp others
    rfl
  · intro same
    exact ⟨answer, [], same, .done answer⟩

/-- Two paths of one program are the same, if interactions can start with either. -/
theorem Path.eq_of_append {first second rest others : List Interaction} {other : α}
    (path : program.Path first value) (again : program.Path second other)
    (same : first ++ rest = second ++ others) : first = second ∧ value = other := by
  induction path generalizing second with
  | done value =>
      obtain ⟨rfl, rfl⟩ := path_pure_iff.mp again
      exact ⟨rfl, rfl⟩
  | call following ih =>
      obtain ⟨answer, interactions, rfl, followingAgain⟩ := path_call_iff.mp again
      simp only [List.cons_append, List.cons.injEq, Interaction.mk.injEq, heq_eq_eq,
        true_and] at same
      obtain ⟨rfl, same⟩ := same
      obtain ⟨rfl, rfl⟩ := ih followingAgain same
      exact ⟨rfl, rfl⟩

/-- A run is a path whose answers a world gives. -/
theorem runs_iff {World : Type}
    {answers : World → (request : Request) → request.Answer → World → Prop}
    {before after : World} {requests : List Request} :
    program.Runs answers before requests value after ↔
      ∃ interactions, program.Path interactions value ∧ Along answers before interactions after ∧
        requests = interactions.map Interaction.request := by
  constructor
  · intro run
    induction run with
    | done world value => exact ⟨[], .done value, .nil world, rfl⟩
    | call answered others ih =>
        obtain ⟨interactions, path, along, rfl⟩ := ih
        exact ⟨_ :: interactions, .call path, .cons answered along, rfl⟩
  · intro split
    obtain ⟨interactions, path, along, rfl⟩ := split
    induction path generalizing before with
    | done value =>
        cases along
        exact .done after value
    | call others ih =>
        obtain ⟨between, answered, along⟩ := Along.cons_iff.mp along
        exact .call answered (ih along)

/-- The path of a program that `respond` answers, whatever was asked before. -/
def follow (respond : (request : Request) → request.Answer) :
    Program α → List Interaction × α
  | .done value => ([], value)
  | .call request next =>
      let others := (next (respond request)).follow respond
      (⟨request, respond request⟩ :: others.1, others.2)

theorem path_follow (respond : (request : Request) → request.Answer) (program : Program α) :
    program.Path (program.follow respond).1 (program.follow respond).2 := by
  induction program with
  | done value => exact .done value
  | call request next ih => exact .call (ih (respond request))

theorem Meets.of_path {World : Type} {regime : Regime World} {before after : World}
    {post : α → World → Prop} (meets : program.Meets regime before post)
    (path : program.Path interactions value)
    (along : Along regime.answers before interactions after) : post value after :=
  meets.of_runs (runs_iff.mpr ⟨interactions, path, along, rfl⟩)

end Program

/-! ## Attempts -/

namespace Attempt

/-- A path of an attempt, and the value or the failure that it ends with. -/
def Path {α : Type} (attempt : Attempt α) (interactions : List Interaction)
    (result : Except Failure α) : Prop :=
  attempt.run.Path interactions result

variable {α β Fault : Type} {attempt : Attempt α} {interactions : List Interaction}
  {result : Except Failure α} {blame : Fault → Failure}

theorem Meets.of_path {World : Type} {regime : Regime World} {before after : World}
    {post : α → World → Prop} (meets : attempt.Meets regime before post)
    (path : attempt.Path interactions result)
    (along : Along regime.answers before interactions after) : regime.Allows post result after := by
  have ends : attempt.run.Meets regime before (regime.Allows post) := meets
  exact ends.of_path path along

theorem path_pure_iff {given : α} :
    Attempt.Path (pure given) interactions result ↔ interactions = [] ∧ result = .ok given :=
  Program.path_pure_iff

theorem path_throw_iff {failure : Failure} :
    Attempt.Path (throw failure) interactions result ↔
      interactions = [] ∧ result = .error failure :=
  Program.path_pure_iff

theorem path_ofExcept_iff {given : Except Fault α} :
    (Attempt.ofExcept blame given).Path interactions result ↔
      interactions = [] ∧ result = given.mapError blame :=
  Program.path_pure_iff

theorem path_lift_iff {program : Program α} :
    Attempt.Path (ExceptT.lift program) interactions result ↔
      ∃ value, program.Path interactions value ∧ result = .ok value :=
  Program.path_map_iff

/-- An attempt that goes on after another one stops where the first one fails. -/
theorem path_bind_iff {next : α → Attempt β} {result : Except Failure β} :
    Attempt.Path (attempt >>= next) interactions result ↔
      (∃ failure, attempt.Path interactions (.error failure) ∧ result = .error failure) ∨
        ∃ first rest value, interactions = first ++ rest ∧ attempt.Path first (.ok value) ∧
          (next value).Path rest result := by
  rw [Path, ExceptT.run_bind, Program.path_bind_iff]
  constructor
  · intro split
    obtain ⟨first, rest, given, rfl, path, others⟩ := split
    cases given with
    | ok value => exact .inr ⟨first, rest, value, rfl, path, others⟩
    | error failure =>
        obtain ⟨rfl, rfl⟩ := Program.path_pure_iff.mp others
        rw [List.append_nil]
        exact .inl ⟨failure, path, rfl⟩
  · intro ways
    cases ways with
    | inl failed =>
        obtain ⟨failure, path, rfl⟩ := failed
        exact ⟨interactions, [], .error failure, (List.append_nil _).symm, path, .done _⟩
    | inr split =>
        obtain ⟨first, rest, value, rfl, path, others⟩ := split
        exact ⟨first, rest, .ok value, rfl, path, others⟩

/-- An attempt that starts with a program that cannot fail. -/
theorem path_lift_bind {program : Program α} {next : α → Attempt β} {result : Except Failure β}
    (path : Attempt.Path (ExceptT.lift program >>= next) interactions result) :
    ∃ first rest value, interactions = first ++ rest ∧ program.Path first value ∧
      (next value).Path rest result := by
  rw [path_bind_iff] at path
  cases path with
  | inl failed =>
      obtain ⟨failure, path, rfl⟩ := failed
      obtain ⟨value, -, impossible⟩ := path_lift_iff.mp path
      exact nomatch impossible
  | inr succeeded =>
      obtain ⟨first, rest, value, rfl, path, others⟩ := succeeded
      obtain ⟨_, path, same⟩ := path_lift_iff.mp path
      cases same
      exact ⟨first, rest, value, rfl, path, others⟩

/-- An attempt that starts with a request whose answer is no fault. -/
theorem path_lift_ask_bind {request : Request} {next : request.Answer → Attempt β}
    {result : Except Failure β}
    (path : Attempt.Path (ExceptT.lift (Program.ask request) >>= next) interactions result) :
    ∃ answer rest, interactions = ⟨request, answer⟩ :: rest ∧ (next answer).Path rest result := by
  obtain ⟨_, rest, answer, rfl, asked, others⟩ := path_lift_bind path
  rw [Program.path_ask_iff.mp asked]
  exact ⟨answer, rest, rfl, others⟩

/-- An attempt that goes on after another one succeeds where both do. -/
theorem path_bind_ok_iff {next : α → Attempt β} {value : β} :
    Attempt.Path (attempt >>= next) interactions (.ok value) ↔
      ∃ first rest given, interactions = first ++ rest ∧ attempt.Path first (.ok given) ∧
        (next given).Path rest (.ok value) := by
  rw [path_bind_iff]
  apply or_iff_right
  intro failed
  obtain ⟨_, -, impossible⟩ := failed
  cases impossible

/-- Where interactions start with those of a first attempt that succeeds, whoever goes on after it
went on there. -/
theorem path_of_append {next : α → Attempt β} {first rest others : List Interaction} {value : α}
    {result : Except Failure β} (path : Attempt.Path (attempt >>= next) interactions result)
    (done : attempt.Path first (.ok value)) (same : interactions ++ rest = first ++ others) :
    ∃ between, interactions = first ++ between ∧ between ++ rest = others ∧
      (next value).Path between result := by
  rcases path_bind_iff.mp path with ⟨failure, failed, -⟩ | ⟨before, between, other, rfl, path, others⟩
  · obtain ⟨-, impossible⟩ := failed.eq_of_append done same
    cases impossible
  · rw [List.append_assoc] at same
    obtain ⟨rfl, found⟩ := path.eq_of_append done same
    cases found
    exact ⟨between, rfl, List.append_cancel_left same, others⟩

theorem path_map_iff {change : α → β} {result : Except Failure β} :
    Attempt.Path (change <$> attempt) interactions result ↔
      ∃ given, attempt.Path interactions given ∧ result = given.map change := by
  rw [Path, ExceptT.run_map, Program.path_map_iff]
  rfl

theorem path_bind_pure_iff {change : α → β} {result : Except Failure β} :
    Attempt.Path (attempt >>= fun value => pure (change value)) interactions result ↔
      ∃ given, attempt.Path interactions given ∧ result = given.map change := by
  rw [bind_pure_comp, path_map_iff]

theorem path_ask_iff {request : Request} {read : request.Answer → Except Fault α} :
    Attempt.Path (ExceptT.mk ((fun answer => (read answer).mapError blame) <$> Program.ask request))
        interactions result ↔
      ∃ answer, interactions = [⟨request, answer⟩] ∧ result = (read answer).mapError blame := by
  rw [Path]
  show Program.Path (_ <$> Program.ask request) interactions result ↔ _
  rw [Program.path_map_iff]
  simp only [Program.path_ask_iff]

/-- An attempt that starts by asking stops at a fault, or goes on with what it read. -/
theorem path_ask_bind {request : Request} {read : request.Answer → Except Fault α}
    {next : α → Attempt β} {result : Except Failure β}
    (path : Attempt.Path
      (ExceptT.mk ((fun answer => (read answer).mapError blame) <$> Program.ask request) >>= next)
      interactions result) :
    ∃ answer rest, interactions = ⟨request, answer⟩ :: rest ∧
      ((∃ fault, read answer = .error fault ∧ rest = [] ∧ result = .error (blame fault)) ∨
        ∃ value, read answer = .ok value ∧ (next value).Path rest result) := by
  cases path_bind_iff.mp path with
  | inl failed =>
      obtain ⟨failure, asked, rfl⟩ := failed
      obtain ⟨answer, rfl, blamed⟩ := path_ask_iff.mp asked
      refine ⟨answer, [], rfl, .inl ?_⟩
      cases given : read answer with
      | ok value =>
          rw [given] at blamed
          cases blamed
      | error fault =>
          rw [given] at blamed
          cases blamed
          exact ⟨fault, rfl, rfl, rfl⟩
  | inr succeeded =>
      obtain ⟨_, rest, value, rfl, asked, others⟩ := succeeded
      obtain ⟨answer, rfl, blamed⟩ := path_ask_iff.mp asked
      refine ⟨answer, rest, rfl, .inr ?_⟩
      cases given : read answer with
      | error fault =>
          rw [given] at blamed
          cases blamed
      | ok value =>
          rw [given] at blamed
          cases blamed
          exact ⟨value, rfl, others⟩

theorem path_orAbandon_iff :
    (orAbandon attempt).Path interactions result ↔
      (∃ value, attempt.Path interactions (.ok value) ∧ result = .ok value) ∨
        ∃ failure first, interactions = first ++ [⟨.abandon, ()⟩] ∧
          attempt.Path first (.error failure) ∧ result = .error failure := by
  rw [Path]
  show Program.Path (attempt.run >>= _) interactions result ↔ _
  rw [Program.path_bind_iff]
  constructor
  · intro split
    obtain ⟨first, rest, given, rfl, path, others⟩ := split
    cases given with
    | ok value =>
        obtain ⟨rfl, rfl⟩ := Program.path_pure_iff.mp others
        rw [List.append_nil]
        exact .inl ⟨value, path, rfl⟩
    | error failure =>
        obtain ⟨_, _, rfl, last⟩ := Program.path_call_iff.mp others
        obtain ⟨rfl, rfl⟩ := Program.path_pure_iff.mp last
        exact .inr ⟨failure, first, rfl, path, rfl⟩
  · intro ways
    cases ways with
    | inl ended =>
        obtain ⟨value, path, rfl⟩ := ended
        exact ⟨interactions, [], .ok value, (List.append_nil _).symm, path, .done _⟩
    | inr failed =>
        obtain ⟨failure, first, rfl, path, rfl⟩ := failed
        exact ⟨first, _, .error failure, rfl, path, .call (.done _)⟩

end Attempt

end CatalogSteward
