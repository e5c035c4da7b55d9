import CatalogSteward.Reconcile.Transaction

/-!
# Runs of programs

A world answers the requests of a program, and may have more than one answer to
a request. What is asked of a program in a world is said in one place: what has
to hold of each request, of failures, and of the value and the world that it
ends with.
-/

set_option autoImplicit false

namespace CatalogSteward

/-- How a world answers, and what is asked of a program there: what has to hold of each request
that it makes, and whether it may fail. -/
structure Regime (World : Type) where
  answers : World → (request : Request) → request.Answer → World → Prop
  admits : World → Request → Prop
  mayFail : Prop

variable {World α β : Type} {regime : Regime World} {world : World}

/-- What may come of an attempt: a value as `post` says, or a failure where there may be one. -/
def Regime.Allows {Fault : Type} (regime : Regime World) (post : α → World → Prop)
    (result : Except Fault α) (after : World) : Prop :=
  match result with
  | .ok value => post value after
  | .error _ => regime.mayFail

theorem Regime.allows_mapError {Fault Blamed : Type} {blame : Fault → Blamed}
    {post : α → World → Prop} {result : Except Fault α} {after : World} :
    regime.Allows post (result.mapError blame) after ↔ regime.Allows post result after := by
  cases result with
  | ok value => exact Iff.rfl
  | error fault => exact Iff.rfl

/-- One regime is as strict as another: it admits no request that the other does not, and to one
that it admits the other has no answer that it has not. -/
structure Regime.Covers (regime other : Regime World) : Prop where
  admits : ∀ {world : World} {request : Request}, regime.admits world request →
    other.admits world request
  answers : ∀ {world : World} {request : Request} {answer : request.Answer} {after : World},
    regime.admits world request → other.answers world request answer after →
      regime.answers world request answer after
  mayFail : regime.mayFail → other.mayFail

namespace Program

/-- A run of a program: the requests that it makes, in order, the value that it ends with, and
the world after it. -/
inductive Runs (answers : World → (request : Request) → request.Answer → World → Prop) :
    World → Program α → List Request → α → World → Prop where
  | done (world : World) (value : α) : Runs answers world (.done value) [] value world
  | call {before between after : World} {request : Request} {answer : request.Answer}
      {next : request.Answer → Program α} {requests : List Request} {value : α}
      (answered : answers before request answer between)
      (others : Runs answers between (next answer) requests value after) :
      Runs answers before (.call request next) (request :: requests) value after

/-- Whatever the answers are, every request of a program is admitted and the program ends as
`post` says. -/
def Meets (regime : Regime World) (program : Program α) (world : World)
    (post : α → World → Prop) : Prop :=
  match program with
  | .done value => post value world
  | .call request next =>
      regime.admits world request ∧
        ∀ answer after, regime.answers world request answer after →
          (next answer).Meets regime after post

theorem Meets.imp {program : Program α} {post weaker : α → World → Prop}
    (meets : program.Meets regime world post)
    (implied : ∀ value after, post value after → weaker value after) :
    program.Meets regime world weaker := by
  induction program generalizing world with
  | done value => exact implied value world meets
  | call request next ih =>
      exact ⟨meets.1, fun answer after answered => ih answer (meets.2 answer after answered)⟩

theorem Meets.bind {program : Program α} {next : α → Program β} {post : β → World → Prop}
    (meets : program.Meets regime world fun value after => (next value).Meets regime after post) :
    (program >>= next).Meets regime world post := by
  induction program generalizing world with
  | done value => exact meets
  | call request rest ih =>
      exact ⟨meets.1, fun answer after answered => ih answer (meets.2 answer after answered)⟩

theorem Meets.map {program : Program α} {change : α → β} {post : β → World → Prop}
    (meets : program.Meets regime world fun value after => post (change value) after) :
    (change <$> program).Meets regime world post := by
  rw [map_eq_pure_bind]
  exact Meets.bind meets

theorem Meets.ask {request : Request} {post : request.Answer → World → Prop}
    (admitted : regime.admits world request)
    (answered : ∀ answer after, regime.answers world request answer after → post answer after) :
    (Program.ask request).Meets regime world post :=
  ⟨admitted, answered⟩

/-- What a program does under a strict regime, it does under every regime that it covers. -/
theorem Meets.covered {program : Program α} {other : Regime World} {post : α → World → Prop}
    (meets : program.Meets regime world post) (covers : regime.Covers other) :
    program.Meets other world post := by
  induction program generalizing world with
  | done value => exact meets
  | call request next ih =>
      obtain ⟨admitted, others⟩ := meets
      refine ⟨covers.admits admitted, ?_⟩
      intro answer after answered
      exact ih answer (others answer after (covers.answers admitted answered))

theorem Meets.of_runs {program : Program α} {post : α → World → Prop}
    {requests : List Request} {value : α} {after : World}
    (meets : program.Meets regime world post)
    (run : program.Runs regime.answers world requests value after) : post value after := by
  induction run with
  | done world value => exact meets
  | call answered others ih => exact ih (meets.2 _ _ answered)

theorem Meets.admits_of_runs {program : Program α} {post : α → World → Prop}
    {requests : List Request} {value : α} {after : World}
    (meets : program.Meets regime world post)
    (run : program.Runs regime.answers world requests value after) {request : Request}
    (made : request ∈ requests) : ∃ world, regime.admits world request := by
  induction run with
  | done world value => exact absurd made List.not_mem_nil
  | call answered others ih =>
      rcases List.mem_cons.mp made with rfl | made
      · exact ⟨_, meets.1⟩
      · exact ih (meets.2 _ _ answered) made

theorem Meets.exists_run {program : Program α} {post : α → World → Prop}
    (meets : program.Meets regime world post)
    (answerable : ∀ world request, regime.admits world request →
      ∃ answer after, regime.answers world request answer after) :
    ∃ requests value after, program.Runs regime.answers world requests value after := by
  induction program generalizing world with
  | done value => exact ⟨[], value, world, .done world value⟩
  | call request next ih =>
      obtain ⟨answer, between, answered⟩ := answerable world request meets.1
      obtain ⟨requests, value, after, others⟩ := ih answer (meets.2 answer between answered)
      exact ⟨request :: requests, value, after, .call answered others⟩

end Program

namespace Attempt

/-- Every request of an attempt is admitted, and the attempt ends with a value as `post` says, or
fails where it may. -/
def Meets (regime : Regime World) (attempt : Attempt α) (world : World)
    (post : α → World → Prop) : Prop :=
  attempt.run.Meets regime world (regime.Allows post)

variable {attempt : Attempt α}

theorem Meets.imp {post weaker : α → World → Prop} (meets : attempt.Meets regime world post)
    (implied : ∀ value after, post value after → weaker value after) :
    attempt.Meets regime world weaker := by
  apply Program.Meets.imp meets
  intro result after holds
  cases result with
  | ok value => exact implied value after holds
  | error failure => exact holds

theorem Meets.pure {value : α} {post : α → World → Prop} (holds : post value world) :
    Attempt.Meets regime (Pure.pure value) world post :=
  holds

theorem Meets.throw {failure : Failure} {post : α → World → Prop} (tolerated : regime.mayFail) :
    Attempt.Meets regime (MonadExcept.throw failure) world post :=
  tolerated

theorem Meets.bind {next : α → Attempt β} {post : β → World → Prop}
    (meets : attempt.Meets regime world fun value after => (next value).Meets regime after post) :
    Attempt.Meets regime (attempt >>= next) world post := by
  unfold Attempt.Meets
  rw [ExceptT.run_bind]
  apply Program.Meets.bind
  apply Program.Meets.imp meets
  intro result after holds
  cases result with
  | ok value => exact holds
  | error failure => exact holds

theorem Meets.ofExcept {Fault : Type} {blame : Fault → Failure} {result : Except Fault α}
    {post : α → World → Prop}
    (holds : regime.Allows post result world) :
    (Attempt.ofExcept blame result).Meets regime world post :=
  Regime.allows_mapError.mpr holds

theorem Meets.lift {program : Program α} {post : α → World → Prop}
    (meets : program.Meets regime world post) :
    Attempt.Meets regime (ExceptT.lift program) world post :=
  Program.Meets.map meets

theorem Meets.covered {other : Regime World} {post : α → World → Prop}
    (meets : attempt.Meets regime world post) (covers : regime.Covers other) :
    attempt.Meets other world post := by
  apply (Program.Meets.covered meets covers).imp
  intro result after holds
  cases result with
  | ok value => exact holds
  | error failure => exact covers.mayFail holds

theorem Meets.orAbandon {post : α → World → Prop} (meets : attempt.Meets regime world post)
    (admitted : regime.mayFail → ∀ world, regime.admits world .abandon) :
    (orAbandon attempt).Meets regime world post := by
  apply Program.Meets.bind
  apply Program.Meets.imp meets
  intro result after holds
  cases result with
  | ok value => exact holds
  | error failure =>
      exact Program.Meets.bind (Program.Meets.ask (admitted holds after) fun _ _ _ => holds)

end Attempt

end CatalogSteward
