import CatalogSteward.Request

/-!
# Programs

A program is a tree: it is done, or it makes a request and goes on with the
answer. Nothing in it says what the answers are, so that what holds of every
branch holds in every world.
-/

set_option autoImplicit false

namespace CatalogSteward

inductive Program (α : Type) where
  | done (value : α)
  | call (request : Request) (next : request.Answer → Program α)

namespace Program

def bind {α β : Type} (program : Program α) (next : α → Program β) : Program β :=
  match program with
  | .done value => next value
  | .call request rest => .call request fun answer => (rest answer).bind next

instance : Monad Program where
  pure := done
  bind := bind

def ask (request : Request) : Program request.Answer :=
  .call request .done

/-- The value that a program ends with in a world that answers as `respond` says, and the world
after it. -/
def run {World α : Type} (respond : (request : Request) → World → request.Answer × World) :
    Program α → World → α × World
  | .done value, world => (value, world)
  | .call request next, world =>
      let (answer, world) := respond request world
      (next answer).run respond world

/-- A program followed by one that does nothing is itself. -/
theorem bind_done {α : Type} (program : Program α) : program.bind .done = program := by
  induction program with
  | done value => rfl
  | call request next ih => simp only [bind, ih]

/-- Of three programs it does not matter which two are joined first. -/
theorem bind_assoc {α β γ : Type} (program : Program α) (first : α → Program β)
    (second : β → Program γ) :
    (program.bind first).bind second = program.bind fun value => (first value).bind second := by
  induction program with
  | done value => rfl
  | call request next ih => simp only [bind, ih]

instance : LawfulMonad Program :=
  LawfulMonad.mk' Program bind_done (fun _ _ => rfl) bind_assoc

end Program

abbrev Attempt (α : Type) := ExceptT Failure Program α

namespace Attempt

/-- An attempt that fails where the answer to a request says so; `blame` says as what. -/
def ask {Fault α : Type} (blame : Fault → Failure) (program : Program (Except Fault α)) :
    Attempt α :=
  ExceptT.mk (Except.mapError blame <$> program)

def ofExcept {Fault α : Type} (blame : Fault → Failure) (result : Except Fault α) : Attempt α :=
  ExceptT.mk (pure (result.mapError blame))

end Attempt

end CatalogSteward
