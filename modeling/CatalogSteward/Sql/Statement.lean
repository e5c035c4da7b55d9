import CatalogSteward.Sql.Command
import CatalogSteward.Text.Quoted

/-!
# Statements

A statement is a text that is ready to be sent, with the text to show in its
place when it holds a secret.
-/

set_option autoImplicit false

namespace CatalogSteward.Sql

/-- A text to send, and the text to show where that one must not be. -/
structure Statement where
  text : String
  redacted : Option String
  deriving DecidableEq, Repr

namespace Statement

def ofText (text : String) : Statement :=
  ⟨text, none⟩

def isSensitive (statement : Statement) : Bool :=
  statement.redacted.isSome

def shown (statement : Statement) : String :=
  statement.redacted.getD statement.text

def inspected (statement : Statement) : String :=
  "Statement(" ++ Text.quoted statement.shown ++ ")"

end Statement

/-- The statement that carries out a command; it is sensitive when the command sets a
password. -/
def Command.statement (command : Command) : Statement :=
  match command.newPassword? with
  | some _ => ⟨command.text, some command.hidden.text⟩
  | none => .ofText command.text

end CatalogSteward.Sql
