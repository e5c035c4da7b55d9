import CatalogSteward.Proofs.Catalog.Query
import CatalogSteward.Proofs.Sql.Spelling

/-!
# Statements and what they are given

Names, comments and passwords cannot become anything else on their way to the
server, neither in the statement of a command nor in the parameter of a query.
-/

set_option autoImplicit false

namespace CatalogSteward.Sql

theorem Command.text_statement (command : Command) : command.statement.text = command.text := by
  rw [statement]
  split
  · rfl
  · rfl

/-- Nothing that a statement is given can be taken for a part of it. The statement of a command
is read as the tokens of the command: its keywords, which do not depend on its names and texts,
each of its names as one identifier and each of its texts as one literal. Two commands have one
statement only where all that is spelled of them is the same, whichever commands they are. And
what the server finds in the parameters of a query, where the text of the query casts them to a
role or a schema and where it does not, is what the query is given. -/
theorem names_and_texts_are_kept :
    (∀ command : Command,
      Lexer.tokens? command.statement.text = some command.tokens ∧
        command.tokens.map Token.blank = command.blank.tokens.map Token.blank ∧
        command.tokens.filterMap Token.identifier? = command.names ∧
        command.tokens.filterMap Token.literal? = command.texts) ∧
      (∀ left right : Command, left.IsValid → right.IsValid →
        left.statement.text = right.statement.text → left.spelled = right.spelled) ∧
      ∀ query : Query,
        List.zipWith Parameter.received query.casts query.parameters =
          query.arguments.map some := by
  refine ⟨?_, ?_, Query.received_eq_arguments⟩
  · intro command
    rw [command.text_statement]
    exact ⟨command.tokens?_text, command.blanks_tokens, command.identifiers_tokens,
      command.literals_tokens⟩
  · intro left right leftValid rightValid same
    rw [left.text_statement, right.text_statement] at same
    have read : some left.tokens = some right.tokens := by
      rw [← left.tokens?_text, same, right.tokens?_text]
    exact Command.spelled_eq_of_tokens_eq leftValid rightValid (Option.some.inj read)

theorem names_and_texts_are_kept_in_comment :
    Lexer.tokens?
        (Command.commentOnRole (String.ofList ['a', '"', 'b']) (some "'; drop")).statement.text =
      some
        [.word "COMMENT", .word "ON", .word "ROLE", .identifier (String.ofList ['a', '"', 'b']),
          .word "IS", .literal "'; drop"] :=
  (names_and_texts_are_kept.1 _).1

end CatalogSteward.Sql
