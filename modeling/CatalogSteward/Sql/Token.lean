/-!
# Statement tokens

Statements are spelled from phrases of tokens. Identifiers stand in double
quotes and literals in single quotes; inside them the quote is written twice,
and with standard conforming strings no other character has a meaning of its
own.
-/

set_option autoImplicit false

namespace CatalogSteward.Sql

/-- Every occurrence of the mark twice, and every other character once. -/
def double (mark : Char) : List Char → List Char
  | [] => []
  | character :: rest =>
      if character = mark then mark :: mark :: double mark rest
      else character :: double mark rest

def quote (mark : Char) (characters : List Char) : List Char :=
  mark :: (double mark characters ++ [mark])

def quoteIdentifier (name : String) : String :=
  String.ofList (quote '"' name.toList)

def quoteLiteral (value : String) : String :=
  String.ofList (quote '\'' value.toList)

inductive Token where
  | word (text : String)
  | identifier (name : String)
  | literal (value : String)
  | integer (value : Int)
  | comma
  | dot
  deriving DecidableEq, Repr

/-- The text of a token; a comma brings the space after it. -/
def Token.text : Token → String
  | .word text => text
  | .identifier name => quoteIdentifier name
  | .literal value => quoteLiteral value
  | .integer value => toString value
  | .comma => ", "
  | .dot => "."

/-- Tokens that are written without spaces between them. -/
abbrev Phrase := List Token

def phraseText (phrase : Phrase) : String :=
  String.join (phrase.map Token.text)

def spell (phrases : List Phrase) : String :=
  " ".intercalate (phrases.map phraseText)

def words (texts : List String) : List Phrase :=
  texts.map fun text => [.word text]

def commaSeparated : List Token → Phrase
  | [] => []
  | [token] => [token]
  | token :: rest => token :: .comma :: commaSeparated rest

def commaJoined : List Phrase → Phrase
  | [] => []
  | [phrase] => phrase
  | phrase :: rest => phrase ++ .comma :: commaJoined rest

def identifierList (names : List String) : Phrase :=
  commaSeparated (names.map .identifier)

def qualified (schema name : String) : Phrase :=
  [.identifier schema, .dot, .identifier name]

end CatalogSteward.Sql
