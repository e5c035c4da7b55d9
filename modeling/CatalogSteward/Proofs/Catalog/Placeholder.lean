import CatalogSteward.Catalog.Query
import CatalogSteward.Proofs.Sql.Lexer
import Mathlib.Data.List.Forall2

/-!
# Places of parameters

Where the text of a query has its parameters, and which of them it casts to a
role or a schema. The places in a line are those in its parts, and a literal has
none, whatever it says.
-/

set_option autoImplicit false

namespace CatalogSteward

open Sql

/-- A place in the text of a query: the number of the parameter that stands there, and whether it
is cast to a role or a schema. -/
structure Placeholder where
  number : Nat
  isCast : Bool
  deriving DecidableEq, Repr

namespace Placeholder

/-- The casts that read their text as a name. -/
def nameCasts : List (List Char) :=
  ["::regrole".toList, "::regnamespace".toList]

/-- A character of a cast, or of several casts in a row. -/
def isCastCharacter (character : Char) : Bool :=
  character.isAlpha || character == ':' || character == '[' || character == ']'

/-- The place that a dollar sign begins, with what stands behind the sign: a number and the casts,
of which the last one counts. -/
def read (behind : List Char) : Placeholder where
  number := Nat.ofDigitChars 10 (behind.takeWhile Char.isDigit) 0
  isCast := nameCasts.any fun cast =>
    cast.isSuffixOf ((behind.dropWhile Char.isDigit).takeWhile isCastCharacter)

/-- The mark of the quotes that are open behind a character. A doubled mark closes them and opens
them again. -/
def quotedAfter (quoted : Option Char) (character : Char) : Option Char :=
  match quoted with
  | some mark => if character = mark then none else some mark
  | none => if character = '"' || character = '\'' then some character else none

def readFrom (quoted : Option Char) : List Char → List Placeholder
  | [] => []
  | character :: rest =>
      let later := readFrom (quotedAfter quoted character) rest
      if quoted = none ∧ character = '$' then read rest :: later else later

/-- The places in a text, from left to right. What is quoted has none. -/
def placesIn (text : String) : List Placeholder :=
  readFrom none text.toList

/-- A text has the given places, whether it ends a query or a blank follows. -/
def Holds (text : String) (places : List Placeholder) : Prop :=
  ∀ rest : List Char, (∀ character, rest.head? = some character → character = ' ') →
    readFrom none (text.toList ++ rest) = places ++ readFrom none rest

/-! ## Parts of a text -/

variable {quoted : Option Char} {characters rest : List Char} {places : List Placeholder}

theorem Holds.placesIn_eq {text : String} (held : Holds text places) : placesIn text = places := by
  have whole := held [] nofun
  rwa [List.append_nil, readFrom, List.append_nil] at whole

theorem takeWhile_append_space {keeps : Char → Bool} (stops : keeps ' ' = false) :
    (characters ++ ' ' :: rest).takeWhile keeps = characters.takeWhile keeps := by
  rw [List.takeWhile_append]
  split
  · next whole =>
      rw [List.takeWhile_cons_of_neg (by rw [stops]; exact Bool.false_ne_true), List.append_nil]
      exact ((List.takeWhile_prefix keeps).eq_of_length whole).symm
  · rfl

theorem read_append_space : read (characters ++ ' ' :: rest) = read characters := by
  rw [read, read, takeWhile_append_space rfl, List.dropWhile_append]
  split
  · next none =>
      rw [List.isEmpty_iff.mp none, List.dropWhile_cons_of_neg (by decide),
        List.takeWhile_cons_of_neg (by decide)]
      rfl
  · rw [takeWhile_append_space rfl]

/-- A blank ends every place before it. -/
theorem readFrom_append_space :
    readFrom quoted (characters ++ ' ' :: rest) =
      readFrom quoted characters ++
        readFrom (characters.foldl quotedAfter quoted) (' ' :: rest) := by
  induction characters generalizing quoted with
  | nil => rfl
  | cons character characters ih =>
      rw [List.cons_append, readFrom, readFrom, ih, read_append_space, List.foldl_cons]
      split
      · rfl
      · rfl

/-- A text with closed quotes has the places that are read in it alone. -/
theorem holds_ofList (found : readFrom none characters = places)
    (closed : characters.foldl quotedAfter none = none) :
    Holds (String.ofList characters) places := by
  intro rest space
  rw [String.toList_ofList]
  cases rest with
  | nil => rw [List.append_nil, found, readFrom, List.append_nil]
  | cons character rest =>
      cases space character rfl
      rw [readFrom_append_space, found, closed]

-- A text that is written out is `String.ofList` of its characters to the unifier, so that the next
-- two apply to it and nothing has to decode it.

theorem holds_none (found : readFrom none characters = [])
    (closed : characters.foldl quotedAfter none = none) : Holds (String.ofList characters) [] :=
  holds_ofList found closed

theorem holds_one (place : Placeholder) (found : readFrom none characters = [place])
    (closed : characters.foldl quotedAfter none = none) :
    Holds (String.ofList characters) [place] :=
  holds_ofList found closed

/-! A number in a literal is no place. -/

example : placesIn "where d.datname = '$1' and a.grantee = $2::text::regrole" = [⟨2, true⟩] :=
  (holds_one ⟨2, true⟩ rfl rfl).placesIn_eq

theorem readFrom_double {text : List Char} :
    readFrom (some '\'') (double '\'' text ++ '\'' :: rest) = readFrom none rest := by
  induction text with
  | nil => rfl
  | cons character text ih =>
      rw [double]
      split
      · next same =>
          rw [← ih]
          rfl
      · next different =>
          have kept : quotedAfter (some '\'') character = some '\'' := if_neg different
          rw [List.cons_append, readFrom, kept, ih]
          exact if_neg fun both => Option.some_ne_none _ both.1

/-- What a literal says has no places, whatever it says. -/
theorem readFrom_literal {value : String} :
    readFrom none ((quoteLiteral value).toList ++ rest) = readFrom none rest := by
  rw [quoteLiteral, String.toList_ofList, quote, List.cons_append, List.append_assoc]
  exact readFrom_double

theorem holds_quoteLiteral {value : String} : Holds (quoteLiteral value) [] :=
  fun _ _ => readFrom_literal

theorem readFrom_literals {values : List String} :
    readFrom none ((phraseText (commaSeparated (values.map .literal))).toList ++ rest) =
      readFrom none rest := by
  induction values with
  | nil => rfl
  | cons first others ih =>
      cases others with
      | nil =>
          have nothing : (phraseText []).toList = [] := rfl
          rw [List.map_cons, List.map_nil, commaSeparated, Lexer.phraseText_cons, nothing,
            List.append_nil, Token.text, readFrom_literal]
      | cons second others =>
          have shape : commaSeparated ((first :: second :: others).map .literal) =
              .literal first :: .comma :: commaSeparated ((second :: others).map .literal) := rfl
          have comma : ∀ rest, readFrom none (Token.comma.text.toList ++ rest) =
              readFrom none rest := fun _ => rfl
          rw [shape, Lexer.phraseText_cons, Lexer.phraseText_cons, List.append_assoc,
            List.append_assoc, Token.text, readFrom_literal, comma, ih]

theorem holds_literalList {values : List String} : Holds (Query.literalList values) [] := by
  intro rest _
  have opening : ∀ rest, readFrom none ("(".toList ++ rest) = readFrom none rest := fun _ => rfl
  have closing : ∀ rest, readFrom none (")".toList ++ rest) = readFrom none rest := fun _ => rfl
  rw [Query.literalList, String.toList_append, String.toList_append, List.append_assoc,
    List.append_assoc, opening, readFrom_literals, closing, List.nil_append]

theorem Holds.append_space {left right : String} {others : List Placeholder}
    (first : Holds left places) (second : Holds right others) :
    Holds (left ++ " " ++ right) (places ++ others) := by
  intro rest space
  have blank : " ".toList = [' '] := rfl
  have passed : readFrom none (' ' :: (right.toList ++ rest)) =
      readFrom none (right.toList ++ rest) := rfl
  have follows : ∀ character, (' ' :: (right.toList ++ rest)).head? = some character →
      character = ' ' := fun _ same => (Option.some.inj same).symm
  rw [String.toList_append, String.toList_append, blank, List.append_assoc, List.append_assoc,
    List.singleton_append, first _ follows, passed, second rest space, List.append_assoc]

/-- The places in a line are those in its parts. -/
theorem holds_line {parts : List String} {pieces : List (List Placeholder)}
    (held : List.Forall₂ Holds parts pieces) (whole : pieces.flatten = places) :
    Holds (Query.line parts) places := by
  subst whole
  induction held with
  | nil => exact holds_ofList rfl rfl
  | @cons part piece parts pieces first others ih =>
      cases others with
      | nil =>
          rw [Query.line, String.intercalate_singleton, List.flatten_singleton]
          exact first
      | cons second others =>
          rw [Query.line, String.intercalate_cons_cons, List.flatten_cons]
          exact first.append_space ih

end Placeholder

end CatalogSteward
