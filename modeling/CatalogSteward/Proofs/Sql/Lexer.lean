import CatalogSteward.Sql.Token

/-!
# Reading statements

A reader of statements as the server reads them: a name stands in double quotes
and a text in single ones, a doubled quote in them is one quote of the name or
the text, and nothing else in them has a meaning. Outside quotes there are words,
whole numbers, commas, dots and spaces. Everything else that the server could
find there, comments, line breaks, dollar quotes and words that reach up to a
quote, is refused, so that a text that is read here is read in the same way by
the server.
-/

set_option autoImplicit false

namespace CatalogSteward.Sql

namespace Lexer

/-- Where in a text the reader is, with what it read of the token that it is in. -/
inductive Place where
  | between
  | word (read : List Char)
  | sign
  | number (negative : Bool) (read : List Char)
  | quoted (mark : Char) (read : List Char)
  | closing (mark : Char) (read : List Char)
  deriving DecidableEq, Repr

def isWordCharacter (character : Char) : Bool :=
  character.isAlpha || character == '_'

def endsWord (character : Char) : Bool :=
  character == ' ' || character == ','

def endsQuoted (character : Char) : Bool :=
  endsWord character || character == '.'

def quotedToken (mark : Char) (read : List Char) : Token :=
  if mark = '"' then .identifier (String.ofList read) else .literal (String.ofList read)

def numberToken (negative : Bool) (read : List Char) : Token :=
  let number := Nat.ofDigitChars 10 read 0
  .integer (if negative then -number else number)

/-- The tokens that a character ends, and the place after it, between two tokens. -/
def start (character : Char) : Option (List Token × Place) :=
  if character = ' ' then some ([], .between)
  else if character = ',' then some ([.comma], .between)
  else if character = '.' then some ([.dot], .between)
  else if character = '"' || character = '\'' then some ([], .quoted character [])
  else if character = '-' then some ([], .sign)
  else if character.isDigit then some ([], .number false [character])
  else if isWordCharacter character then some ([], .word [character])
  else none

def endToken (token : Token) (character : Char) : Option (List Token × Place) :=
  (start character).map fun next => (token :: next.1, next.2)

def step (place : Place) (character : Char) : Option (List Token × Place) :=
  match place with
  | .between => start character
  | .word read =>
      if isWordCharacter character then some ([], .word (read ++ [character]))
      else if endsWord character then endToken (.word (String.ofList read)) character
      else none
  | .sign => if character.isDigit then some ([], .number true [character]) else none
  | .number negative read =>
      if character.isDigit then some ([], .number negative (read ++ [character]))
      else if endsWord character then endToken (numberToken negative read) character
      else none
  | .quoted mark read =>
      if character = mark then some ([], .closing mark read)
      else some ([], .quoted mark (read ++ [character]))
  | .closing mark read =>
      if character = mark then some ([], .quoted mark (read ++ [mark]))
      else if endsQuoted character then endToken (quotedToken mark read) character
      else none

def finish : Place → Option (List Token)
  | .between => some []
  | .word read => some [.word (String.ofList read)]
  | .sign => none
  | .number negative read => some [numberToken negative read]
  | .quoted _ _ => none
  | .closing mark read => some [quotedToken mark read]

def tokensFrom (place : Place) : List Char → Option (List Token)
  | [] => finish place
  | character :: rest =>
      (step place character).bind fun next =>
        (tokensFrom next.2 rest).map fun tokens => next.1 ++ tokens

/-- The tokens of a text, where all of it can be read. -/
def tokens? (text : String) : Option (List Token) :=
  tokensFrom .between text.toList

end Lexer

/-! ## Tokens one by one -/

namespace Lexer

variable {rest : List Char}

/-- Where a token is ended by what follows, reading goes on behind it. -/
theorem tokensFrom_of_step {place : Place} {token : Token}
    (ended : finish place = some [token])
    (followed : ∀ character, rest.head? = some character →
      step place character = endToken token character) :
    tokensFrom place rest = (tokensFrom .between rest).map fun tokens => token :: tokens := by
  cases rest with
  | nil =>
      rw [tokensFrom, ended]
      rfl
  | cons character rest =>
      rw [tokensFrom, followed character rfl, endToken, tokensFrom, Option.bind_map,
        Option.map_bind]
      simp only [step, Function.comp_def, Option.map_map, List.cons_append]

theorem start_of_digit {character : Char} (digit : character.isDigit = true) :
    start character = some ([], .number false [character]) := by
  have apart : ∀ other : Char, other.isDigit = false → character ≠ other := by
    intro other notDigit same
    rw [same, notDigit] at digit
    exact Bool.false_ne_true digit
  simp only [start, apart ' ' rfl, apart ',' rfl, apart '.' rfl, apart '"' rfl, apart '\'' rfl,
    apart '-' rfl, digit, ↓reduceIte, decide_false, Bool.or_self, Bool.false_eq_true]

theorem isDigit_of_wordCharacter {character : Char} (letter : isWordCharacter character = true) :
    character.isDigit = false := by
  rw [isWordCharacter, Bool.or_eq_true, beq_iff_eq] at letter
  rcases letter with letter | underscore
  · have upperOrLower :
        (decide ('A'.val ≤ character.val ∧ character.val ≤ 'Z'.val) ||
          (decide ('a'.val ≤ character.val) && decide (character.val ≤ 'z'.val))) = true := letter
    simp only [Bool.or_eq_true, Bool.and_eq_true, decide_eq_true_eq] at upperOrLower
    simp only [Char.isDigit, Bool.and_eq_false_iff, decide_eq_false_iff_not]
    grind
  · rw [underscore]
    rfl

theorem start_of_wordCharacter {character : Char} (letter : isWordCharacter character = true) :
    start character = some ([], .word [character]) := by
  have apart : ∀ other : Char, isWordCharacter other = false → character ≠ other := by
    intro other notLetter same
    rw [same, notLetter] at letter
    exact Bool.false_ne_true letter
  simp only [start, apart ' ' rfl, apart ',' rfl, apart '.' rfl, apart '"' rfl, apart '\'' rfl,
    apart '-' rfl, isDigit_of_wordCharacter letter, letter, ↓reduceIte, decide_false,
    Bool.or_self, Bool.false_eq_true]

/-- Characters that end nothing are kept in the place, one after the other. -/
theorem tokensFrom_of_stay {place : List Char → Place} {read characters : List Char}
    (stays : ∀ read, ∀ character ∈ characters,
      step (place read) character = some ([], place (read ++ [character]))) :
    tokensFrom (place read) (characters ++ rest) =
      tokensFrom (place (read ++ characters)) rest := by
  induction characters generalizing read with
  | nil => rw [List.nil_append, List.append_nil]
  | cons character characters ih =>
      have first := stays read character List.mem_cons_self
      rw [List.cons_append, tokensFrom, first, Option.bind_some,
        ih fun read other member => stays read other (List.mem_cons_of_mem _ member)]
      simp only [List.nil_append, Option.map_id', List.append_assoc, List.cons_append]

theorem tokensFrom_word {read letters : List Char}
    (letter : ∀ character ∈ letters, isWordCharacter character = true) :
    tokensFrom (.word read) (letters ++ rest) = tokensFrom (.word (read ++ letters)) rest := by
  apply tokensFrom_of_stay
  intro read character member
  rw [step, if_pos (letter character member)]

theorem tokensFrom_number {negative : Bool} {read digits : List Char}
    (digit : ∀ character ∈ digits, character.isDigit = true) :
    tokensFrom (.number negative read) (digits ++ rest) =
      tokensFrom (.number negative (read ++ digits)) rest := by
  apply tokensFrom_of_stay
  intro read character member
  rw [step, if_pos (digit character member)]

/-- Between its marks a text is read to its end, whatever it holds: a mark in it is doubled, and
the first that is not doubled closes it. -/
theorem tokensFrom_quoted {mark : Char} {read text : List Char} :
    tokensFrom (.quoted mark read) (double mark text ++ mark :: rest) =
      tokensFrom (.closing mark (read ++ text)) rest := by
  induction text generalizing read with
  | nil => simp only [double, List.nil_append, tokensFrom, step, ↓reduceIte, Option.bind_some,
      Option.map_id', List.append_nil]
  | cons character text ih =>
      by_cases same : character = mark
      · subst same
        simp only [double, ↓reduceIte, List.cons_append, tokensFrom, step, Option.bind_some,
          List.nil_append, Option.map_id', ih, List.append_assoc]
      · simp only [double, same, ↓reduceIte, List.cons_append, tokensFrom, step,
          Option.bind_some, List.nil_append, Option.map_id', ih, List.append_assoc]

/-- What follows a word or a number: nothing, or a character that ends it. -/
def WordEnds (rest : List Char) : Prop :=
  ∀ character, rest.head? = some character → endsWord character = true

/-- What follows a name or a text: nothing, or a character that ends it. -/
def QuotedEnds (rest : List Char) : Prop :=
  ∀ character, rest.head? = some character → endsQuoted character = true

theorem WordEnds.quotedEnds (ends : WordEnds rest) : QuotedEnds rest := by
  intro character first
  rw [endsQuoted, ends character first]
  rfl

theorem eq_of_endsWord {character : Char} (ends : endsWord character = true) :
    character = ' ' ∨ character = ',' := by
  simpa only [endsWord, Bool.or_eq_true, beq_iff_eq] using ends

theorem eq_of_endsQuoted {character : Char} (ends : endsQuoted character = true) :
    character = ' ' ∨ character = ',' ∨ character = '.' := by
  simpa only [endsQuoted, endsWord, Bool.or_eq_true, beq_iff_eq, or_assoc] using ends

/-- A token that stands for itself: a word has letters and nothing else, and the marks between
tokens are none. -/
def IsSolid : Token → Prop
  | .word text => text.toList ≠ [] ∧ ∀ character ∈ text.toList, isWordCharacter character = true
  | .identifier _ => True
  | .literal _ => True
  | .integer _ => True
  | .comma => False
  | .dot => False

theorem tokensFrom_word_text {text : String} (solid : IsSolid (.word text))
    (ends : WordEnds rest) :
    tokensFrom .between (text.toList ++ rest) =
      (tokensFrom .between rest).map fun tokens => .word text :: tokens := by
  obtain ⟨nonempty, letters⟩ := solid
  cases spelled : text.toList with
  | nil => exact absurd spelled nonempty
  | cons first others =>
      rw [spelled] at letters
      obtain ⟨letter, letters⟩ := List.forall_mem_cons.mp letters
      have whole : String.ofList (first :: others) = text := by
        rw [← spelled, String.ofList_toList]
      rw [List.cons_append, tokensFrom, step, start_of_wordCharacter letter, Option.bind_some]
      simp only [List.nil_append, Option.map_id', tokensFrom_word letters, List.singleton_append]
      apply tokensFrom_of_step
      · rw [finish, whole]
      · intro character follows
        rcases eq_of_endsWord (ends character follows) with rfl | rfl
        · rw [← whole]
          rfl
        · rw [← whole]
          rfl

theorem tokensFrom_digits {negative : Bool} {number : Nat} {first : Char} {others : List Char}
    (spelled : Nat.toDigits 10 number = first :: others) (ends : WordEnds rest) :
    tokensFrom (.number negative [first]) (others ++ rest) =
      (tokensFrom .between rest).map fun tokens =>
        .integer (if negative then -number else number) :: tokens := by
  have digits : ∀ character ∈ others, character.isDigit = true := by
    intro character member
    have among : character ∈ Nat.toDigits 10 number := by
      rw [spelled]
      exact List.mem_cons_of_mem _ member
    exact Nat.isDigit_of_mem_toDigits (by decide) (by decide) among
  have whole : numberToken negative (first :: others) =
      .integer (if negative then -number else number) := by
    simp only [numberToken, ← spelled, Nat.ofDigitChars_toDigits (by decide : 1 < 10) (by decide)]
  rw [tokensFrom_number digits, List.singleton_append]
  apply tokensFrom_of_step
  · rw [finish, whole]
  · intro character follows
    rcases eq_of_endsWord (ends character follows) with rfl | rfl
    · rw [← whole]
      rfl
    · rw [← whole]
      rfl

/-- A quoted name or text is read as one token that holds exactly that name or text. -/
theorem tokensFrom_quote {mark : Char} {text : List Char} (isMark : mark = '"' ∨ mark = '\'')
    (ends : QuotedEnds rest) :
    tokensFrom .between (quote mark text ++ rest) =
      (tokensFrom .between rest).map fun tokens => quotedToken mark text :: tokens := by
  have opened : start mark = some ([], .quoted mark []) := by
    rcases isMark with rfl | rfl
    · rfl
    · rfl
  rw [quote, List.cons_append, tokensFrom, step, opened, Option.bind_some, List.append_assoc,
    List.singleton_append, tokensFrom_quoted]
  simp only [List.nil_append, Option.map_id']
  apply tokensFrom_of_step
  · rfl
  · intro character follows
    rcases isMark with rfl | rfl
    · rcases eq_of_endsQuoted (ends character follows) with rfl | rfl | rfl
      · rfl
      · rfl
      · rfl
    · rcases eq_of_endsQuoted (ends character follows) with rfl | rfl | rfl
      · rfl
      · rfl
      · rfl

theorem tokensFrom_integer {value : Int} (ends : WordEnds rest) :
    tokensFrom .between ((toString value).toList ++ rest) =
      (tokensFrom .between rest).map fun tokens => .integer value :: tokens := by
  have digitsOf : ∀ number : Nat, ∃ first others,
      Nat.toDigits 10 number = first :: others ∧ first.isDigit = true := by
    intro number
    cases spelled : Nat.toDigits 10 number with
    | nil => exact absurd spelled Nat.toDigits_ne_nil
    | cons first others =>
        have among : first ∈ Nat.toDigits 10 number := by
          rw [spelled]
          exact List.mem_cons_self
        exact ⟨first, others, rfl, Nat.isDigit_of_mem_toDigits (by decide) (by decide) among⟩
  rw [Int.toString_eq_repr, Int.repr_eq_if]
  split
  · next nonnegative =>
      obtain ⟨first, others, spelled, digit⟩ := digitsOf value.toNat
      have same : (value.toNat : Int) = value := Int.toNat_of_nonneg nonnegative
      rw [Nat.toList_repr, spelled, List.cons_append, tokensFrom, step, start_of_digit digit,
        Option.bind_some]
      simp only [List.nil_append, Option.map_id', tokensFrom_digits spelled ends,
        Bool.false_eq_true, ↓reduceIte, same]
  · next negative =>
      obtain ⟨first, others, spelled, digit⟩ := digitsOf (-value).toNat
      have same : -((-value).toNat : Int) = value := by omega
      have sign : start '-' = some ([], .sign) := rfl
      have minus : "-".toList = ['-'] := rfl
      rw [String.toList_append, minus, Nat.toList_repr, spelled, List.append_assoc,
        List.singleton_append, tokensFrom, step, sign, Option.bind_some, List.cons_append,
        tokensFrom, step, if_pos digit, Option.bind_some]
      simp only [List.nil_append, Option.map_id', tokensFrom_digits spelled ends, ↓reduceIte,
        same]

/-- A token that is spelled is read as that token, where a space, a comma or nothing follows. -/
theorem tokensFrom_token {token : Token} (solid : IsSolid token) (ends : WordEnds rest) :
    tokensFrom .between (token.text.toList ++ rest) =
      (tokensFrom .between rest).map fun tokens => token :: tokens := by
  cases token with
  | word text => exact tokensFrom_word_text solid ends
  | identifier name =>
      rw [Token.text, quoteIdentifier, String.toList_ofList,
        tokensFrom_quote (.inl rfl) ends.quotedEnds, quotedToken, if_pos rfl,
        String.ofList_toList]
  | literal value =>
      rw [Token.text, quoteLiteral, String.toList_ofList,
        tokensFrom_quote (.inr rfl) ends.quotedEnds, quotedToken, if_neg (by decide),
        String.ofList_toList]
  | integer value => exact tokensFrom_integer ends
  | comma => exact absurd solid not_false
  | dot => exact absurd solid not_false

theorem tokensFrom_space : tokensFrom .between (' ' :: rest) = tokensFrom .between rest := by
  have skipped : start ' ' = some ([], .between) := rfl
  rw [tokensFrom, step, skipped, Option.bind_some]
  simp only [List.nil_append, Option.map_id']

theorem tokensFrom_comma :
    tokensFrom .between (Token.comma.text.toList ++ rest) =
      (tokensFrom .between rest).map fun tokens => .comma :: tokens := by
  have spelled : Token.comma.text.toList = [',', ' '] := rfl
  have ended : start ',' = some ([.comma], .between) := rfl
  rw [spelled, List.cons_append, List.singleton_append, tokensFrom, step, ended,
    Option.bind_some, tokensFrom_space]
  rfl

theorem tokensFrom_dot :
    tokensFrom .between (Token.dot.text.toList ++ rest) =
      (tokensFrom .between rest).map fun tokens => .dot :: tokens := by
  have spelled : Token.dot.text.toList = ['.'] := rfl
  have ended : start '.' = some ([.dot], .between) := rfl
  rw [spelled, List.singleton_append, tokensFrom, step, ended, Option.bind_some]
  rfl

/-! ## Phrases and statements -/

def Reads (phrase : Phrase) : Prop :=
  ∀ rest : List Char, (∀ character, rest.head? = some character → character = ' ') →
    tokensFrom .between ((phraseText phrase).toList ++ rest) =
      (tokensFrom .between rest).map fun tokens => phrase ++ tokens

theorem wordEnds_of_space {text : List Char}
    (space : ∀ character, text.head? = some character → character = ' ') : WordEnds text := by
  intro character first
  rw [space character first]
  rfl

theorem phraseText_cons {token : Token} {phrase : Phrase} :
    (phraseText (token :: phrase)).toList = token.text.toList ++ (phraseText phrase).toList := by
  rw [phraseText, List.map_cons, String.join_cons, String.toList_append, phraseText]

theorem reads_nil : Reads [] := by
  intro rest _
  simp only [phraseText, List.map_nil, String.join_nil, String.toList_empty, List.nil_append,
    Option.map_id']

theorem reads_singleton {token : Token} (solid : IsSolid token) : Reads [token] := by
  intro rest space
  rw [phraseText_cons, List.append_assoc, phraseText, List.map_nil, String.join_nil,
    String.toList_empty, List.nil_append, tokensFrom_token solid (wordEnds_of_space space)]
  rfl

theorem reads_commaSeparated {tokens : List Token} (solid : ∀ token ∈ tokens, IsSolid token) :
    Reads (commaSeparated tokens) := by
  induction tokens with
  | nil => exact reads_nil
  | cons first others ih =>
      obtain ⟨solidFirst, solidOthers⟩ := List.forall_mem_cons.mp solid
      cases others with
      | nil => exact reads_singleton solidFirst
      | cons second others =>
          intro rest space
          have shape : commaSeparated (first :: second :: others) =
              first :: .comma :: commaSeparated (second :: others) := rfl
          have ends : ∀ text : List Char, WordEnds (Token.comma.text.toList ++ text) := by
            intro text character head
            cases head
            rfl
          rw [shape, phraseText_cons, phraseText_cons, List.append_assoc, List.append_assoc,
            tokensFrom_token solidFirst (ends _), tokensFrom_comma, ih solidOthers rest space,
            Option.map_map, Option.map_map]
          rfl

theorem reads_qualified {schema name : String} : Reads (qualified schema name) := by
  intro rest space
  have dotEnds : ∀ text : List Char, QuotedEnds (Token.dot.text.toList ++ text) := by
    intro text character head
    cases head
    rfl
  have solid : IsSolid (.identifier name) := trivial
  rw [qualified, phraseText_cons, phraseText_cons, List.append_assoc, List.append_assoc,
    Token.text, quoteIdentifier, String.toList_ofList, tokensFrom_quote (.inl rfl) (dotEnds _),
    tokensFrom_dot, reads_singleton solid rest space, quotedToken, if_pos rfl,
    String.ofList_toList, Option.map_map, Option.map_map]
  rfl

theorem tokens?_spell {phrases : List Phrase} (reads : ∀ phrase ∈ phrases, Reads phrase) :
    tokens? (spell phrases) = some phrases.flatten := by
  rw [tokens?, spell]
  induction phrases with
  | nil => rfl
  | cons phrase others ih =>
      obtain ⟨first, rest⟩ := List.forall_mem_cons.mp reads
      cases others with
      | nil =>
          have alone := first [] (fun _ none => nomatch none)
          rw [List.append_nil] at alone
          rw [List.map_singleton, String.intercalate_singleton, alone]
          rfl
      | cons second others =>
          have space : ∀ text : List Char, ∀ character,
              (' ' :: text).head? = some character → character = ' ' := by
            intro text character head
            cases head
            rfl
          have blank : " ".toList = [' '] := rfl
          rw [List.map_cons, List.map_cons, String.intercalate_cons_cons, ← List.map_cons,
            String.toList_append, String.toList_append, blank, List.append_assoc,
            List.singleton_append, first _ (space _), tokensFrom_space, ih rest]
          rfl

end Lexer

end CatalogSteward.Sql
