import CatalogSteward.Text.Normalization
import CatalogSteward.Text.PreparationTable

/-!
# Prepared passwords

RFC 4013: spaces become the plain space, characters without a look of their
own are dropped, and what is left is normalized. A text that then holds a
prohibited or unassigned character, or that mixes directions, has no prepared
form.
-/

set_option autoImplicit false

namespace CatalogSteward.Text

/-- Whether the character is in ASCII and not a control character. -/
def isPlain (character : Char) : Bool :=
  0x20 ≤ character.toNat && character.toNat < 0x7F

/-- Whether the directions are mixed: a text with a character from right to left must begin
and end with one, and hold none from left to right. -/
def mixesDirections (characters : List Char) : Bool :=
  let isRight := CodeTable.contains rightToLeft
  characters.any isRight &&
    (characters.any (CodeTable.contains leftToRight) ||
      !(characters.head?.any isRight && characters.getLast?.any isRight))

/-- The characters after mapping: every space is the plain one, and some are gone. -/
def mapCharacters (characters : List Char) : List Char :=
  (characters.map fun character =>
    if CodeTable.contains otherSpaces character then ' ' else character).filter
      fun character => !CodeTable.contains mappedToNothing character

def prepare? (text : String) : Option String :=
  if text.toList.all isPlain then some text
  else
    let prepared := normalize (mapCharacters text.toList)
    let refused := prepared.any fun character =>
      CodeTable.contains prohibited character || CodeTable.contains unassigned character
    if refused || mixesDirections prepared then none
    else some (String.ofList prepared)

/-- The prepared form of a password, or the password itself where it has none. -/
def preparedPassword (password : String) : String :=
  (prepare? password).getD password

end CatalogSteward.Text
