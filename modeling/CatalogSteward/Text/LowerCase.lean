import CatalogSteward.Text.LowerCaseTable

/-!
# Lower case

The full mapping to lower case. A capital sigma has two: the final one at the
end of a word, where characters that are not letters of a case but may stand
inside words are passed over on both sides.
-/

set_option autoImplicit false

namespace CatalogSteward.Text

def charactersOf (codes : List Nat) : List Char :=
  codes.map Char.ofNat

def lowerCharacter (character : Char) : List Char :=
  match CodeTable.find? lowerCases character.toNat with
  | some codes => charactersOf codes
  | none => [character]

/-- Whether the first character that counts is a letter of a case. -/
def beginsCased (characters : List Char) : Bool :=
  match characters.dropWhile (CodeTable.contains caseIgnorables) with
  | [] => false
  | character :: _ => CodeTable.contains casedCharacters character

def lowerAfter (before : List Char) : List Char → List Char
  | [] => []
  | character :: rest =>
      let lowered :=
        if character = 'Σ' then
          if beginsCased before && !beginsCased rest then ['ς'] else ['σ']
        else
          lowerCharacter character
      lowered ++ lowerAfter (character :: before) rest

def lowerCase (text : String) : String :=
  String.ofList (lowerAfter [] text.toList)

end CatalogSteward.Text
