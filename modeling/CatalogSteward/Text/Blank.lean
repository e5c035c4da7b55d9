/-!
# Blank text

The characters with the Unicode property `White_Space`, trimming by them, and
the test for text that holds nothing else. Names, schemas and expiry texts
that are blank in this sense count as not given.
-/

set_option autoImplicit false

namespace CatalogSteward.Text

/-- The characters with the Unicode property `White_Space`. -/
def isSpace (character : Char) : Bool :=
  let code := character.toNat
  (0x09 ≤ code && code ≤ 0x0D) || code == 0x20 || code == 0x85 || code == 0xA0 ||
    code == 0x1680 || (0x2000 ≤ code && code ≤ 0x200A) || code == 0x2028 ||
    code == 0x2029 || code == 0x202F || code == 0x205F || code == 0x3000

/-- A list of characters without the leading and trailing ones that satisfy `drop`. -/
def trimBy (drop : Char → Bool) (characters : List Char) : List Char :=
  ((characters.dropWhile drop).reverse.dropWhile drop).reverse

/-- The text without leading and trailing white space. -/
def trim (text : String) : String :=
  String.ofList (trimBy isSpace text.toList)

/-- Text that holds white space only, the empty text included. -/
def isBlank (text : String) : Bool :=
  text.toList.all isSpace

def nonBlank? (text : Option String) : Option String :=
  text.filter fun given => !isBlank given

end CatalogSteward.Text
