import CatalogSteward.Decimal.Unsigned
import CatalogSteward.Text.Blank

/-!
# Server versions

The server numbers its versions with four digits after the major one.
-/

set_option autoImplicit false

namespace CatalogSteward

def majorVersion? (number : String) : Option Nat :=
  (Decimal.unsigned? Decimal.greatest32 (Text.trimBy Text.isSpace number.toList)).map (· / 10000)

end CatalogSteward
