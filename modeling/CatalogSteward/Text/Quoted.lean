import CatalogSteward.Text.UnprintableTable

/-!
# Quoted text

A text between double quotes with everything in it visible: quotes and
backslashes are escaped, and characters that are not shown are spelled by
their code.
-/

set_option autoImplicit false

namespace CatalogSteward.Text

def codeEscape (character : Char) : String :=
  "\\u\x7b" ++ String.ofList (Nat.toDigits 16 character.toNat) ++ "\x7d"

def quotedCharacter (character : Char) : String :=
  match character with
  | '\x00' => "\\0"
  | '\t' => "\\t"
  | '\n' => "\\n"
  | '\r' => "\\r"
  | '"' => "\\\""
  | '\\' => "\\\\"
  | _ =>
      if CodeTable.contains unprintable character then codeEscape character
      else character.toString

def quoted (text : String) : String :=
  "\"" ++ String.join (text.toList.map quotedCharacter) ++ "\""

end CatalogSteward.Text
