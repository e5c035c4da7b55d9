import CatalogSteward.Bytes.Base64
import CatalogSteward.Bytes.Hex
import CatalogSteward.Decimal.Unsigned
import CatalogSteward.Digest.Hmac
import CatalogSteward.Digest.Md5
import CatalogSteward.Text.Blank
import CatalogSteward.Text.Preparation
import CatalogSteward.Text.Split

/-!
# Password verifiers

What the server stores of a password: a salted key that a number of iterations
derived, or the digest of password and role name. A password is compared with
what is stored, so that it is set again only when it changed.
-/

set_option autoImplicit false

namespace CatalogSteward

open Digest

inductive Verifier where
  | scram (iterations : Nat) (salt storedKey : List UInt8)
  | md5 (digest : List UInt8)
  deriving DecidableEq, Repr

def utf8Bytes (text : String) : List UInt8 :=
  text.toUTF8.toList

namespace Verifier

def scramPrefix : List Char := "SCRAM-SHA-256$".toList

def md5Prefix : List Char := "md5".toList

/-- The verifier after the beginning of those with a salted key: the iterations, the salt and
the stored key. The key of the server that follows is not looked at. -/
def scramOf? (rest : List Char) : Option Verifier := do
  let (parameters, keys) ← Text.splitFirst? '$' rest
  let (iterationText, saltText) ← Text.splitFirst? ':' parameters
  let (storedText, _) ← Text.splitFirst? ':' keys
  let iterations ← Decimal.unsigned? Decimal.greatest32 iterationText
  let salt ← Base64.decode? saltText
  let storedKey ← Base64.decode? storedText
  if iterations = 0 then none else some (.scram iterations salt storedKey)

def ofText? (text : String) : Option Verifier :=
  match Text.after? scramPrefix text.toList with
  | some rest => scramOf? rest
  | none =>
      match Text.after? md5Prefix text.toList with
      | some rest => (Hex.decode? rest).map .md5
      | none => none

def storedKey (password : String) (salt : List UInt8) (iterations : Nat) : List UInt8 :=
  sha256
    (hmac (deriveKey (utf8Bytes (Text.preparedPassword password)) salt iterations)
      (utf8Bytes "Client Key"))

def roleDigest (password role : String) : List UInt8 :=
  Digest.md5 (utf8Bytes password ++ utf8Bytes role)

def accepts (password role : String) : Verifier → Bool
  | .scram iterations salt stored => storedKey password salt iterations == stored
  | .md5 digest => roleDigest password role == digest

end Verifier

/-- Whether the stored verifier of a role was made of the password; one that is absent, blank
or not understood was not. -/
def passwordMatches (verifier : Option String) (password role : String) : Bool :=
  ((Text.nonBlank? verifier).bind Verifier.ofText?).any (Verifier.accepts password role)

end CatalogSteward
