import CatalogSteward.Proofs.Bytes.Base64
import CatalogSteward.Proofs.Bytes.Hex
import CatalogSteward.Proofs.Decimal.Unsigned
import CatalogSteward.Proofs.Digest.Hmac
import CatalogSteward.Verifier

/-!
# Verifiers that are accepted

What the server stores of a password is read back and accepted: the digest of
the password and the name of its role, written after its marker, and the salted
key with the iterations and the salt that it was derived by. A password that was
not changed is therefore never set again.
-/

set_option autoImplicit false

namespace CatalogSteward

open Digest

/-! ## Verifiers with a digest -/

/-- The verifier that holds the digest of the password of a role. -/
def Verifier.md5Text (password role : String) : String :=
  String.ofList (md5Prefix ++ Hex.encode (roleDigest password role))

theorem passwordMatches_md5Text {password role : String} :
    passwordMatches (some (Verifier.md5Text password role)) password role = true := by
  have visible : Text.nonBlank? (some (Verifier.md5Text password role)) =
      some (Verifier.md5Text password role) := Text.nonBlank?_of_head rfl
  have marked : Verifier.ofText? (Verifier.md5Text password role) =
      some (.md5 (Verifier.roleDigest password role)) := by
    have notScram : Text.after? Verifier.scramPrefix
        (Verifier.md5Prefix ++ Hex.encode (Verifier.roleDigest password role)) = none := rfl
    simp only [Verifier.ofText?, Verifier.md5Text, String.toList_ofList, notScram,
      Text.after?_append, Hex.decode?_encode, Option.map_some]
  simp only [passwordMatches, visible, Option.bind_some, marked, Option.any_some,
    Verifier.accepts, beq_self_eq_true]

/-! ## Verifiers with a salted key -/

namespace Verifier

/-- The verifier that holds a salted key, and the key of the server after it. -/
def scramText (iterations : Nat) (salt storedKey serverKey : List UInt8) : String :=
  "SCRAM-SHA-256$" ++ toString iterations ++ ":" ++ String.ofList (Base64.encode salt) ++
    "$" ++ String.ofList (Base64.encode storedKey) ++
    ":" ++ String.ofList (Base64.encode serverKey)

variable {iterations : Nat} {salt storedKey serverKey : List UInt8}

theorem toList_scramText :
    (scramText iterations salt storedKey serverKey).toList =
      scramPrefix ++
        ((Nat.toDigits 10 iterations ++ ':' :: Base64.encode salt) ++
          '$' :: (Base64.encode storedKey ++ ':' :: Base64.encode serverKey)) := by
  unfold scramText scramPrefix
  simp

example : scramText 4096 [1, 2, 3, 4] [0, 1] [255] = "SCRAM-SHA-256$4096:AQIDBA==$AAE=:/w==" := by
  decide +kernel

/-- A salted key is read back, since no part of its verifier holds the mark that ends it. -/
theorem scramOf?_of_spells {count key : List Char}
    (spelled : Decimal.Spells Decimal.greatest32 count iterations) (positive : iterations ≠ 0) :
    scramOf? ((count ++ ':' :: Base64.encode salt) ++
        '$' :: (Base64.encode storedKey ++ ':' :: key)) =
      some (.scram iterations salt storedKey) := by
  have noDollar : '$' ∉ count ++ ':' :: Base64.encode salt := by
    simp only [List.mem_append, List.mem_cons, not_or]
    exact ⟨spelled.notMem rfl (by decide), by decide, Base64.notMem_encode (by decide) salt⟩
  have noColon : ':' ∉ count := spelled.notMem rfl (by decide)
  have noColonInKey : ':' ∉ Base64.encode storedKey := Base64.notMem_encode (by decide) storedKey
  have parts := Text.splitFirst?_append noDollar (Base64.encode storedKey ++ ':' :: key)
  have parameters := Text.splitFirst?_append noColon (Base64.encode salt)
  have keys := Text.splitFirst?_append noColonInKey key
  simp only [scramOf?, parts, parameters, keys, Decimal.unsigned?_eq_some_iff.mpr spelled,
    Base64.decode?_encode, Option.bind_eq_bind, Option.bind_some, if_neg positive]

theorem ofText?_scramText (positive : 0 < iterations) (bounded : iterations ≤ Decimal.greatest32) :
    ofText? (scramText iterations salt storedKey serverKey) =
      some (.scram iterations salt storedKey) := by
  rw [ofText?, toList_scramText, Text.after?_append]
  exact scramOf?_of_spells (Decimal.spells_toDigits bounded) (Nat.ne_of_gt positive)

theorem nonBlank?_scramText :
    Text.nonBlank? (some (scramText iterations salt storedKey serverKey)) =
      some (scramText iterations salt storedKey serverKey) := by
  have spelled := congrArg String.ofList (@toList_scramText iterations salt storedKey serverKey)
  rw [String.ofList_toList] at spelled
  rw [spelled]
  exact Text.nonBlank?_of_head rfl

end Verifier

/-- Every verifier that the server would store is accepted. Of a password the server stores, with
any salt and any number of iterations, the hash of the client key under the key derived from the
prepared password, or from the password itself where it has no prepared form; or else the digest of
the password and the name of the role. Whatever the key of the server is makes no difference. -/
theorem stored_verifiers_are_accepted {password role : String} {salt serverKey : List UInt8}
    {iterations : Nat} (positive : 0 < iterations) (bounded : iterations ≤ 4294967295) :
    passwordMatches
        (some (Verifier.scramText iterations salt
          (sha256
            (keyedHash
              (derivedKey (utf8Bytes ((Text.prepare? password).getD password)) salt iterations)
              (utf8Bytes "Client Key")))
          serverKey))
        password role = true ∧
      passwordMatches
        (some ("md5" ++ String.ofList (Hex.encode (md5 (utf8Bytes password ++ utf8Bytes role)))))
        password role = true := by
  constructor
  · rw [← deriveKey_eq_derivedKey, ← hmac_eq_keyedHash, passwordMatches,
      Verifier.nonBlank?_scramText, Option.bind_some, Verifier.ofText?_scramText positive bounded,
      Option.any_some, Verifier.accepts, Verifier.storedKey, Text.preparedPassword]
    exact beq_self_eq_true _
  · have written : "md5" ++ String.ofList (Hex.encode (md5 (utf8Bytes password ++ utf8Bytes role))) =
        Verifier.md5Text password role := by
      rw [Verifier.md5Text, Verifier.md5Prefix, String.ofList_append, String.ofList_toList]
      rfl
    rw [written]
    exact passwordMatches_md5Text

theorem stored_verifiers_are_accepted_for_app_user :
    (0 < 4096 ∧ 4096 ≤ 4294967295) ∧
      passwordMatches
          (some (Verifier.scramText 4096 [1, 2, 3, 4, 5, 6, 7, 8, 9, 10, 11, 12, 13, 14, 15, 16]
            (sha256
              (keyedHash
                (derivedKey (utf8Bytes ((Text.prepare? "secret123").getD "secret123"))
                  [1, 2, 3, 4, 5, 6, 7, 8, 9, 10, 11, 12, 13, 14, 15, 16] 4096)
                (utf8Bytes "Client Key")))
            [57, 66, 114]))
          "secret123" "app_user" = true ∧
        passwordMatches
          (some ("md5" ++
            String.ofList (Hex.encode (md5 (utf8Bytes "secret123" ++ utf8Bytes "app_user")))))
          "secret123" "app_user" = true :=
  ⟨⟨by decide, by decide⟩, stored_verifiers_are_accepted (by decide) (by decide)⟩

end CatalogSteward
