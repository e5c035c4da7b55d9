import CatalogSteward.Proofs.Verifier

/-!
# The form of verifiers that are accepted

Which texts a verifier is read from: the digest after its marker in either case
of its digits, or the iterations, the salt and the stored key, each spelled in
the one way that is read, with anything after them. No other text is accepted
for any password.
-/

set_option autoImplicit false

namespace CatalogSteward

open Digest

namespace Verifier

/-! ## Verifiers and their texts -/

/-- A text is one of those that a verifier is written as. A plus and leading zeros before the
iterations, the case of hexadecimal digits and what follows the stored key make no difference. -/
inductive Writes : List Char → Verifier → Prop where
  | scram {count serverKey : List Char} {iterations : Nat} {salt storedKey : List UInt8}
      (spelled : Decimal.Spells Decimal.greatest32 count iterations)
      (positive : iterations ≠ 0) :
      Writes
        (scramPrefix ++
          ((count ++ ':' :: Base64.encode salt) ++
            '$' :: (Base64.encode storedKey ++ ':' :: serverKey)))
        (.scram iterations salt storedKey)
  | md5 {digits : List Char} {digest : List UInt8}
      (spelled : digits.map Char.toLower = Hex.encode digest) :
      Writes (md5Prefix ++ digits) (.md5 digest)

theorem writes_of_scramOf? {rest : List Char} {verifier : Verifier}
    (read : scramOf? rest = some verifier) : Writes (scramPrefix ++ rest) verifier := by
  simp only [scramOf?, Option.bind_eq_bind, Option.bind_eq_some_iff, Prod.exists,
    Text.splitFirst?_eq_some_iff, Decimal.unsigned?_eq_some_iff, Base64.decode?_eq_some_iff,
    Option.ite_none_left_eq_some, Option.some.injEq] at read
  obtain ⟨_, _, ⟨-, rfl⟩, count, _, ⟨-, rfl⟩, _, serverKey, ⟨-, rfl⟩, iterations, spelled, salt, rfl,
    storedKey, rfl, positive, rfl⟩ := read
  exact .scram spelled positive

/-- A verifier is read from exactly the texts that it is written as. -/
theorem ofText?_eq_some_iff {text : String} {verifier : Verifier} :
    ofText? text = some verifier ↔ Writes text.toList verifier := by
  constructor
  · intro read
    unfold ofText? at read
    split at read
    case h_1 rest begins =>
      rw [Text.after?_eq_some_iff.mp begins]
      exact writes_of_scramOf? read
    case h_2 =>
      split at read
      case h_1 rest begins =>
        simp only [Option.map_eq_some_iff, Hex.decode?_eq_some_iff] at read
        obtain ⟨digest, spelled, rfl⟩ := read
        rw [Text.after?_eq_some_iff.mp begins]
        exact .md5 spelled
      case h_2 => cases read
  · intro writes
    unfold ofText?
    generalize text.toList = characters at writes
    cases writes with
    | scram spelled positive =>
        rw [Text.after?_append]
        exact scramOf?_of_spells spelled positive
    | @md5 digits digest spelled =>
        have notScram : Text.after? scramPrefix (md5Prefix ++ digits) = none := rfl
        simp only [notScram, Text.after?_append, Hex.decode?_eq_some_iff.mpr spelled,
          Option.map_some]

/-- What is written as a verifier begins with something visible. -/
theorem Writes.nonBlank? {text : String} {verifier : Verifier}
    (writes : Writes text.toList verifier) : Text.nonBlank? (some text) = some text := by
  have visible : ∀ {first : Char} {rest : List Char}, Text.isSpace first = false →
      text.toList = first :: rest → Text.nonBlank? (some text) = some text := by
    intro first rest shown begins
    rw [← String.ofList_toList (s := text), begins]
    exact Text.nonBlank?_of_head shown
  generalize written : text.toList = characters at writes
  cases writes with
  | scram | md5 => exact visible rfl written

end Verifier

/-- A password is accepted exactly if a verifier was stored whose text is that of one that accepts
it. -/
theorem passwordMatches_iff {stored : Option String} {password role : String} :
    passwordMatches stored password role = true ↔
      ∃ text verifier, stored = some text ∧ Verifier.Writes text.toList verifier ∧
        verifier.accepts password role = true := by
  simp only [passwordMatches, Option.any_eq_true, Option.bind_eq_some_iff]
  constructor
  · intro accepted
    obtain ⟨verifier, ⟨text, notBlank, read⟩, accepts⟩ := accepted
    exact ⟨text, verifier, (Option.filter_eq_some_iff.mp notBlank).1,
      Verifier.ofText?_eq_some_iff.mp read, accepts⟩
  · intro written
    obtain ⟨text, verifier, rfl, writes, accepts⟩ := written
    exact ⟨verifier, ⟨text, writes.nonBlank?, Verifier.ofText?_eq_some_iff.mpr writes⟩, accepts⟩

theorem length_md5 (message : List UInt8) : (md5 message).length = 16 :=
  rfl

theorem accepts_md5_iff {digest : List UInt8} {password role : String} :
    (Verifier.md5 digest).accepts password role = true ↔
      digest = md5 (utf8Bytes password ++ utf8Bytes role) :=
  beq_iff_eq.trans eq_comm

theorem accepts_scram_iff {iterations : Nat} {salt storedKey : List UInt8}
    {password role : String} :
    (Verifier.scram iterations salt storedKey).accepts password role = true ↔
      storedKey =
        sha256
          (keyedHash
            (derivedKey (utf8Bytes ((Text.prepare? password).getD password)) salt iterations)
            (utf8Bytes "Client Key")) := by
  rw [Verifier.accepts, Verifier.storedKey, Text.preparedPassword, deriveKey_eq_derivedKey,
    hmac_eq_keyedHash]
  exact beq_iff_eq.trans eq_comm

theorem toList_digestText (digits : List Char) :
    ("md5" ++ String.ofList digits).toList = Verifier.md5Prefix ++ digits := by
  simp [Verifier.md5Prefix]

theorem toList_saltedText (count salt storedKey serverKey : List Char) :
    ("SCRAM-SHA-256$" ++ String.ofList count ++ ":" ++ String.ofList salt ++ "$" ++
        String.ofList storedKey ++ ":" ++ String.ofList serverKey).toList =
      Verifier.scramPrefix ++
        ((count ++ ':' :: salt) ++ '$' :: (storedKey ++ ':' :: serverKey)) := by
  unfold Verifier.scramPrefix
  simp

/-- A password is accepted in exactly two cases. What was stored is the digest of the password
followed by the name of the role in thirty-two hexadecimal digits of either case, after its marker;
or it is a number of iterations, a salt and a key, and then any text. Of these the number is one of
32 bits and not zero, the salt and the key have their only spelling, and the key is the hash of the
client key under the key that is derived from the prepared password, or from the password itself
where it has no prepared form. Nothing else that is stored is accepted, and neither is nothing. -/
theorem only_wellFormed_verifiers_are_accepted {stored : Option String}
    {password role : String} :
    passwordMatches stored password role = true ↔
      (∃ digits : List Char, stored = some ("md5" ++ String.ofList digits) ∧
          digits.length = 32 ∧
            digits.map Char.toLower =
              Hex.encode (md5 (utf8Bytes password ++ utf8Bytes role))) ∨
        ∃ (count serverKey : List Char) (iterations : Nat) (salt storedKey : List UInt8),
          stored =
              some
                ("SCRAM-SHA-256$" ++ String.ofList count ++ ":" ++
                  String.ofList (Base64.encode salt) ++ "$" ++
                  String.ofList (Base64.encode storedKey) ++ ":" ++ String.ofList serverKey) ∧
            Decimal.Spells 4294967295 count iterations ∧ 0 < iterations ∧
              storedKey.length = 32 ∧
                storedKey =
                  sha256
                    (keyedHash
                      (derivedKey (utf8Bytes ((Text.prepare? password).getD password)) salt
                        iterations)
                      (utf8Bytes "Client Key")) := by
  rw [passwordMatches_iff]
  constructor
  · intro accepted
    obtain ⟨text, verifier, rfl, writes, accepts⟩ := accepted
    generalize written : text.toList = characters at writes
    cases writes with
    | @md5 digits digest spelled =>
        rw [← toList_digestText, String.toList_inj] at written
        rw [accepts_md5_iff.mp accepts] at spelled
        have length := congrArg List.length spelled
        rw [List.length_map, Hex.length_encode, length_md5] at length
        exact .inl ⟨digits, congrArg some written, length, spelled⟩
    | @scram count serverKey iterations salt storedKey spelled positive =>
        rw [← toList_saltedText, String.toList_inj] at written
        have key := accepts_scram_iff.mp accepts
        refine .inr ⟨count, serverKey, iterations, salt, storedKey, congrArg some written, spelled,
          Nat.pos_of_ne_zero positive, ?_, key⟩
        rw [key, length_sha256]
  · intro wellFormed
    cases wellFormed with
    | inl digest =>
        obtain ⟨digits, rfl, -, spelled⟩ := digest
        refine ⟨_, _, rfl, ?_, accepts_md5_iff.mpr rfl⟩
        rw [toList_digestText]
        exact .md5 spelled
    | inr salted =>
        obtain ⟨count, serverKey, iterations, salt, storedKey, rfl, spelled, positive, -, key⟩ :=
          salted
        refine ⟨_, _, rfl, ?_, accepts_scram_iff.mpr key⟩
        rw [toList_saltedText]
        exact .scram spelled (Nat.ne_of_gt positive)

end CatalogSteward
