import CatalogSteward.Bytes.Hex
import CatalogSteward.Proofs.Text.Parts

/-!
# Reading hexadecimal text back

Bytes are read back from their spelling, and from no other text than that in
either case of its letters.
-/

set_option autoImplicit false

namespace CatalogSteward.Hex

/-! ## Digits -/

theorem digitValue?_digitChar {digit : Nat} (isDigit : digit < 16) :
    digitValue? (Nat.digitChar digit) = some digit := by
  revert digit
  decide

private theorem digits_below : ∀ code < 128,
    digitValue? (Char.ofNat code).toLower = digitValue? (Char.ofNat code) ∧
      ∀ value ∈ digitValue? (Char.ofNat code),
        (Char.ofNat code).toLower = Nat.digitChar value ∧ value < 16 := by
  decide +kernel

/-- The value of a digit does not depend on its case, and the digit in lower case is the one that
the value is written as. -/
theorem digitValue?_toLower (character : Char) :
    digitValue? character.toLower = digitValue? character ∧
      ∀ value ∈ digitValue? character,
        character.toLower = Nat.digitChar value ∧ value < 16 := by
  by_cases ascii : character.toNat < 128
  · have below := digits_below character.toNat ascii
    rw [Char.ofNat_toNat] at below
    exact below
  · have foreign : 128 ≤ character.toNat := Nat.le_of_not_lt ascii
    have unchanged : character.toLower = character :=
      dif_neg fun within => Text.not_le_of_foreign foreign (by decide : 'Z'.toNat < 128) within.2
    have noDigit : digitValue? character = none := by
      simp [digitValue?, Text.not_le_of_foreign foreign]
    rw [unchanged, noDigit]
    exact ⟨rfl, fun value impossible => nomatch impossible⟩

/-! ## Texts -/

theorem decode?_encode {bytes : List UInt8} : decode? (encode bytes) = some bytes := by
  induction bytes with
  | nil => rfl
  | cons byte rest ih =>
      have bound := byte.toNat_lt
      have high := digitValue?_digitChar (show byte.toNat / 16 < 16 by omega)
      have low := digitValue?_digitChar (show byte.toNat % 16 < 16 by omega)
      have whole : byte.toNat / 16 * 16 + byte.toNat % 16 = byte.toNat := by omega
      rw [encode] at ih
      simp only [encode, encodeByte, List.flatMap_cons, List.cons_append, List.nil_append,
        decode?, high, low, ih, Option.bind_eq_bind, Option.bind_some, whole, Option.pure_def,
        Nat.toUInt8, UInt8.ofNat_toNat]

theorem decode?_map_toLower (text : List Char) :
    decode? (text.map Char.toLower) = decode? text := by
  induction text using decode?.induct with
  | case1 => rfl
  | case2 => rfl
  | case3 high low rest ih =>
      simp only [List.map_cons, decode?, (digitValue?_toLower high).1, (digitValue?_toLower low).1,
        ih]

theorem map_toLower_of_decode? {text : List Char} {bytes : List UInt8}
    (decoded : decode? text = some bytes) : text.map Char.toLower = encode bytes := by
  induction text using decode?.induct generalizing bytes with
  | case1 =>
      cases decoded
      rfl
  | case2 => cases decoded
  | case3 high low rest ih =>
      simp only [decode?, Option.bind_eq_bind, Option.bind_eq_some_iff, Option.pure_def,
        Option.some.injEq] at decoded
      obtain ⟨first, isFirst, second, isSecond, others, isOthers, rfl⟩ := decoded
      obtain ⟨written, bound⟩ := (digitValue?_toLower high).2 first isFirst
      obtain ⟨writtenLow, boundLow⟩ := (digitValue?_toLower low).2 second isSecond
      have value : (first * 16 + second).toUInt8.toNat = first * 16 + second :=
        Nat.mod_eq_of_lt (by omega)
      have highDigit : (first * 16 + second) / 16 = first := by omega
      have lowDigit : (first * 16 + second) % 16 = second := by omega
      rw [List.map_cons, List.map_cons, ih isOthers, written, writtenLow, encode, encode,
        List.flatMap_cons, encodeByte, value, highDigit, lowDigit]
      rfl

/-- A text is read as some bytes exactly if it is their spelling, in either case of its letters. -/
theorem decode?_eq_some_iff {text : List Char} {bytes : List UInt8} :
    decode? text = some bytes ↔ text.map Char.toLower = encode bytes := by
  constructor
  · exact map_toLower_of_decode?
  · intro written
    rw [← decode?_map_toLower, written]
    exact decode?_encode

theorem length_encode (bytes : List UInt8) : (encode bytes).length = 2 * bytes.length := by
  induction bytes with
  | nil => rfl
  | cons byte rest ih =>
      rw [encode] at ih
      rw [encode, List.flatMap_cons, List.length_append, ih, List.length_cons]
      simp [encodeByte]
      omega

end CatalogSteward.Hex
