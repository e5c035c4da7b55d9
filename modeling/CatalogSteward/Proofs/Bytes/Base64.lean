import CatalogSteward.Bytes.Base64
import CatalogSteward.Proofs.Text.Parts

/-!
# Reading base 64 back

Bytes are read back from their spelling, which is made of the alphabet and of
padding alone, and from no other text.
-/

set_option autoImplicit false

namespace CatalogSteward.Base64

variable {value : Nat} {first second third : UInt8} {rest : List UInt8}

/-! ## Characters -/

theorem value?_character (small : value < 64) : value? (character value) = some value := by
  revert value
  decide +kernel

theorem character_ne_padding (small : value < 64) : character value ≠ '=' := by
  revert value
  decide +kernel

theorem character_mem : character value ∈ '=' :: alphabet := by
  rw [character, List.getD_eq_getElem?_getD]
  cases found : alphabet[value]? with
  | none => exact List.mem_cons_self
  | some letter => exact List.mem_cons_of_mem '=' (List.mem_of_getElem? found)

/-- A mark that is neither a letter of the alphabet nor padding does not occur in a spelling. -/
theorem notMem_encode {mark : Char} (foreign : mark ∉ '=' :: alphabet) (bytes : List UInt8) :
    mark ∉ encode bytes := by
  have notCharacter : ∀ value, mark ≠ character value :=
    fun value same => foreign (same ▸ character_mem)
  have notPadding : mark ≠ '=' := fun same => foreign (same ▸ List.mem_cons_self)
  induction bytes using encode.induct with
  | case1 => exact List.not_mem_nil
  | case2 | case3 => simp [encode, notCharacter, notPadding]
  | case4 first second third rest ih => simp [encode, notCharacter, ih]

/-! ## Groups of four characters -/

theorem decodeLast?_one :
    decodeLast? (character (first.toNat * 16 / 64)) (character (first.toNat * 16 % 64)) '=' '=' =
      some [first] := by
  have bound := first.toNat_lt
  have high := value?_character (show first.toNat * 16 / 64 < 64 by omega)
  have low := value?_character (show first.toNat * 16 % 64 < 64 by omega)
  have whole : first.toNat * 16 / 64 * 64 + first.toNat * 16 % 64 = first.toNat * 16 := by omega
  have unused : first.toNat * 16 % 16 = 0 := by omega
  have byte : first.toNat * 16 / 16 = first.toNat := by omega
  simp [decodeLast?, high, low, whole, unused, byte]

theorem decodeLast?_two {bits : Nat}
    (spelled : bits = (first.toNat * 256 + second.toNat) * 4) :
    decodeLast? (character (bits / 4096)) (character (bits / 64 % 64)) (character (bits % 64)) '=' =
      some [first, second] := by
  have firstBound := first.toNat_lt
  have secondBound := second.toNat_lt
  have high := value?_character (show bits / 4096 < 64 by omega)
  have low := value?_character (show bits / 64 % 64 < 64 by omega)
  have next := value?_character (show bits % 64 < 64 by omega)
  have kept := character_ne_padding (show bits % 64 < 64 by omega)
  have whole : (bits / 4096 * 64 + bits / 64 % 64) * 64 + bits % 64 = bits := by omega
  have unused : bits % 4 = 0 := by omega
  have firstByte : bits / 1024 = first.toNat := by omega
  have secondByte : bits / 4 % 256 = second.toNat := by omega
  simp [decodeLast?, high, low, next, kept, whole, unused, firstByte, secondByte]

theorem decodeInner?_three {bits : Nat}
    (spelled : bits = (first.toNat * 256 + second.toNat) * 256 + third.toNat) :
    decodeInner? (character (bits / 262144)) (character (bits / 4096 % 64))
        (character (bits / 64 % 64)) (character (bits % 64)) =
      some [first, second, third] := by
  have firstBound := first.toNat_lt
  have secondBound := second.toNat_lt
  have thirdBound := third.toNat_lt
  have high := value?_character (show bits / 262144 < 64 by omega)
  have low := value?_character (show bits / 4096 % 64 < 64 by omega)
  have next := value?_character (show bits / 64 % 64 < 64 by omega)
  have last := value?_character (show bits % 64 < 64 by omega)
  have nextKept := character_ne_padding (show bits / 64 % 64 < 64 by omega)
  have lastKept := character_ne_padding (show bits % 64 < 64 by omega)
  have whole : ((bits / 262144 * 64 + bits / 4096 % 64) * 64 + bits / 64 % 64) * 64 +
      bits % 64 = bits := by omega
  have firstByte : bits / 65536 = first.toNat := by omega
  have secondByte : bits / 256 % 256 = second.toNat := by omega
  have thirdByte : bits % 256 = third.toNat := by omega
  simp [decodeInner?, decodeLast?, high, low, next, last, nextKept, lastKept, whole, firstByte,
    secondByte, thirdByte]

theorem decode?_cons {a b c d : Char} {rest : List Char} {bytes more : List UInt8}
    (group : decodeInner? a b c d = some bytes) (others : decode? rest = some more) :
    decode? (a :: b :: c :: d :: rest) = some (bytes ++ more) := by
  cases rest with
  | cons next rest =>
      rw [decode?, group, others]
      · rfl
      · exact List.cons_ne_nil next rest
  | nil =>
      cases others
      rw [decodeInner?] at group
      split at group
      · cases group
      · rw [decode?, group, List.append_nil]

/-! ## Texts -/

theorem decode?_encode (bytes : List UInt8) : decode? (encode bytes) = some bytes := by
  induction bytes using encode.induct with
  | case1 => rfl
  | case2 first => exact decodeLast?_one
  | case3 first second => exact decodeLast?_two rfl
  | case4 first second third rest ih => exact decode?_cons (decodeInner?_three rfl) ih

/-! ## Only spellings are read -/

theorem value?_eq_none {letter : Char} (foreign : 128 ≤ letter.toNat) : value? letter = none := by
  have notMark : ∀ mark : Char, mark.toNat < 128 → letter ≠ mark := by
    intro mark ascii same
    rw [same] at foreign
    omega
  simp [value?, Text.not_le_of_foreign foreign, notMark]

private theorem letters_below : ∀ code < 128, ∀ value ∈ value? (Char.ofNat code),
    value < 64 ∧ character value = Char.ofNat code := by
  decide +kernel

/-- A letter that has a value is the one that the value is written as. -/
theorem character_of_value? {letter : Char} {value : Nat} (valued : value? letter = some value) :
    value < 64 ∧ character value = letter := by
  by_cases ascii : letter.toNat < 128
  · have below := letters_below letter.toNat ascii value
    rw [Char.ofNat_toNat] at below
    exact below valued
  · rw [value?_eq_none (Nat.le_of_not_lt ascii)] at valued
    cases valued

/-- Four characters that end a text are the spelling of the one, two or three bytes that they are
read as; three of them if the last character is no padding. -/
theorem decodeLast?_eq_some {a b c d : Char} {bytes : List UInt8}
    (decoded : decodeLast? a b c d = some bytes) :
    [a, b, c, d] = encode bytes ∧ (d ≠ '=' → bytes.length = 3) := by
  have kept : ∀ {number : Nat}, number < 256 → number.toUInt8.toNat = number :=
    fun small => Nat.mod_eq_of_lt small
  unfold decodeLast? at decoded
  simp only [Option.bind_eq_bind, Option.bind_eq_some_iff, Option.pure_def] at decoded
  obtain ⟨high, isHigh, low, isLow, decoded⟩ := decoded
  obtain ⟨highBound, rfl⟩ := character_of_value? isHigh
  obtain ⟨lowBound, rfl⟩ := character_of_value? isLow
  split at decoded
  case isTrue third =>
    simp only [Option.ite_none_right_eq_some, Option.some.injEq] at decoded
    obtain ⟨⟨fourth, unused⟩, rfl⟩ := decoded
    subst third fourth
    have highBits : (high * 64 + low) / 16 * 16 / 64 = high := by omega
    have lowBits : (high * 64 + low) / 16 * 16 % 64 = low := by omega
    rw [encode, kept (by omega), highBits, lowBits]
    exact ⟨rfl, fun different => absurd rfl different⟩
  case isFalse =>
    simp only [Option.bind_eq_some_iff] at decoded
    obtain ⟨next, isNext, decoded⟩ := decoded
    obtain ⟨nextBound, rfl⟩ := character_of_value? isNext
    split at decoded
    case isTrue fourth =>
      simp only [Option.ite_none_right_eq_some, Option.some.injEq] at decoded
      obtain ⟨unused, rfl⟩ := decoded
      subst fourth
      generalize spelled : (high * 64 + low) * 64 + next = bits at unused ⊢
      have whole : (bits / 1024 * 256 + bits / 4 % 256) * 4 = bits := by omega
      have highBits : bits / 4096 = high := by omega
      have lowBits : bits / 64 % 64 = low := by omega
      have nextBits : bits % 64 = next := by omega
      simp only [encode]
      rw [kept (show bits / 1024 < 256 by omega), kept (show bits / 4 % 256 < 256 by omega), whole,
        highBits, lowBits, nextBits]
      exact ⟨rfl, fun different => absurd rfl different⟩
    case isFalse =>
      simp only [Option.bind_eq_some_iff, Option.some.injEq] at decoded
      obtain ⟨last, isLast, rfl⟩ := decoded
      obtain ⟨lastBound, rfl⟩ := character_of_value? isLast
      generalize spelled : ((high * 64 + low) * 64 + next) * 64 + last = bits
      have whole : (bits / 65536 * 256 + bits / 256 % 256) * 256 + bits % 256 = bits := by omega
      have highBits : bits / 262144 = high := by omega
      have lowBits : bits / 4096 % 64 = low := by omega
      have nextBits : bits / 64 % 64 = next := by omega
      have lastBits : bits % 64 = last := by omega
      simp only [encode]
      rw [kept (show bits / 65536 < 256 by omega), kept (show bits / 256 % 256 < 256 by omega),
        kept (show bits % 256 < 256 by omega), whole, highBits, lowBits, nextBits, lastBits]
      exact ⟨rfl, fun _ => rfl⟩

theorem decodeInner?_eq_some {a b c d : Char} {bytes : List UInt8}
    (decoded : decodeInner? a b c d = some bytes) :
    ∃ first second third, bytes = [first, second, third] ∧ [a, b, c, d] = encode bytes := by
  unfold decodeInner? at decoded
  split at decoded
  case isTrue => cases decoded
  case isFalse different =>
    obtain ⟨written, three⟩ := decodeLast?_eq_some decoded
    match bytes, three different, written with
    | [first, second, third], _, written => exact ⟨first, second, third, rfl, written⟩

theorem eq_encode_of_decode? {text : List Char} {bytes : List UInt8}
    (decoded : decode? text = some bytes) : text = encode bytes := by
  induction text using decode?.induct generalizing bytes with
  | case1 =>
      cases decoded
      rfl
  | case2 a b c d => exact (decodeLast?_eq_some decoded).1
  | case3 a b c d rest notEmpty ih =>
      rw [decode?] at decoded
      · simp only [Option.bind_eq_bind, Option.bind_eq_some_iff, Option.pure_def,
          Option.some.injEq] at decoded
        obtain ⟨group, inner, more, others, rfl⟩ := decoded
        obtain ⟨first, second, third, rfl, written⟩ := decodeInner?_eq_some inner
        rw [ih others]
        exact congrArg (· ++ encode more) written
      · exact notEmpty
  | case4 => simp [decode?] at decoded

/-- A text is read as some bytes exactly if it is their spelling. -/
theorem decode?_eq_some_iff {text : List Char} {bytes : List UInt8} :
    decode? text = some bytes ↔ text = encode bytes := by
  constructor
  · exact eq_encode_of_decode?
  · intro written
    rw [written]
    exact decode?_encode bytes

end CatalogSteward.Base64
