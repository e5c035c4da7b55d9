import CatalogSteward.Proofs.Fallible
import CatalogSteward.Proofs.Time.Rfc3339
import Mathlib.Data.List.GetD
import Mathlib.Data.String.Basic
import Mathlib.Tactic.ByContra

/-!
# Instants read back

The text of an instant is a date and time of RFC 3339 exactly where its year in UTC has four
digits. There it is read as that instant, to the nanosecond and in leap seconds too; elsewhere it
is not read at all. Whatever text is read, it is that of an instant within a day of those years.
-/

set_option autoImplicit false

namespace CatalogSteward.Time

/-! ## The form of a date and time -/

/-- A mark of UTC, or the hours and minutes by which the clocks are ahead or behind. -/
inductive IsZone : List Char → Prop where
  | utc : IsZone ['Z']
  | ahead {hours minutes : Nat} (day : hours < 24) (hour : minutes < 60) :
      IsZone ('+' :: ((padded 2 hours).toList ++ ':' :: (padded 2 minutes).toList))
  | behind {hours minutes : Nat} (day : hours < 24) (hour : minutes < 60) :
      IsZone ('-' :: ((padded 2 hours).toList ++ ':' :: (padded 2 minutes).toList))

/-- Nothing, or a point and the digits after it. -/
inductive IsFraction : List Char → Prop where
  | whole : IsFraction []
  | parts {digits : List Char} (any : digits ≠ [])
      (isDigit : ∀ character ∈ digits, character.isDigit = true) : IsFraction ('.' :: digits)

/-- A date and time as RFC 3339 has it: a date that exists in a year of four digits, a time of
day, in which the second 60 is a leap second, a fraction and a zone. -/
def IsRfc3339 (text : String) : Prop :=
  ∃ (year month day hour minute second : Nat) (fraction zone : List Char),
    (year ≤ 9999 ∧ Date.isValid ⟨year, month, day⟩ = true) ∧
      (hour < 24 ∧ minute < 60 ∧ second ≤ 60) ∧ IsFraction fraction ∧ IsZone zone ∧
        text.toList =
          (padded 4 year).toList ++ '-' :: ((padded 2 month).toList ++
            '-' :: ((padded 2 day).toList ++ 'T' :: ((padded 2 hour).toList ++
              ':' :: ((padded 2 minute).toList ++ ':' :: ((padded 2 second).toList ++
                (fraction ++ zone))))))

/-- The year of an instant in UTC has four digits. -/
def Instant.InFourDigits (instant : Instant) : Prop :=
  0 ≤ instant.date.year ∧ instant.date.year ≤ 9999

instance (instant : Instant) : Decidable instant.InFourDigits :=
  inferInstanceAs (Decidable (_ ∧ _))

/-- A year of four digits is a number without a sign, and the date with that number for its year
is that of the instant. -/
theorem Instant.InFourDigits.date_spec {instant : Instant} (four : instant.InFourDigits) :
    instant.date.year.toNat ≤ 9999 ∧
      Date.isValid ⟨instant.date.year.toNat, instant.date.month, instant.date.day⟩ = true ∧
        Date.toDays ⟨instant.date.year.toNat, instant.date.month, instant.date.day⟩ =
          instant.seconds / 86400 := by
  rw [Int.toNat_of_nonneg four.1]
  exact ⟨Int.toNat_le.mpr four.2, Date.isValid_ofDays _, Date.toDays_ofDays _⟩

theorem yearText_of_four {year : Int} (four : 0 ≤ year ∧ year ≤ 9999) :
    yearText year = padded 4 year.toNat := by
  have plain : (0 ≤ year && year ≤ 9999) = true := by
    rw [Bool.and_eq_true, decide_eq_true_eq, decide_eq_true_eq]
    exact four
  rw [yearText, if_pos plain]

/-- Outside the years of four digits, the text of an instant begins with the sign of its year. -/
theorem Instant.signed_of_not_inFourDigits {instant : Instant}
    (outside : ¬instant.InFourDigits) :
    ∃ sign rest, (instant.rfc3339 .fewest).toList = sign :: rest ∧ sign.isDigit = false := by
  have signed : ¬(0 ≤ instant.date.year && instant.date.year ≤ 9999) = true := by
    rw [Bool.and_eq_true, decide_eq_true_eq, decide_eq_true_eq]
    exact outside
  rw [toList_rfc3339, yearText, if_neg signed, String.toList_append]
  split
  · exact ⟨'-', _, rfl, rfl⟩
  · exact ⟨'+', _, rfl, rfl⟩

theorem Date.month_day_lt {date : Date} (valid : date.isValid = true) :
    date.month < 100 ∧ date.day < 100 := by
  simp only [Date.isValid, Bool.and_eq_true, decide_eq_true_eq] at valid
  obtain ⟨⟨⟨first, last⟩, -⟩, inMonth⟩ := valid
  have inYear : ∀ leap : Bool, ∀ index < 12, (monthLengths leap).getD index 0 ≤ 31 := by decide
  have long : ∀ leap : Bool, ∀ index : Nat, (monthLengths leap).getD index 0 ≤ 31 := by
    intro leap index
    by_cases within : index < 12
    · exact inYear leap index within
    · have beyond : (monthLengths leap).length ≤ index := Nat.not_lt.mp within
      rw [List.getD_eq_default _ _ beyond]
      exact Nat.zero_le 31
  have day := long (isLeapYear date.year) (date.month - 1)
  rw [Date.lengths] at inMonth
  omega

theorem isFraction_fractionText {nanoseconds : Nat} (below : nanoseconds < 1000000000) :
    IsFraction (fractionText nanoseconds).toList := by
  by_cases none : nanoseconds = 0
  · rw [none]
    exact .whole
  · obtain ⟨digits, spelled, any, isDigit, -⟩ := Rfc3339.fractionText_spec none below
    rw [spelled]
    exact .parts any isDigit

/-- The parts of the time of an instant. -/
theorem Instant.clock_lt {instant : Instant} (valid : instant.isValid = true) :
    instant.secondOfDay / 3600 < 24 ∧ instant.secondOfDay / 60 % 60 < 60 ∧
      instant.secondOfDay % 60 + instant.nanoseconds / 1000000000 ≤ 60 := by
  simp only [isValid, Bool.or_eq_true, Bool.and_eq_true, decide_eq_true_eq] at valid
  simp only [secondOfDay]
  omega

theorem Instant.isRfc3339_iff {instant : Instant} (valid : instant.isValid = true) :
    IsRfc3339 (instant.rfc3339 .fewest) ↔ instant.InFourDigits := by
  constructor
  · rintro ⟨year, month, day, hour, minute, second, fraction, zone, -, -, -, -, spelled⟩
    by_contra outside
    obtain ⟨sign, rest, signed, notDigit⟩ := signed_of_not_inFourDigits outside
    obtain ⟨first, others, digits, digit⟩ := padded_eq_cons 4 year
    rw [signed, digits, List.cons_append, List.cons.injEq] at spelled
    rw [spelled.1, digit] at notDigit
    exact Bool.noConfusion notDigit
  · intro four
    obtain ⟨year, date, -⟩ := four.date_spec
    have fraction : instant.nanoseconds % 1000000000 < 1000000000 := Nat.mod_lt _ (by decide)
    refine ⟨_, _, _, _, _, _, _, _, ⟨year, date⟩, clock_lt valid,
      isFraction_fractionText fraction, .utc, ?_⟩
    rw [toList_rfc3339, yearText_of_four four]

namespace Rfc3339

/-! ## Reading what is written -/

theorem readDigit_of_isDigit {character : Char} {rest : List Char}
    (digit : character.isDigit = true) :
    readDigit (character :: rest) = .ok (character.toNat - '0'.toNat, rest) := by
  rw [readDigit, digit?_of_isDigit digit]

theorem readDigit_of_not_isDigit {character : Char} {rest : List Char}
    (notDigit : character.isDigit = false) : readDigit (character :: rest) = .error .invalid := by
  have outside : ¬('0' ≤ character && character ≤ '9') = true := by
    rw [Bool.and_eq_true, decide_eq_true_eq, decide_eq_true_eq, Char.le_def, Char.le_def]
    simpa only [Char.isDigit, Bool.and_eq_false_iff, decide_eq_false_iff_not, not_and_or] using
      notDigit
  rw [readDigit, digit?, if_neg outside]

theorem readTwo_of_isDigit {first second : Char} {rest : List Char}
    (tens : first.isDigit = true) (ones : second.isDigit = true) :
    readTwo (first :: second :: rest) = .ok (Nat.ofDigitChars 10 [first, second] 0, rest) := by
  simp only [readTwo, readDigit_of_isDigit tens, readDigit_of_isDigit ones, bind, Except.bind,
    pure, Except.pure, Nat.ofDigitChars_cons, Nat.ofDigitChars_nil, Nat.mul_zero, Nat.zero_add]

theorem readTwo_padded {value : Nat} {rest : List Char} (fits : value < 100) :
    readTwo ((padded 2 value).toList ++ rest) = .ok (value, rest) := by
  have isDigit := @padded_isDigit 2 value
  have valueOfDigits := @ofDigitChars_padded 2 value
  obtain ⟨first, second, digits⟩ := List.length_eq_two.mp (length_padded (by decide) fits)
  rw [digits] at isDigit valueOfDigits ⊢
  rw [List.cons_append, List.singleton_append,
    readTwo_of_isDigit (isDigit first (by simp)) (isDigit second (by simp)), valueOfDigits]

theorem readFour_padded {value : Nat} {rest : List Char} (fits : value < 10000) :
    readFour ((padded 4 value).toList ++ rest) = .ok (value, rest) := by
  have isDigit := @padded_isDigit 4 value
  have valueOfDigits := @ofDigitChars_padded 4 value
  have long := @length_padded 4 value (by decide) fits
  match digits : (padded 4 value).toList, long with
  | [first, second, third, fourth], _ =>
      rw [digits] at isDigit valueOfDigits
      simp only [List.forall_mem_cons] at isDigit
      obtain ⟨thousands, hundreds, tens, ones, -⟩ := isDigit
      simp only [Nat.ofDigitChars_cons, Nat.ofDigitChars_nil] at valueOfDigits
      simp only [readFour, List.cons_append, List.nil_append, readTwo_of_isDigit thousands hundreds,
        readTwo_of_isDigit tens ones, bind, Except.bind, pure, Except.pure,
        Nat.ofDigitChars_cons, Nat.ofDigitChars_nil, Except.ok.injEq, Prod.mk.injEq, and_true]
      omega

theorem readMark_cons {accept : Char → Bool} {mark : Char} {rest : List Char} :
    readMark accept (mark :: rest) =
      if accept mark = true then .ok ((), rest) else .error .invalid :=
  rfl

theorem readDate_spelled {year month day : Nat} {rest : List Char} (four : year ≤ 9999)
    (valid : Date.isValid ⟨year, month, day⟩ = true) :
    readDate ((padded 4 year).toList ++ '-' :: ((padded 2 month).toList ++
      '-' :: ((padded 2 day).toList ++ rest))) = .ok (⟨year, month, day⟩, rest) := by
  obtain ⟨months, days⟩ := Date.month_day_lt valid
  simp only [readDate, readFour_padded (Nat.lt_succ_of_le four), readTwo_padded months,
    readTwo_padded days, readMark_cons, beq_self_eq_true, bind, Except.bind, valid, ↓reduceIte]

theorem digit?_isSome_iff {character : Char} :
    (digit? character).isSome = character.isDigit := by
  cases isDigit : character.isDigit with
  | true => rw [digit?_of_isDigit isDigit]; rfl
  | false =>
      have read := @readDigit_of_not_isDigit character [] isDigit
      rw [readDigit] at read
      split at read
      · cases read
      · next none => rw [none]; rfl

/-- A fraction is read as its nanoseconds, where no digit follows it. -/
theorem readFraction_fractionText {nanoseconds : Nat} {mark : Char} {rest : List Char}
    (below : nanoseconds < 1000000000) (notDigit : mark.isDigit = false)
    (notPoint : mark ≠ '.') :
    readFraction ((fractionText nanoseconds).toList ++ mark :: rest) =
      .ok (nanoseconds, mark :: rest) := by
  by_cases none : nanoseconds = 0
  · subst none
    have nothing : (fractionText 0).toList = [] := rfl
    rw [nothing, List.nil_append, readFraction]
    rintro text same
    exact notPoint (List.cons.inj same).1
  · obtain ⟨digits, spelled, any, isDigit, counts⟩ := fractionText_spec none below
    have taken : (digits ++ mark :: rest).takeWhile (fun character => (digit? character).isSome) =
        digits := by
      simp only [digit?_isSome_iff]
      rw [List.takeWhile_append_of_pos isDigit, List.takeWhile_cons_of_neg (by simp [notDigit]),
        List.append_nil]
    have dropped : (digits ++ mark :: rest).dropWhile
        (fun character => (digit? character).isSome) = mark :: rest := by
      simp only [digit?_isSome_iff]
      rw [List.dropWhile_append_of_pos isDigit, List.dropWhile_cons_of_neg (by simp [notDigit])]
    rw [spelled, List.cons_append]
    simp only [readFraction, taken, dropped, counts]
    cases digits with
    | nil => exact absurd rfl any
    | cons first others => rfl

/-- A time of day is read, where the second 60 is the leap second after the second 59. -/
theorem readTime_spelled {hour minute second nanoseconds : Nat} {mark : Char} {rest : List Char}
    (clock : hour < 24 ∧ minute < 60 ∧ second ≤ 60) (below : nanoseconds < 1000000000)
    (notDigit : mark.isDigit = false) (notPoint : mark ≠ '.') :
    readTime ((padded 2 hour).toList ++ ':' :: ((padded 2 minute).toList ++
      ':' :: ((padded 2 second).toList ++ ((fractionText nanoseconds).toList ++ mark :: rest)))) =
      .ok ((hour * 3600 + minute * 60 + (second - second / 60),
        nanoseconds + second / 60 * 1000000000), mark :: rest) := by
  have inDay : ¬(24 ≤ hour || 60 ≤ minute || 61 ≤ second) = true := by
    simp only [Bool.or_eq_true, decide_eq_true_eq]
    omega
  have hours : hour < 100 := by omega
  have minutes : minute < 100 := by omega
  have seconds : second < 100 := by omega
  simp only [readTime, readTwo_padded hours, readTwo_padded minutes, readTwo_padded seconds,
    readMark_cons, beq_self_eq_true, readFraction_fractionText below notDigit notPoint, bind,
    Except.bind, if_neg inDay, ↓reduceIte]
  split
  · next leap =>
      subst leap
      rfl
  · next within =>
      have none : second / 60 = 0 := by omega
      rw [none, Nat.sub_zero, Nat.zero_mul, Nat.add_zero]

theorem readOffset_utc {divide : Reader Unit} {rest : List Char} :
    readOffset divide ('Z' :: rest) = .ok (0, rest) :=
  rfl

theorem joined_utc {date : Date} {second nanoseconds : Nat} :
    joined date second nanoseconds 0 = .ok ⟨date.toDays * 86400 + second, nanoseconds⟩ := by
  rw [joined, if_pos (by decide), Int.sub_zero]

end Rfc3339

/-! ## Instants -/

namespace Instant

theorem readInstant_rfc3339 {instant : Instant} (valid : instant.isValid = true)
    (four : instant.InFourDigits) :
    Rfc3339.readInstant (instant.rfc3339 .fewest).toList = .ok instant := by
  obtain ⟨year, date, days⟩ := four.date_spec
  have fraction : instant.nanoseconds % 1000000000 < 1000000000 := Nat.mod_lt _ (by decide)
  have time := @Rfc3339.readTime_spelled _ _ _ _ 'Z' [] (clock_lt valid) fraction rfl (by decide)
  rw [toList_rfc3339, yearText_of_four four, Rfc3339.readInstant,
    Rfc3339.readDate_spelled year date]
  simp only [bind, Except.bind, Rfc3339.readMark_cons, beq_self_eq_true, Bool.or_true,
    Bool.true_or, ↓reduceIte, time, Rfc3339.readOffset_utc, List.isEmpty_nil,
    Rfc3339.joined_utc, days]
  simp only [isValid, Bool.or_eq_true, Bool.and_eq_true, decide_eq_true_eq] at valid
  -- Only the last second of a minute, which is the 59th of its day too, can be a leap second.
  have leap : (instant.secondOfDay % 60 + instant.nanoseconds / 1000000000) / 60 =
      instant.nanoseconds / 1000000000 := by
    simp only [secondOfDay]
    omega
  rw [leap, Except.ok.injEq]
  cases instant with
  | mk seconds nanoseconds =>
      simp only [secondOfDay, Instant.mk.injEq]
      omega

end Instant

theorem length_le_utf8Len (characters : List Char) :
    characters.length ≤ String.utf8Len characters := by
  induction characters with
  | nil => exact Nat.zero_le _
  | cons first others ih =>
      rw [List.length_cons, String.utf8Len_cons]
      exact Nat.add_le_add ih first.utf8Size_pos

theorem le_length_padded (width value : Nat) : width ≤ (padded width value).toList.length := by
  rw [padded, String.toList_ofList, List.length_append, List.length_replicate]
  omega

namespace Instant

/-- The text of an instant is never too short to be read. -/
theorem parseRfc3339_rfc3339_eq (instant : Instant) :
    parseRfc3339 (instant.rfc3339 .fewest) =
      Rfc3339.readInstant (instant.rfc3339 .fewest).toList := by
  have long : Rfc3339.leastSize ≤ (instant.rfc3339 .fewest).toList.length := by
    have year : 4 ≤ (yearText instant.date.year).toList.length := by
      rcases yearText_cases instant.date.year with ⟨-, spelled⟩ | ⟨-, spelled⟩ | ⟨-, spelled⟩
      · exact spelled ▸ le_length_padded 4 _
      · exact spelled ▸ Nat.le_succ_of_le (le_length_padded 4 _)
      · exact spelled ▸ Nat.le_succ_of_le (le_length_padded 4 _)
    have two := le_length_padded 2
    rw [toList_rfc3339, Rfc3339.leastSize]
    simp only [List.length_append, List.length_cons, List.length_nil]
    have month := two instant.date.month
    have day := two instant.date.day
    have hour := two (instant.secondOfDay / 3600)
    have minute := two (instant.secondOfDay / 60 % 60)
    have second := two (instant.secondOfDay % 60 + instant.nanoseconds / 1000000000)
    omega
  have size := length_le_utf8Len (instant.rfc3339 .fewest).toList
  rw [← String.utf8ByteSize_ofList, String.ofList_toList] at size
  rw [parseRfc3339, if_neg (Nat.not_lt.mpr (Nat.le_trans long size))]

/-- In the years of four digits an instant is read from its text. -/
theorem parseRfc3339_rfc3339 {instant : Instant} (valid : instant.isValid = true)
    (four : instant.InFourDigits) : parseRfc3339 (instant.rfc3339 .fewest) = .ok instant := by
  rw [parseRfc3339_rfc3339_eq, readInstant_rfc3339 valid four]

/-- Outside the years of four digits the text of an instant is refused. -/
theorem parseRfc3339_of_not_inFourDigits {instant : Instant}
    (outside : ¬instant.InFourDigits) :
    parseRfc3339 (instant.rfc3339 .fewest) = .error .invalid := by
  obtain ⟨sign, rest, signed, notDigit⟩ := signed_of_not_inFourDigits outside
  rw [parseRfc3339_rfc3339_eq, signed]
  simp only [Rfc3339.readInstant, Rfc3339.readDate, Rfc3339.readFour, Rfc3339.readTwo,
    Rfc3339.readDigit_of_not_isDigit notDigit, bind, Except.bind]

end Instant

/-! ## What can be read -/

namespace Rfc3339

variable {text rest : List Char}

theorem digit?_le {character : Char} {digit : Nat} (read : digit? character = some digit) :
    digit ≤ 9 := by
  rw [digit?] at read
  split at read
  · next bounds =>
      simp only [Bool.and_eq_true, decide_eq_true_eq, Char.le_def, UInt32.le_iff_toNat_le] at bounds
      cases read
      have last : character.toNat ≤ 57 := bounds.2
      exact Nat.sub_le_sub_right last 48
  · cases read

theorem readDigit_le {digit : Nat} (read : readDigit text = .ok (digit, rest)) : digit ≤ 9 := by
  cases text with
  | nil => cases read
  | cons character others =>
      rw [readDigit] at read
      split at read
      · next isDigit =>
          cases read
          exact digit?_le isDigit
      · cases read

theorem readTwo_lt {value : Nat} (read : readTwo text = .ok (value, rest)) : value < 100 := by
  simp only [readTwo, Fallible.bind_eq_ok_iff, Prod.exists, pure, Except.pure, Except.ok.injEq,
    Prod.mk.injEq] at read
  obtain ⟨tens, others, first, ones, last, second, rfl, -⟩ := read
  have tensBound := readDigit_le first
  have onesBound := readDigit_le second
  omega

theorem readFour_lt {value : Nat} (read : readFour text = .ok (value, rest)) :
    value < 10000 := by
  simp only [readFour, Fallible.bind_eq_ok_iff, Prod.exists, pure, Except.pure, Except.ok.injEq,
    Prod.mk.injEq] at read
  obtain ⟨hundreds, others, first, ones, last, second, rfl, -⟩ := read
  have hundredsBound := readTwo_lt first
  have onesBound := readTwo_lt second
  omega

theorem readDate_spec {date : Date} (read : readDate text = .ok (date, rest)) :
    date.isValid = true ∧ 0 ≤ date.year ∧ date.year ≤ 9999 := by
  simp only [readDate, Fallible.bind_eq_ok_iff, Prod.exists] at read
  obtain ⟨year, _, four, _, _, _, month, _, _, _, _, _, day, _, _, read⟩ := read
  split at read
  · next valid =>
      cases read
      have below := readFour_lt four
      exact ⟨valid, Int.natCast_nonneg year, Int.ofNat_le.mpr (Nat.le_of_lt_succ below)⟩
  · cases read

theorem nanosecondsOf_le {weight : Nat} {digits : List Char} :
    nanosecondsOf weight digits ≤ 10 * weight - 1 := by
  induction digits generalizing weight with
  | nil => exact Nat.zero_le _
  | cons first others ih =>
      have digit : (digit? first).getD 0 ≤ 9 := by
        cases read : digit? first with
        | none => exact Nat.zero_le 9
        | some digit => exact digit?_le read
      have counts := Nat.mul_le_mul_right weight digit
      have remaining := @ih (weight / 10)
      rw [nanosecondsOf]
      omega

theorem readFraction_lt {nanoseconds : Nat} (read : readFraction text = .ok (nanoseconds, rest)) :
    nanoseconds < 1000000000 := by
  rw [readFraction.eq_def] at read
  split at read
  · dsimp only at read
    split at read
    · cases read
    · cases read
    · cases read
      exact Nat.lt_of_le_of_lt nanosecondsOf_le (by decide)
  · cases read
    decide

theorem readTime_spec {second nanoseconds : Nat}
    (read : readTime text = .ok ((second, nanoseconds), rest)) :
    second < 86400 ∧
      (nanoseconds < 1000000000 ∨ nanoseconds < 2000000000 ∧ second % 60 = 59) := by
  simp only [readTime, Fallible.bind_eq_ok_iff, Prod.exists] at read
  obtain ⟨hour, _, _, _, _, _, minute, _, _, _, _, _, clock, _, _, fraction, _, small, read⟩ :=
    read
  have below := readFraction_lt small
  split at read
  · cases read
  · next inDay =>
      simp only [Bool.or_eq_true, decide_eq_true_eq] at inDay
      split at read
      · cases read
        omega
      · cases read
        omega

theorem readOffsetAmount_mod {divide : Reader Unit} {amount : Nat}
    (read : readOffsetAmount divide text = .ok (amount, rest)) : amount % 60 = 0 := by
  simp only [readOffsetAmount, Fallible.bind_eq_ok_iff, Prod.exists] at read
  obtain ⟨hourTens, hourOnes, _, _, _, _, _, minuteTens, minuteOnes, _, _, read⟩ := read
  split at read
  · cases read
  · cases read
    omega

theorem readOffset_mod {divide : Reader Unit} {offset : Int}
    (read : readOffset divide text = .ok (offset, rest)) : offset % 60 = 0 := by
  cases text with
  | nil => cases read
  | cons mark others =>
      rw [readOffset] at read
      split at read
      · cases read
        rfl
      · split at read
        · simp only [Fallible.bind_eq_ok_iff, Prod.exists, Except.ok.injEq, Prod.mk.injEq] at read
          obtain ⟨amount, _, given, rfl, -⟩ := read
          have whole := readOffsetAmount_mod given
          omega
        · split at read
          · simp only [Fallible.bind_eq_ok_iff, Prod.exists, Except.ok.injEq, Prod.mk.injEq] at read
            obtain ⟨amount, _, given, rfl, -⟩ := read
            have whole := readOffsetAmount_mod given
            omega
          · cases read

/-- An instant that is read is one of the time line, and not before the day before the first one
of the year zero: offsets are of whole minutes and below a day. -/
theorem readInstant_spec {instant : Instant} (read : readInstant text = .ok instant) :
    instant.isValid = true ∧ Date.toDays ⟨-1, 12, 31⟩ * 86400 < instant.seconds := by
  simp only [readInstant, Fallible.bind_eq_ok_iff, Prod.exists] at read
  obtain ⟨date, _, day, _, _, _, second, nanoseconds, _, time, offset, _, zone, read⟩ := read
  obtain ⟨-, first, -⟩ := readDate_spec day
  obtain ⟨inDay, leap⟩ := readTime_spec time
  have minutes := readOffset_mod zone
  have notBefore : Date.toDays ⟨-1, 12, 31⟩ + 1 ≤ date.toDays := by
    have start : yearStart 0 ≤ yearStart date.year := by
      simp only [yearStart]
      omega
    have eve : Date.toDays ⟨-1, 12, 31⟩ + 1 = yearStart 0 := rfl
    rw [eve, Date.toDays]
    omega
  split at read
  · rw [joined] at read
    split at read
    · cases read
      simp only [Instant.isValid, Bool.or_eq_true, Bool.and_eq_true, decide_eq_true_eq]
      omega
    · cases read
  · cases read

end Rfc3339

theorem parseRfc3339_spec {text : String} {instant : Instant}
    (read : parseRfc3339 text = .ok instant) :
    instant.isValid = true ∧ Date.toDays ⟨-1, 12, 31⟩ * 86400 < instant.seconds := by
  rw [parseRfc3339] at read
  split at read
  · cases read
  · exact Rfc3339.readInstant_spec read

/-- The instant that stands for the one before all others is not among those that are read. -/
theorem earliest_lt_of_parse {text : String} {instant : Instant}
    (read : parseRfc3339 text = .ok instant) :
    Instant.earliest.microseconds < instant.microseconds := by
  have after := (parseRfc3339_spec read).2
  have first : Instant.earliest.microseconds = -8334601228800000000 := by decide
  have eve : Date.toDays ⟨-1, 12, 31⟩ = -719529 := by decide
  rw [first, Instant.microseconds]
  omega

end CatalogSteward.Time
