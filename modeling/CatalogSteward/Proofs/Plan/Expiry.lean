import CatalogSteward.Proofs.Plan.Role
import CatalogSteward.Proofs.Sql.Statement
import CatalogSteward.Proofs.Time.Reading

/-!
# Expiries of roles

A statement about a role says until when its password is valid, in a text that denotes the
declared instant. The text can be declared again where its year in UTC has four digits. The
server rounds the instant to a microsecond and a plan drops what is below one, so that the two
agree where the nearest microsecond is not the next one.
-/

set_option autoImplicit false

namespace CatalogSteward

open Sql Time

/-! ## The expiry in a statement -/

namespace Sql

/-- The statement gives a text as the time until which a password is valid. -/
def Statement.Expires (statement : Statement) (text : String) : Prop :=
  ∃ before after, Lexer.tokens? statement.text =
    some (before ++ .word "VALID" :: .word "UNTIL" :: .literal text :: after)

theorem mem_commaSeparated {token : Token} {tokens : List Token}
    (member : token ∈ commaSeparated tokens) : token = .comma ∨ token ∈ tokens := by
  induction tokens with
  | nil => exact .inr member
  | cons first others ih =>
      cases others with
      | nil => exact .inr member
      | cons second others =>
          rcases List.mem_cons.mp member with same | member
          · exact .inr (same ▸ List.mem_cons_self)
          · rcases List.mem_cons.mp member with same | member
            · exact .inl same
            · exact (ih member).imp_right (List.mem_cons_of_mem first)

/-- The keyword of the expiry stands in no list of names. -/
theorem valid_not_mem_listClause {keywords names : List String} (other : "VALID" ∉ keywords) :
    .word "VALID" ∉ (listClause keywords names).flatten := by
  cases names with
  | nil => exact List.not_mem_nil
  | cons name names =>
      rw [listClause, List.flatten_append, List.flatten_singleton, List.mem_append, not_or]
      constructor
      · intro member
        simp only [words, List.mem_flatten, List.mem_map, exists_exists_and_eq_and,
          List.mem_singleton, Token.word.injEq, exists_eq_right'] at member
        exact other member
      · intro member
        rcases mem_commaSeparated member with same | member
        · cases same
        · obtain ⟨name, -, same⟩ := List.mem_map.mp member
          cases same

/-- The options of a role before its expiry. -/
def RoleOptions.front (options : RoleOptions) : List Token :=
  (words [attributeWord options.login "LOGIN"] ++ options.password.phrases ++
    options.attributes.phrases).flatten

theorem RoleOptions.flatten_phrases {options : RoleOptions} :
    options.phrases.flatten =
      options.front ++
        [.word "VALID", .word "UNTIL", .literal (expiryText options.validUntil)] := by
  rw [phrases, List.append_assoc, List.flatten_append, front]
  rfl

theorem attributeWord_ne_valid {given : Bool} {keyword : String} (other : keyword ≠ "VALID") :
    attributeWord given keyword ≠ "VALID" := by
  cases given with
  | true => exact other
  | false =>
      intro same
      have first : ("NO" ++ keyword).toList.head? = "VALID".toList.head? :=
        congrArg (fun text => text.toList.head?) same
      rw [String.toList_append] at first
      cases first

theorem RoleOptions.valid_not_mem_front {options : RoleOptions} :
    .word "VALID" ∉ options.front := by
  have login : "VALID" ≠ attributeWord options.login "LOGIN" :=
    (attributeWord_ne_valid (by decide)).symm
  have password : .word "VALID" ∉ options.password.phrases.flatten := by
    cases options.password with
    | keep => exact List.not_mem_nil
    | set password => simp [PasswordChange.phrases]
    | clear => decide
  have attributes : .word "VALID" ∉ options.attributes.phrases.flatten := by
    have switch : ∀ given : Bool, ∀ keyword, keyword ≠ "VALID" →
        "VALID" ≠ attributeWord given keyword :=
      fun _ _ other => (attributeWord_ne_valid other).symm
    simp [RoleAttributes.phrases, words, switch]
  rw [front, List.flatten_append, List.flatten_append, List.mem_append, List.mem_append, not_or,
    not_or]
  exact ⟨⟨by simpa [words] using login, password⟩, attributes⟩

/-- A command that says everything about a role: it creates the role, or it sets all of its
options anew. -/
inductive Command.SetsAll : Command → RoleOptions → Prop where
  | create {name : String} {options : RoleOptions} {inRole members : List String} :
      SetsAll (.createRole name options inRole members) options
  | alter {name : String} {options : RoleOptions} : SetsAll (.alterRole name options) options

/-- Such a command says once until when the password is valid. -/
theorem Command.SetsAll.tokens_eq {command : Command} {options : RoleOptions}
    (sets : command.SetsAll options) :
    ∃ before after, .word "VALID" ∉ before ∧ .word "VALID" ∉ after ∧
      command.tokens =
        before ++ .word "VALID" :: .word "UNTIL" :: .literal (expiryText options.validUntil) ::
          after := by
  have front := @RoleOptions.valid_not_mem_front options
  cases sets with
  | @create name _ inRole members =>
      refine ⟨.word "CREATE" :: .word "ROLE" :: .identifier name :: .word "WITH" ::
        options.front, (listClause ["IN", "ROLE"] inRole).flatten ++
          (listClause ["ROLE"] members).flatten, ?_, ?_, ?_⟩
      · simpa using front
      · exact List.not_mem_append (valid_not_mem_listClause (by decide))
          (valid_not_mem_listClause (by decide))
      · rw [tokens_createRole, RoleOptions.flatten_phrases]
        simp only [List.append_assoc, List.cons_append, List.nil_append]
  | @alter name _ =>
      refine ⟨.word "ALTER" :: .word "ROLE" :: .identifier name :: .word "WITH" ::
        options.front, [], ?_, List.not_mem_nil, ?_⟩
      · simpa using front
      · rw [tokens_alterRole, RoleOptions.flatten_phrases]
        simp only [List.append_assoc, List.cons_append, List.nil_append]

/-- The statement of such a command gives the text of the expiry, and no other. -/
theorem Command.SetsAll.expires_iff {command : Command} {options : RoleOptions}
    (sets : command.SetsAll options) {text : String} :
    command.statement.Expires text ↔ text = expiryText options.validUntil := by
  obtain ⟨before, after, notBefore, notAfter, spelled⟩ := sets.tokens_eq
  have notLater : .word "VALID" ∉
      .word "UNTIL" :: .literal (expiryText options.validUntil) :: after := by
    simpa using notAfter
  rw [Statement.Expires, command.text_statement, command.tokens?_text, spelled]
  constructor
  · rintro ⟨others, rest, same⟩
    obtain ⟨-, -, later⟩ := (List.append_cons_inj_of_notMem notBefore notLater).mp
      (Option.some.inj same)
    rw [List.cons.injEq, List.cons.injEq, Token.literal.injEq] at later
    exact later.2.1.symm
  · rintro rfl
    exact ⟨before, after, rfl⟩

end Sql

/-! ## Declared expiries -/

theorem parseExpiry_eq_ok_none_iff {declared : Option String} :
    parseExpiry declared = .ok none ↔ Text.nonBlank? declared = none := by
  rw [parseExpiry]
  cases Text.nonBlank? declared with
  | none => exact iff_of_true rfl rfl
  | some given =>
      cases read : parseRfc3339 (Text.trim given) with
      | error fault => simp only [read, reduceCtorEq]
      | ok instant => simp only [read, Except.ok.injEq, reduceCtorEq]

theorem parseExpiry_eq_ok_some_iff {declared : Option String} {instant : Instant} :
    parseExpiry declared = .ok (some instant) ↔
      ∃ given, Text.nonBlank? declared = some given ∧
        parseRfc3339 (Text.trim given) = .ok instant := by
  rw [parseExpiry]
  cases Text.nonBlank? declared with
  | none => exact iff_of_false nofun nofun
  | some given =>
      cases read : parseRfc3339 (Text.trim given) with
      | error fault => simp only [read, reduceCtorEq, Option.some.injEq, exists_eq_left']
      | ok other => simp only [read, Except.ok.injEq, Option.some.injEq, exists_eq_left']

/-- The text of an instant is not blank, and there is no white space around it. -/
theorem Time.Instant.nonBlank?_rfc3339 (instant : Instant) :
    Text.nonBlank? (some (instant.rfc3339 .fewest)) = some (instant.rfc3339 .fewest) ∧
      Text.trim (instant.rfc3339 .fewest) = instant.rfc3339 .fewest := by
  obtain ⟨first, others, begins, head⟩ := instant.head_rfc3339
  have visible : Text.isSpace first = false := by
    rcases head with digit | rfl | rfl
    · exact Text.isSpace_of_isDigit digit
    · rfl
    · rfl
  have ends : ∃ before, (instant.rfc3339 .fewest).toList = before ++ ['Z'] := by
    rw [Instant.rfc3339, String.toList_append]
    exact ⟨_, rfl⟩
  obtain ⟨before, ends⟩ := ends
  refine ⟨?_, Text.trim_eq_self begins ends visible rfl⟩
  have written : instant.rfc3339 .fewest = String.ofList (first :: others) := by
    rw [← begins, String.ofList_toList]
  rw [written]
  exact Text.nonBlank?_of_head visible

/-- A text that an instant has in a statement can be declared, where the year has four digits. -/
theorem parseExpiry_rfc3339 {instant : Instant} (valid : instant.isValid = true) :
    parseExpiry (some (instant.rfc3339 .fewest)) =
      if instant.InFourDigits then .ok (some instant)
      else .error (.invalidExpiry (instant.rfc3339 .fewest) .invalid) := by
  obtain ⟨visible, trimmed⟩ := instant.nonBlank?_rfc3339
  rw [parseExpiry, visible]
  by_cases four : instant.InFourDigits
  · simp only [trimmed, Instant.parseRfc3339_rfc3339 valid four, if_pos four]
  · simp only [trimmed, Instant.parseRfc3339_of_not_inFourDigits four, if_neg four]

theorem isValid_of_parseExpiry {declared : Option String} {instant : Instant}
    (accepted : parseExpiry declared = .ok (some instant)) : instant.isValid = true := by
  obtain ⟨given, -, read⟩ := parseExpiry_eq_ok_some_iff.mp accepted
  exact (parseRfc3339_spec read).1

/-- What a declared expiry becomes. A command that says everything about a role gives one text as
its expiry: `infinity` where none is declared, or only white space. Otherwise the text is that of
the instant that is declared. It has the form of RFC 3339 exactly where the year of the instant
in UTC has four digits, which the offset of the declared text can take it out of; there the text
is accepted as the same instant, to the nanosecond and in leap seconds too, and elsewhere it is
refused. -/
theorem expiry_denotes_declared {declared : Option String} {command : Command}
    {options : RoleOptions} (sets : command.SetsAll options)
    (accepted : parseExpiry declared = .ok options.validUntil) :
    ∃ literal, (∀ text, command.statement.Expires text ↔ text = literal) ∧
      (Text.nonBlank? declared = none → literal = "infinity") ∧
        ∀ given, Text.nonBlank? declared = some given →
          ∃ instant, parseRfc3339 (Text.trim given) = .ok instant ∧
            (IsRfc3339 literal ↔ instant.InFourDigits) ∧
              parseExpiry (some literal) =
                if instant.InFourDigits then .ok (some instant)
                else .error (.invalidExpiry literal .invalid) := by
  refine ⟨expiryText options.validUntil, fun text => sets.expires_iff, ?_, ?_⟩
  · intro blank
    rw [parseExpiry_eq_ok_none_iff.mpr blank, Except.ok.injEq] at accepted
    rw [← accepted]
    rfl
  · intro given declares
    cases expiry : options.validUntil with
    | none =>
        rw [expiry, parseExpiry_eq_ok_none_iff, declares] at accepted
        cases accepted
    | some instant =>
        rw [expiry] at accepted
        have valid := isValid_of_parseExpiry accepted
        obtain ⟨text, declares', read⟩ := parseExpiry_eq_ok_some_iff.mp accepted
        cases declares.symm.trans declares'
        exact ⟨instant, read, Instant.isRfc3339_iff valid, parseExpiry_rfc3339 valid⟩

private def lastSecond : Instant := ⟨1483228799, 1250000000⟩

private def leapOptions : RoleOptions where
  login := false
  password := .keep
  attributes := .standard
  validUntil := some lastSecond

theorem expiry_denotes_declared_in_leap_second :
    ((Command.alterRole "teller" leapOptions).SetsAll leapOptions ∧
        parseExpiry (some "2016-12-31T23:59:60.25Z") = .ok leapOptions.validUntil) ∧
      ∃ literal,
        (∀ text, (Command.alterRole "teller" leapOptions).statement.Expires text ↔
            text = literal) ∧
          IsRfc3339 literal ∧ parseExpiry (some literal) = .ok (some lastSecond) := by
  have accepted : parseExpiry (some "2016-12-31T23:59:60.25Z") =
      .ok leapOptions.validUntil := by rfl
  have read : parseRfc3339 (Text.trim "2016-12-31T23:59:60.25Z") = .ok lastSecond := by rfl
  have four : lastSecond.InFourDigits := by decide
  obtain ⟨literal, expires, -, reads⟩ := expiry_denotes_declared .alter accepted
  obtain ⟨instant, same, form, again⟩ := reads "2016-12-31T23:59:60.25Z" rfl
  cases read.symm.trans same
  rw [if_pos four] at again
  exact ⟨⟨.alter, accepted⟩, literal, expires, form.mpr four, again⟩

private def firstHour : Instant := ⟨-62167222800, 0⟩

private def earlyOptions : RoleOptions :=
  { leapOptions with validUntil := some firstHour }

theorem declared_year_zero_is_refused :
    parseExpiry (some "0000-01-01T00:00:00+01:00") = .ok (some firstHour) ∧
      (Command.createRole "teller" earlyOptions [] []).statement.Expires
          "-0001-12-31T23:00:00Z" ∧
        parseExpiry (some "-0001-12-31T23:00:00Z") =
          .error (.invalidExpiry "-0001-12-31T23:00:00Z" .invalid) := by
  refine ⟨by rfl, ?_, by rfl⟩
  have spelled : "-0001-12-31T23:00:00Z" = expiryText earlyOptions.validUntil := by rfl
  exact Command.SetsAll.create.expires_iff.mpr spelled

/-! ## Stored expiries -/

/-- No number of microseconds is nearer to an instant; of two that are equally near, either is
nearest. A leap second counts on into the second after it. -/
def IsNearest (microseconds : Int) (instant : Instant) : Prop :=
  2 * (1000 * microseconds - (1000000000 * instant.seconds + instant.nanoseconds)).natAbs ≤ 1000

instance (microseconds : Int) (instant : Instant) : Decidable (IsNearest microseconds instant) :=
  inferInstanceAs (Decidable (_ ≤ _))

/-- What the server keeps of the text of an expiry: the time after all others, or the nearest
microsecond. -/
inductive IsStoredAs : String → ServerInstant → Prop where
  | never : IsStoredAs "infinity" .afterAll
  | nearest {instant : Instant} {microseconds : Int} (valid : instant.isValid = true)
      (nearest : IsNearest microseconds instant) :
      IsStoredAs (instant.rfc3339 .fewest) (.at (.ofMicroseconds microseconds))

/-- A password without an expiry is kept as one that never stops working. -/
theorem IsStoredAs.eq_afterAll {stored : ServerInstant}
    (kept : IsStoredAs (expiryText none) stored) : stored = .afterAll := by
  generalize spelled : expiryText none = text at kept
  cases kept with
  | never => rfl
  | @nearest instant microseconds valid nearest =>
      have same := @expiryText_injective none (some instant) nofun
        (fun _ same => Option.some.inj same ▸ valid) spelled
      cases same

theorem IsStoredAs.exists_nearest {instant : Instant} {stored : ServerInstant}
    (valid : instant.isValid = true) (kept : IsStoredAs (expiryText (some instant)) stored) :
    ∃ microseconds, IsNearest microseconds instant ∧
      stored = .at (.ofMicroseconds microseconds) := by
  generalize spelled : expiryText (some instant) = text at kept
  cases kept with
  | never =>
      have same := @expiryText_injective (some instant) none
        (fun _ same => Option.some.inj same ▸ valid) nofun spelled
      cases same
  | @nearest other microseconds alsoValid nearest =>
      rw [Instant.rfc3339_injective valid alsoValid spelled]
      exact ⟨microseconds, nearest, rfl⟩

/-- The nearest microsecond is the last one before the instant, or the next one; which of them,
the nanoseconds after the last one say. -/
theorem IsNearest.eq_or_eq {microseconds : Int} {instant : Instant}
    (nearest : IsNearest microseconds instant) :
    (microseconds = instant.microseconds ∧ instant.nanoseconds % 1000 ≤ 500) ∨
      (microseconds = instant.microseconds + 1 ∧ 500 ≤ instant.nanoseconds % 1000) := by
  rw [IsNearest] at nearest
  rw [Instant.microseconds]
  omega

/-- An expiry that can be declared is never the one that stands for the time before all others. -/
theorem sameExpiry_beforeAll {declared : Option String} {validUntil : Option Instant}
    (accepted : parseExpiry declared = .ok validUntil) :
    sameExpiry validUntil ServerInstant.beforeAll.expiry = false := by
  rw [sameExpiry, ServerInstant.expiry, beq_eq_false_iff_ne]
  intro same
  cases validUntil with
  | none => cases same
  | some instant =>
      obtain ⟨given, -, read⟩ := parseExpiry_eq_ok_some_iff.mp accepted
      have later := earliest_lt_of_parse read
      rw [Option.map_some, Option.map_some, Option.some.injEq] at same
      omega

namespace RoleDeclaration

variable {declaration : RoleDeclaration} {password : Option String}
  {validUntil : Option Instant} {current : RoleState}

/-- The command that only sets anew what agrees already, with the declared expiry. -/
def renewal (declaration : RoleDeclaration) (password : Option String)
    (validUntil : Option Instant) : Command :=
  .alterRole declaration.name
    (declaration.options (declaration.passwordChange password true) validUntil)

/-- Where a role agrees in everything but its expiry, a plan does nothing or sets that anew. -/
theorem commands_repair_of_expiry (given : password.isSome = declaration.login)
    (accepted : parseExpiry declaration.flags.validUntil = .ok validUntil)
    (otherwise : declaration.Agrees password { current with validUntil := validUntil }) :
    (declaration.repair password validUntil current).commands =
      if sameExpiry validUntil current.validUntil = true then []
      else [declaration.renewal password validUntil] := by
  obtain ⟨agree, comment⟩ := (agrees_iff given accepted).mp otherwise
  have memberships := membershipCommands_of_agree agree
  have agrees : declaration.passwordAgrees password current = true :=
    (passwordAgrees_iff given).mpr otherwise.password
  have optionsAgree : declaration.optionsAgree password validUntil current =
      sameExpiry validUntil current.validUntil := by
    rw [Bool.eq_iff_iff, optionsAgree_iff given]
    rw [optionsAgree_iff given] at agree
    obtain ⟨login, accepts, attributes, -, inRole, members⟩ := agree
    rw [sameExpiry, beq_iff_eq]
    exact ⟨fun all => all.2.2.2.1.symm,
      fun same => ⟨login, accepts, attributes, same.symm, inRole, members⟩⟩
  have changes : declaration.membershipCommands current = [] := memberships
  have comments : declaration.commenting current = [] := if_pos comment
  rw [commands_repair, changes, comments, List.append_nil, List.append_nil, alteration,
    optionsAgree, agrees]
  rfl

/-- The declared expiry is compared with what the server keeps of it. Where a role agrees with
its declaration otherwise, a plan finds nothing to do exactly where the microsecond that the
server keeps is the last one before the declared instant, as it is where less than half a
microsecond is over. Where more than half of one is over, the server keeps the next one, and the
expiry is set anew each time; where it is just half of one, that depends on how the server rounds.
An expiry that is not declared is kept as it is. One before all others is never what is
declared. -/
theorem stored_expiry_agrees_exactly {row : RoleRow} {inRole members : List String}
    (given : password.isSome = declaration.passwordSecret.isSome)
    (accepted : parseExpiry declaration.flags.validUntil = .ok validUntil)
    (otherwise : declaration.Agrees password
      { row.state inRole members with validUntil := validUntil }) :
    (∀ stored, row.validUntil = some stored → IsStoredAs (expiryText validUntil) stored →
      ∃ plan, declaration.plan password (some (row.state inRole members)) = .ok plan ∧
        plan.commands =
          (if sameExpiry validUntil stored.expiry = true then []
          else [declaration.renewal password validUntil]) ∧
        (validUntil = none → sameExpiry validUntil stored.expiry = true) ∧
        ∀ instant, validUntil = some instant →
          (sameExpiry validUntil stored.expiry = true ↔
            stored = .at (.ofMicroseconds instant.microseconds)) ∧
          (instant.nanoseconds % 1000 < 500 → sameExpiry validUntil stored.expiry = true) ∧
          (500 < instant.nanoseconds % 1000 → sameExpiry validUntil stored.expiry = false)) ∧
      sameExpiry validUntil ServerInstant.beforeAll.expiry = false := by
  refine ⟨?_, sameExpiry_beforeAll accepted⟩
  intro stored kept isStored
  have read : (row.state inRole members).validUntil = stored.expiry := by
    rw [RoleRow.state, kept]
    rfl
  refine ⟨_, plan_eq_ok_iff.mpr ⟨validUntil, accepted, rfl⟩, ?_, ?_, ?_⟩
  · rw [← read]
    exact commands_repair_of_expiry given accepted otherwise
  · rintro rfl
    rw [isStored.eq_afterAll]
    rfl
  · rintro instant rfl
    obtain ⟨microseconds, nearest, rfl⟩ :=
      isStored.exists_nearest (isValid_of_parseExpiry accepted)
    have agrees : sameExpiry (some instant)
        (ServerInstant.at (.ofMicroseconds microseconds)).expiry = true ↔
          microseconds = instant.microseconds := by
      rw [sameExpiry, beq_iff_eq, ServerInstant.expiry, Option.map_some, Option.map_some,
        Option.some.injEq, Instant.microseconds_ofMicroseconds, eq_comm]
    refine ⟨?_, ?_, ?_⟩
    · rw [agrees]
      constructor
      · rintro rfl
        rfl
      · intro same
        have instants := congrArg Instant.microseconds (ServerInstant.at.inj same)
        rwa [Instant.microseconds_ofMicroseconds, Instant.microseconds_ofMicroseconds] at instants
    · intro less
      rw [agrees]
      rcases nearest.eq_or_eq with ⟨last, -⟩ | ⟨-, more⟩
      · exact last
      · omega
    · intro more
      rw [Bool.eq_false_iff, ne_eq, agrees]
      rcases nearest.eq_or_eq with ⟨-, less⟩ | ⟨next, -⟩
      · omega
      · omega

private def season (validUntil : String) : RoleDeclaration where
  name := "teller"
  comment := none
  cluster := ⟨"main", none⟩
  passwordSecret := none
  flags := { RoleFlags.standard with validUntil := some validUntil }

private def seasonRow (microseconds : Int) : RoleRow where
  login := false
  attributes := .standard
  validUntil := some (.at (.ofMicroseconds microseconds))
  verifier := none
  comment := none

private theorem season_otherwise {text : String} {validUntil : Option Instant}
    {microseconds : Int} (accepted : parseExpiry (some text) = .ok validUntil) :
    (season text).Agrees none
      { (seasonRow microseconds).state [] [] with validUntil := validUntil } :=
  ⟨rfl, nofun, rfl, ⟨validUntil, accepted, rfl⟩, fun _ => Iff.rfl, fun _ => Iff.rfl, rfl⟩

private def underHalf : Instant := ⟨1893456000, 499⟩

theorem stored_expiry_agrees_exactly_below_half :
    ((none : Option String).isSome = (season "2030-01-01T00:00:00.000000499Z").login ∧
        parseExpiry (some "2030-01-01T00:00:00.000000499Z") = .ok (some underHalf) ∧
          IsStoredAs (expiryText (some underHalf)) (.at (.ofMicroseconds 1893456000000000))) ∧
      ∃ plan, (season "2030-01-01T00:00:00.000000499Z").plan none
          (some ((seasonRow 1893456000000000).state [] [])) = .ok plan ∧
        plan.commands = [] := by
  have accepted : parseExpiry (some "2030-01-01T00:00:00.000000499Z") = .ok (some underHalf) := by
    rfl
  have stored : IsStoredAs (expiryText (some underHalf))
      (.at (.ofMicroseconds 1893456000000000)) :=
    .nearest (by decide) (by decide)
  obtain ⟨plan, planned, commands, -, finds⟩ :=
    (stored_expiry_agrees_exactly rfl accepted (season_otherwise accepted)).1 _ rfl stored
  rw [if_pos ((finds underHalf rfl).2.1 (by decide))] at commands
  exact ⟨⟨rfl, accepted, stored⟩, plan, planned, commands⟩

private def overHalf : Instant := ⟨1893456000, 600⟩

theorem expiry_over_half_is_renewed :
    parseExpiry (some "2030-01-01T00:00:00.0000006Z") = .ok (some overHalf) ∧
      IsStoredAs (expiryText (some overHalf)) (.at (.ofMicroseconds 1893456000000001)) ∧
        ∃ plan, (season "2030-01-01T00:00:00.0000006Z").plan none
            (some ((seasonRow 1893456000000001).state [] [])) = .ok plan ∧
          plan.commands =
            [(season "2030-01-01T00:00:00.0000006Z").renewal none (some overHalf)] := by
  have accepted : parseExpiry (some "2030-01-01T00:00:00.0000006Z") = .ok (some overHalf) := by
    rfl
  refine ⟨accepted, .nearest (by decide) (by decide), _,
    plan_eq_ok_iff.mpr ⟨_, accepted, rfl⟩, ?_⟩
  exact commands_repair_of_expiry rfl accepted (season_otherwise accepted)

end RoleDeclaration

end CatalogSteward
