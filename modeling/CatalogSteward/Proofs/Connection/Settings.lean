import CatalogSteward.Proofs.Connection.Preferences

/-!
# Settings from parameters

What comes of the parameters of a connection is what comes of looking each known
name up by itself: the same settings, or the same objection where there are
several. No connection is encrypted or verified less than its mode says, and
parameters that are not known change nothing.
-/

set_option autoImplicit false

namespace CatalogSteward

open Decimal Fallible

/-- The value that a connection gives a parameter. -/
def ConnectionDeclaration.given (declaration : ConnectionDeclaration) (name : String) :
    Option String :=
  declaration.parameterMap[name]?

/-- A connection with other parameters. -/
def ConnectionDeclaration.withParameters (declaration : ConnectionDeclaration)
    (parameters : List (String × String)) : ConnectionDeclaration :=
  { declaration with parameters := parameters }

namespace ConnectionSettings

/-! ## Settings by look-ups -/

/-- The modes in which the certificate of the server is verified. -/
def Verifies (mode : String) : Prop :=
  mode = "verify-ca" ∨ mode = "verify-full"

def IsSupported (mode : String) : Prop :=
  mode = "disable" ∨ mode = "prefer" ∨ mode = "require" ∨ Verifies mode

/-- An objection to the mode of encryption. -/
inductive ObjectsToMode (given : String → Option String) : ParameterDefect → Prop where
  | unsupportedMode {mode : String} :
      given "sslmode" = some mode → ¬IsSupported mode →
        ObjectsToMode given (.unsupportedMode mode)
  | rootCertificateMissing {mode : String} :
      given "sslmode" = some mode → Verifies mode → given "sslrootcert" = none →
        ObjectsToMode given (.rootCertificateMissing mode)

/-- The objection that is reported: one to the mode only where there is none to the seconds. -/
def Objects (given : String → Option String) (defect : ParameterDefect) : Prop :=
  ObjectsToSeconds given defect ∨
    (∀ other, ¬ObjectsToSeconds given other) ∧ ObjectsToMode given defect

/-- Settings do what the parameters that are given say, each by itself. -/
structure Follows (given : String → Option String) (settings : ConnectionSettings) : Prop where
  plain : settings.trust = .plain ↔ given "sslmode" = some "disable"
  unverified : settings.trust = .unverified ↔
    given "sslmode" = none ∨ given "sslmode" = some "prefer" ∨ given "sslmode" = some "require"
  verified : ∀ path, settings.trust = .verified path ↔
    (given "sslmode" = some "verify-ca" ∨ given "sslmode" = some "verify-full") ∧
      given "sslrootcert" = some path
  never : settings.encryption = .never ↔ given "sslmode" = some "disable"
  preferred : settings.encryption = .preferred ↔
    given "sslmode" = none ∨ given "sslmode" = some "prefer"
  required : settings.encryption = .required ↔
    given "sslmode" = some "require" ∨ given "sslmode" = some "verify-ca" ∨
      given "sslmode" = some "verify-full"
  applicationName :
    settings.applicationName = (given "application_name").getD "pg-object-operator"
  options : settings.options = given "options"
  connectTimeout : IsSecondsOf 10 (given "connect_timeout") settings.connectTimeout
  keepalives : settings.keepalives = false ↔ given "keepalives" = some "0"
  keepalivesIdle : IsSecondsOf 7200 (given "keepalives_idle") settings.keepalivesIdle

/-- Settings lead to the server of a connection, to a database on it and as a user. -/
structure LeadsTo (settings : ConnectionSettings) (declaration : ConnectionDeclaration)
    (database user password : String) : Prop where
  endpoint : settings.endpoint = endpointOf declaration.host
  port : settings.port = declaration.port
  database : settings.database = database
  user : settings.user = user
  password : settings.password = password

variable {preferences : Preferences} {defect : ParameterDefect} {given : String → Option String}

/-! ## Modes of encryption -/

variable {mode : String} {rootCertificate : Option String} {trust : Trust}

theorem trustOf_eq_error_iff :
    trustOf mode rootCertificate = .error defect ↔
      ¬IsSupported mode ∧ defect = .unsupportedMode mode ∨
        Verifies mode ∧ rootCertificate = none ∧ defect = .rootCertificateMissing mode := by
  unfold trustOf IsSupported Verifies
  split
  case h_6 => simp_all [eq_comm]
  case h_4 | h_5 => cases rootCertificate <;> simp [eq_comm]
  all_goals simp

/-- How certificates are looked at in a mode is what the mode says. -/
theorem trust_of_trustOf (trusted : trustOf mode rootCertificate = .ok trust) :
    IsSupported mode ∧ (trust = .plain ↔ mode = "disable") ∧
      (trust = .unverified ↔ mode = "prefer" ∨ mode = "require") ∧
        ∀ path, trust = .verified path ↔ Verifies mode ∧ rootCertificate = some path := by
  unfold trustOf at trusted
  unfold IsSupported Verifies
  split at trusted
  case h_6 => cases trusted
  case h_4 | h_5 =>
    split at trusted
    · cases trusted
      simp
    · cases trusted
  all_goals
    cases trusted
    simp

theorem encryptionOf_iff (supported : IsSupported mode) :
    (encryptionOf mode = .never ↔ mode = "disable") ∧
      (encryptionOf mode = .preferred ↔ mode = "prefer") ∧
        (encryptionOf mode = .required ↔ mode = "require" ∨ Verifies mode) := by
  unfold Verifies
  rcases supported with rfl | rfl | rfl | rfl | rfl <;> decide

section Mode

variable (reflects : Reflects given preferences)

include reflects

theorem Reflects.mode_iff :
    preferences.mode = mode ↔
      given "sslmode" = some mode ∨ given "sslmode" = none ∧ mode = "prefer" := by
  rw [reflects.mode]
  cases given "sslmode" with
  | none => simp [eq_comm]
  | some other => simp

theorem Reflects.verifies_iff :
    Verifies preferences.mode ↔
      given "sslmode" = some "verify-ca" ∨ given "sslmode" = some "verify-full" := by
  simp [Verifies, reflects.mode_iff]

theorem Reflects.objectsToMode_iff :
    trustOf preferences.mode preferences.rootCertificate = .error defect ↔
      ObjectsToMode given defect := by
  rw [trustOf_eq_error_iff, reflects.rootCertificate, reflects.mode]
  constructor
  · intro objected
    cases found : given "sslmode" with
    | none =>
        rw [found] at objected
        rcases objected with ⟨unsupported, -⟩ | ⟨verifies, -⟩
        · exact absurd (.inr (.inl rfl)) unsupported
        · exact absurd verifies (by simp [Verifies])
    | some mode =>
        rw [found] at objected
        rcases objected with ⟨unsupported, rfl⟩ | ⟨verifies, missing, rfl⟩
        · exact .unsupportedMode found unsupported
        · exact .rootCertificateMissing found verifies missing
  · intro objects
    cases objects with
    | unsupportedMode found unsupported =>
        rw [found]
        exact .inl ⟨unsupported, rfl⟩
    | rootCertificateMissing found verifies missing =>
        rw [found]
        exact .inr ⟨verifies, missing, rfl⟩

end Mode

/-! ## Settings of a declaration -/

variable {declaration : ConnectionDeclaration} {database : Option String}
  {user password : String} {settings : ConnectionSettings}

theorem ofDeclaration_eq_error_iff :
    ofDeclaration declaration database user password = .error defect ↔
      Objects declaration.given defect := by
  have unread : ∀ other, Preferences.ofParameters declaration.parameterMap = .error other ↔
      ObjectsToSeconds declaration.given other := fun _ => ofParameters_eq_error_iff
  rw [ofDeclaration, bind_eq_error_iff, Objects, unread]
  apply or_congr_right
  simp only [bind_eq_error_iff, pure, Except.pure, reduceCtorEq, and_false, exists_false, or_false]
  constructor
  · intro failed
    obtain ⟨preferences, read, objected⟩ := failed
    have reflects : Reflects declaration.given preferences := reflects_of_ofParameters read
    refine ⟨fun other objects => ?_, reflects.objectsToMode_iff.mp objected⟩
    cases read.symm.trans ((unread other).mpr objects)
  · intro objects
    obtain ⟨none, objects⟩ := objects
    cases read : Preferences.ofParameters declaration.parameterMap with
    | error other => exact absurd ((unread other).mp read) (none other)
    | ok preferences =>
        have reflects : Reflects declaration.given preferences := reflects_of_ofParameters read
        exact ⟨preferences, rfl, reflects.objectsToMode_iff.mpr objects⟩

theorem follows_of_ofDeclaration
    (made : ofDeclaration declaration database user password = .ok settings) :
    Follows declaration.given settings ∧
      settings.LeadsTo declaration (database.getD declaration.database) user password := by
  obtain ⟨preferences, read, made⟩ := bind_eq_ok_iff.mp made
  obtain ⟨trust, trusted, made⟩ := bind_eq_ok_iff.mp made
  cases made
  have reflects : Reflects declaration.given preferences := reflects_of_ofParameters read
  obtain ⟨supported, plain, unverified, verified⟩ := trust_of_trustOf trusted
  obtain ⟨never, preferred, required⟩ := encryptionOf_iff supported
  refine ⟨⟨?_, ?_, ?_, ?_, ?_, ?_, reflects.applicationName, reflects.options,
    reflects.connectTimeout, reflects.keepalives, reflects.keepalivesIdle⟩,
    ⟨rfl, rfl, rfl, rfl, rfl⟩⟩
  · rw [plain, reflects.mode_iff]
    simp
  · rw [unverified, reflects.mode_iff, reflects.mode_iff]
    simp
    grind
  · intro path
    rw [verified, reflects.verifies_iff, reflects.rootCertificate]
  · rw [never, reflects.mode_iff]
    simp
  · rw [preferred, reflects.mode_iff]
    simp
    grind
  · rw [required, reflects.mode_iff, reflects.verifies_iff]
    simp

theorem Follows.unique {others : ConnectionSettings} {database : String}
    (follows : Follows given settings) (again : Follows given others)
    (leads : settings.LeadsTo declaration database user password)
    (leadsAgain : others.LeadsTo declaration database user password) : settings = others := by
  have trust : settings.trust = others.trust := by
    cases looked : settings.trust with
    | plain => exact (again.plain.mpr (follows.plain.mp looked)).symm
    | unverified => exact (again.unverified.mpr (follows.unverified.mp looked)).symm
    | verified path => exact ((again.verified path).mpr ((follows.verified path).mp looked)).symm
  have encryption : settings.encryption = others.encryption := by
    cases encrypted : settings.encryption with
    | never => exact (again.never.mpr (follows.never.mp encrypted)).symm
    | preferred => exact (again.preferred.mpr (follows.preferred.mp encrypted)).symm
    | required => exact (again.required.mpr (follows.required.mp encrypted)).symm
  have connectTimeout := follows.connectTimeout.unique again.connectTimeout
  have keepalivesIdle := follows.keepalivesIdle.unique again.keepalivesIdle
  have keepalives : settings.keepalives = others.keepalives := by
    rw [Bool.eq_iff_iff, ← Bool.not_eq_false, ← Bool.not_eq_false, follows.keepalives,
      again.keepalives]
  have applicationName := follows.applicationName.trans again.applicationName.symm
  have options := follows.options.trans again.options.symm
  have endpoint := leads.endpoint.trans leadsAgain.endpoint.symm
  have port := leads.port.trans leadsAgain.port.symm
  have database := leads.database.trans leadsAgain.database.symm
  have user := leads.user.trans leadsAgain.user.symm
  have password := leads.password.trans leadsAgain.password.symm
  cases settings
  cases others
  simp_all only

theorem ofDeclaration_eq_ok_iff :
    ofDeclaration declaration database user password = .ok settings ↔
      (∀ defect, ¬Objects declaration.given defect) ∧ Follows declaration.given settings ∧
        settings.LeadsTo declaration (database.getD declaration.database) user password := by
  constructor
  · intro made
    refine ⟨fun defect objects => ?_, follows_of_ofDeclaration made⟩
    cases made.symm.trans (ofDeclaration_eq_error_iff.mpr objects)
  · intro follows
    obtain ⟨none, follows, leads⟩ := follows
    cases made : ofDeclaration declaration database user password with
    | error defect => exact absurd (ofDeclaration_eq_error_iff.mp made) (none defect)
    | ok others =>
        obtain ⟨again, leadsAgain⟩ := follows_of_ofDeclaration made
        rw [follows.unique again leads leadsAgain]

/-- There is something to object to where a number of seconds cannot be read, the mode is not
supported, or a certificate is to be verified without a root. -/
theorem exists_objects_iff :
    (∃ defect, Objects given defect) ↔
      Misread (given "connect_timeout") ∨ Misread (given "keepalives_idle") ∨
        ∃ mode, given "sslmode" = some mode ∧
          (¬IsSupported mode ∨ Verifies mode ∧ given "sslrootcert" = none) := by
  constructor
  · intro objectionable
    obtain ⟨defect, seconds | ⟨-, mode⟩⟩ := objectionable
    · cases seconds with
      | connectTimeout found unread => exact .inl ⟨_, found, unread⟩
      | keepalivesIdle _ found unread => exact .inr (.inl ⟨_, found, unread⟩)
    · cases mode with
      | unsupportedMode found unsupported => exact .inr (.inr ⟨_, found, .inl unsupported⟩)
      | rootCertificateMissing found verifies missing =>
          exact .inr (.inr ⟨_, found, .inr ⟨verifies, missing⟩⟩)
  · intro objectionable
    by_cases untimed : Misread (given "connect_timeout")
    · obtain ⟨value, found, unread⟩ := untimed
      exact ⟨_, .inl (.connectTimeout found unread)⟩
    by_cases unkept : Misread (given "keepalives_idle")
    · obtain ⟨value, found, unread⟩ := unkept
      exact ⟨_, .inl (.keepalivesIdle untimed found unread)⟩
    have none : ∀ other, ¬ObjectsToSeconds given other := by
      intro other objects
      cases objects with
      | connectTimeout found unread => exact untimed ⟨_, found, unread⟩
      | keepalivesIdle _ found unread => exact unkept ⟨_, found, unread⟩
    obtain ⟨mode, found, unsupported | ⟨verifies, missing⟩⟩ :=
      (objectionable.resolve_left untimed).resolve_left unkept
    · exact ⟨_, .inr ⟨none, .unsupportedMode found unsupported⟩⟩
    · exact ⟨_, .inr ⟨none, .rootCertificateMissing found verifies missing⟩⟩

/-! ## Unknown parameters -/

theorem ofDeclaration_congr {parameters others : List (String × String)}
    (same : ∀ name ∈ knownParameters,
      (declaration.withParameters parameters).given name =
        (declaration.withParameters others).given name) :
    ofDeclaration (declaration.withParameters parameters) database user password =
      ofDeclaration (declaration.withParameters others) database user password := by
  have read := ofParameters_congr same
  rw [ofDeclaration, ofDeclaration, read]
  rfl

theorem given_insert {before after : List (String × String)} {key value name : String}
    (different : key ≠ name) :
    (declaration.withParameters (before ++ (key, value) :: after)).given name =
      (declaration.withParameters (before ++ after)).given name := by
  simp only [ConnectionDeclaration.given, ConnectionDeclaration.parameterMap,
    ConnectionDeclaration.withParameters, Std.ExtTreeMap.ofList_eq_insertMany_empty,
    Std.ExtTreeMap.getElem?_insertMany_list, List.findSomeRev?_eq_findSome?_reverse,
    List.reverse_append, List.reverse_cons, List.findSome?_append, List.findSome?_cons,
    List.findSome?_nil, Std.LawfulEqCmp.compare_eq_iff_eq, different, ↓reduceIte, Option.or_none]

/-! ## Known parameters -/

/-- Settings follow the known parameters and nothing else, each looked up by itself. There are none
exactly where the time to connect or to keep a connection is not a whole number of seconds, the
mode is not supported, or a certificate is to be verified without a root; of several objections the
first in this order is reported. Otherwise a connection is encrypted and its certificate verified
exactly as the mode says, and each other parameter is what was given or the standard. Parameters
under other names may be added or left out. -/
theorem settings_follow_known_parameters (declaration : ConnectionDeclaration)
    (database : Option String) (user password : String) :
    (∀ defect,
        ofDeclaration declaration database user password = .error defect ↔
          Objects declaration.given defect) ∧
      ((∃ defect, ofDeclaration declaration database user password = .error defect) ↔
        Misread (declaration.given "connect_timeout") ∨
          Misread (declaration.given "keepalives_idle") ∨
            ∃ mode, declaration.given "sslmode" = some mode ∧
              (¬IsSupported mode ∨
                Verifies mode ∧ declaration.given "sslrootcert" = none)) ∧
      (∀ settings,
        ofDeclaration declaration database user password = .ok settings ↔
          (∀ defect, ¬Objects declaration.given defect) ∧
            Follows declaration.given settings ∧
              settings.LeadsTo declaration (database.getD declaration.database) user
                password) ∧
      (∀ parameters,
        (∀ name ∈ knownParameters,
          (declaration.withParameters parameters).given name = declaration.given name) →
          ofDeclaration (declaration.withParameters parameters) database user password =
            ofDeclaration declaration database user password) ∧
      ∀ before key value after, key ∉ knownParameters →
        ofDeclaration (declaration.withParameters (before ++ (key, value) :: after)) database
            user password =
          ofDeclaration (declaration.withParameters (before ++ after)) database user
            password := by
  refine ⟨fun _ => ofDeclaration_eq_error_iff, ?fails, fun _ => ofDeclaration_eq_ok_iff,
    ?known, ?unknown⟩
  case fails =>
    rw [← exists_objects_iff]
    exact exists_congr fun _ => ofDeclaration_eq_error_iff
  case known => exact fun _ same => ofDeclaration_congr same
  case unknown =>
    intro before key value after unknown
    apply ofDeclaration_congr
    intro name known
    apply given_insert
    intro same
    exact unknown (same ▸ known)

/-! A connection that verifies the server, with a parameter that is not known; and one whose
parameters are all at fault. -/

private def vault : ConnectionDeclaration where
  host := "vault.internal"
  port := 5432
  database := "postgres"
  adminSecret := ⟨"admin", none⟩
  parameters :=
    [("target_session_attrs", "any"), ("sslmode", "verify-full"), ("sslrootcert", "/ca.pem"),
      ("connect_timeout", "+5")]

private def faulty : ConnectionDeclaration :=
  vault.withParameters
    [("sslmode", "verify-ca"), ("keepalives_idle", "-1"), ("connect_timeout", "soon")]

theorem settings_follow_known_parameters_of_vault :
    ("target_session_attrs" ∉ knownParameters ∧
        ofDeclaration vault none "admin" "hunter2" =
          ofDeclaration (vault.withParameters vault.parameters.tail) none "admin" "hunter2") ∧
      (∃ settings, ofDeclaration vault none "admin" "hunter2" = .ok settings ∧
        settings.encryption = .required ∧ settings.trust = .verified "/ca.pem" ∧
          settings.connectTimeout = 5 ∧ settings.keepalivesIdle = 7200) ∧
        ofDeclaration faulty none "admin" "hunter2" =
          .error (.notWholeSeconds "connect_timeout" "soon") := by
  have unknown : "target_session_attrs" ∉ knownParameters := by decide
  obtain ⟨-, -, -, -, leftOut⟩ := settings_follow_known_parameters vault none "admin" "hunter2"
  obtain ⟨reported, -⟩ := settings_follow_known_parameters faulty none "admin" "hunter2"
  have objects : Objects faulty.given (.notWholeSeconds "connect_timeout" "soon") := by
    refine .inl (.connectTimeout (by decide +kernel) ?_)
    intro whole
    obtain ⟨number, spelled⟩ := whole
    have read := unsigned?_eq_some_iff.mpr spelled
    have unread : unsigned? greatest64 "soon".toList = none := by decide +kernel
    cases unread.symm.trans read
  refine ⟨⟨unknown, leftOut [] _ "any" _ unknown⟩, ?_, (reported _).mpr objects⟩
  exact ⟨_, rfl, by decide +kernel⟩

end ConnectionSettings

end CatalogSteward
