import CatalogSteward.Connection.Settings
import CatalogSteward.Proofs.Containers
import CatalogSteward.Proofs.Decimal.Unsigned
import CatalogSteward.Proofs.Fallible

/-!
# Preferences from parameters

The parameters of a connection are read one after another, in the order of their
names, until one cannot be read. The preferences are what looking each known
name up by itself gives, and so is the objection where a number of seconds
cannot be read; parameters that are not known change nothing.
-/

set_option autoImplicit false

namespace CatalogSteward.ConnectionSettings

open Decimal Fallible

/-! ## Preferences by look-ups -/

def knownParameters : List String :=
  ["sslmode", "sslrootcert", "application_name", "options", "connect_timeout", "keepalives",
    "keepalives_idle"]

def IsWholeSeconds (value : String) : Prop :=
  ∃ number, Spells greatest64 value.toList number

/-- A value is given, but it is not a whole number of seconds. -/
def Misread (given : Option String) : Prop :=
  ∃ value, given = some value ∧ ¬IsWholeSeconds value

/-- An objection to a number of seconds; one to the time to connect goes first. -/
inductive ObjectsToSeconds (given : String → Option String) : ParameterDefect → Prop where
  | connectTimeout {value : String} :
      given "connect_timeout" = some value → ¬IsWholeSeconds value →
        ObjectsToSeconds given (.notWholeSeconds "connect_timeout" value)
  | keepalivesIdle {value : String} :
      ¬Misread (given "connect_timeout") → given "keepalives_idle" = some value →
        ¬IsWholeSeconds value →
          ObjectsToSeconds given (.notWholeSeconds "keepalives_idle" value)

/-- A number of seconds is the standard one where none is given, and else the one that is spelled. -/
def IsSecondsOf (standard : Nat) (given : Option String) (number : Nat) : Prop :=
  match given with
  | none => number = standard
  | some value => Spells greatest64 value.toList number

/-- Preferences are what looking each name up by itself gives. -/
structure Reflects (given : String → Option String) (preferences : Preferences) : Prop where
  mode : preferences.mode = (given "sslmode").getD "prefer"
  rootCertificate : preferences.rootCertificate = given "sslrootcert"
  applicationName :
    preferences.applicationName = (given "application_name").getD "pg-object-operator"
  options : preferences.options = given "options"
  connectTimeout : IsSecondsOf 10 (given "connect_timeout") preferences.connectTimeout
  keepalives : preferences.keepalives = false ↔ given "keepalives" = some "0"
  keepalivesIdle : IsSecondsOf 7200 (given "keepalives_idle") preferences.keepalivesIdle

variable {preferences next : Preferences} {key value : String} {defect : ParameterDefect}
  {given others : String → Option String} {parameters : Std.ExtTreeMap String String}

theorem ObjectsToSeconds.congr (objects : ObjectsToSeconds given defect)
    (same : ∀ name ∈ knownParameters, others name = given name) :
    ObjectsToSeconds others defect := by
  have connectTimeout := same "connect_timeout" (by decide)
  have keepalivesIdle := same "keepalives_idle" (by decide)
  cases objects with
  | connectTimeout found unread => exact .connectTimeout (connectTimeout.trans found) unread
  | keepalivesIdle timed found unread =>
      rw [← connectTimeout] at timed
      exact .keepalivesIdle timed (keepalivesIdle.trans found) unread

theorem IsSecondsOf.unique {standard number other : Nat} {given : Option String}
    (seconds : IsSecondsOf standard given number) (again : IsSecondsOf standard given other) :
    number = other := by
  cases given with
  | none => exact seconds.trans again.symm
  | some value =>
      have read := unsigned?_eq_some_iff.mpr seconds
      exact Option.some.inj (read.symm.trans (unsigned?_eq_some_iff.mpr again))

theorem Reflects.congr (reflects : Reflects given preferences)
    (same : ∀ name ∈ knownParameters, others name = given name) :
    Reflects others preferences := by
  simp only [knownParameters, List.forall_mem_cons] at same
  obtain ⟨mode, rootCertificate, applicationName, options, connectTimeout, keepalives,
    keepalivesIdle, -⟩ := same
  constructor
  · rw [mode, reflects.mode]
  · rw [rootCertificate, reflects.rootCertificate]
  · rw [applicationName, reflects.applicationName]
  · rw [options, reflects.options]
  · rw [connectTimeout]
    exact reflects.connectTimeout
  · rw [keepalives, reflects.keepalives]
  · rw [keepalivesIdle]
    exact reflects.keepalivesIdle

theorem Reflects.unique (reflects : Reflects given preferences) (again : Reflects given next) :
    preferences = next := by
  have mode := reflects.mode.trans again.mode.symm
  have rootCertificate := reflects.rootCertificate.trans again.rootCertificate.symm
  have applicationName := reflects.applicationName.trans again.applicationName.symm
  have options := reflects.options.trans again.options.symm
  have connectTimeout := reflects.connectTimeout.unique again.connectTimeout
  have keepalives : preferences.keepalives = next.keepalives := by
    rw [Bool.eq_iff_iff, ← Bool.not_eq_false, ← Bool.not_eq_false, reflects.keepalives,
      again.keepalives]
  have keepalivesIdle := reflects.keepalivesIdle.unique again.keepalivesIdle
  cases preferences
  cases next
  simp_all only

/-! ## Reading a parameter -/

theorem wholeSeconds_eq_ok_iff {number : Nat} :
    wholeSeconds key value = .ok number ↔ Spells greatest64 value.toList number := by
  rw [← unsigned?_eq_some_iff, wholeSeconds]
  split
  · next other read => simp only [read, Except.ok.injEq, Option.some.injEq]
  · next unread => simp only [unread, reduceCtorEq]

theorem wholeSeconds_eq_error_iff :
    wholeSeconds key value = .error defect ↔
      ¬IsWholeSeconds value ∧ defect = .notWholeSeconds key value := by
  have whole : IsWholeSeconds value ↔ ∃ number, unsigned? greatest64 value.toList = some number :=
    exists_congr fun _ => unsigned?_eq_some_iff.symm
  rw [whole, wholeSeconds]
  split
  · next number read => simp [read]
  · next unread => simp [unread, eq_comm]

/-- What one parameter makes of the preferences. -/
inductive Reads (preferences : Preferences) : String → String → Preferences → Prop where
  | mode {value : String} : Reads preferences "sslmode" value { preferences with mode := value }
  | rootCertificate {value : String} :
      Reads preferences "sslrootcert" value { preferences with rootCertificate := some value }
  | applicationName {value : String} :
      Reads preferences "application_name" value { preferences with applicationName := value }
  | options {value : String} :
      Reads preferences "options" value { preferences with options := some value }
  | connectTimeout {value : String} {number : Nat} :
      Spells greatest64 value.toList number →
        Reads preferences "connect_timeout" value { preferences with connectTimeout := number }
  | keepalives {value : String} :
      Reads preferences "keepalives" value { preferences with keepalives := value ≠ "0" }
  | keepalivesIdle {value : String} {number : Nat} :
      Spells greatest64 value.toList number →
        Reads preferences "keepalives_idle" value { preferences with keepalivesIdle := number }
  | unknown {key value : String} : key ∉ knownParameters → Reads preferences key value preferences

theorem reads_of_read (read : preferences.read (key, value) = .ok next) :
    Reads preferences key value next := by
  unfold Preferences.read at read
  dsimp only at read
  split at read
  case h_5 =>
    obtain ⟨number, spelled, same⟩ := bind_eq_ok_iff.mp read
    cases same
    exact .connectTimeout (wholeSeconds_eq_ok_iff.mp spelled)
  case h_7 =>
    obtain ⟨number, spelled, same⟩ := bind_eq_ok_iff.mp read
    cases same
    exact .keepalivesIdle (wholeSeconds_eq_ok_iff.mp spelled)
  case h_8 =>
    cases read
    apply Reads.unknown
    simp only [knownParameters, List.mem_cons, List.not_mem_nil]
    grind
  all_goals
    cases read
    constructor

/-- A parameter cannot be read: it is to be a number of seconds and is none. -/
def Hinders (parameter : String × String) (defect : ParameterDefect) : Prop :=
  (parameter.1 = "connect_timeout" ∨ parameter.1 = "keepalives_idle") ∧
    ¬IsWholeSeconds parameter.2 ∧ defect = .notWholeSeconds parameter.1 parameter.2

/-- It depends on a parameter alone whether it can be read. -/
theorem read_eq_error_iff {parameter : String × String} :
    preferences.read parameter = .error defect ↔ Hinders parameter defect := by
  obtain ⟨key, value⟩ := parameter
  unfold Preferences.read Hinders
  dsimp only
  split
  case h_5 =>
    rw [bind_eq_error_iff, wholeSeconds_eq_error_iff]
    simp [pure, Except.pure]
  case h_7 =>
    rw [bind_eq_error_iff, wholeSeconds_eq_error_iff]
    simp [pure, Except.pure]
  all_goals simp_all [pure, Except.pure]

/-- Another parameter changes what only it decides, and an unknown one nothing. -/
theorem Reflects.read (reflects : Reflects (fun name => parameters[name]?) preferences)
    (reads : Reads preferences key value next) :
    Reflects (fun name => (parameters.insert key value)[name]?) next := by
  cases reads with
  | unknown unknown =>
      apply reflects.congr
      intro name known
      rw [Std.ExtTreeMap.getElem?_insert, if_neg]
      intro same
      exact unknown (Std.LawfulEqCmp.eq_of_compare same ▸ known)
  | _ =>
      obtain ⟨mode, rootCertificate, applicationName, options, connectTimeout, keepalives,
        keepalivesIdle⟩ := reflects
      constructor <;> simp_all [Std.ExtTreeMap.getElem?_insert, IsSecondsOf]

/-! ## Reading all parameters -/

theorem reflects_nothing : Reflects (fun name => (∅ : Std.ExtTreeMap String String)[name]?) {} := by
  constructor <;> simp [IsSecondsOf, standardApplicationName]

/-- Whatever is read in one go, the preferences reflect what was given before and in it. -/
theorem Reflects.readAll {entries : List (String × String)} {start : Preferences}
    (reflects : Reflects (fun name => parameters[name]?) start)
    (read : entries.foldlM Preferences.read start = .ok preferences) :
    Reflects (fun name => (parameters.insertMany entries)[name]?) preferences := by
  induction entries generalizing parameters start with
  | nil =>
      cases read
      exact reflects
  | cons entry rest ih =>
      obtain ⟨state, went, read⟩ := bind_eq_ok_iff.mp read
      rw [Std.ExtTreeMap.insertMany_cons]
      exact ih (reflects.read (reads_of_read went)) read

theorem reflects_of_ofParameters (read : Preferences.ofParameters parameters = .ok preferences) :
    Reflects (fun name => parameters[name]?) preferences := by
  have again : (∅ : Std.ExtTreeMap String String).insertMany parameters.toList = parameters := by
    apply Std.ExtTreeMap.ext_getElem?
    intro name
    apply Option.ext
    intro value
    rw [← Std.ExtTreeMap.ofList_eq_insertMany_empty, getElem?_ofList_eq_some_iff,
      Std.ExtTreeMap.mem_toList_iff_getElem?_eq_some]
    intro left right isLeft isRight
    rw [Std.ExtTreeMap.mem_toList_iff_getElem?_eq_some] at isLeft isRight
    exact Option.some.inj (isLeft.symm.trans isRight)
  have reflects := reflects_nothing.readAll read
  rwa [again] at reflects

section Order

variable {before after : List (String × String)}
  (listed : parameters.toList = before ++ (key, value) :: after)

include listed

theorem given_of_listed : parameters[key]? = some value := by
  rw [← Std.ExtTreeMap.mem_toList_iff_getElem?_eq_some, listed]
  exact List.mem_append_right _ List.mem_cons_self

theorem precedes_of_mem_before {earlier other : String} (member : (earlier, other) ∈ before) :
    compare earlier key = .lt := by
  have ascending := parameters.ordered_keys_toList
  rw [listed, List.pairwise_append] at ascending
  exact ascending.2.2 (earlier, other) member _ List.mem_cons_self

theorem precedes_of_mem_after {later other : String} (member : (later, other) ∈ after) :
    compare key later = .lt := by
  have ascending := parameters.ordered_keys_toList
  rw [listed, List.pairwise_append, List.pairwise_cons] at ascending
  exact ascending.2.1.1 (later, other) member

end Order

theorem exists_listed_of_given (found : parameters[key]? = some value) :
    ∃ before after, parameters.toList = before ++ (key, value) :: after :=
  List.append_of_mem (Std.ExtTreeMap.mem_toList_iff_getElem?_eq_some.mpr found)

/-- The parameters are read in the order of their names, in which the time to connect comes before
the time to keep a connection. -/
theorem ofParameters_eq_error_iff :
    Preferences.ofParameters parameters = .error defect ↔
      ObjectsToSeconds (fun name => parameters[name]?) defect := by
  have failing : ∀ preferences parameter defect,
      Preferences.read preferences parameter = .error defect ↔ Hinders parameter defect :=
    fun _ _ _ => read_eq_error_iff
  rw [Preferences.ofParameters, foldlM_eq_error_iff failing]
  constructor
  · intro failed
    obtain ⟨before, ⟨key, value⟩, after, listed, fine, seconds, unread, rfl⟩ := failed
    have found := given_of_listed listed
    rcases seconds with rfl | rfl
    · exact .connectTimeout found unread
    · refine .keepalivesIdle ?_ found unread
      intro untimed
      obtain ⟨other, foundOther, unreadOther⟩ := untimed
      have member := Std.ExtTreeMap.mem_toList_iff_getElem?_eq_some.mpr foundOther
      rw [listed, List.mem_append, List.mem_cons] at member
      rcases member with earlier | same | later
      · exact fine _ earlier _ ⟨.inl rfl, unreadOther, rfl⟩
      · exact absurd (Prod.mk.inj same).1 (by decide)
      · exact absurd (precedes_of_mem_after listed later) (by decide +kernel)
  · intro objects
    cases objects with
    | connectTimeout found unread =>
        obtain ⟨before, after, listed⟩ := exists_listed_of_given found
        refine ⟨before, _, after, listed, ?_, .inl rfl, unread, rfl⟩
        intro earlier member other hinders
        obtain ⟨name, text⟩ := earlier
        obtain ⟨rfl | rfl, -⟩ := hinders
        · exact absurd (precedes_of_mem_before listed member) (by decide +kernel)
        · exact absurd (precedes_of_mem_before listed member) (by decide +kernel)
    | keepalivesIdle timed found unread =>
        obtain ⟨before, after, listed⟩ := exists_listed_of_given found
        refine ⟨before, _, after, listed, ?_, .inr rfl, unread, rfl⟩
        intro earlier member other hinders
        obtain ⟨name, text⟩ := earlier
        obtain ⟨rfl | rfl, unreadEarlier, -⟩ := hinders
        · have there : ("connect_timeout", text) ∈ parameters.toList := by
            rw [listed]
            exact List.mem_append_left _ member
          exact timed ⟨text, Std.ExtTreeMap.mem_toList_iff_getElem?_eq_some.mp there,
            unreadEarlier⟩
        · exact absurd (precedes_of_mem_before listed member) (by decide +kernel)

/-- Preferences depend on the known parameters only. -/
theorem ofParameters_congr {left right : Std.ExtTreeMap String String}
    (same : ∀ name ∈ knownParameters, left[name]? = right[name]?) :
    Preferences.ofParameters left = Preferences.ofParameters right := by
  cases read : Preferences.ofParameters right with
  | error defect =>
      rw [ofParameters_eq_error_iff] at read ⊢
      exact read.congr same
  | ok preferences =>
      cases again : Preferences.ofParameters left with
      | error defect =>
          rw [ofParameters_eq_error_iff] at again
          have objects := again.congr fun name known => (same name known).symm
          rw [← ofParameters_eq_error_iff, read] at objects
          cases objects
      | ok others =>
          have reflects := (reflects_of_ofParameters read).congr same
          rw [(reflects_of_ofParameters again).unique reflects]

end CatalogSteward.ConnectionSettings
