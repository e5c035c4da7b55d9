import CatalogSteward.Decimal.Unsigned
import CatalogSteward.Resource.Connection

/-!
# Connection settings

How a connection is opened. The parameters of a connection override standard
settings; unknown ones are passed over. Encryption is never weaker than what
the mode says.
-/

set_option autoImplicit false

namespace CatalogSteward

/-- Whether a connection is encrypted: never, if the server can, or always. -/
inductive Encryption where
  | never
  | preferred
  | required
  deriving DecidableEq, Repr

/-- How the certificate of a server is looked at. -/
inductive Trust where
  | plain
  | unverified
  | verified (rootCertificate : String)
  deriving DecidableEq, Repr

inductive Endpoint where
  | internet (host : String)
  | localSocket (path : String)
  deriving DecidableEq, Repr

structure ConnectionSettings where
  endpoint : Endpoint
  port : UInt16
  database : String
  user : String
  password : String
  applicationName : String
  options : Option String
  encryption : Encryption
  trust : Trust
  connectTimeout : Nat
  keepalives : Bool
  keepalivesIdle : Nat
  deriving DecidableEq, Repr

/-- Why the parameters of a connection are refused. -/
inductive ParameterDefect where
  | notWholeSeconds (key value : String)
  | rootCertificateMissing (mode : String)
  | unsupportedMode (mode : String)
  deriving DecidableEq, Repr

namespace ParameterDefect

def key : ParameterDefect → String
  | .notWholeSeconds key _ => key
  | .rootCertificateMissing _ => "sslrootcert"
  | .unsupportedMode _ => "sslmode"

def reason : ParameterDefect → String
  | .notWholeSeconds _ value => "expected whole seconds, got " ++ value
  | .rootCertificateMissing mode => "required when sslmode is " ++ mode
  | .unsupportedMode mode => "unsupported value " ++ mode

end ParameterDefect

namespace ConnectionSettings

/-- The name under which the program connects unless another one is given. -/
def standardApplicationName : String := "pg-object-operator"

def standardUser : String := "postgres"

def endpointOf (host : String) : Endpoint :=
  match host.toList with
  | '/' :: _ => .localSocket host
  | _ => .internet host

/-- The number of seconds that a parameter spells. -/
def wholeSeconds (key value : String) : Except ParameterDefect Nat :=
  match Decimal.unsigned? Decimal.greatest64 value.toList with
  | some number => .ok number
  | none => .error (.notWholeSeconds key value)

/-- What the parameters ask for; before any was read, what holds without parameters. -/
structure Preferences where
  mode : String := "prefer"
  rootCertificate : Option String := none
  applicationName : String := standardApplicationName
  options : Option String := none
  connectTimeout : Nat := 10
  keepalives : Bool := true
  keepalivesIdle : Nat := 7200
  deriving DecidableEq, Repr

/-- The preferences with one more parameter read. An unknown one is passed over. -/
def Preferences.read (preferences : Preferences) (parameter : String × String) :
    Except ParameterDefect Preferences := do
  let (key, value) := parameter
  match key with
  | "sslmode" => pure { preferences with mode := value }
  | "sslrootcert" => pure { preferences with rootCertificate := some value }
  | "application_name" => pure { preferences with applicationName := value }
  | "options" => pure { preferences with options := some value }
  | "connect_timeout" =>
      let number ← wholeSeconds key value
      pure { preferences with connectTimeout := number }
  | "keepalives" => pure { preferences with keepalives := value ≠ "0" }
  | "keepalives_idle" =>
      let number ← wholeSeconds key value
      pure { preferences with keepalivesIdle := number }
  | _ => pure preferences

/-- What the parameters ask for, read in the order of their names. -/
def Preferences.ofParameters (parameters : Std.ExtTreeMap String String) :
    Except ParameterDefect Preferences :=
  parameters.toList.foldlM read {}

/-- How certificates are looked at in a mode. To verify one, a root certificate is needed. -/
def trustOf (mode : String) (rootCertificate : Option String) : Except ParameterDefect Trust :=
  match mode with
  | "disable" => .ok .plain
  | "prefer" | "require" => .ok .unverified
  | "verify-ca" | "verify-full" =>
      match rootCertificate with
      | some path => .ok (.verified path)
      | none => .error (.rootCertificateMissing mode)
  | _ => .error (.unsupportedMode mode)

def encryptionOf (mode : String) : Encryption :=
  match mode with
  | "disable" => .never
  | "prefer" => .preferred
  | _ => .required

/-- The settings for a connection to the given database, or else to the one of the
connection itself. -/
def ofDeclaration (declaration : ConnectionDeclaration) (database : Option String)
    (user password : String) : Except ParameterDefect ConnectionSettings := do
  let preferences ← Preferences.ofParameters declaration.parameterMap
  let trust ← trustOf preferences.mode preferences.rootCertificate
  pure
    { endpoint := endpointOf declaration.host
      port := declaration.port
      database := database.getD declaration.database
      user := user
      password := password
      applicationName := preferences.applicationName
      options := preferences.options
      encryption := encryptionOf preferences.mode
      trust := trust
      connectTimeout := preferences.connectTimeout
      keepalives := preferences.keepalives
      keepalivesIdle := preferences.keepalivesIdle }

end ConnectionSettings

end CatalogSteward
