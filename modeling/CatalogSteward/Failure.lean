import CatalogSteward.Connection.Settings
import CatalogSteward.Json.Fault
import CatalogSteward.Rejection
import CatalogSteward.Resource.Secret

/-!
# Failures

Why a reconciliation fails, and whether trying again can help. The wording of
failures of the server, of secrets and of declarations is shown in the status
as it is.
-/

set_option autoImplicit false

namespace CatalogSteward

/-- Why a request to the cluster fails: it is answered with a code, it is not sent because it
names nothing or because a path cannot hold the name, its answer has a line that does not end,
or its answer is not what was asked for. -/
inductive ClusterFault where
  | refused (code : Nat) (reason message : String)
  | nameless
  | unaddressable
  | lineTooLong
  | undecodable (complaint : Json.Complaint)
  deriving DecidableEq, Repr

namespace ClusterFault

def message : ClusterFault → String
  | .refused code reason message =>
      "ApiError: " ++ message ++ ": " ++ reason ++
        " (ErrorResponse \x7b status: \"Failure\", message: " ++ Text.quoted message ++
        ", reason: " ++ Text.quoted reason ++ ", code: " ++ toString code ++ " \x7d)"
  | .nameless =>
      "Failed to build request: failed to validate request: A non-empty name is required"
  | .unaddressable =>
      "Failed to build request: failed to build request: invalid uri character"
  | .lineTooLong => "Error finding newline character"
  | .undecodable complaint => "Error deserializing response: " ++ complaint.message

def fullMessage (fault : ClusterFault) : String :=
  "Kubernetes API error: " ++ fault.message

/-- Whether the cluster says that the object does not exist. -/
def isNotFound : ClusterFault → Bool
  | .refused code _ _ => code = 404
  | _ => false

/-- Whether trying again can help. Codes of the client's own faults say that it cannot, apart
from conflicts and too many requests. -/
def isRetryable : ClusterFault → Bool
  | .refused code _ _ =>
      if 400 ≤ code ∧ code < 500 then code = 409 || code = 429 else true
  | _ => true

end ClusterFault

inductive SecretFault where
  | notFound (inNamespace name : String)
  | defective (inNamespace name : String) (defect : CredentialDefect)
  | cluster (fault : ClusterFault)
  deriving DecidableEq, Repr

def shownSecret (inNamespace name : String) : String :=
  "secret.namespace=" ++ inNamespace ++ ", secret.name=" ++ name

namespace SecretFault

def message : SecretFault → String
  | .notFound inNamespace name => "SecretRef not found [" ++ shownSecret inNamespace name ++ "]"
  | .defective inNamespace name (.wrongType actual) =>
      "The SecretRef is of the wrong type [" ++ shownSecret inNamespace name ++
        ", expected.secret.type=" ++ basicAuthType ++ ", actual.secret.type=" ++ actual ++ "]"
  | .defective inNamespace name .noData =>
      "The SecretRef has no data set [" ++ shownSecret inNamespace name ++ "]"
  | .defective inNamespace name .missingPassword =>
      "The SecretRef is missing required data password [" ++ shownSecret inNamespace name ++
        "]"
  | .defective inNamespace name (.invalidText key) =>
      "The SecretRef contains invalid UTF-8 in " ++ key ++ " [" ++
        shownSecret inNamespace name ++ "]"
  | .cluster fault => fault.fullMessage

end SecretFault

def Secret.credentialsOrFault (secret : Secret) : Except SecretFault Credentials :=
  match secret.credentials with
  | .ok credentials => .ok credentials
  | .error defect =>
      .error (.defective secret.metadata.namespaceOrEmpty secret.metadata.anyName defect)

/-- Why the server fails: it reports an error, no connection can be made, or no encrypted one, or
a text cannot be sent to it. -/
inductive DatabaseFault where
  | reported (message : String) (detail : Option String)
  | unreachable
  | handshake
  | unsendable
  deriving DecidableEq, Repr

def DatabaseFault.message : DatabaseFault → String
  | .reported message none => message
  | .reported message (some detail) => message ++ " (" ++ detail ++ ")"
  | .unreachable => "error connecting to server"
  | .handshake => "error performing TLS handshake"
  | .unsendable => "error encoding message to server"

/-- Why there is no session, or why one fails. -/
inductive SessionFault where
  | database (fault : DatabaseFault)
  | secret (fault : SecretFault)
  | invalidParameter (key reason : String)
  | encryption (text : String)
  | invalidCertificate (text : String)
  | unexpectedVersion (number : String)
  deriving DecidableEq, Repr

namespace SessionFault

def message : SessionFault → String
  | .database fault => fault.message
  | .secret fault => fault.message
  | .invalidParameter key reason => "Invalid connection parameter " ++ key ++ ": " ++ reason
  | .encryption text => "TLS configuration error: " ++ text
  | .invalidCertificate text => "Invalid certificate: " ++ text
  | .unexpectedVersion number => "Unexpected server version: " ++ number

def ofParameters (defect : ParameterDefect) : SessionFault :=
  .invalidParameter defect.key defect.reason

end SessionFault

inductive Failure where
  | cluster (fault : ClusterFault)
  | unreadable (text : String)
  | noNamespace
  | secret (fault : SecretFault)
  | session (fault : SessionFault)
  | invalid (text : String)
  deriving DecidableEq, Repr

namespace Failure

def message : Failure → String
  | .cluster fault => fault.fullMessage
  | .unreadable text => "Serialization error: " ++ text
  | .noNamespace => "Missing object key: .metadata.namespace"
  | .secret fault => fault.message
  | .session fault => fault.message
  | .invalid text => text

def isRetryable : Failure → Bool
  | .cluster fault => fault.isRetryable
  | .secret _ => true
  | .session _ => true
  | .unreadable _ => false
  | .noNamespace => false
  | .invalid _ => false

/-- Whether the cluster says that the object does not exist. -/
def isNotFound : Failure → Bool
  | .cluster fault => fault.isNotFound
  | _ => false

def ofRejection (rejection : Rejection) : Failure :=
  .invalid rejection.message

end Failure

end CatalogSteward
