import CatalogSteward.Catalog.Observation
import CatalogSteward.Catalog.Version
import CatalogSteward.Certificate.Bundle

/-!
# Sessions

A session is opened as the user whose credentials the secret of a connection
holds. Its first question is for the version of the server, which says what
privileges there are.
-/

set_option autoImplicit false

namespace CatalogSteward

structure Session where
  serverVersion : Nat
  deriving DecidableEq, Repr

def Failure.ofDatabase (fault : DatabaseFault) : Failure :=
  .session (.database fault)

def fetchCredentials (blame : SecretFault → Failure) (secret : Reference)
    (ownNamespace : String) : Attempt Credentials := do
  let inNamespace := secret.namespaceFrom ownNamespace
  let found : Option Secret ←
    Attempt.ask (fun fault => blame (.cluster fault))
      (Program.ask (.findSecret inNamespace secret.name))
  match found with
  | none => throw (blame (.notFound inNamespace secret.name))
  | some secret => Attempt.ofExcept blame secret.credentialsOrFault

def fetchAnchors : Trust → Attempt (List Certificate)
  | .plain => pure []
  | .unverified => pure []
  | .verified path => do
      let text : String ←
        Attempt.ask
          (fun reason =>
            .session
              (.encryption ("Failed to read sslrootcert " ++ path ++ ": " ++ reason)))
          (Program.ask (.readFile path))
      Attempt.ofExcept
        (fun defect => .session (.invalidCertificate defect.message)) (Certificate.bundle text)

def ClusterConnection.settings (connection : ClusterConnection) (database : Option String)
    (credentials : Credentials) : Attempt ConnectionSettings :=
  Attempt.ofExcept (fun defect => .session (.ofParameters defect))
    (ConnectionSettings.ofDeclaration connection.declaration database
      (credentials.username.getD ConnectionSettings.standardUser) credentials.password)

def ClusterConnection.openSession (connection : ClusterConnection) (database : Option String) :
    Attempt Session := do
  let credentials ←
    fetchCredentials (fun fault => .session (.secret fault)) connection.declaration.adminSecret
      connection.metadata.namespaceOrEmpty
  let settings ← connection.settings database credentials
  let anchors ← fetchAnchors settings.trust
  Attempt.ask .ofDatabase (Program.ask (.connect settings anchors))
  let number : String ← Query.versionNumber.rows
  match majorVersion? number with
  | some version => pure ⟨version⟩
  | none => throw (.session (.unexpectedVersion number))

end CatalogSteward
