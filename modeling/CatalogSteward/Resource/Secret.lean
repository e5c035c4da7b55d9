import CatalogSteward.Bytes.Base64.Defect
import CatalogSteward.Resource.Metadata
import CatalogSteward.Text.Quoted

/-!
# Secrets

A secret holds bytes under names. The credentials of a server or of a role are
kept in secrets of one type, as text under `username` and `password`.
-/

set_option autoImplicit false

namespace CatalogSteward

structure Secret where
  metadata : Metadata
  kind : Option String
  data : Option (List (String × List UInt8))
  deriving DecidableEq, Repr

/-- Bytes that are written in base 64, of which `null` has none. -/
def bytes? : Json → Option (List UInt8)
  | .null => some []
  | .string text => Base64.decode? text.toList
  | _ => none

def bytesShape : Json.Shape :=
  .optional
    (.written "base64-encoded string" fun text =>
      (Base64.defect? text).map Base64.Defect.message)

def bytesMap? (value : Json) : Option (List (String × List UInt8)) :=
  value.object?.bind fun members =>
    members.mapM fun member => (bytes? member.2).map fun bytes => (member.1, bytes)

namespace Secret

def version : String := "v1"

def kindName : String := "Secret"

def ofJson? (value : Json) : Option Secret := do
  let members ← value.object?
  let record := Json.Record.named members
  let _ ← record.defaulted version (Json.constant? version) 0 "apiVersion"
  let _ ← record.defaulted kindName (Json.constant? kindName) 0 "kind"
  let metadata ← record.optional Metadata.ofJson? 0 "metadata"
  let kind ← record.optional Json.string? 0 "type"
  let data ← record.optional bytesMap? 0 "data"
  let _ ← record.optional stringMap? 0 "stringData"
  let _ ← record.optional Json.bool? 0 "immutable"
  pure ⟨metadata.getD ⟨none, none, none, none, none, [], none⟩, kind, data⟩

def shape : Json.Shape :=
  .entry "Secret"
    [("apiVersion", .constant version), ("kind", .constant kindName),
      ("metadata", .optional Metadata.shape), ("type", .optional .string),
      ("data", .optional (.map bytesShape)), ("stringData", .optional (.map .string)),
      ("immutable", .optional .boolean)]

end Secret

def basicAuthType : String := "kubernetes.io/basic-auth"

structure Credentials where
  username : Option String
  password : String
  deriving DecidableEq, Repr

def Credentials.inspected (credentials : Credentials) : String :=
  let username :=
    match credentials.username with
    | some name => "Some(" ++ Text.quoted name ++ ")"
    | none => "None"
  "BasicAuthCredentials \x7b username: " ++ username ++ ", password: \"********\" \x7d"

inductive CredentialDefect where
  | wrongType (actual : String)
  | noData
  | missingPassword
  | invalidText (key : String)
  deriving DecidableEq, Repr

def text? (bytes : List UInt8) : Option String :=
  String.fromUTF8? (ByteArray.mk bytes.toArray)

def textAt (data : List (String × List UInt8)) (key : String) :
    Except CredentialDefect (Option String) :=
  match Json.lookup data key with
  | none => .ok none
  | some bytes =>
      match text? bytes with
      | some text => .ok (some text)
      | none => .error (.invalidText key)

def Secret.credentials (secret : Secret) : Except CredentialDefect Credentials := do
  let actual := secret.kind.getD ""
  if actual = basicAuthType then
    match secret.data.getD [] with
    | [] => .error .noData
    | data =>
        let username ← textAt data "username"
        match ← textAt data "password" with
        | none => .error .missingPassword
        | some password => .ok ⟨username, password⟩
  else
    .error (.wrongType actual)

end CatalogSteward
