import CatalogSteward.Resource.Metadata
import Std.Data.ExtTreeMap

/-!
# Cluster connections

How a server is reached, and as whom. The other resources refer to a
connection and wait until it is ready.
-/

set_option autoImplicit false

namespace CatalogSteward

structure ConnectionDeclaration where
  host : String
  port : UInt16
  database : String
  adminSecret : Reference
  parameters : List (String × String)
  deriving DecidableEq, Repr

def maintenanceDatabase : String := "postgres"

def port? (value : Json) : Option UInt16 :=
  (Json.integerIn? 0 65535 value).map fun number => number.toNat.toUInt16

namespace ConnectionDeclaration

def ofJson? (value : Json) : Option ConnectionDeclaration := do
  let record ← value.record? 5
  let host ← record.required Json.string? 0 "host"
  let port ← record.required port? 1 "port"
  let database ← record.defaulted maintenanceDatabase Json.string? 2 "database"
  let adminSecret ← record.required Reference.ofJson? 3 "adminSecretRef"
  let parameters ← record.defaulted [] stringMap? 4 "parameters"
  pure ⟨host, port, database, adminSecret, parameters⟩

def shape : Json.Shape :=
  .record "ClusterConnectionSpec"
    [("host", .required, .string), ("port", .required, .integer "u16" 0 65535),
      ("database", .free, .string),
      ("adminSecretRef", .required, Reference.shape "SecretRef"),
      ("parameters", .free, .map .string)]

def toJson (declaration : ConnectionDeclaration) : Json :=
  .object
    ([("host", .string declaration.host),
        ("port", .integer declaration.port.toNat),
        ("database", .string declaration.database),
        ("adminSecretRef", declaration.adminSecret.toJson)] ++
      match declaration.parameters with
      | [] => []
      | _ :: _ =>
          [("parameters", .object
            (declaration.parameters.map fun parameter =>
              (parameter.1, .string parameter.2)))])

/-- The parameters by their names. Of several with one name the last one counts. -/
def parameterMap (declaration : ConnectionDeclaration) : Std.ExtTreeMap String String :=
  .ofList declaration.parameters

def endpoint (declaration : ConnectionDeclaration) : String :=
  declaration.host ++ ":" ++ toString declaration.port.toNat ++ "/" ++ declaration.database

end ConnectionDeclaration

abbrev ClusterConnection := Resource ConnectionDeclaration

def ClusterConnection.shape : Json.Shape :=
  Resource.shape "ClusterConnection" ConnectionDeclaration.shape

def ClusterConnection.isReady (connection : ClusterConnection) : Bool :=
  connection.status.any fun status => status.phase = .ready

end CatalogSteward
