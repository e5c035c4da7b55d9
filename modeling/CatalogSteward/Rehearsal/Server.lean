import CatalogSteward.Request
import CatalogSteward.Text.Split

/-!
# A server in memory

A server that answers queries from what it was told and keeps a record of what
it is sent. No command changes it, and it has no encryption to offer.
-/

set_option autoImplicit false

namespace CatalogSteward.Rehearsal

open Sql

/-- The point in time that a value spells: microseconds since 1970, or an infinity. -/
def serverInstant? : Json → Option ServerInstant
  | .string "infinity" => some .afterAll
  | .string "-infinity" => some .beforeAll
  | value => do
      let instant := Time.Instant.ofMicroseconds (← value.integer?)
      if instant.isRepresentable then some (.at instant) else none

structure RoleEntry where
  row : RoleRow
  inRole : List String
  members : List String
  deriving DecidableEq, Repr

def RoleEntry.state (entry : RoleEntry) : RoleState :=
  entry.row.state entry.inRole entry.members

/-- The role that a value spells; what is absent is as in a role that declares nothing. -/
def RoleEntry.ofJson? (value : Json) : Option RoleEntry := do
  let record := Json.Record.named (← value.object?)
  let flag (name : String) (absent : Bool) : Option Bool := do
    pure ((← record.optional Json.bool? 0 name).getD absent)
  let names (name : String) : Option (List String) := do
    pure ((← record.optional (Json.list? Json.string?) 0 name).getD [])
  let attributes : RoleAttributes :=
    { superuser := ← flag "superuser" false
      createdb := ← flag "createdb" false
      createrole := ← flag "createrole" false
      inherit := ← flag "inherit" true
      replication := ← flag "replication" false
      bypassrls := ← flag "bypassrls" false
      connectionLimit := (← record.optional int32? 0 "connection_limit").getD (-1) }
  let row : RoleRow :=
    { login := ← flag "login" false
      attributes := attributes
      validUntil := ← record.optional serverInstant? 0 "valid_until"
      verifier := ← record.optional Json.string? 0 "password_verifier"
      comment := ← record.optional Json.string? 0 "comment" }
  pure ⟨row, ← names "in_role", ← names "members"⟩

def reportedFault? (value : Json) : Option DatabaseFault := do
  let record := Json.Record.named (← value.object?)
  let message ← record.required Json.string? 0 "message"
  pure (.reported message (← record.optional Json.string? 0 "detail"))

/-- A failure of every query and statement that holds a text. -/
structure FaultRule where
  part : String
  fault : DatabaseFault
  deriving DecidableEq, Repr

def FaultRule.ofJson? (value : Json) : Option FaultRule := do
  pure ⟨← (value.get "match").string?, ← reportedFault? value⟩

def pair? {α : Type} (decode : Json → Option α) : Json → Option (String × α)
  | .array [.string name, value] => (decode value).map (name, ·)
  | _ => none

def entries? {α : Type} (decode : Json → Option α) (value : Json) :
    Option (List (String × α)) := do
  (← value.object?).mapM fun member => (decode member.2).map (member.1, ·)

/-- What a server was told to answer. The privileges are those of whoever is asked for. -/
structure Server where
  versionNumber : String
  versionText : String
  databases : List (String × String)
  schemas : List (String × String)
  roles : List (String × RoleEntry)
  held : List (String × String)
  ownership : List (String × Bool)
  defaults : List String
  loginFault : Option DatabaseFault
  faults : List FaultRule
  deriving DecidableEq, Repr

namespace Server

/-- The version number of a server that was told none. -/
def standardVersionNumber : String := "160004"

/-- The version in words of a server that was told none. -/
def standardVersionText : String := "PostgreSQL 16.4"

/-- The server that a value spells. What is absent is empty, and the versions are standard. -/
def ofJson? (value : Json) : Option Server := do
  let record := Json.Record.named (← value.object?)
  let versionNumber ← record.optional Json.string? 0 "version_num"
  let versionText ← record.optional Json.string? 0 "version"
  let databases ← record.optional stringMap? 0 "databases"
  let schemas ← record.optional stringMap? 0 "schemas"
  let roles ← record.optional (entries? RoleEntry.ofJson?) 0 "roles"
  let held ← record.optional (Json.list? (pair? Json.string?)) 0 "acl"
  let ownership ← record.optional (Json.list? (pair? Json.bool?)) 0 "ownership"
  let defaults ← record.optional (Json.list? Json.string?) 0 "default_acl"
  let loginFault ← record.optional reportedFault? 0 "auth_error"
  let faults ← record.optional (Json.list? FaultRule.ofJson?) 0 "fail"
  pure
    { versionNumber := versionNumber.getD standardVersionNumber
      versionText := versionText.getD standardVersionText
      databases := databases.getD []
      schemas := schemas.getD []
      roles := roles.getD []
      held := held.getD []
      ownership := ownership.getD []
      defaults := defaults.getD []
      loginFault := loginFault
      faults := faults.getD [] }

def fault? (server : Server) (text : String) : Option DatabaseFault :=
  (server.faults.find? fun rule => Text.isWithin rule.part.toList text.toList).map
    FaultRule.fault

def role? (server : Server) (name : String) : Option RoleEntry :=
  Json.lookup server.roles name

def rows (server : Server) : (query : Query) → query.Rows
  | .versionNumber => server.versionNumber
  | .versionText => server.versionText
  | .databaseOwner name => Json.lookup server.databases name
  | .schemaOwner name => Json.lookup server.schemas name
  | .role name => (server.role? name).map RoleEntry.row
  | .rolesAbove name => ((server.role? name).map RoleEntry.inRole).getD []
  | .rolesBelow name => ((server.role? name).map RoleEntry.members).getD []
  | .ownership (.relations _ _) (first :: rest) _ =>
      server.ownership.filter fun row => (first :: rest).contains row.1
  | .ownership _ _ _ => server.ownership
  | .privileges _ _ => server.held
  | .defaultPrivileges _ _ _ _ => server.defaults

end Server

def startParameters (settings : ConnectionSettings) : List (String × String) :=
  [("client_encoding", "UTF8"), ("user", settings.user), ("database", settings.database),
    ("application_name", settings.applicationName)] ++
    (settings.options.map fun options => ("options", options)).toList

/-- Whether a text can be sent: a zero character would end it. -/
def isSendable (text : String) : Bool :=
  text.toList.all fun character => character.toNat ≠ 0

inductive Message where
  | login (settings : ConnectionSettings)
  | query (text : String) (parameters : List Parameter)
  | statement (text : String)
  deriving DecidableEq, Repr

/-- A message, and what the server said was wrong with it. -/
structure Exchange where
  message : Message
  complaint : Option String
  deriving DecidableEq, Repr

/-- The message of a fault that the server reports, without its detail. -/
def complaintOf : DatabaseFault → String
  | .reported message _ => message
  | fault => fault.message

/-- A server that may be out of reach, with the messages that it was sent, the last one
first. -/
structure Station where
  server : Option Server
  exchanges : List Exchange
  deriving DecidableEq, Repr

namespace Station

def record (station : Station) (message : Message) (fault : Option DatabaseFault) : Station :=
  { station with exchanges := ⟨message, fault.map complaintOf⟩ :: station.exchanges }

/-- The answer to a login. A connection that must be encrypted is given up before anything is
sent. -/
def login (settings : ConnectionSettings) (station : Station) :
    Except DatabaseFault Unit × Station :=
  match station.server with
  | none => (.error .unreachable, station)
  | some server =>
      if settings.encryption = .required then (.error .handshake, station)
      else if !(settings.password :: (startParameters settings).map Prod.snd).all isSendable then
        (.error .unsendable, station)
      else
        let recorded := station.record (.login settings) none
        match server.loginFault with
        | some fault => (.error fault, recorded)
        | none => (.ok (), recorded)

def query (query : Query) (station : Station) : Except DatabaseFault query.Rows × Station :=
  match station.server with
  | none => (.error .unreachable, station)
  | some server =>
      let fault := server.fault? query.text
      let recorded := station.record (.query query.text query.parameters) fault
      match fault with
      | some fault => (.error fault, recorded)
      | none => (.ok (server.rows query), recorded)

def execute (text : String) (station : Station) : Except DatabaseFault Unit × Station :=
  match station.server with
  | none => (.error .unreachable, station)
  | some server =>
      if isSendable text then
        let fault := server.fault? text
        let recorded := station.record (.statement text) fault
        match fault with
        | some fault => (.error fault, recorded)
        | none => (.ok (), recorded)
      else
        (.error .unsendable, station)

end Station

end CatalogSteward.Rehearsal
