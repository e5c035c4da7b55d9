import CatalogSteward.Proofs.Json.Layout
import CatalogSteward.Proofs.Resource.Status
import CatalogSteward.Resource.Connection
import CatalogSteward.Resource.Database
import CatalogSteward.Resource.Grant
import CatalogSteward.Resource.Role

/-!
# The wire format

What resources declare and report is read back from what is written of it, also
after members were added to its records that are none of their fields, and
after fields were left out that hold what they are when absent.
-/

set_option autoImplicit false

namespace CatalogSteward

open Json (Field)

/-! ## Values of fields -/

theorem Json.string?_string (text : String) : Json.string? (.string text) = some text :=
  rfl

theorem Json.bool?_bool (flag : Bool) : Json.bool? (.bool flag) = some flag :=
  rfl

theorem mapM_map_eq_some {α β : Type} {encode : α → β} {decode : β → Option α}
    (readBack : ∀ value, decode (encode value) = some value) (values : List α) :
    (values.map encode).mapM decode = some values := by
  induction values with
  | nil => rfl
  | cons value rest ih =>
      rw [List.map_cons, List.mapM_cons, readBack, ih]
      rfl

theorem Json.list?_ofList {α : Type} {encode : α → Json} {decode : Json → Option α}
    (readBack : ∀ value, decode (encode value) = some value) (values : List α) :
    Json.list? decode (Json.ofList encode values) = some values :=
  mapM_map_eq_some readBack values

/-- The object of a map from names to texts. -/
def stringMapJson (parameters : List (String × String)) : Json :=
  .object (parameters.map fun parameter => (parameter.1, .string parameter.2))

theorem stringMap?_stringMapJson (parameters : List (String × String)) :
    stringMap? (stringMapJson parameters) = some parameters := by
  rw [stringMap?, stringMapJson, Json.object?, Option.bind_some]
  apply mapM_map_eq_some
  exact fun _ => rfl

def portJson (port : UInt16) : Json :=
  .integer port.toNat

theorem port?_portJson (port : UInt16) : port? (portJson port) = some port := by
  have bound : port.toNat ≤ 65535 := Nat.le_of_lt_succ port.toNat_lt
  have greatest : (port.toNat : Int) ≤ 65535 := Int.ofNat_le.mpr bound
  rw [port?, portJson, Json.integerIn?_integer (Int.natCast_nonneg _) greatest, Option.map_some,
    Int.toNat_natCast, Nat.toUInt16_eq, UInt16.ofNat_toNat]

def int32Json (number : Int32) : Json :=
  .integer number.toInt

theorem int32?_int32Json (number : Int32) : int32? (int32Json number) = some number := by
  have least : (-2147483648 : Int) ≤ number.toInt := number.le_toInt
  have greatest : number.toInt ≤ 2147483647 := number.toInt_le
  rw [int32?, int32Json, Json.integerIn?_integer least greatest, Option.map_some,
    Int32.ofInt_toInt]

theorem ReclaimPolicy.ofJson?_toJson (policy : ReclaimPolicy) :
    ReclaimPolicy.ofJson? policy.toJson = some policy := by
  cases policy <;> rfl

theorem ObjectType.ofJson?_toJson (objectType : ObjectType) :
    ObjectType.ofJson? objectType.toJson = some objectType := by
  cases objectType <;> rfl

theorem FutureObjectType.ofJson?_toJson (objectType : FutureObjectType) :
    FutureObjectType.ofJson? objectType.toJson = some objectType := by
  cases objectType <;> rfl

theorem Privilege.ofJson?_toJson (privilege : Privilege) :
    Privilege.ofJson? privilege.toJson = some privilege := by
  cases privilege <;> rfl

/-- What is written of several values: nothing if there are none. -/
def Json.unlessEmpty {α : Type} (encode : List α → Json) : List α → Option Json
  | [] => none
  | value :: rest => some (encode (value :: rest))

theorem Json.unlessEmpty_cases {α : Type} (encode : List α → Json) (values : List α) :
    Json.unlessEmpty encode values = some (encode values) ∨
      Json.unlessEmpty encode values = none ∧ values = [] := by
  cases values with
  | nil => exact .inr ⟨rfl, rfl⟩
  | cons value rest => exact .inl rfl

/-! ## References

A layout lists the fields of a record, and what is written of them stands in the same order, with
nothing for a field that is left out. -/

namespace Reference

def layout : List Field :=
  [.plain "name", .plain "namespace"]

def written (reference : Reference) : List (Option Json) :=
  [some (.string reference.name), reference.inNamespace.map .string]

theorem roundTrips : Json.RoundTrips toJson ofJson? layout := by
  apply Json.roundTrips_of_layout written
  case distinct => decide
  case complete => exact fun _ => rfl
  case writes =>
    intro reference
    obtain ⟨name, inNamespace⟩ := reference
    cases inNamespace <;> rfl
  case reads =>
    intro reference members yields
    simp only [layout, written, List.zip_cons_cons, List.forall_mem_cons] at yields
    obtain ⟨name, inNamespace, -⟩ := yields
    simp only [ofJson?, Json.record?, Option.bind_eq_bind, Option.bind_some,
      Option.bind_eq_some_iff]
    exact ⟨_, name.required (.plain rfl Json.string?_string) rfl,
      _, inNamespace.optional (.plain rfl Json.string?_string) rfl rfl, rfl⟩

end Reference

/-! ## Declarations -/

namespace ConnectionDeclaration

def layout : List Field :=
  [.plain "host", .plain "port", .defaulted "database" (.string maintenanceDatabase),
    .record "adminSecretRef" Reference.layout, .defaulted "parameters" (stringMapJson [])]

def written (declaration : ConnectionDeclaration) : List (Option Json) :=
  [some (.string declaration.host), some (portJson declaration.port),
    some (.string declaration.database), some declaration.adminSecret.toJson,
    Json.unlessEmpty stringMapJson declaration.parameters]

theorem roundTrips : Json.RoundTrips toJson ofJson? layout := by
  apply Json.roundTrips_of_layout written
  case distinct => decide
  case complete => exact fun _ => rfl
  case writes =>
    intro declaration
    obtain ⟨host, port, database, adminSecret, parameters⟩ := declaration
    cases parameters <;> rfl
  case reads =>
    intro declaration members yields
    simp only [layout, written, List.zip_cons_cons, List.forall_mem_cons] at yields
    obtain ⟨host, port, database, adminSecret, parameters, -⟩ := yields
    simp only [ofJson?, Json.record?, Option.bind_eq_bind, Option.bind_some,
      Option.bind_eq_some_iff]
    exact ⟨_, host.required (.plain rfl Json.string?_string) rfl,
      _, port.required (.plain rfl port?_portJson) rfl,
      _, database.defaulted (.plain rfl Json.string?_string) rfl (.inl rfl),
      _, adminSecret.required (Reference.roundTrips.readsBack rfl) rfl,
      _, parameters.defaulted (.plain rfl stringMap?_stringMapJson) rfl
        (Json.unlessEmpty_cases _ _), rfl⟩

end ConnectionDeclaration

namespace DatabaseDeclaration

def layout : List Field :=
  [.record "clusterRef" Reference.layout, .plain "name", .plain "owner",
    .defaulted "reclaimPolicy" ReclaimPolicy.retain.toJson]

def written (declaration : DatabaseDeclaration) : List (Option Json) :=
  [some declaration.cluster.toJson, some (.string declaration.name),
    declaration.owner.map .string, some declaration.reclaimPolicy.toJson]

theorem roundTrips : Json.RoundTrips toJson ofJson? layout := by
  apply Json.roundTrips_of_layout written
  case distinct => decide
  case complete => exact fun _ => rfl
  case writes =>
    intro declaration
    obtain ⟨cluster, name, owner, reclaimPolicy⟩ := declaration
    cases owner <;> rfl
  case reads =>
    intro declaration members yields
    simp only [layout, written, List.zip_cons_cons, List.forall_mem_cons] at yields
    obtain ⟨cluster, name, owner, reclaimPolicy, -⟩ := yields
    simp only [ofJson?, Json.record?, Option.bind_eq_bind, Option.bind_some,
      Option.bind_eq_some_iff]
    exact ⟨_, cluster.required (Reference.roundTrips.readsBack rfl) rfl,
      _, name.required (.plain rfl Json.string?_string) rfl,
      _, owner.optional (.plain rfl Json.string?_string) rfl rfl,
      _, reclaimPolicy.defaulted (.plain rfl ReclaimPolicy.ofJson?_toJson) rfl (.inl rfl), rfl⟩

end DatabaseDeclaration

namespace SchemaDeclaration

def layout : List Field :=
  [.record "clusterRef" Reference.layout, .plain "database", .plain "name", .plain "owner",
    .defaulted "reclaimPolicy" ReclaimPolicy.retain.toJson]

def written (declaration : SchemaDeclaration) : List (Option Json) :=
  [some declaration.cluster.toJson, some (.string declaration.database),
    some (.string declaration.name), declaration.owner.map .string,
    some declaration.reclaimPolicy.toJson]

theorem roundTrips : Json.RoundTrips toJson ofJson? layout := by
  apply Json.roundTrips_of_layout written
  case distinct => decide
  case complete => exact fun _ => rfl
  case writes =>
    intro declaration
    obtain ⟨cluster, database, name, owner, reclaimPolicy⟩ := declaration
    cases owner <;> rfl
  case reads =>
    intro declaration members yields
    simp only [layout, written, List.zip_cons_cons, List.forall_mem_cons] at yields
    obtain ⟨cluster, database, name, owner, reclaimPolicy, -⟩ := yields
    simp only [ofJson?, Json.record?, Option.bind_eq_bind, Option.bind_some,
      Option.bind_eq_some_iff]
    exact ⟨_, cluster.required (Reference.roundTrips.readsBack rfl) rfl,
      _, database.required (.plain rfl Json.string?_string) rfl,
      _, name.required (.plain rfl Json.string?_string) rfl,
      _, owner.optional (.plain rfl Json.string?_string) rfl rfl,
      _, reclaimPolicy.defaulted (.plain rfl ReclaimPolicy.ofJson?_toJson) rfl (.inl rfl), rfl⟩

end SchemaDeclaration

namespace RoleFlags

def layout : List Field :=
  [.defaulted "superuser" (.bool false), .defaulted "createdb" (.bool false),
    .defaulted "createrole" (.bool false), .defaulted "inherit" (.bool true),
    .defaulted "replication" (.bool false), .defaulted "bypassrls" (.bool false),
    .defaulted "connectionLimit" (int32Json (-1)), .plain "validUntil",
    .defaulted "inRole" (.array []), .defaulted "role" (.array [])]

def written (flags : RoleFlags) : List (Option Json) :=
  [some (.bool flags.attributes.superuser), some (.bool flags.attributes.createdb),
    some (.bool flags.attributes.createrole), some (.bool flags.attributes.inherit),
    some (.bool flags.attributes.replication), some (.bool flags.attributes.bypassrls),
    some (int32Json flags.attributes.connectionLimit), flags.validUntil.map .string,
    Json.unlessEmpty (Json.ofList .string) flags.inRole,
    Json.unlessEmpty (Json.ofList .string) flags.members]

theorem roundTrips : Json.RoundTrips toJson ofJson? layout := by
  apply Json.roundTrips_of_layout written
  case distinct => decide
  case complete => exact fun _ => rfl
  case writes =>
    intro flags
    obtain ⟨attributes, validUntil, inRole, members⟩ := flags
    cases validUntil <;> cases inRole <;> cases members <;> rfl
  case reads =>
    intro flags members yields
    simp only [layout, written, List.zip_cons_cons, List.forall_mem_cons] at yields
    obtain ⟨superuser, createdb, createrole, inherit, replication, bypassrls, connectionLimit,
      validUntil, inRole, role, -⟩ := yields
    simp only [ofJson?, Json.record?, Option.bind_eq_bind, Option.bind_some,
      Option.bind_eq_some_iff]
    exact ⟨_, superuser.defaulted (.plain rfl Json.bool?_bool) rfl (.inl rfl),
      _, createdb.defaulted (.plain rfl Json.bool?_bool) rfl (.inl rfl),
      _, createrole.defaulted (.plain rfl Json.bool?_bool) rfl (.inl rfl),
      _, inherit.defaulted (.plain rfl Json.bool?_bool) rfl (.inl rfl),
      _, replication.defaulted (.plain rfl Json.bool?_bool) rfl (.inl rfl),
      _, bypassrls.defaulted (.plain rfl Json.bool?_bool) rfl (.inl rfl),
      _, connectionLimit.defaulted (.plain rfl int32?_int32Json) rfl (.inl rfl),
      _, validUntil.optional (.plain rfl Json.string?_string) rfl rfl,
      _, inRole.defaulted (.plain rfl (Json.list?_ofList Json.string?_string)) rfl
        (Json.unlessEmpty_cases _ _),
      _, role.defaulted (.plain rfl (Json.list?_ofList Json.string?_string)) rfl
        (Json.unlessEmpty_cases _ _), rfl⟩

end RoleFlags

namespace RoleDeclaration

def layout : List Field :=
  [.plain "name", .plain "comment", .record "clusterRef" Reference.layout,
    .record "passwordSecretRef" Reference.layout,
    ⟨"flags", some RoleFlags.standard.toJson, some RoleFlags.layout⟩]

def written (declaration : RoleDeclaration) : List (Option Json) :=
  [some (.string declaration.name), declaration.comment.map .string,
    some declaration.cluster.toJson, declaration.passwordSecret.map Reference.toJson,
    some declaration.flags.toJson]

theorem roundTrips : Json.RoundTrips toJson ofJson? layout := by
  apply Json.roundTrips_of_layout written
  case distinct => decide
  case complete => exact fun _ => rfl
  case writes =>
    intro declaration
    obtain ⟨name, comment, cluster, passwordSecret, flags⟩ := declaration
    cases comment <;> cases passwordSecret <;> rfl
  case reads =>
    intro declaration members yields
    simp only [layout, written, List.zip_cons_cons, List.forall_mem_cons] at yields
    obtain ⟨name, comment, cluster, passwordSecret, flags, -⟩ := yields
    simp only [ofJson?, Json.record?, Option.bind_eq_bind, Option.bind_some,
      Option.bind_eq_some_iff]
    exact ⟨_, name.required (.plain rfl Json.string?_string) rfl,
      _, comment.optional (.plain rfl Json.string?_string) rfl rfl,
      _, cluster.required (Reference.roundTrips.readsBack rfl) rfl,
      _, passwordSecret.optional (Reference.roundTrips.readsBack rfl) rfl rfl,
      _, flags.defaulted (RoleFlags.roundTrips.readsBack rfl) rfl (.inl rfl), rfl⟩

end RoleDeclaration

namespace GrantDeclaration

def layout : List Field :=
  [.record "clusterRef" Reference.layout, .plain "database", .plain "role", .plain "schema",
    .plain "objectType", .defaulted "objects" (.array []), .plain "privileges"]

def written (declaration : GrantDeclaration) : List (Option Json) :=
  [some declaration.cluster.toJson, some (.string declaration.database),
    some (.string declaration.role), declaration.schema.map .string,
    some declaration.objectType.toJson,
    Json.unlessEmpty (Json.ofList .string) declaration.objects,
    some (Json.ofList Privilege.toJson declaration.privileges)]

theorem roundTrips : Json.RoundTrips toJson ofJson? layout := by
  apply Json.roundTrips_of_layout written
  case distinct => decide
  case complete => exact fun _ => rfl
  case writes =>
    intro declaration
    obtain ⟨cluster, database, role, schema, objectType, objects, privileges⟩ := declaration
    cases schema <;> cases objects <;> rfl
  case reads =>
    intro declaration members yields
    simp only [layout, written, List.zip_cons_cons, List.forall_mem_cons] at yields
    obtain ⟨cluster, database, role, schema, objectType, objects, privileges, -⟩ := yields
    simp only [ofJson?, Json.record?, Option.bind_eq_bind, Option.bind_some,
      Option.bind_eq_some_iff]
    exact ⟨_, cluster.required (Reference.roundTrips.readsBack rfl) rfl,
      _, database.required (.plain rfl Json.string?_string) rfl,
      _, role.required (.plain rfl Json.string?_string) rfl,
      _, schema.optional (.plain rfl Json.string?_string) rfl rfl,
      _, objectType.required (.plain rfl ObjectType.ofJson?_toJson) rfl,
      _, objects.defaulted (.plain rfl (Json.list?_ofList Json.string?_string)) rfl
        (Json.unlessEmpty_cases _ _),
      _, privileges.required (.plain rfl (Json.list?_ofList Privilege.ofJson?_toJson)) rfl, rfl⟩

end GrantDeclaration

namespace DefaultPrivilegeDeclaration

def layout : List Field :=
  [.record "clusterRef" Reference.layout, .plain "database", .plain "role", .plain "owner",
    .plain "schema", .plain "objectType", .plain "privileges"]

def written (declaration : DefaultPrivilegeDeclaration) : List (Option Json) :=
  [some declaration.cluster.toJson, some (.string declaration.database),
    some (.string declaration.role), some (.string declaration.owner),
    declaration.schema.map .string, some declaration.objectType.toJson,
    some (Json.ofList Privilege.toJson declaration.privileges)]

theorem roundTrips : Json.RoundTrips toJson ofJson? layout := by
  apply Json.roundTrips_of_layout written
  case distinct => decide
  case complete => exact fun _ => rfl
  case writes =>
    intro declaration
    obtain ⟨cluster, database, role, owner, schema, objectType, privileges⟩ := declaration
    cases schema <;> rfl
  case reads =>
    intro declaration members yields
    simp only [layout, written, List.zip_cons_cons, List.forall_mem_cons] at yields
    obtain ⟨cluster, database, role, owner, schema, objectType, privileges, -⟩ := yields
    simp only [ofJson?, Json.record?, Option.bind_eq_bind, Option.bind_some,
      Option.bind_eq_some_iff]
    exact ⟨_, cluster.required (Reference.roundTrips.readsBack rfl) rfl,
      _, database.required (.plain rfl Json.string?_string) rfl,
      _, role.required (.plain rfl Json.string?_string) rfl,
      _, owner.required (.plain rfl Json.string?_string) rfl,
      _, schema.optional (.plain rfl Json.string?_string) rfl rfl,
      _, objectType.required (.plain rfl FutureObjectType.ofJson?_toJson) rfl,
      _, privileges.required (.plain rfl (Json.list?_ofList Privilege.ofJson?_toJson)) rfl, rfl⟩

end DefaultPrivilegeDeclaration

/-! ## Statuses -/

namespace Status

def layout : List Field :=
  [.defaulted "name" (.string ""), .defaulted "phase" Phase.pending.toJson, .plain "message",
    .plain "lastProbeTime", .plain "lastPhaseTransitionTime", .plain "observedGeneration"]

def written (status : Status) : List (Option Json) :=
  [some (.string status.name), some status.phase.toJson, status.message.map .string,
    status.lastProbeTime.map .string, status.lastPhaseTransitionTime.map .string,
    status.observedGeneration.map int64Json]

theorem roundTrips : Json.RoundTrips toJson ofJson? layout := by
  apply Json.roundTrips_of_layout written
  case distinct => decide
  case complete => exact fun _ => rfl
  case writes =>
    intro status
    obtain ⟨name, phase, message, lastProbeTime, lastPhaseTransitionTime, observedGeneration⟩ :=
      status
    cases message <;> cases lastProbeTime <;> cases lastPhaseTransitionTime <;>
      cases observedGeneration <;> rfl
  case reads =>
    intro status members yields
    simp only [layout, written, List.zip_cons_cons, List.forall_mem_cons] at yields
    obtain ⟨name, phase, message, lastProbeTime, lastPhaseTransitionTime, observedGeneration,
      -⟩ := yields
    simp only [ofJson?, Json.record?, Option.bind_eq_bind, Option.bind_some,
      Option.bind_eq_some_iff]
    exact ⟨_, name.defaulted (.plain rfl Json.string?_string) rfl (.inl rfl),
      _, phase.defaulted (.plain rfl Phase.ofJson?_toJson) rfl (.inl rfl),
      _, message.optional (.plain rfl Json.string?_string) rfl rfl,
      _, lastProbeTime.optional (.plain rfl Json.string?_string) rfl rfl,
      _, lastPhaseTransitionTime.optional (.plain rfl Json.string?_string) rfl rfl,
      _, observedGeneration.optional (.plain rfl int64?_int64Json) rfl rfl, rfl⟩

end Status

/-- What is written of a reference to a connection or to a secret, of a declaration of any kind
and of a status is read back as it was, also after unknown members were added to its records and
defaulted fields that hold their defaults were left out. -/
theorem wire_format_round_trips :
    Json.RoundTrips Reference.toJson Reference.ofJson? Reference.layout ∧
      Json.RoundTrips ConnectionDeclaration.toJson ConnectionDeclaration.ofJson?
        ConnectionDeclaration.layout ∧
      Json.RoundTrips DatabaseDeclaration.toJson DatabaseDeclaration.ofJson?
        DatabaseDeclaration.layout ∧
      Json.RoundTrips SchemaDeclaration.toJson SchemaDeclaration.ofJson?
        SchemaDeclaration.layout ∧
      Json.RoundTrips RoleFlags.toJson RoleFlags.ofJson? RoleFlags.layout ∧
      Json.RoundTrips RoleDeclaration.toJson RoleDeclaration.ofJson? RoleDeclaration.layout ∧
      Json.RoundTrips GrantDeclaration.toJson GrantDeclaration.ofJson? GrantDeclaration.layout ∧
      Json.RoundTrips DefaultPrivilegeDeclaration.toJson DefaultPrivilegeDeclaration.ofJson?
        DefaultPrivilegeDeclaration.layout ∧
      Json.RoundTrips Status.toJson Status.ofJson? Status.layout :=
  ⟨Reference.roundTrips, ConnectionDeclaration.roundTrips, DatabaseDeclaration.roundTrips,
    SchemaDeclaration.roundTrips, RoleFlags.roundTrips, RoleDeclaration.roundTrips,
    GrantDeclaration.roundTrips, DefaultPrivilegeDeclaration.roundTrips, Status.roundTrips⟩

end CatalogSteward
