import CatalogSteward.Proofs.Json.MergePatch
import CatalogSteward.Resource.Status

/-!
# Writing a status

A status is read back from what is written of it, and merging its patch into a
resource leaves that status, whatever the resource reported before, and leaves
everything else of the resource as it is.
-/

set_option autoImplicit false

namespace CatalogSteward

/-! ## Reading a status back -/

theorem Phase.ofJson?_toJson (phase : Phase) : Phase.ofJson? phase.toJson = some phase := by
  cases phase <;> rfl

theorem Json.integerIn?_integer {least greatest number : Int} (low : least ≤ number)
    (high : number ≤ greatest) :
    Json.integerIn? least greatest (.integer number) = some number := by
  have within : (decide (least ≤ number) && decide (number ≤ greatest)) = true := by
    rw [decide_eq_true low, decide_eq_true high, Bool.and_self]
  exact if_pos within

theorem int64?_int64Json (number : Int64) : int64? (int64Json number) = some number := by
  have least : (-9223372036854775808 : Int) ≤ number.toInt := number.le_toInt
  have greatest : number.toInt ≤ 9223372036854775807 := number.toInt_le
  rw [int64?, int64Json, Json.integerIn?_integer least greatest, Option.map_some,
    Int64.ofInt_toInt]

namespace Json.Record

variable {α : Type} {decode : Json → Option α} {encode : α → Json} {name : String}
  {members : List (String × Json)}

theorem defaulted_of_find? {absent value : α} {place : Nat}
    (found : find? name members = some (encode value))
    (readBack : decode (encode value) = some value) :
    (Record.named members).defaulted absent decode place name = some value := by
  simp only [defaulted, field?, found, readBack]

/-- An optional field is read back from a member that is left out where it is absent, unless what
is there is written as `null`. -/
theorem optional_of_find? {given : Option α} {place : Nat}
    (found : find? name members = given.map encode)
    (readBack : ∀ value, decode (encode value) = some value)
    (notNull : ∀ value, encode value ≠ .null) :
    (Record.named members).optional decode place name = some given := by
  cases given with
  | none => simp only [optional, field?, found, Option.map_none]
  | some value =>
      have read : option? decode (encode value) = (decode (encode value)).map some := by
        cases written : encode value with
        | null => exact absurd written (notNull value)
        | _ => rfl
      simp only [optional, field?, found, Option.map_some, read, readBack]

end Json.Record

namespace Status

/-- The fields of a status in the order of their places. -/
def fields : List String :=
  ["name", "phase"] ++ optionalFields

variable (status : Status)

theorem members_toJson :
    status.toJson.members =
      status.fixedMembers ++
        Json.optionalMember "message" .string status.message ++
        Json.optionalMember "lastProbeTime" .string status.lastProbeTime ++
        Json.optionalMember "lastPhaseTransitionTime" .string status.lastPhaseTransitionTime ++
        Json.optionalMember "observedGeneration" int64Json status.observedGeneration :=
  rfl

theorem find?_toJson (field : String) :
    Json.find? field status.toJson.members =
      (Json.find? field status.fixedMembers).or
        ((if "message" = field then status.message.map .string else none).or
          ((if "lastProbeTime" = field then status.lastProbeTime.map .string else none).or
            ((if "lastPhaseTransitionTime" = field then
                status.lastPhaseTransitionTime.map .string else none).or
              (if "observedGeneration" = field then
                status.observedGeneration.map int64Json else none)))) := by
  simp only [members_toJson, Json.find?_append, Json.find?_optionalMember, Option.or_assoc]

/-- Members from which every field is read as the status writes it make that status. -/
theorem ofJson?_of_fields {members : List (String × Json)}
    (same : ∀ field ∈ fields,
      Json.find? field members = Json.find? field status.toJson.members) :
    ofJson? (.object members) = some status := by
  have name : Json.find? "name" members = some (.string status.name) :=
    same "name" (by decide)
  have phase : Json.find? "phase" members = some status.phase.toJson :=
    same "phase" (by decide)
  have message : Json.find? "message" members = status.message.map .string := by
    rw [same "message" (by decide), find?_toJson]
    simp [fixedMembers, Json.find?]
  have lastProbeTime : Json.find? "lastProbeTime" members = status.lastProbeTime.map .string := by
    rw [same "lastProbeTime" (by decide), find?_toJson]
    simp [fixedMembers, Json.find?]
  have lastPhaseTransitionTime : Json.find? "lastPhaseTransitionTime" members =
      status.lastPhaseTransitionTime.map .string := by
    rw [same "lastPhaseTransitionTime" (by decide), find?_toJson]
    simp [fixedMembers, Json.find?]
  have observedGeneration : Json.find? "observedGeneration" members =
      status.observedGeneration.map int64Json := by
    rw [same "observedGeneration" (by decide), find?_toJson]
    simp [fixedMembers, Json.find?]
  have notNull : ∀ text, Json.string text ≠ .null := fun _ => Json.noConfusion
  simp only [ofJson?, Json.record?, Option.bind_eq_bind, Option.bind_some, Option.pure_def]
  rw [Json.Record.defaulted_of_find? name rfl,
    Json.Record.defaulted_of_find? phase (Phase.ofJson?_toJson _),
    Json.Record.optional_of_find? message (fun _ => rfl) notNull,
    Json.Record.optional_of_find? lastProbeTime (fun _ => rfl) notNull,
    Json.Record.optional_of_find? lastPhaseTransitionTime (fun _ => rfl) notNull,
    Json.Record.optional_of_find? observedGeneration int64?_int64Json (fun _ => Json.noConfusion)]
  rfl

theorem ofJson?_toJson : ofJson? status.toJson = some status :=
  status.ofJson?_of_fields fun _ _ => rfl

/-! ## Merging a status -/

/-- A status writes each of its fields at most once, and nothing else. -/
theorem keys_toJson_sublist : (status.toJson.members.map Prod.fst).Sublist fields := by
  simp only [members_toJson, List.map_append, List.append_assoc]
  exact (List.Sublist.refl ["name", "phase"]).append
    ((Json.keys_optionalMember_sublist _ status.message).append
      ((Json.keys_optionalMember_sublist _ status.lastProbeTime).append
        ((Json.keys_optionalMember_sublist _ status.lastPhaseTransitionTime).append
          (Json.keys_optionalMember_sublist _ status.observedGeneration))))

theorem nodup_keys_toJson : (status.toJson.members.map Prod.fst).Nodup := by
  have distinct : fields.Nodup := by decide
  exact status.keys_toJson_sublist.nodup distinct

theorem replaces_of_mem_toJson : ∀ member ∈ status.toJson.members, Json.Replaces member.2 := by
  simp only [members_toJson, List.forall_mem_append]
  refine ⟨⟨⟨⟨?_, ?message⟩, ?probe⟩, ?transition⟩, ?generation⟩
  · exact List.forall_mem_cons.mpr
      ⟨Json.replaces_string _, List.forall_mem_singleton.mpr (Json.replaces_string _)⟩
  case generation => exact Json.replaces_optionalMember (fun _ => Json.replaces_integer _) _
  all_goals exact Json.replaces_optionalMember Json.replaces_string _

/-- Every field is a member of what is written, or one that is left out where it is absent. -/
theorem isSome_or_mem_optionalFields {field : String} (isField : field ∈ fields) :
    (Json.find? field status.toJson.members).isSome ∨ field ∈ optionalFields := by
  obtain fixed | isOptional := List.mem_append.mp isField
  · have written : field = "name" ∨ field = "phase" := by simpa using fixed
    obtain rfl | rfl := written
    · exact .inl rfl
    · exact .inl rfl
  · exact .inr isOptional

/-- A status write replaces the whole status and nothing else. Merged into any resource, the patch
of a status leaves a status that is read back as that one, so that nothing survives of what was
reported before, and every other member of the resource as it was. It does not matter whether the
resource had a status, which fields that status had, or whether it was a status at all. -/
theorem patch_replaces_status (resource : Json) :
    (∃ stored, (resource.mergePatch status.patch).member? "status" = some stored ∧
        ofJson? stored = some status) ∧
      Json.erase "status" (resource.mergePatch status.patch).members =
        Json.erase "status" resource.members := by
  have merged : resource.mergePatch status.patch =
      .object (Json.mergeMember resource.members
        ("status", .object (Json.withNulls optionalFields status.toJson.members))) := by
    rw [patch, Json.mergePatch, Json.mergeMembers, Json.mergeMembers]
  rw [merged, Json.member?, Json.members]
  refine ⟨?_, Json.erase_mergeMember⟩
  rw [Json.find?_mergeMember_self, Json.mergedMember, Json.mergePatch]
  · refine ⟨_, rfl, status.ofJson?_of_fields fun field isField => ?_⟩
    exact Json.find?_mergeMembers_withNulls status.nodup_keys_toJson status.replaces_of_mem_toJson
      (status.isSome_or_mem_optionalFields isField)
  · exact Json.noConfusion

end Status

end CatalogSteward
