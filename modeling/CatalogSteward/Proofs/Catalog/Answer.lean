import CatalogSteward.Proofs.Catalog.Reported
import CatalogSteward.Proofs.Server.State

/-!
# Answers of the catalog

The rows that a server may answer a query with, given what it keeps. Their
order, their number and the spelling of privileges are up to it; what is read
from them is not.
-/

set_option autoImplicit false

namespace CatalogSteward

/-- A role without its memberships, which the catalog keeps elsewhere. -/
def RoleState.alone (state : RoleState) : RoleState :=
  { state with inRole := [], members := [] }

/-- Whether an object is asked about, where the question may be narrowed to some relations. -/
def ObjectScope.Considers (objects : List String) (object : String) : ObjectScope → Prop
  | .relations _ _ => objects = [] ∨ object ∈ objects
  | _ => True

/-- The names that a question about a scope casts are those of a schema and a role. -/
def ServerState.Resolves (state : ServerState) (database grantee : String) : ObjectScope → Prop
  | .database _ => (state.roles grantee).isSome
  | .schema _ => (state.roles grantee).isSome
  | .relations _ schema =>
      (state.schemas database schema).isSome ∧ (state.roles grantee).isSome

theorem ServerState.Resolves.of_sameObjects {before after : ServerState}
    {database grantee : String} {scope : ObjectScope}
    (resolves : before.Resolves database grantee scope) (same : before.SameObjects after) :
    after.Resolves database grantee scope := by
  cases scope with
  | database | schema =>
      rw [Resolves, same.roles]
      exact resolves
  | relations =>
      rw [Resolves, same.roles, same.schemas]
      exact resolves

def Reports (rows : List String) (privilege : Privilege) : Prop :=
  ∃ keyword ∈ rows, Privilege.ofAcl? keyword = some privilege

/-- The rows may answer a query of a session in a database. -/
def Query.IsAnswered (state : ServerState) (database : String) :
    (query : Query) → query.Rows → Prop
  | .versionNumber, rows => rows = state.version
  | .versionText, _ => True
  | .databaseOwner name, rows => rows = state.databases name
  | .schemaOwner name, rows => rows = state.schemas database name
  | .role name, rows =>
      Option.map (fun row => RoleRow.state row [] []) rows =
        (state.roles name).map RoleState.alone
  | .rolesAbove name, rows =>
      ∀ role, List.Mem role rows ↔ ∃ found, state.roles name = some found ∧ role ∈ found.inRole
  | .rolesBelow name, rows =>
      ∀ role, List.Mem role rows ↔ ∃ found, state.roles name = some found ∧ role ∈ found.members
  | .ownership scope objects grantee, rows =>
      state.Resolves database grantee scope ∧
        ∀ object isOwner,
          List.Mem (object, isOwner) rows ↔
            scope.Considers objects object ∧
              ∃ found, state.find? database object scope = some found ∧
                isOwner = decide (found.2 = grantee)
  | .privileges scope grantee, rows =>
      state.Resolves database grantee scope ∧
        ∀ object privilege,
          (∃ keyword, List.Mem (object, keyword) rows ∧
              Privilege.ofAcl? keyword = some privilege) ↔
            ∃ found, state.find? database object scope = some found ∧
              privilege ∈ state.access found.1 grantee
  | .defaultPrivileges owner schema objectType grantee, rows =>
      (state.hasSchema database (Query.askedSchema schema objectType) ∧
          (state.roles owner).isSome ∧ (state.roles grantee).isSome) ∧
        ∀ privilege,
          Reports rows privilege ↔
            ∃ place : DefaultPlace, place.objectType = objectType ∧
              (Query.askedSchema schema objectType = none ∨
                place.schema = Query.askedSchema schema objectType) ∧
                privilege ∈ state.defaults database place owner grantee

/-! ## Rows -/

theorem Privilege.ofAcl?_keyword (privilege : Privilege) :
    Privilege.ofAcl? privilege.keyword = some privilege := by
  cases privilege <;> decide +kernel

theorem Privilege.mem_all (privilege : Privilege) : privilege ∈ all := by
  cases privilege <;> decide

theorem exists_reports (held : Privilege → Prop) :
    ∃ rows, ∀ privilege, Reports rows privilege ↔ held privilege := by
  classical
  refine ⟨(Privilege.all.filter fun privilege => held privilege).map Privilege.keyword, ?_⟩
  intro privilege
  simp only [Reports, List.mem_map, List.mem_filter, Privilege.mem_all, decide_eq_true_eq,
    true_and]
  constructor
  · rintro ⟨_, ⟨other, present, rfl⟩, spelled⟩
    rw [Privilege.ofAcl?_keyword, Option.some.injEq] at spelled
    exact spelled ▸ present
  · intro present
    exact ⟨_, ⟨privilege, present, rfl⟩, privilege.ofAcl?_keyword⟩

namespace ServerState

variable {state : ServerState} {database grantee : String} {scope : ObjectScope}

/-- The names of a scope, some of which may be those of other relations. -/
def candidates (state : ServerState) (database : String) : ObjectScope → List String
  | .database name => [name]
  | .schema name => [name]
  | .relations _ schema => (state.relations database schema).keys

theorem mem_candidates {object : String} {found : Securable × String}
    (present : state.find? database object scope = some found) :
    object ∈ state.candidates database scope := by
  cases scope with
  | database name | schema name =>
      simp only [find?, Option.ite_none_right_eq_some] at present
      exact List.mem_singleton.mpr present.1
  | relations kinds schema =>
      obtain ⟨relation, entry, -⟩ := Option.bind_eq_some_iff.mp present
      rw [candidates, Std.ExtTreeMap.mem_keys]
      exact Std.ExtTreeMap.mem_iff_isSome_getElem?.mpr (Option.isSome_of_eq_some entry)

theorem exists_ownership (objects : List String)
    (resolves : state.Resolves database grantee scope) :
    ∃ rows, (Query.ownership scope objects grantee).IsAnswered state database rows := by
  classical
  refine ⟨((state.candidates database scope).filter (scope.Considers objects ·)).filterMap
    fun object => (state.find? database object scope).map fun found =>
      (object, decide (found.2 = grantee)), resolves, ?_⟩
  intro object isOwner
  show (object, isOwner) ∈ List.filterMap _ _ ↔ _
  simp only [List.mem_filterMap, List.mem_filter, decide_eq_true_eq, Option.map_eq_some_iff,
    Prod.mk.injEq]
  constructor
  · rintro ⟨_, ⟨-, considered⟩, found, present, rfl, rfl⟩
    exact ⟨considered, found, present, rfl⟩
  · rintro ⟨considered, found, present, rfl⟩
    exact ⟨object, ⟨mem_candidates present, considered⟩, found, present, rfl, rfl⟩

theorem exists_privileges (resolves : state.Resolves database grantee scope) :
    ∃ rows, (Query.privileges scope grantee).IsAnswered state database rows := by
  have reported : ∀ object, ∃ rows, ∀ privilege, Reports rows privilege ↔
      ∃ found, state.find? database object scope = some found ∧
        privilege ∈ state.access found.1 grantee :=
    fun object => exists_reports _
  refine ⟨(state.candidates database scope).flatMap fun object =>
    (reported object).choose.map (object, ·), resolves, ?_⟩
  intro object privilege
  have spelled := (reported object).choose_spec privilege
  show (∃ keyword, (object, keyword) ∈ List.flatMap _ _ ∧ _) ↔ _
  simp only [← spelled, List.mem_flatMap, List.mem_map, Prod.mk.injEq]
  constructor
  · rintro ⟨keyword, ⟨_, -, _, member, rfl, rfl⟩, same⟩
    exact ⟨_, member, same⟩
  · rintro ⟨keyword, member, same⟩
    obtain ⟨found, present, -⟩ := spelled.mp ⟨keyword, member, same⟩
    exact ⟨keyword, ⟨object, mem_candidates present, keyword, member, rfl, rfl⟩, same⟩

end ServerState

/-! ## What is read from rows -/

/-- What is read from an answer about privileges is what the role holds on the objects that are
found. -/
theorem Query.IsAnswered.mem_collectPrivileges {state : ServerState} {database grantee : String}
    {scope : ObjectScope} {rows : List (String × String)}
    (answered : (Query.privileges scope grantee).IsAnswered state database rows) (object : String)
    (privilege : Privilege) :
    privilege ∈ (collectPrivileges rows).getD object ∅ ↔
      ∃ found, state.find? database object scope = some found ∧
        privilege ∈ state.access found.1 grantee :=
  mem_getD_collectPrivileges.trans
    ((exists_congr fun _ => and_congr_right fun _ => Privilege.ofAcl?_eq_some_iff.symm).trans
      (answered.2 object privilege))

end CatalogSteward
