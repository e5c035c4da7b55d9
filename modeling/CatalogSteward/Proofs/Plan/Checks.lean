import CatalogSteward.Proofs.Fallible
import CatalogSteward.Proofs.Listing
import CatalogSteward.Proofs.Plan.DefaultPrivilege
import CatalogSteward.Proofs.Plan.Grant

/-!
# Checks of privileges

A grant, or a default for future objects, passes the checks exactly where it is
admissible: it lists privileges, it has a schema where one is needed, and each
privilege is legal for the type of the objects and known to the server. What
does not pass is refused for its first fault, and where that is about several
privileges or objects, with a list of exactly those.
-/

set_option autoImplicit false

namespace CatalogSteward

open Fallible

/-! ## Refusals -/

section Refusals

variable {α β : Type} {order : α → α → Ordering} {condition : α → Prop}
  {found listing : List α} {value other : β} {rejection : Rejection}

theorem isEmpty_iff_forall_not (meant : ∀ element, element ∈ found ↔ condition element) :
    found.isEmpty = true ↔ ∀ element, ¬condition element := by
  rw [List.isEmpty_iff, List.eq_nil_iff_forall_not_mem]
  exact forall_congr' fun element => not_congr (meant element)

theorem refusal_eq_ok_iff (meant : ∀ element, element ∈ found ↔ condition element) :
    (if found.isEmpty then .ok value else .error rejection : Except Rejection β) = .ok other ↔
      (∀ element, ¬condition element) ∧ other = value := by
  rw [← isEmpty_iff_forall_not meant]
  split
  · next none => simp only [none, Except.ok.injEq, true_and, eq_comm]
  · next some => simp only [some, reduceCtorEq, false_and]

/-- Who refuses whatever is found lists exactly that. -/
theorem refusal_eq_error_iff [Std.TransCmp order] (blame : List α → Rejection)
    (meant : ∀ element, element ∈ found ↔ condition element)
    (lists : IsListing order condition listing) :
    (if found.isEmpty then .ok value else .error (blame listing) : Except Rejection β) =
        .error rejection ↔
      ∃ elements, IsListing order condition elements ∧ elements ≠ [] ∧
        rejection = blame elements := by
  have empty := (isEmpty_iff_forall_not meant).trans lists.eq_nil_iff.symm
  constructor
  · intro refused
    split at refused
    · cases refused
    · next some =>
        cases refused
        exact ⟨listing, lists, mt empty.mpr some, rfl⟩
  · intro refused
    obtain ⟨elements, again, some, rfl⟩ := refused
    obtain rfl := lists.eq again
    rw [if_neg (mt empty.mp some)]

end Refusals

/-! ## Checks -/

/-- A server of a major version knows a privilege. -/
def Privilege.IsKnown (serverVersion : Nat) (privilege : Privilege) : Prop :=
  ∀ required, privilege.minimumVersion? = some required → required ≤ serverVersion

instance (serverVersion : Nat) (privilege : Privilege) :
    Decidable (privilege.IsKnown serverVersion) :=
  inferInstanceAs (Decidable (∀ required ∈ privilege.minimumVersion?, required ≤ serverVersion))

theorem Privilege.keyword_injective {first second : Privilege}
    (same : first.keyword = second.keyword) : first = second := by
  cases first <;> cases second <;> first | rfl | exact absurd same (by decide)

/-- A privilege of a keyword is listed, and the server would have to be of another version to
know it. -/
def NeedsVersion (serverVersion : Nat) (declared : List Privilege) (row : String × Nat) : Prop :=
  ∃ privilege ∈ declared, privilege.keyword = row.1 ∧ privilege.minimumVersion? = some row.2 ∧
    serverVersion < row.2

section Checks

variable {kind resource objectType : String} {schema : Option String} {needsSchema : Bool}
  {declared legal : List Privilege} {serverVersion : Nat} {rejection : Rejection}

theorem mem_filterMap_newerVersionNeeded? {row : String × Nat} :
    row ∈ declared.filterMap (newerVersionNeeded? serverVersion) ↔
      NeedsVersion serverVersion declared row := by
  rw [List.mem_filterMap]
  apply exists_congr
  intro privilege
  simp only [newerVersionNeeded?, Option.map_eq_some_iff, Option.filter_eq_some_iff,
    decide_eq_true_eq]
  constructor
  · intro needed
    obtain ⟨listed, required, needed, rfl⟩ := needed
    exact ⟨listed, rfl, needed⟩
  · intro needed
    obtain ⟨listed, named, needed⟩ := needed
    exact ⟨listed, row.2, needed, Prod.ext named rfl⟩

theorem not_needsVersion_iff :
    (∀ row, ¬NeedsVersion serverVersion declared row) ↔
      ∀ privilege ∈ declared, privilege.IsKnown serverVersion := by
  constructor
  · intro none privilege listed required needed
    exact Nat.le_of_not_lt fun newer => none (_, required) ⟨privilege, listed, rfl, needed, newer⟩
  · intro known row needsVersion
    obtain ⟨privilege, listed, -, needed, newer⟩ := needsVersion
    exact Nat.not_lt_of_le (known privilege listed _ needed) newer

/-- The keyword of a privilege determines which version it needs. -/
theorem NeedsVersion.required_eq {keyword : String} {required other : Nat}
    (needsVersion : NeedsVersion serverVersion declared (keyword, required))
    (again : NeedsVersion serverVersion declared (keyword, other)) : required = other := by
  obtain ⟨privilege, -, named, needed, -⟩ := needsVersion
  obtain ⟨another, -, namedAlike, neededAgain, -⟩ := again
  cases Privilege.keyword_injective (named.trans namedAlike.symm)
  exact Option.some.inj (needed.symm.trans neededAgain)

theorem agreed_newerVersionNeeded? (keyword : String) (required other : Nat)
    (first : (keyword, required) ∈ declared.filterMap (newerVersionNeeded? serverVersion))
    (second : (keyword, other) ∈ declared.filterMap (newerVersionNeeded? serverVersion)) :
    required = other :=
  (mem_filterMap_newerVersionNeeded?.mp first).required_eq
    (mem_filterMap_newerVersionNeeded?.mp second)

theorem checkServerVersion_eq_ok_iff :
    checkServerVersion resource serverVersion declared = .ok () ↔
      ∀ privilege ∈ declared, privilege.IsKnown serverVersion := by
  rw [checkServerVersion, refusal_eq_ok_iff fun _ => mem_filterMap_newerVersionNeeded?,
    and_iff_left rfl, not_needsVersion_iff]

theorem checkServerVersion_eq_error_iff :
    checkServerVersion resource serverVersion declared = .error rejection ↔
      ∃ needed, IsListing (compareOn Prod.fst) (NeedsVersion serverVersion declared) needed ∧
        needed ≠ [] ∧ rejection = .newerServerNeeded resource serverVersion needed :=
  refusal_eq_error_iff _ (fun _ => mem_filterMap_newerVersionNeeded?)
    ((isListing_ofRows agreed_newerVersionNeeded?).congr fun _ =>
      mem_filterMap_newerVersionNeeded?)

theorem mem_filter_illegal {privilege : Privilege} :
    privilege ∈ declared.filter (fun privilege => !legal.contains privilege) ↔
      privilege ∈ declared ∧ privilege ∉ legal := by
  simp only [List.mem_filter, Bool.not_eq_true', List.contains_eq_mem, decide_eq_false_iff_not]

theorem checkLegalPrivileges_eq_ok_iff :
    checkLegalPrivileges kind resource objectType declared legal = .ok () ↔
      ∀ privilege ∈ declared, privilege ∈ legal := by
  rw [checkLegalPrivileges, refusal_eq_ok_iff fun _ => mem_filter_illegal, and_iff_left rfl]
  exact forall_congr' fun privilege => Decidable.not_and_not_right

theorem checkLegalPrivileges_eq_error_iff :
    checkLegalPrivileges kind resource objectType declared legal = .error rejection ↔
      ∃ illegal,
        IsListing compare (fun privilege => privilege ∈ declared ∧ privilege ∉ legal) illegal ∧
          illegal ≠ [] ∧
            rejection = .illegalPrivileges kind resource objectType illegal legal :=
  refusal_eq_error_iff
    (fun illegal => .illegalPrivileges kind resource objectType illegal legal)
    (fun _ => mem_filter_illegal) ((isListing_ofList _).congr fun _ => mem_filter_illegal)

theorem checkDeclared_eq_ok_iff :
    checkDeclared kind resource schema needsSchema objectType declared = .ok () ↔
      declared ≠ [] ∧ (needsSchema = true → (Text.nonBlank? schema).isSome = true) := by
  rw [checkDeclared, ← List.isEmpty_eq_false_iff]
  cases declared.isEmpty <;> cases needsSchema <;> cases Text.nonBlank? schema <;> simp

theorem checkDeclared_eq_error_iff :
    checkDeclared kind resource schema needsSchema objectType declared = .error rejection ↔
      declared = [] ∧ rejection = .noPrivileges kind resource ∨
        declared ≠ [] ∧ (needsSchema = true ∧ Text.nonBlank? schema = none) ∧
          rejection = .noSchema kind objectType resource := by
  rw [checkDeclared, Ne, ← List.isEmpty_iff]
  cases declared.isEmpty <;> cases needsSchema <;> cases Text.nonBlank? schema <;>
    simp [eq_comm]

end Checks

/-! ## Requests for privileges -/

/-- What a grant or a default asks for, as far as the checks look at it. -/
structure PrivilegeRequest where
  kind : String
  resource : String
  objectType : String
  schema : Option String
  needsSchema : Bool
  declared : List Privilege
  legal : List Privilege

namespace PrivilegeRequest

/-- A schema that is not blank is given where one is needed. -/
def IsPlaced (request : PrivilegeRequest) : Prop :=
  request.needsSchema = true → (Text.nonBlank? request.schema).isSome = true

/-- Privileges are asked for, in a schema where one is needed, and all of them are legal for the
type of the objects and known to the server. -/
structure IsAdmissible (request : PrivilegeRequest) (serverVersion : Nat) : Prop where
  some : request.declared ≠ []
  placed : request.IsPlaced
  legal : ∀ privilege ∈ request.declared, privilege ∈ request.legal
  known : ∀ privilege ∈ request.declared, privilege.IsKnown serverVersion

/-- The rejection that tells the first fault of a request. -/
inductive IsRefused (request : PrivilegeRequest) (serverVersion : Nat) : Rejection → Prop where
  | none (none : request.declared = []) :
      IsRefused request serverVersion (.noPrivileges request.kind request.resource)
  | unplaced (some : request.declared ≠ []) (unplaced : ¬request.IsPlaced) :
      IsRefused request serverVersion
        (.noSchema request.kind request.objectType request.resource)
  | illegal (some : request.declared ≠ []) (placed : request.IsPlaced)
      {illegal : List Privilege} (listed : illegal ≠ [])
      (lists : IsListing compare
        (fun privilege => privilege ∈ request.declared ∧ privilege ∉ request.legal) illegal) :
      IsRefused request serverVersion
        (.illegalPrivileges request.kind request.resource request.objectType illegal
          request.legal)
  | unknown (some : request.declared ≠ []) (placed : request.IsPlaced)
      (legal : ∀ privilege ∈ request.declared, privilege ∈ request.legal)
      {needed : List (String × Nat)} (listed : needed ≠ [])
      (lists : IsListing (compareOn Prod.fst) (NeedsVersion serverVersion request.declared)
        needed) :
      IsRefused request serverVersion
        (.newerServerNeeded request.resource serverVersion needed)

/-- The checks that need no server. -/
def validate (request : PrivilegeRequest) : Except Rejection Unit := do
  checkDeclared request.kind request.resource request.schema request.needsSchema
    request.objectType request.declared
  checkLegalPrivileges request.kind request.resource request.objectType request.declared
    request.legal

variable {request : PrivilegeRequest} {serverVersion : Nat} {rejection : Rejection}

theorem not_isPlaced_iff :
    ¬request.IsPlaced ↔ request.needsSchema = true ∧ Text.nonBlank? request.schema = none := by
  rw [IsPlaced, Classical.not_imp, Bool.not_eq_true, Option.isSome_eq_false_iff,
    Option.isNone_iff_eq_none]

theorem validate_eq_ok_iff :
    request.validate = .ok () ↔
      request.declared ≠ [] ∧ request.IsPlaced ∧
        ∀ privilege ∈ request.declared, privilege ∈ request.legal := by
  rw [validate, check_bind_eq_ok_iff, checkDeclared_eq_ok_iff, checkLegalPrivileges_eq_ok_iff,
    and_assoc]
  rfl

theorem isAdmissible_iff :
    request.IsAdmissible serverVersion ↔
      request.validate = .ok () ∧
        checkServerVersion request.resource serverVersion request.declared = .ok () := by
  rw [validate_eq_ok_iff, checkServerVersion_eq_ok_iff]
  constructor
  · intro admissible
    exact ⟨⟨admissible.some, admissible.placed, admissible.legal⟩, admissible.known⟩
  · intro checked
    obtain ⟨⟨some, placed, legal⟩, known⟩ := checked
    exact ⟨some, placed, legal, known⟩

theorem isRefused_iff :
    request.IsRefused serverVersion rejection ↔
      request.validate = .error rejection ∨
        request.validate = .ok () ∧
          checkServerVersion request.resource serverVersion request.declared =
            .error rejection := by
  rw [validate_eq_ok_iff, checkServerVersion_eq_error_iff, validate, check_bind_eq_error_iff]
  simp only [checkDeclared_eq_error_iff, checkDeclared_eq_ok_iff,
    checkLegalPrivileges_eq_error_iff, ← not_isPlaced_iff]
  constructor
  · intro refused
    cases refused with
    | none none => exact .inl (.inl (.inl ⟨none, rfl⟩))
    | unplaced some unplaced => exact .inl (.inl (.inr ⟨some, unplaced, rfl⟩))
    | illegal some placed listed lists =>
        exact .inl (.inr ⟨⟨some, placed⟩, _, lists, listed, rfl⟩)
    | unknown some placed legal listed lists =>
        exact .inr ⟨⟨some, placed, legal⟩, _, lists, listed, rfl⟩
  · intro failed
    rcases failed with ((⟨none, rfl⟩ | ⟨some, unplaced, rfl⟩) | later) | tooOld
    · exact .none none
    · exact .unplaced some unplaced
    · obtain ⟨⟨some, placed⟩, illegal, lists, listed, rfl⟩ := later
      exact .illegal some placed listed lists
    · obtain ⟨⟨some, placed, legal⟩, needed, lists, listed, rfl⟩ := tooOld
      exact .unknown some placed legal listed lists

end PrivilegeRequest

/-! ## Grants -/

namespace GrantDeclaration

variable {declaration : GrantDeclaration} {resource : String} {serverVersion : Nat}
  {observed : GrantObservation} {rejection : Rejection}

/-- What a grant asks for; a schema is needed for everything but databases. -/
def request (declaration : GrantDeclaration) (resource : String) : PrivilegeRequest where
  kind := "Grant"
  resource := resource
  objectType := declaration.objectType.name
  schema := declaration.schema
  needsSchema := declaration.objectType ≠ .database
  declared := declaration.privileges
  legal := declaration.objectType.legalPrivileges

/-- The objects that a grant names: the declared database or schema, or the listed objects. -/
def IsNamed (declaration : GrantDeclaration) (object : String) : Prop :=
  match declaration.objectType with
  | .database => object = declaration.database
  | .schema => object = declaration.schemaName
  | .table | .sequence => object ∈ declaration.objects

/-- The plan for a grant, if it passes the checks that need no server. -/
def checkedPlan (declaration : GrantDeclaration) (resource : String) (serverVersion : Nat)
    (observed : GrantObservation) : Except Rejection Plan := do
  declaration.validate resource
  declaration.plan resource serverVersion observed

/-- The rejection that tells the first fault of a grant: one of its request, or the objects that it
names and that do not exist. -/
inductive IsRefused (declaration : GrantDeclaration) (resource : String) (serverVersion : Nat)
    (observed : GrantObservation) : Rejection → Prop where
  | request {rejection : Rejection}
      (refused : (declaration.request resource).IsRefused serverVersion rejection) :
      IsRefused declaration resource serverVersion observed rejection
  | missing (admissible : (declaration.request resource).IsAdmissible serverVersion)
      {missing : List String} (some : missing ≠ [])
      (lists : IsListing compare
        (fun object => declaration.IsNamed object ∧ object ∉ observed.ownership) missing) :
      IsRefused declaration resource serverVersion observed
        (.missingObjects declaration.objectType resource declaration.schemaName missing)

/-- The targets that do not exist are those that are named and do not exist. -/
theorem isTarget_and_absent_iff {object : String} :
    declaration.IsTarget observed object ∧ object ∉ observed.ownership ↔
      declaration.IsNamed object ∧ object ∉ observed.ownership := by
  unfold IsTarget IsNamed
  cases declaration.objectType with
  | database | schema => rfl
  | table | sequence => grind

theorem isListing_targets (declaration : GrantDeclaration) (observed : GrantObservation) :
    IsListing compare (declaration.IsTarget observed) (declaration.targets observed) where
  mem_iff _ := mem_targets_iff
  ascending := by
    unfold targets explicitTargets
    cases declaration.objectType with
    | database | schema => exact List.pairwise_singleton _ _
    | table | sequence =>
        dsimp only
        split
        · exact Std.ExtTreeMap.ordered_keys
        · exact Std.ExtTreeSet.ordered_toList

theorem isListing_missing (declaration : GrantDeclaration) (observed : GrantObservation) :
    IsListing compare
      (fun object => declaration.IsNamed object ∧ object ∉ observed.ownership)
      ((declaration.targets observed).filter
        fun target => !observed.ownership.contains target) := by
  apply ((declaration.isListing_targets observed).filter _).congr
  intro object
  rw [← isTarget_and_absent_iff, Bool.not_eq_true', ← Bool.not_eq_true,
    Std.ExtTreeMap.mem_iff_contains]

theorem plan_eq_error_iff :
    declaration.plan resource serverVersion observed = .error rejection ↔
      checkServerVersion resource serverVersion declaration.privileges = .error rejection ∨
        checkServerVersion resource serverVersion declaration.privileges = .ok () ∧
          ∃ missing,
            IsListing compare
                (fun object => declaration.IsNamed object ∧ object ∉ observed.ownership)
                missing ∧
              missing ≠ [] ∧
                rejection =
                  .missingObjects declaration.objectType resource declaration.schemaName
                    missing := by
  rw [GrantDeclaration.plan, check_bind_eq_error_iff]
  have lists := declaration.isListing_missing observed
  exact or_congr_right (and_congr_right' (refusal_eq_error_iff _ lists.mem_iff lists))

/-- A plan is made exactly where what is asked for is admissible and what is named exists. -/
theorem exists_checkedPlan_iff :
    (∃ plan, declaration.checkedPlan resource serverVersion observed = .ok plan) ↔
      (declaration.request resource).IsAdmissible serverVersion ∧
        ∀ object, declaration.IsNamed object → object ∈ observed.ownership := by
  have exist : (∀ object, declaration.IsTarget observed object → object ∈ observed.ownership) ↔
      ∀ object, declaration.IsNamed object → object ∈ observed.ownership := by
    apply forall_congr'
    intro object
    rw [← Decidable.not_and_not_right, isTarget_and_absent_iff, Decidable.not_and_not_right]
  simp only [checkedPlan, check_bind_eq_ok_iff, plan_eq_ok_iff, exists_and_left, exists_eq,
    and_true, PrivilegeRequest.isAdmissible_iff, exist, and_assoc]
  rfl

theorem checkedPlan_eq_error_iff :
    declaration.checkedPlan resource serverVersion observed = .error rejection ↔
      declaration.IsRefused resource serverVersion observed rejection := by
  rw [checkedPlan, check_bind_eq_error_iff, plan_eq_error_iff]
  constructor
  · intro failed
    rcases failed with unfit | ⟨fit, tooOld | ⟨known, missing, lists, some, rfl⟩⟩
    · exact .request (PrivilegeRequest.isRefused_iff.mpr (.inl unfit))
    · exact .request (PrivilegeRequest.isRefused_iff.mpr (.inr ⟨fit, tooOld⟩))
    · exact .missing (PrivilegeRequest.isAdmissible_iff.mpr ⟨fit, known⟩) some lists
  · intro refused
    cases refused with
    | request refused =>
        obtain unfit | ⟨fit, tooOld⟩ := PrivilegeRequest.isRefused_iff.mp refused
        · exact .inl unfit
        · exact .inr ⟨fit, .inl tooOld⟩
    | missing admissible some lists =>
        obtain ⟨fit, known⟩ := PrivilegeRequest.isAdmissible_iff.mp admissible
        exact .inr ⟨fit, .inr ⟨known, _, lists, some, rfl⟩⟩

end GrantDeclaration

/-! ## Defaults -/

namespace DefaultPrivilegeDeclaration

variable {declaration : DefaultPrivilegeDeclaration} {resource : String} {serverVersion : Nat}
  {current : PrivilegeSet} {rejection : Rejection}

/-- What a default asks for; a schema is needed for everything but schemas. -/
def request (declaration : DefaultPrivilegeDeclaration) (resource : String) :
    PrivilegeRequest where
  kind := "DefaultPrivilege"
  resource := resource
  objectType := declaration.objectType.name
  schema := declaration.schema
  needsSchema := declaration.objectType ≠ .schema
  declared := declaration.privileges
  legal := declaration.objectType.legalPrivileges

/-- The plan for a default, if it passes the checks that need no server. -/
def checkedPlan (declaration : DefaultPrivilegeDeclaration) (resource : String)
    (serverVersion : Nat) (current : PrivilegeSet) : Except Rejection Plan := do
  declaration.validate resource
  declaration.plan resource serverVersion current

theorem validate_eq : declaration.validate resource = (declaration.request resource).validate := by
  rw [validate, PrivilegeRequest.validate, request]
  cases declaration.objectType <;> rfl

theorem plan_eq_error_iff :
    declaration.plan resource serverVersion current = .error rejection ↔
      checkServerVersion resource serverVersion declaration.privileges = .error rejection := by
  rw [DefaultPrivilegeDeclaration.plan, check_bind_eq_error_iff]
  apply or_iff_left
  intro planned
  cases planned.2

/-- A plan is made exactly where what is asked for is admissible. -/
theorem exists_checkedPlan_iff :
    (∃ plan, declaration.checkedPlan resource serverVersion current = .ok plan) ↔
      (declaration.request resource).IsAdmissible serverVersion := by
  simp only [checkedPlan, check_bind_eq_ok_iff, plan_eq_ok_iff, exists_and_left, exists_eq,
    and_true, PrivilegeRequest.isAdmissible_iff, validate_eq]
  rfl

theorem checkedPlan_eq_error_iff :
    declaration.checkedPlan resource serverVersion current = .error rejection ↔
      (declaration.request resource).IsRefused serverVersion rejection := by
  rw [checkedPlan, check_bind_eq_error_iff, plan_eq_error_iff, validate_eq,
    PrivilegeRequest.isRefused_iff]
  rfl

/-! A default for the schemas that an owner will create, which are in no schema. -/

private def newcomers : DefaultPrivilegeDeclaration :=
  ⟨⟨"main", none⟩, "app", "app_reader", "app_owner", none, .schema, [.usage]⟩

theorem newcomers_need_no_schema :
    newcomers.objectType.name ≠ "database" ∧ Text.nonBlank? newcomers.schema = none ∧
      ∃ plan, newcomers.checkedPlan "apps/newcomers" 16 ∅ = .ok plan := by
  refine ⟨by decide, rfl, exists_checkedPlan_iff.mpr ?_⟩
  constructor
  case some => exact List.cons_ne_nil _ _
  case placed => exact nofun
  case legal => decide
  case known => decide

end DefaultPrivilegeDeclaration

end CatalogSteward
