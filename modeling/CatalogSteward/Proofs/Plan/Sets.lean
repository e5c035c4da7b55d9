import CatalogSteward.Proofs.Plan.Checks
import CatalogSteward.Proofs.Plan.Role

/-!
# Lists that are read as sets

The privileges and objects of a grant, the privileges of a default, and the
memberships of a role are lists, and only what is in them matters: in another
order, or with something repeated, they pass the same checks or fail them with
the same rejection, and lead to the same plan.
-/

set_option autoImplicit false

namespace CatalogSteward

theorem isEmpty_congr {α : Type} {left right : List α}
    (same : ∀ element, element ∈ left ↔ element ∈ right) : left.isEmpty = right.isEmpty := by
  rw [Bool.eq_iff_iff, List.isEmpty_iff, List.isEmpty_iff, List.eq_nil_iff_forall_not_mem,
    List.eq_nil_iff_forall_not_mem]
  exact forall_congr' fun element => not_congr (same element)

/-! ## Checks of privileges -/

section Checks

variable {left right : List Privilege}

theorem checkLegalPrivileges_congr (same : ∀ privilege, privilege ∈ left ↔ privilege ∈ right)
    (kind resource objectType : String) (legal : List Privilege) :
    checkLegalPrivileges kind resource objectType left legal =
      checkLegalPrivileges kind resource objectType right legal := by
  have illegal : ∀ privilege,
      privilege ∈ left.filter (fun privilege => !legal.contains privilege) ↔
        privilege ∈ right.filter (fun privilege => !legal.contains privilege) := by
    intro privilege
    rw [List.mem_filter, List.mem_filter, same privilege]
  rw [checkLegalPrivileges, checkLegalPrivileges, isEmpty_congr illegal,
    ofList_eq_ofList_iff.mpr illegal]

theorem checkServerVersion_congr (same : ∀ privilege, privilege ∈ left ↔ privilege ∈ right)
    (resource : String) (serverVersion : Nat) :
    checkServerVersion resource serverVersion left =
      checkServerVersion resource serverVersion right := by
  have needed : ∀ row, row ∈ left.filterMap (newerVersionNeeded? serverVersion) ↔
      row ∈ right.filterMap (newerVersionNeeded? serverVersion) := by
    intro row
    simp only [List.mem_filterMap, same]
  rw [checkServerVersion, checkServerVersion, isEmpty_congr needed,
    ofRows_eq needed agreed_newerVersionNeeded?]

theorem checkDeclared_congr (same : ∀ privilege, privilege ∈ left ↔ privilege ∈ right)
    (kind resource : String) (schema : Option String) (needsSchema : Bool)
    (objectType : String) :
    checkDeclared kind resource schema needsSchema objectType left =
      checkDeclared kind resource schema needsSchema objectType right := by
  rw [checkDeclared, checkDeclared, isEmpty_congr same]

end Checks

/-! ## Grants -/

namespace GrantDeclaration

variable {declaration : GrantDeclaration} {privileges : List Privilege} {objects : List String}

/-- A grant that lists its privileges and objects otherwise. -/
def withLists (declaration : GrantDeclaration) (privileges : List Privilege)
    (objects : List String) : GrantDeclaration :=
  { declaration with privileges := privileges, objects := objects }

theorem validate_withLists
    (samePrivileges : ∀ privilege, privilege ∈ privileges ↔ privilege ∈ declaration.privileges)
    (resource : String) :
    (declaration.withLists privileges objects).validate resource =
      declaration.validate resource := by
  simp only [validate, withLists, checkDeclared_congr samePrivileges,
    checkLegalPrivileges_congr samePrivileges]
  rfl

theorem targets_withLists (sameObjects : ∀ object, object ∈ objects ↔ object ∈ declaration.objects)
    (observed : GrantObservation) :
    (declaration.withLists privileges objects).targets observed = declaration.targets observed := by
  simp only [targets, explicitTargets, withLists, schemaName, isEmpty_congr sameObjects,
    ofList_eq_ofList_iff.mpr sameObjects]

theorem adjust_withLists
    (samePrivileges : ∀ privilege, privilege ∈ privileges ↔ privilege ∈ declaration.privileges) :
    (declaration.withLists privileges objects).adjust = declaration.adjust := by
  have desired : (declaration.withLists privileges objects).desired = declaration.desired :=
    ofList_eq_ofList_iff.mpr samePrivileges
  funext current object
  rw [adjust, adjust, desired]
  rfl

theorem plan_withLists
    (samePrivileges : ∀ privilege, privilege ∈ privileges ↔ privilege ∈ declaration.privileges)
    (sameObjects : ∀ object, object ∈ objects ↔ object ∈ declaration.objects)
    (resource : String) (serverVersion : Nat) (observed : GrantObservation) :
    (declaration.withLists privileges objects).plan resource serverVersion observed =
      declaration.plan resource serverVersion observed := by
  have known := checkServerVersion_congr samePrivileges resource serverVersion
  rw [GrantDeclaration.plan, GrantDeclaration.plan, targets_withLists sameObjects,
    adjust_withLists samePrivileges, ← known]
  rfl

end GrantDeclaration

/-! ## Defaults -/

namespace DefaultPrivilegeDeclaration

variable {declaration : DefaultPrivilegeDeclaration} {privileges : List Privilege}
  (samePrivileges : ∀ privilege, privilege ∈ privileges ↔ privilege ∈ declaration.privileges)

/-- A default that lists its privileges otherwise. -/
def withList (declaration : DefaultPrivilegeDeclaration) (privileges : List Privilege) :
    DefaultPrivilegeDeclaration :=
  { declaration with privileges := privileges }

include samePrivileges

theorem validate_withList (resource : String) :
    (declaration.withList privileges).validate resource = declaration.validate resource := by
  simp only [validate, withList, checkDeclared_congr samePrivileges,
    checkLegalPrivileges_congr samePrivileges]

theorem plan_withList (resource : String) (serverVersion : Nat) (current : PrivilegeSet) :
    (declaration.withList privileges).plan resource serverVersion current =
      declaration.plan resource serverVersion current := by
  have known := checkServerVersion_congr samePrivileges resource serverVersion
  have desired : (declaration.withList privileges).desired = declaration.desired :=
    ofList_eq_ofList_iff.mpr samePrivileges
  rw [DefaultPrivilegeDeclaration.plan, DefaultPrivilegeDeclaration.plan, desired, ← known]
  rfl

end DefaultPrivilegeDeclaration

/-! ## Roles -/

namespace RoleDeclaration

variable {declaration : RoleDeclaration} {inRole members : List String}

/-- A role that declares its memberships in other lists. -/
def withMembershipLists (declaration : RoleDeclaration) (inRole members : List String) :
    RoleDeclaration :=
  { declaration with flags := { declaration.flags with inRole := inRole, members := members } }

variable (sameInRole : ∀ role, role ∈ inRole ↔ role ∈ declaration.flags.inRole)
  (sameMembers : ∀ role, role ∈ members ↔ role ∈ declaration.flags.members)

include sameInRole sameMembers

theorem creation_withMembershipLists (password : Option String)
    (validUntil : Option Time.Instant) :
    (declaration.withMembershipLists inRole members).creation password validUntil =
      declaration.creation password validUntil := by
  have parents : canonicalMembers inRole = canonicalMembers declaration.flags.inRole :=
    canonicalNames_eq_iff.mpr sameInRole
  have children : canonicalMembers members = canonicalMembers declaration.flags.members :=
    canonicalNames_eq_iff.mpr sameMembers
  simp only [creation, withMembershipLists, parents, children]
  rfl

theorem repair_withMembershipLists {current seen : RoleState} (alike : current.IsReadAs seen)
    (password : Option String) (validUntil : Option Time.Instant) :
    (declaration.withMembershipLists inRole members).repair password validUntil seen =
      declaration.repair password validUntil current := by
  have parents : (declaration.withMembershipLists inRole members).parentChanges seen =
      declaration.parentChanges current := by
    rw [parentChanges, parentChanges, ofList_eq_ofList_iff.mpr alike.inRole]
    exact congrArg _ (ofList_eq_ofList_iff.mpr sameInRole)
  have children : (declaration.withMembershipLists inRole members).memberChanges seen =
      declaration.memberChanges current := by
    rw [memberChanges, memberChanges, ofList_eq_ofList_iff.mpr alike.members]
    exact congrArg _ (ofList_eq_ofList_iff.mpr sameMembers)
  simp only [repair, membershipCommands, passwordAgrees, attributesAgree, parents, children,
    alike.login, alike.attributes, alike.validUntil, alike.verifier, alike.comment]
  rfl

theorem plan_withMembershipLists {current seen : Option RoleState}
    (alike : Option.Rel RoleState.IsReadAs current seen) (password : Option String) :
    (declaration.withMembershipLists inRole members).plan password seen =
      declaration.plan password current := by
  rw [RoleDeclaration.plan, RoleDeclaration.plan]
  cases alike with
  | none =>
      simp only [creation_withMembershipLists sameInRole sameMembers]
      rfl
  | some alike =>
      simp only [repair_withMembershipLists sameInRole sameMembers alike]
      rfl

end RoleDeclaration

/-! ## The same elements -/

/-- Lists are read as sets. Where the privileges and objects of a grant, the privileges of a
default, or the memberships of a role are listed otherwise, in another order or with repetitions,
and the memberships that were observed likewise, the checks and the plan come to the same. -/
theorem lists_are_read_as_sets :
    (∀ (declaration : GrantDeclaration) (privileges : List Privilege) (objects : List String),
      (∀ privilege, privilege ∈ privileges ↔ privilege ∈ declaration.privileges) →
        (∀ object, object ∈ objects ↔ object ∈ declaration.objects) →
          (∀ resource,
            (declaration.withLists privileges objects).validate resource =
              declaration.validate resource) ∧
            ∀ resource serverVersion observed,
              (declaration.withLists privileges objects).plan resource serverVersion observed =
                declaration.plan resource serverVersion observed) ∧
      (∀ (declaration : DefaultPrivilegeDeclaration) (privileges : List Privilege),
        (∀ privilege, privilege ∈ privileges ↔ privilege ∈ declaration.privileges) →
          (∀ resource,
            (declaration.withList privileges).validate resource =
              declaration.validate resource) ∧
            ∀ resource serverVersion current,
              (declaration.withList privileges).plan resource serverVersion current =
                declaration.plan resource serverVersion current) ∧
        ∀ (declaration : RoleDeclaration) (inRole members : List String)
          (current seen : Option RoleState),
          (∀ role, role ∈ inRole ↔ role ∈ declaration.flags.inRole) →
            (∀ role, role ∈ members ↔ role ∈ declaration.flags.members) →
              Option.Rel RoleState.IsReadAs current seen →
                ∀ password,
                  (declaration.withMembershipLists inRole members).plan password seen =
                    declaration.plan password current := by
  refine ⟨?grants, ?defaults, ?roles⟩
  case grants =>
    intro declaration privileges objects samePrivileges sameObjects
    exact ⟨GrantDeclaration.validate_withLists samePrivileges,
      GrantDeclaration.plan_withLists samePrivileges sameObjects⟩
  case defaults =>
    intro declaration privileges samePrivileges
    exact ⟨DefaultPrivilegeDeclaration.validate_withList samePrivileges,
      DefaultPrivilegeDeclaration.plan_withList samePrivileges⟩
  case roles =>
    intro declaration inRole members current seen sameInRole sameMembers alike
    exact RoleDeclaration.plan_withMembershipLists sameInRole sameMembers alike

/-! A grant, a default and a role, each listed in another order and with repetitions. -/

private def shelves : GrantDeclaration :=
  ⟨⟨"main", none⟩, "library", "visitor", some "stacks", .table, ["atlases", "novels"],
    [.select, .insert]⟩

private def arrivals : DefaultPrivilegeDeclaration :=
  ⟨⟨"main", none⟩, "library", "visitor", "librarian", some "stacks", .table,
    [.select, .update]⟩

private def visitor : RoleDeclaration :=
  ⟨"visitor", none, ⟨"main", none⟩, none, ⟨.standard, none, ["guests", "Readers"], ["child"]⟩⟩

private def visitorFound : RoleState :=
  ⟨false, .standard, none, none, none, ["guests", "staff"], []⟩

theorem lists_are_read_as_sets_in_library :
    ((∀ privilege, privilege ∈ [.insert, .select, .insert] ↔ privilege ∈ shelves.privileges) ∧
        (∀ object, object ∈ ["novels", "atlases", "novels"] ↔ object ∈ shelves.objects) ∧
          (∀ privilege, privilege ∈ [.update, .select] ↔ privilege ∈ arrivals.privileges) ∧
            (∀ role, role ∈ ["Readers", "guests", "Readers"] ↔ role ∈ visitor.flags.inRole) ∧
              visitorFound.IsReadAs { visitorFound with inRole := ["staff", "guests"] }) ∧
      (∀ resource serverVersion observed,
        (shelves.withLists [.insert, .select, .insert] ["novels", "atlases", "novels"]).plan
            resource serverVersion observed =
          shelves.plan resource serverVersion observed) ∧
        (∀ resource,
          (arrivals.withList [.update, .select]).validate resource = arrivals.validate resource) ∧
          (visitor.withMembershipLists ["Readers", "guests", "Readers"] ["child"]).plan none
              (some { visitorFound with inRole := ["staff", "guests"] }) =
            visitor.plan none (some visitorFound) := by
  have privileges : ∀ privilege,
      privilege ∈ [.insert, .select, .insert] ↔ privilege ∈ shelves.privileges := by
    intro privilege
    cases privilege <;> decide
  have objects : ∀ object, object ∈ ["novels", "atlases", "novels"] ↔ object ∈ shelves.objects := by
    intro object
    simp only [shelves, List.mem_cons, List.not_mem_nil]
    grind
  have defaults : ∀ privilege,
      privilege ∈ [.update, .select] ↔ privilege ∈ arrivals.privileges := by
    intro privilege
    cases privilege <;> decide
  have inRole : ∀ role,
      role ∈ ["Readers", "guests", "Readers"] ↔ role ∈ visitor.flags.inRole := by
    intro role
    simp only [visitor, List.mem_cons, List.not_mem_nil]
    grind
  have alike : visitorFound.IsReadAs { visitorFound with inRole := ["staff", "guests"] } := by
    refine ⟨rfl, rfl, rfl, rfl, rfl, ?_, fun _ => Iff.rfl⟩
    intro role
    simp only [visitorFound, List.mem_cons, List.not_mem_nil]
    grind
  obtain ⟨ofGrant, ofDefault, ofRole⟩ := lists_are_read_as_sets
  exact ⟨⟨privileges, objects, defaults, inRole, alike⟩,
    (ofGrant shelves _ _ privileges objects).2, (ofDefault arrivals _ defaults).1,
    ofRole visitor _ _ _ _ inRole (fun _ => Iff.rfl) (.some alike) none⟩

end CatalogSteward
