import CatalogSteward.Proofs.Reconcile.Tried

/-!
# Objects that the grantee owns

A grant leaves the objects alone that it is about and that its role owns. What
the role holds on other objects of the scope is given up when the grant is
carried out, and what it holds on any object when the grant is cleaned up,
whoever owns the object; but nothing is ever granted to the owner of an object.
-/

set_option autoImplicit false

namespace CatalogSteward

open Sql

namespace GrantDeclaration

/-- The role of a grant owns the object of a name in the scope of the grant. -/
def IsOwned (declaration : GrantDeclaration) (database : String) (state : ServerState)
    (object : String) : Prop :=
  ∃ securable, state.find? database object declaration.scope = some (securable, declaration.role)

/-- A grant is about the declared database or schema, or about the relations that it lists, which
are all of them where it lists none. -/
def Covers (declaration : GrantDeclaration) (object : String) : Prop :=
  match declaration.objectType with
  | .database => object = declaration.database
  | .schema => object = declaration.schemaName
  | .table | .sequence => declaration.objects = [] ∨ object ∈ declaration.objects

/-- A command changes what the role of a grant holds on the object of a name. -/
def Names (declaration : GrantDeclaration) (object : String) (command : Command) : Prop :=
  ∃ privileges,
    command = .grantOnObject declaration.objectType declaration.schemaName object privileges
        declaration.role ∨
      command = .revokeOnObject declaration.objectType declaration.schemaName object privileges
        declaration.role

/-- A command takes some privileges from the role of a grant that it holds on the object of a
name, and does nothing else. -/
def GivesUp (declaration : GrantDeclaration) (database : String) (state : ServerState)
    (object : String) (command : Command) : Prop :=
  ∃ privileges,
    command = .revokeOnObject declaration.objectType declaration.schemaName object privileges
        declaration.role ∧
      privileges ≠ [] ∧
        ∀ privilege ∈ privileges, privilege ∈ declaration.held database state.access object

variable {declaration : GrantDeclaration} {database : String} {state : ServerState}
  {observed : GrantObservation} {current : ObjectPrivileges} {object : String} {command : Command}

theorem GivesUp.names (givesUp : declaration.GivesUp database state object command) :
    declaration.Names object command := by
  obtain ⟨privileges, same, -, -⟩ := givesUp
  exact ⟨privileges, .inr same⟩

/-! ## Plans -/

theorem considers_of_covers (covers : declaration.Covers object) :
    declaration.scope.Considers declaration.namedObjects object := by
  unfold Covers at covers
  unfold scope namedObjects
  cases objectType : declaration.objectType with
  | database | schema => trivial
  | table | sequence =>
      rw [objectType] at covers
      exact covers

theorem covers_of_isTarget (target : declaration.IsTarget observed object) :
    declaration.Covers object := by
  unfold IsTarget at target
  unfold Covers
  cases objectType : declaration.objectType with
  | database | schema =>
      rw [objectType] at target
      exact target
  | table | sequence =>
      rw [objectType] at target
      exact target.imp_left And.left

theorem IsShown.getElem?_ownership (shown : declaration.IsShown database state observed)
    {found : Securable × String}
    (present : state.find? database object declaration.scope = some found)
    (considers : declaration.scope.Considers declaration.namedObjects object) :
    observed.ownership[object]? = some (decide (found.2 = declaration.role)) :=
  (shown.ownership object _).mpr ⟨considers, found, present, rfl⟩

theorem IsShown.mem_ownership (shown : declaration.IsShown database state observed)
    {found : Securable × String}
    (present : state.find? database object declaration.scope = some found)
    (considers : declaration.scope.Considers declaration.namedObjects object) :
    object ∈ observed.ownership :=
  Std.ExtTreeMap.mem_iff_isSome_getElem?.mpr
    (Option.isSome_of_eq_some (shown.getElem?_ownership present considers))

theorem IsShown.owns_eq (shown : declaration.IsShown database state observed)
    {found : Securable × String}
    (present : state.find? database object declaration.scope = some found)
    (covers : declaration.Covers object) :
    owns observed object = decide (found.2 = declaration.role) := by
  rw [owns, Std.ExtTreeMap.getD_eq_getD_getElem?,
    shown.getElem?_ownership present (considers_of_covers covers), Option.getD_some]

theorem IsShown.isTarget_of_covers (shown : declaration.IsShown database state observed)
    {found : Securable × String}
    (present : state.find? database object declaration.scope = some found)
    (covers : declaration.Covers object) : declaration.IsTarget observed object := by
  have listed := shown.mem_ownership present (considers_of_covers covers)
  unfold Covers at covers
  unfold IsTarget
  cases objectType : declaration.objectType with
  | database | schema =>
      rw [objectType] at covers
      exact covers
  | table | sequence =>
      rw [objectType] at covers
      exact covers.imp_left (⟨·, listed⟩)

theorem IsShown.owns_of_isOwned (shown : declaration.IsShown database state observed)
    (owned : declaration.IsOwned database state object) (covers : declaration.Covers object) :
    owns observed object = true := by
  obtain ⟨securable, present⟩ := owned
  exact (shown.owns_eq present covers).trans (decide_eq_true rfl)

/-- What is seen to be held is held. -/
theorem mem_held_of_find? {privilege : Privilege}
    (present : ∃ found, state.find? database object declaration.scope = some found ∧
      privilege ∈ state.access found.1 declaration.role) :
    privilege ∈ declaration.held database state.access object := by
  obtain ⟨found, present, holds⟩ := present
  rw [held, ← securable_of_find? present]
  exact holds

theorem mem_getD_of_entry {privileges : PrivilegeSet} {privilege : Privilege}
    (entry : (object, privileges) ∈ current.toList) (member : privilege ∈ privileges.toList) :
    privilege ∈ current.getD object ∅ := by
  rw [Std.ExtTreeMap.getD_eq_getD_getElem?,
    Std.ExtTreeMap.mem_toList_iff_getElem?_eq_some.mp entry, Option.getD_some]
  exact Std.ExtTreeSet.mem_toList.mp member

theorem givesUp_of_mem_revokeOn {privileges : PrivilegeSet}
    (seen : ∀ object privilege, privilege ∈ current.getD object ∅ →
      privilege ∈ declaration.held database state.access object)
    (entry : (object, privileges) ∈ current.toList)
    (member : command ∈ declaration.revokeOn object privileges.toList) :
    declaration.GivesUp database state object command := by
  obtain ⟨some_, rfl⟩ := mem_revokeOn_iff.mp member
  exact ⟨privileges.toList, rfl, some_, fun privilege given =>
    seen object privilege (mem_getD_of_entry entry given)⟩

/-- Each command of a plan is about one object. If the role owns that, it is none that the grant is
about, and the command only gives up what the role holds there. -/
theorem IsShown.spares_owned (shown : declaration.IsShown database state observed)
    (member : command ∈ declaration.commands observed) :
    ∃ object, declaration.Names object command ∧
      (declaration.IsOwned database state object →
        ¬declaration.Covers object ∧ declaration.GivesUp database state object command) := by
  cases List.mem_append.mp member with
  | inl adjusted =>
      obtain ⟨object, target, adjusted⟩ := List.mem_flatMap.mp adjusted
      obtain ⟨target, notOwned⟩ := List.mem_filter.mp target
      have names : declaration.Names object command := by
        cases List.mem_append.mp adjusted with
        | inl surplus => exact ⟨_, .inr (mem_revokeOn_iff.mp surplus).2⟩
        | inr lacking => exact ⟨_, .inl (mem_grantOn_iff.mp lacking).2⟩
      refine ⟨object, names, fun owned => ?_⟩
      rw [shown.owns_of_isOwned owned (covers_of_isTarget (mem_targets_iff.mp target))] at notOwned
      cases notOwned
  | inr elsewhere =>
      obtain ⟨⟨object, privileges⟩, entry, elsewhere⟩ := List.mem_flatMap.mp elsewhere
      split at elsewhere
      case isTrue => exact absurd elsewhere List.not_mem_nil
      case isFalse notListed =>
        have givesUp := givesUp_of_mem_revokeOn (fun object privilege held =>
          mem_held_of_find? ((shown.current object privilege).mp held)) entry elsewhere
        refine ⟨object, givesUp.names, fun owned => ⟨fun covers => notListed ?_, givesUp⟩⟩
        obtain ⟨securable, present⟩ := owned
        exact List.contains_iff_mem.mpr
          (mem_targets_iff.mpr (shown.isTarget_of_covers present covers))

/-! ## Attempts -/

theorem observes_needed {environment : Environment} (declaration : GrantDeclaration) :
    (allExist [roleExists declaration.role, schemaExists declaration.schemaOfObjects]).Observes
      environment database fun state found =>
        found = [fun state : ServerState => (state.roles declaration.role).isSome,
          fun state => state.hasSchema database declaration.schemaOfObjects].all fun there =>
            there state :=
  observes_allExist (.cons (observes_roleExists declaration.role)
    (.cons (observes_schemaExists declaration.schemaOfObjects) .nil))

/-- What is revoked to clean up is made of the privileges that the catalog reports. -/
theorem observes_revocations {environment : Environment} (declaration : GrantDeclaration) :
    (declaration.revokeAll <$> declaration.observePrivileges).Observes environment database
      fun state commands =>
        ∃ rows, (Query.privileges declaration.scope declaration.role).IsAnswered state database
            rows ∧ commands = declaration.revokeAll (collectPrivileges rows) := by
  have looks : declaration.observePrivileges.Observes environment database _ :=
    .map (.rows (.privileges declaration.scope declaration.role))
  apply looks.map.imp
  · intro state commands seen
    obtain ⟨_, ⟨rows, answered, rfl⟩, rfl⟩ := seen
    exact ⟨rows, answered, rfl⟩
  · intro state commands answered
    obtain ⟨rows, answered, rfl⟩ := answered
    exact ⟨_, _, ⟨rows, answered, rfl⟩, rfl⟩

/-- What a role holds is given up object by object when its grant is cleaned up. -/
theorem givesUp_of_cleanup {environment : Environment} {world after : World} {user : String}
    {interactions : List Interaction} {result : Except Failure Unit}
    (path : declaration.cleanup.Path interactions result)
    (along : Along (Request.IsAttempted environment) (world.connected database user) interactions
      after)
    (tried : Tries interactions command) :
    ∃ object, declaration.GivesUp database world.server object command := by
  obtain ⟨_, ⟨rows, answered, rfl⟩, member⟩ :=
    exists_revocations_of_tries (observes_needed declaration)
      (allExist_asks (declaration.needed_asks Request.isWork_of_isLook))
      (observes_revocations declaration)
      (declaration.observePrivileges_asks Request.isWork_of_isLook).map path along tried
  obtain ⟨⟨object, privileges⟩, entry, member⟩ := List.mem_flatMap.mp member
  have seen : ∀ object privilege, privilege ∈ (collectPrivileges rows).getD object ∅ →
      privilege ∈ declaration.held database world.server.access object := by
    intro object privilege held
    exact mem_held_of_find? ((answered.mem_collectPrivileges object privilege).mp held)
  exact ⟨object, givesUp_of_mem_revokeOn seen entry member⟩

/-- Objects that a grant is about and that its role owns are never touched. Whatever the server
keeps, whatever its version is and whatever is refused on the way: each command that is tried to
carry out a grant is about one object of its scope, and if the role owns that, the grant is not
about it and the command takes nothing but privileges that the role holds there. Each command that
is tried to clean up does that as well, on objects of the role and on others. Nothing is granted on
an object to its owner. -/
theorem owned_targets_are_never_touched {resource : String} {session : Session}
    {environment : Environment} {world after : World} {user : String}
    {interactions : List Interaction}
    (along : Along (Request.IsAttempted environment) (world.connected database user) interactions
      after) :
    (∀ result, (declaration.converge resource session).Path interactions result →
        ∀ command, Tries interactions command →
          ∃ object, declaration.Names object command ∧
            (declaration.IsOwned database world.server object →
              ¬declaration.Covers object ∧
                declaration.GivesUp database world.server object command)) ∧
      ∀ result, declaration.cleanup.Path interactions result →
        ∀ command, Tries interactions command →
          ∃ object, declaration.GivesUp database world.server object command := by
  constructor
  · intro result path command tried
    obtain ⟨observed, plan, shown, planned, member⟩ :=
      exists_plan_of_tries (observes_grant declaration)
        (declaration.observe_asks Request.isWork_of_isLook) path along tried
    obtain ⟨-, -, rfl⟩ := plan_eq_ok_iff.mp planned
    exact shown.spares_owned member
  · exact fun result path command tried => givesUp_of_cleanup path along tried

/-! A role owns two tables of which its grant lists one. What it holds on the other one is revoked
when the grant is carried out, and what it holds on both when the grant is cleaned up. -/

private def auditing : GrantDeclaration where
  cluster := ⟨"main", none⟩
  database := "app"
  role := "reader"
  schema := some "public"
  objectType := .table
  objects := ["orders"]
  privileges := [.select]

private def reader : RoleState where
  login := true
  attributes := .standard
  validUntil := none
  verifier := none
  comment := none
  inRole := []
  members := []

private def audited : ServerState where
  version := "170000"
  databases := fun _ => some "admin"
  schemas := fun _ _ => some "admin"
  relations := fun _ _ =>
    ((∅ : Std.ExtTreeMap String Relation).insert "orders" ⟨"r", "reader"⟩).insert "audit"
      ⟨"r", "reader"⟩
  roles := fun _ => some reader
  access := fun _ role => if role = "reader" then .ofList [Privilege.select] else ∅
  defaults := fun _ _ _ _ => ∅
  apart := by
    intro _ role known
    cases known
    exact ⟨List.not_mem_nil, List.not_mem_nil⟩

private def revocation (object : String) : Command :=
  .revokeOnObject .table "public" object [.select] "reader"

private def unaudited (state : ServerState) (object : String) : ServerState :=
  { state with access := (revocation object).onAccess "app" state.access }

private def library : World :=
  ⟨fun _ => none, audited, none⟩

private def pruned : World :=
  ⟨fun _ => none, unaudited audited "audit", none⟩

private def stripped : World :=
  ⟨fun _ => none, unaudited (unaudited audited "audit") "orders", none⟩

private def holdings : List (String × String) :=
  [("audit", "SELECT"), ("orders", "SELECT")]

private def carrying : List Interaction :=
  [⟨.begin, Except.ok ()⟩,
    ⟨.query (.ownership auditing.scope auditing.namedObjects "reader"),
      Except.ok [("orders", true)]⟩,
    ⟨.query (.privileges auditing.scope "reader"), Except.ok holdings⟩,
    execution (revocation "audit"), ⟨.commit, Except.ok ()⟩]

private def clearing : List Interaction :=
  [⟨.begin, Except.ok ()⟩, ⟨.query (.role "reader"), Except.ok (some reader.row)⟩,
    ⟨.query (.rolesAbove "reader"), Except.ok []⟩, ⟨.query (.rolesBelow "reader"), Except.ok []⟩,
    ⟨.query (.schemaOwner "public"), Except.ok (some "admin")⟩,
    ⟨.query (.privileges auditing.scope "reader"), Except.ok holdings⟩,
    execution (revocation "audit"), execution (revocation "orders"), ⟨.commit, Except.ok ()⟩]

private def auditedPlan : Plan :=
  ⟨[revocation "audit"], some (.ownsTargets .table "shop/auditing" "public" ["orders"])⟩

private theorem find?_audited_iff {object : String} {found : Securable × String} :
    audited.find? "app" object auditing.scope = some found ↔
      (object = "orders" ∨ object = "audit") ∧
        found = (.table "app" "public" object, "reader") := by
  have listed : (audited.relations "app" "public")[object]? =
      if object = "orders" ∨ object = "audit" then some ⟨"r", "reader"⟩ else none := by
    simp only [audited, Std.ExtTreeMap.getElem?_insert, Std.LawfulEqCmp.compare_eq_iff_eq,
      Std.ExtTreeMap.getElem?_empty]
    grind
  have scope : auditing.scope = .relations ["r", "p", "v", "m", "f"] "public" := rfl
  rw [scope, ServerState.find?, listed]
  by_cases there : object = "orders" ∨ object = "audit"
  · simp [there, Relation.securable, eq_comm]
  · simp [there]

private theorem mem_access_audited_iff {securable : Securable} {privilege : Privilege} :
    privilege ∈ audited.access securable "reader" ↔ privilege = .select := by
  simp only [audited, if_true, Std.ExtTreeSet.mem_ofList, List.contains_iff_mem,
    List.mem_singleton]

private theorem path_carrying :
    (auditing.converge "shop/auditing" ⟨17⟩).Path carrying (.ok auditedPlan.outcome) := by
  have looked : auditing.observe.Path
      [⟨.query (.ownership auditing.scope auditing.namedObjects "reader"),
          Except.ok [("orders", true)]⟩,
        ⟨.query (.privileges auditing.scope "reader"), Except.ok holdings⟩]
      (.ok ⟨.ofList [("orders", true)], collectPrivileges holdings⟩) :=
    .call (.call (.done _))
  have planned : auditing.plan "shop/auditing" 17
      ⟨.ofList [("orders", true)], collectPrivileges holdings⟩ = .ok auditedPlan := by
    refine plan_eq_ok_iff.mpr ⟨rfl, ?_, by decide +kernel⟩
    intro object target
    rw [← mem_targets_iff] at target
    revert object
    decide +kernel
  have committed : Leave.commit.carryOut.Path [⟨.commit, Except.ok ()⟩] (.ok ()) :=
    .call (.done _)
  exact settle_path looked planned committed

private theorem path_clearing : auditing.cleanup.Path clearing (.ok ()) := by
  have checked : (allExist [roleExists "reader", schemaExists auditing.schemaOfObjects]).Path
      [⟨.query (.role "reader"), Except.ok (some reader.row)⟩,
        ⟨.query (.rolesAbove "reader"), Except.ok []⟩,
        ⟨.query (.rolesBelow "reader"), Except.ok []⟩,
        ⟨.query (.schemaOwner "public"), Except.ok (some "admin")⟩] (.ok true) :=
    .call (.call (.call (.call (.done _))))
  have looked : (auditing.revokeAll <$> auditing.observePrivileges).Path
      [⟨.query (.privileges auditing.scope "reader"), Except.ok holdings⟩]
      (.ok [revocation "audit", revocation "orders"]) := by
    have revoked : auditing.revokeAll (collectPrivileges holdings) =
        [revocation "audit", revocation "orders"] := by
      decide +kernel
    rw [← revoked]
    exact .call (.done _)
  exact revokeWhere_path checked looked

private theorem answered_ownership :
    (Query.ownership auditing.scope auditing.namedObjects "reader").IsAnswered audited "app"
      [("orders", true)] := by
  refine ⟨⟨rfl, rfl⟩, fun object isOwner => ?_⟩
  have considered : auditing.scope.Considers auditing.namedObjects object ↔ object = "orders" :=
    ⟨fun listed => List.mem_singleton.mp (listed.resolve_left (List.cons_ne_nil _ _)),
      fun same => .inr (List.mem_singleton.mpr same)⟩
  show (object, isOwner) ∈ [("orders", true)] ↔
    auditing.scope.Considers auditing.namedObjects object ∧
      ∃ found, audited.find? "app" object auditing.scope = some found ∧
        isOwner = decide (found.2 = "reader")
  simp only [considered, find?_audited_iff, List.mem_singleton, Prod.mk.injEq]
  constructor
  · rintro ⟨rfl, rfl⟩
    exact ⟨rfl, _, ⟨.inl rfl, rfl⟩, rfl⟩
  · rintro ⟨rfl, _, ⟨-, rfl⟩, rfl⟩
    exact ⟨rfl, rfl⟩

private theorem answered_privileges :
    (Query.privileges auditing.scope "reader").IsAnswered audited "app" holdings := by
  refine ⟨⟨rfl, rfl⟩, fun object privilege => ?_⟩
  have spelled : Privilege.ofAcl? "SELECT" = some .select := by decide +kernel
  have listed {keyword : String} :
      (object, keyword) ∈ holdings ↔
        (object = "orders" ∨ object = "audit") ∧ keyword = "SELECT" := by
    simp only [holdings, List.mem_cons, Prod.mk.injEq, List.not_mem_nil, or_false]
    grind
  show (∃ keyword, (object, keyword) ∈ holdings ∧ _) ↔ _
  simp only [find?_audited_iff, listed]
  constructor
  · rintro ⟨_, ⟨there, rfl⟩, same⟩
    cases spelled.symm.trans same
    exact ⟨_, ⟨there, rfl⟩, mem_access_audited_iff.mpr rfl⟩
  · rintro ⟨_, ⟨there, rfl⟩, held⟩
    cases mem_access_audited_iff.mp held
    exact ⟨"SELECT", ⟨there, rfl⟩, spelled⟩

private theorem executes_revocation {access : Securable → String → PrivilegeSet} {object : String}
    (there : object = "orders" ∨ object = "audit") :
    (revocation object).Executes "app" "admin" { audited with access := access }
      (unaudited { audited with access := access } object) where
  possible := by
    have has : audited.has (.table "app" "public" object) = true := by
      obtain rfl | rfl := there <;> decide +kernel
    exact ⟨has, rfl⟩
  version := rfl
  databases := rfl
  schemas := rfl
  relations := rfl
  roles := fun _ => rfl
  access := rfl
  defaults := fun _ _ _ _ => rfl

private def secretless : Environment :=
  ⟨fun _ _ => none, fun _ _ => none, fun _ => .error ""⟩

private theorem along_carrying :
    Along (Request.IsServed secretless) (library.connected "app" "admin") carrying
      (pruned.connected "app" "admin") :=
  .cons ⟨rfl, rfl⟩ (.cons ⟨_, _, rfl, answered_ownership, rfl, rfl⟩
    (.cons ⟨_, _, rfl, answered_privileges, rfl, rfl⟩
      (.cons ⟨_, _, rfl, executes_revocation (.inr rfl), rfl, rfl⟩
        (.cons ⟨rfl, rfl⟩ (.nil _)))))

private theorem along_clearing :
    Along (Request.IsServed secretless) (library.connected "app" "admin") clearing
      (stripped.connected "app" "admin") := by
  have alone (role : String) : List.Mem role [] ↔
      ∃ found, audited.roles "reader" = some found ∧ role ∈ found.inRole :=
    ⟨nofun, by rintro ⟨_, ⟨⟩, ⟨⟩⟩⟩
  have unused (role : String) : List.Mem role [] ↔
      ∃ found, audited.roles "reader" = some found ∧ role ∈ found.members :=
    ⟨nofun, by rintro ⟨_, ⟨⟩, ⟨⟩⟩⟩
  exact .cons ⟨rfl, rfl⟩
    (.cons ⟨_, some reader.row, rfl, congrArg some reader.state_row, rfl, rfl⟩
      (.cons ⟨_, _, rfl, alone, rfl, rfl⟩ (.cons ⟨_, _, rfl, unused, rfl, rfl⟩
        (.cons ⟨_, _, rfl, rfl, rfl, rfl⟩ (.cons ⟨_, _, rfl, answered_privileges, rfl, rfl⟩
          (.cons ⟨_, _, rfl, executes_revocation (.inr rfl), rfl, rfl⟩
            (.cons ⟨_, _, rfl, executes_revocation (.inl rfl), rfl, rfl⟩
              (.cons ⟨rfl, rfl⟩ (.nil _)))))))))

private theorem tries_carrying : Tries carrying (revocation "audit") :=
  ⟨execution (revocation "audit"), by simp [carrying], rfl⟩

private theorem tries_clearing : Tries clearing (revocation "orders") :=
  ⟨execution (revocation "orders"), by simp [clearing], rfl⟩

/-- An unlisted table of its role is named when the grant is carried out, and a listed one when it
is cleaned up, with every request served. -/
theorem owned_tables_are_named :
    (auditing.IsOwned "app" audited "audit" ∧ auditing.Names "audit" (revocation "audit") ∧
      Along (Request.IsServed secretless) (library.connected "app" "admin") carrying
          (pruned.connected "app" "admin") ∧
        (auditing.converge "shop/auditing" ⟨17⟩).Path carrying (.ok auditedPlan.outcome) ∧
          Tries carrying (revocation "audit")) ∧
      auditing.IsOwned "app" audited "orders" ∧ auditing.Names "orders" (revocation "orders") ∧
        Along (Request.IsServed secretless) (library.connected "app" "admin") clearing
            (stripped.connected "app" "admin") ∧
          auditing.cleanup.Path clearing (.ok ()) ∧ Tries clearing (revocation "orders") :=
  ⟨⟨⟨_, find?_audited_iff.mpr ⟨.inr rfl, rfl⟩⟩, ⟨[.select], .inr rfl⟩, along_carrying,
      path_carrying, tries_carrying⟩,
    ⟨_, find?_audited_iff.mpr ⟨.inl rfl, rfl⟩⟩, ⟨[.select], .inr rfl⟩, along_clearing,
      path_clearing, tries_clearing⟩

theorem owned_targets_are_never_touched_by_auditing :
    (Along (Request.IsAttempted secretless) (library.connected "app" "admin") carrying
        (pruned.connected "app" "admin") ∧
      ∃ object, auditing.Names object (revocation "audit") ∧
        (auditing.IsOwned "app" audited object →
          ¬auditing.Covers object ∧ auditing.GivesUp "app" audited object (revocation "audit"))) ∧
      Along (Request.IsAttempted secretless) (library.connected "app" "admin") clearing
          (stripped.connected "app" "admin") ∧
        ∃ object, auditing.GivesUp "app" audited object (revocation "orders") := by
  have carried : Along (Request.IsAttempted secretless) (library.connected "app" "admin") carrying
      (pruned.connected "app" "admin") := along_carrying.imp .inl
  have cleared : Along (Request.IsAttempted secretless) (library.connected "app" "admin") clearing
      (stripped.connected "app" "admin") := along_clearing.imp .inl
  refine ⟨⟨carried, ?_⟩, cleared, ?_⟩
  · exact (owned_targets_are_never_touched carried).1 _ path_carrying _ tries_carrying
  · exact (@owned_targets_are_never_touched auditing "app" "shop/auditing" ⟨17⟩ _ _ _ _ _
      cleared).2 _ path_clearing _ tries_clearing

end GrantDeclaration

end CatalogSteward
