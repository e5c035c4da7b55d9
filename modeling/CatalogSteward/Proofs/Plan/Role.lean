import CatalogSteward.Proofs.Containers
import CatalogSteward.Proofs.Difference
import CatalogSteward.Proofs.Fallible
import CatalogSteward.Proofs.Plan.Names
import CatalogSteward.Proofs.Server.Role

/-!
# Plans for roles

A plan has no commands exactly where a role exists and agrees with its
declaration, and the commands of a plan leave a role that agrees, whatever
differed before: its login, its password, its attributes, its expiry, its
memberships, its comment or several of them, or that there was no role.
-/

set_option autoImplicit false

namespace CatalogSteward

open Sql Time

/-! ## Lists of names -/

theorem mem_canonicalMembers {names : List String} {name : String} :
    name ∈ canonicalMembers names ↔ name ∈ names :=
  mem_canonicalNames

/-! ## Agreement -/

/-- What was read of a role: everything that the role has, its memberships in any order and any
number of times. -/
structure RoleState.IsReadAs (state seen : RoleState) : Prop where
  login : seen.login = state.login
  attributes : seen.attributes = state.attributes
  validUntil : seen.validUntil = state.validUntil
  verifier : seen.verifier = state.verifier
  comment : seen.comment = state.comment
  inRole : ∀ role, role ∈ seen.inRole ↔ role ∈ state.inRole
  members : ∀ role, role ∈ seen.members ↔ role ∈ state.members

theorem RoleState.isReadAs_self (state : RoleState) : state.IsReadAs state :=
  ⟨rfl, rfl, rfl, rfl, rfl, fun _ => Iff.rfl, fun _ => Iff.rfl⟩

namespace RoleDeclaration

/-- A role agrees with its declaration: it can log in when a secret holds its password, and its
password is that one then; its attributes and, to the microsecond, its expiry are the declared
ones; it is in the declared roles and has the declared members; and its comment is the declared
one, where a blank one is none. -/
structure Agrees (declaration : RoleDeclaration) (password : Option String)
    (state : RoleState) : Prop where
  login : state.login = declaration.passwordSecret.isSome
  password : ∀ secret, password = some secret →
    passwordMatches state.verifier secret declaration.name = true
  attributes : state.attributes = declaration.flags.attributes
  expiry : ∃ validUntil, parseExpiry declaration.flags.validUntil = .ok validUntil ∧
    state.validUntil.map Instant.microseconds = validUntil.map Instant.microseconds
  inRole : ∀ role, role ∈ state.inRole ↔ role ∈ declaration.flags.inRole
  members : ∀ role, role ∈ state.members ↔ role ∈ declaration.flags.members
  comment : Text.nonBlank? state.comment = Text.nonBlank? declaration.comment

variable {declaration : RoleDeclaration} {password : Option String}
  {validUntil : Option Instant} {current : RoleState}

/-- A plan is made where the expiry can be read, and it is determined by the declaration, the
password and what is there. -/
theorem plan_eq_ok_iff {found : Option RoleState} {plan : Plan} :
    declaration.plan password found = .ok plan ↔
      ∃ validUntil, parseExpiry declaration.flags.validUntil = .ok validUntil ∧
        plan =
          match found with
          | none => declaration.creation password validUntil
          | some state => declaration.repair password validUntil state := by
  rw [RoleDeclaration.plan, Fallible.bind_eq_ok_iff]
  cases found with
  | none => simp only [pure, Except.pure, Except.ok.injEq, eq_comm]
  | some state => simp only [pure, Except.pure, Except.ok.injEq, eq_comm]

theorem passwordAgrees_iff (given : password.isSome = declaration.login) :
    declaration.passwordAgrees password current = true ↔
      ∀ secret, password = some secret →
        passwordMatches current.verifier secret declaration.name = true := by
  cases password with
  | none => simp only [passwordAgrees, reduceCtorEq, false_implies, implies_true]
  | some secret => simp only [passwordAgrees, ← given, Option.isSome_some, Option.some.injEq,
      forall_eq']

theorem attributesAgree_iff :
    declaration.attributesAgree validUntil current = true ↔
      current.attributes = declaration.flags.attributes ∧
        current.validUntil.map Instant.microseconds = validUntil.map Instant.microseconds := by
  rw [attributesAgree, sameExpiry, Bool.and_eq_true, beq_iff_eq, beq_iff_eq]
  exact and_congr eq_comm eq_comm

theorem parentChanges_isEmpty_iff :
    (declaration.parentChanges current).isEmpty = true ↔
      ∀ role, role ∈ current.inRole ↔ role ∈ declaration.flags.inRole := by
  rw [parentChanges, Difference.isEmpty_between_iff, ofList_eq_ofList_iff]

theorem memberChanges_isEmpty_iff :
    (declaration.memberChanges current).isEmpty = true ↔
      ∀ role, role ∈ current.members ↔ role ∈ declaration.flags.members := by
  rw [memberChanges, Difference.isEmpty_between_iff, ofList_eq_ofList_iff]

/-- Everything that one command sets anew agrees: all but the comment. -/
def optionsAgree (declaration : RoleDeclaration) (password : Option String)
    (validUntil : Option Instant) (current : RoleState) : Bool :=
  current.login == declaration.login && declaration.passwordAgrees password current &&
    declaration.attributesAgree validUntil current &&
      ((declaration.parentChanges current).isEmpty && (declaration.memberChanges current).isEmpty)

def commentAgrees (declaration : RoleDeclaration) (current : RoleState) : Bool :=
  declaration.declaredComment == Text.nonBlank? current.comment

def alteration (declaration : RoleDeclaration) (password : Option String)
    (validUntil : Option Instant) (current : RoleState) : List Command :=
  if declaration.optionsAgree password validUntil current then []
  else
    [.alterRole declaration.name
      (declaration.options
        (declaration.passwordChange password (declaration.passwordAgrees password current))
        validUntil)]

def commenting (declaration : RoleDeclaration) (current : RoleState) : List Command :=
  if declaration.commentAgrees current then []
  else [.commentOnRole declaration.name declaration.declaredComment]

theorem optionsAgree_iff (given : password.isSome = declaration.login) :
    declaration.optionsAgree password validUntil current = true ↔
      current.login = declaration.login ∧
        (∀ secret, password = some secret →
          passwordMatches current.verifier secret declaration.name = true) ∧
        current.attributes = declaration.flags.attributes ∧
        current.validUntil.map Instant.microseconds = validUntil.map Instant.microseconds ∧
        (∀ role, role ∈ current.inRole ↔ role ∈ declaration.flags.inRole) ∧
        ∀ role, role ∈ current.members ↔ role ∈ declaration.flags.members := by
  rw [optionsAgree, Bool.and_eq_true, Bool.and_eq_true, Bool.and_eq_true, Bool.and_eq_true,
    beq_iff_eq, passwordAgrees_iff given, attributesAgree_iff, parentChanges_isEmpty_iff,
    memberChanges_isEmpty_iff]
  simp only [and_assoc]

theorem commentAgrees_iff :
    declaration.commentAgrees current = true ↔
      Text.nonBlank? current.comment = Text.nonBlank? declaration.comment := by
  rw [commentAgrees, declaredComment, beq_iff_eq, eq_comm]

theorem agrees_iff (given : password.isSome = declaration.login)
    (parsed : parseExpiry declaration.flags.validUntil = .ok validUntil) :
    declaration.Agrees password current ↔
      declaration.optionsAgree password validUntil current = true ∧
        declaration.commentAgrees current = true := by
  rw [optionsAgree_iff given, commentAgrees_iff]
  constructor
  · intro agrees
    obtain ⟨expected, parsedAs, expiry⟩ := agrees.expiry
    cases parsed.symm.trans parsedAs
    exact ⟨⟨agrees.login, agrees.password, agrees.attributes, expiry, agrees.inRole,
      agrees.members⟩, agrees.comment⟩
  · rintro ⟨⟨login, accepted, attributes, expiry, inRole, members⟩, comment⟩
    exact ⟨login, accepted, attributes, ⟨validUntil, parsed, expiry⟩, inRole, members, comment⟩

theorem membershipCommands_of_agree
    (agree : declaration.optionsAgree password validUntil current = true) :
    declaration.membershipCommands current = [] := by
  simp only [optionsAgree, Difference.isEmpty, Bool.and_eq_true, List.isEmpty_iff] at agree
  obtain ⟨-, parents, members⟩ := agree
  simp only [membershipCommands, parents, members, List.map_nil, List.append_nil]

theorem repair_of_agree (agree : declaration.optionsAgree password validUntil current = true)
    (comment : declaration.commentAgrees current = true) :
    declaration.repair password validUntil current = .nothing := by
  rw [optionsAgree] at agree
  rw [commentAgrees] at comment
  simp only [repair, agree, comment, Bool.and_self, ↓reduceIte]

theorem commands_repair :
    (declaration.repair password validUntil current).commands =
      declaration.alteration password validUntil current ++
        declaration.membershipCommands current ++ declaration.commenting current := by
  by_cases agree : declaration.optionsAgree password validUntil current = true ∧
      declaration.commentAgrees current = true
  · rw [repair_of_agree agree.1 agree.2, alteration, if_pos agree.1,
      membershipCommands_of_agree agree.1, commenting, if_pos agree.2]
    rfl
  · rw [← Bool.and_eq_true] at agree
    exact congrArg Plan.commands (if_neg agree)

theorem commands_repair_eq_nil_iff :
    (declaration.repair password validUntil current).commands = [] ↔
      declaration.optionsAgree password validUntil current = true ∧
        declaration.commentAgrees current = true := by
  rw [commands_repair, List.append_eq_nil_iff, List.append_eq_nil_iff, alteration, commenting]
  simp only [ite_eq_left_iff, List.cons_ne_nil, imp_false, Bool.not_eq_true, Bool.not_eq_false]
  constructor
  · rintro ⟨⟨options, -⟩, comment⟩
    exact ⟨options, comment⟩
  · rintro ⟨options, comment⟩
    exact ⟨⟨options, membershipCommands_of_agree options⟩, comment⟩

/-! ## Memberships -/

def withMemberships (declaration : RoleDeclaration) (current state : RoleState) : RoleState :=
  let name := declaration.name
  let parents := declaration.parentChanges current
  let members := declaration.memberChanges current
  (((state.leave name (parents.surplus.map fun parent => (parent, name))).join name
    (parents.lacking.map fun parent => (parent, name))).leave name
      (members.surplus.map fun member => (name, member))).join name
        (members.lacking.map fun member => (name, member))

variable {before after : Option RoleState}

/-- The commands about memberships succeed where no role is to become a member of itself. -/
theorem inOrder_membershipCommands :
    InOrder (Command.OnRole declaration.name) (declaration.membershipCommands current) before
        after ↔
      (declaration.name ∉ (declaration.parentChanges current).lacking ∧
        declaration.name ∉ (declaration.memberChanges current).lacking) ∧
        after = before.map (declaration.withMemberships current) := by
  have shape : declaration.membershipCommands current =
      (((declaration.parentChanges current).surplus.map fun parent =>
          (parent, declaration.name)).map fun pair => .revokeMembership pair.1 pair.2) ++
        (((declaration.parentChanges current).lacking.map fun parent =>
          (parent, declaration.name)).map fun pair => .grantMembership pair.1 pair.2) ++
        (((declaration.memberChanges current).surplus.map fun member =>
          (declaration.name, member)).map fun pair => .revokeMembership pair.1 pair.2) ++
        (((declaration.memberChanges current).lacking.map fun member =>
          (declaration.name, member)).map fun pair => .grantMembership pair.1 pair.2) := by
    simp only [membershipCommands, List.map_map, Function.comp_def]
  have apart : ∀ names : List String,
      (∀ name ∈ names, name ≠ declaration.name) ↔ declaration.name ∉ names :=
    fun names => ⟨fun all member => all _ member rfl, fun none name member same =>
      none (same ▸ member)⟩
  have apart' : ∀ names : List String,
      (∀ name ∈ names, declaration.name ≠ name) ↔ declaration.name ∉ names :=
    fun names => (forall₂_congr fun _ _ => ne_comm).trans (apart names)
  simp only [shape, InOrder.append_iff, inOrder_revokeMemberships, inOrder_grantMemberships,
    List.forall_mem_map, apart, apart', and_assoc, exists_eq_left, exists_and_left,
    Option.map_map]
  rfl

variable {state stored : RoleState}

theorem mem_inRole_withMemberships (same : ∀ role, role ∈ current.inRole ↔ role ∈ state.inRole)
    (notOwnParent : declaration.name ∉ declaration.flags.inRole)
    (notOwnMember : declaration.name ∉ declaration.flags.members) (role : String) :
    role ∈ (declaration.withMemberships current state).inRole ↔
      role ∈ declaration.flags.inRole := by
  simp only [withMemberships, RoleState.mem_inRole_join, RoleState.mem_inRole_leave, same,
    List.mem_map, Prod.mk.injEq, and_true, exists_eq_right, exists_eq_right_right, parentChanges,
    memberChanges, Difference.mem_surplus_between, Difference.mem_lacking_between,
    Std.ExtTreeSet.mem_ofList, List.contains_iff_mem]
  grind

theorem mem_members_withMemberships
    (same : ∀ role, role ∈ current.members ↔ role ∈ state.members)
    (notOwnParent : declaration.name ∉ declaration.flags.inRole)
    (notOwnMember : declaration.name ∉ declaration.flags.members) (role : String) :
    role ∈ (declaration.withMemberships current state).members ↔
      role ∈ declaration.flags.members := by
  simp only [withMemberships, RoleState.mem_members_join, RoleState.mem_members_leave, same,
    List.mem_map, Prod.mk.injEq, true_and, exists_eq_right, parentChanges, memberChanges,
    Difference.mem_surplus_between, Difference.mem_lacking_between,
    Std.ExtTreeSet.mem_ofList, List.contains_iff_mem]
  grind

/-! ## What commands leave -/

theorem inOrder_alteration :
    InOrder (Command.OnRole declaration.name)
        (declaration.alteration password validUntil current) (some state) after ↔
      if declaration.optionsAgree password validUntil current = true then after = some state
      else
        ∃ verifier,
          (declaration.passwordChange password
              (declaration.passwordAgrees password current)).Leaves declaration.name
            state.verifier verifier ∧
          after =
            some
              (state.withOptions
                (declaration.options
                  (declaration.passwordChange password
                    (declaration.passwordAgrees password current)) validUntil) verifier) := by
  rw [alteration]
  split
  · exact InOrder.nil_iff
  · rw [InOrder.singleton_iff]
    simp only [Command.OnRole, ↓reduceIte, Option.some.injEq, exists_and_left, exists_eq_left',
      options]

theorem inOrder_commenting :
    InOrder (Command.OnRole declaration.name) (declaration.commenting current) (some state)
        after ↔
      after =
        some
          (if declaration.commentAgrees current = true then state
          else { state with comment := declaration.declaredComment }) := by
  rw [commenting]
  split
  · exact InOrder.nil_iff
  · rw [InOrder.singleton_iff]
    simp only [Command.OnRole, ↓reduceIte, Option.some.injEq, exists_eq_left']

theorem accepted_after_passwordChange (given : password.isSome = declaration.login)
    {verifier : Option String}
    (leaves :
      (declaration.passwordChange password
          (declaration.passwordAgrees password current)).Leaves declaration.name
        current.verifier verifier) (secret : String) (same : password = some secret) :
    passwordMatches verifier secret declaration.name = true := by
  subst same
  have login : declaration.login = true := given.symm
  cases agrees : declaration.passwordAgrees (some secret) current with
  | true =>
      have keep : declaration.passwordChange (some secret) true = .keep := by
        simp only [passwordChange, login, ↓reduceIte]
      rw [agrees, keep] at leaves
      have kept : verifier = current.verifier := leaves
      rw [kept]
      exact (passwordAgrees_iff given).mp agrees secret rfl
  | false =>
      rw [agrees, passwordChange, if_pos login] at leaves
      exact leaves

theorem agrees_after_alteration (given : password.isSome = declaration.login)
    (read : stored.IsReadAs current)
    (run : InOrder (Command.OnRole declaration.name)
      (declaration.alteration password validUntil current) (some stored) after) :
    ∃ state, after = some state ∧
      (state.login = declaration.login ∧
        (∀ secret, password = some secret →
          passwordMatches state.verifier secret declaration.name = true) ∧
        state.attributes = declaration.flags.attributes ∧
        state.validUntil.map Instant.microseconds = validUntil.map Instant.microseconds) ∧
      state.inRole = stored.inRole ∧ state.members = stored.members ∧
        state.comment = stored.comment := by
  rw [inOrder_alteration] at run
  split at run
  · next agree =>
      obtain ⟨login, accepted, attributes, expiry, -⟩ := (optionsAgree_iff given).mp agree
      rw [read.login] at login
      rw [read.verifier] at accepted
      rw [read.attributes] at attributes
      rw [read.validUntil] at expiry
      exact ⟨stored, run, ⟨login, accepted, attributes, expiry⟩, rfl, rfl, rfl⟩
  · obtain ⟨verifier, leaves, same⟩ := run
    rw [← read.verifier] at leaves
    refine ⟨_, same, ⟨rfl, accepted_after_passwordChange given leaves, rfl, ?_⟩, rfl, rfl, rfl⟩
    simp only [RoleState.withOptions, options, Option.map_map, Function.comp_def,
      Instant.microseconds_kept]

theorem nonBlank?_declaredComment :
    Text.nonBlank? declaration.declaredComment = Text.nonBlank? declaration.comment := by
  simp only [declaredComment, Text.nonBlank?, Option.filter_filter, Bool.and_self]

theorem agrees_after_repair (given : password.isSome = declaration.login)
    (read : stored.IsReadAs current)
    (parsed : parseExpiry declaration.flags.validUntil = .ok validUntil)
    (notOwnParent : declaration.name ∉ declaration.flags.inRole)
    (notOwnMember : declaration.name ∉ declaration.flags.members)
    (run : InOrder (Command.OnRole declaration.name)
      (declaration.repair password validUntil current).commands (some stored) after) :
    ∃ state, after = some state ∧ declaration.Agrees password state := by
  rw [commands_repair, InOrder.append_iff] at run
  obtain ⟨between, run, commenting⟩ := run
  obtain ⟨altered, alteration, memberships⟩ := InOrder.append_iff.mp run
  obtain ⟨state, rfl, ⟨login, accepted, attributes, expiry⟩, inRole, members, comment⟩ :=
    agrees_after_alteration given read alteration
  obtain ⟨-, rfl⟩ := inOrder_membershipCommands.mp memberships
  rw [Option.map_some, inOrder_commenting] at commenting
  have parents := mem_inRole_withMemberships (inRole ▸ read.inRole) notOwnParent notOwnMember
  have below := mem_members_withMemberships (members ▸ read.members) notOwnParent notOwnMember
  refine ⟨_, commenting, ?_⟩
  split
  · next agrees =>
      have same : Text.nonBlank? state.comment = Text.nonBlank? declaration.comment :=
        comment ▸ read.comment ▸ commentAgrees_iff.mp agrees
      exact ⟨login, accepted, attributes, ⟨validUntil, parsed, expiry⟩, parents, below, same⟩
  · exact ⟨login, accepted, attributes, ⟨validUntil, parsed, expiry⟩, parents, below,
      nonBlank?_declaredComment⟩

def firstPassword (declaration : RoleDeclaration) (password : Option String) : PasswordChange :=
  match password, declaration.login with
  | some password, true => .set password
  | _, _ => .keep

def firstComment (declaration : RoleDeclaration) : List Command :=
  match declaration.declaredComment with
  | some comment => [.commentOnRole declaration.name (some comment)]
  | none => []

theorem commands_creation :
    (declaration.creation password validUntil).commands =
      .createRole declaration.name
          (declaration.options (declaration.firstPassword password) validUntil)
          (canonicalMembers declaration.flags.inRole)
          (canonicalMembers declaration.flags.members) ::
        declaration.firstComment :=
  rfl

theorem accepted_after_firstPassword (given : password.isSome = declaration.login)
    {verifier : Option String}
    (leaves : (declaration.firstPassword password).Leaves declaration.name none verifier)
    (secret : String) (same : password = some secret) :
    passwordMatches verifier secret declaration.name = true := by
  subst same
  have set : declaration.firstPassword (some secret) = .set secret := by
    simp only [firstPassword, ← given, Option.isSome_some]
  rw [set] at leaves
  exact leaves

theorem inOrder_firstComment (uncommented : state.comment = none) :
    InOrder (Command.OnRole declaration.name) declaration.firstComment (some state) after ↔
      after = some { state with comment := declaration.declaredComment } := by
  rw [firstComment]
  cases declared : declaration.declaredComment with
  | none =>
      have same : { state with comment := none } = state := by rw [← uncommented]
      rw [same]
      exact InOrder.nil_iff
  | some comment =>
      rw [InOrder.singleton_iff]
      simp only [Command.OnRole, ↓reduceIte, Option.some.injEq, exists_eq_left']

theorem agrees_after_creation (given : password.isSome = declaration.login)
    (parsed : parseExpiry declaration.flags.validUntil = .ok validUntil)
    (run : InOrder (Command.OnRole declaration.name)
      (declaration.creation password validUntil).commands none after) :
    ∃ state, after = some state ∧ declaration.Agrees password state := by
  rw [commands_creation, InOrder.cons_iff] at run
  obtain ⟨between, creation, commenting⟩ := run
  simp only [Command.OnRole, ↓reduceIte] at creation
  -- The server would not have created a role that is its own parent or member.
  obtain ⟨notOwnParent, notOwnMember, -, verifier, leaves, rfl⟩ := creation
  rw [inOrder_firstComment rfl] at commenting
  refine ⟨_, commenting, rfl, accepted_after_firstPassword given leaves, rfl,
    ⟨validUntil, parsed, ?_⟩, fun role => ?_, fun role => ?_, nonBlank?_declaredComment⟩
  · simp only [RoleState.join, RoleState.created, options, Option.map_map, Function.comp_def,
      Instant.microseconds_kept]
  · rw [mem_canonicalMembers] at notOwnMember
    simp only [RoleState.mem_inRole_join, RoleState.created, List.not_mem_nil, false_or,
      mem_creationPairs, mem_canonicalMembers, and_true, notOwnMember, and_false, or_false]
  · rw [mem_canonicalMembers] at notOwnParent
    simp only [RoleState.mem_members_join, RoleState.created, List.not_mem_nil, false_or,
      mem_creationPairs, mem_canonicalMembers, true_and, notOwnParent, false_and]

theorem exists_run_creation (notOwnParent : declaration.name ∉ declaration.flags.inRole)
    (notOwnMember : declaration.name ∉ declaration.flags.members) :
    ∃ after, InOrder (Command.OnRole declaration.name)
      (declaration.creation password validUntil).commands none after := by
  obtain ⟨verifier, leaves⟩ := PasswordChange.exists_leaves declaration.name
    (declaration.firstPassword password) none
  have created : Command.OnRole declaration.name
      (.createRole declaration.name
        (declaration.options (declaration.firstPassword password) validUntil)
        (canonicalMembers declaration.flags.inRole)
        (canonicalMembers declaration.flags.members))
      none
      (some
        ((RoleState.created
            (declaration.options (declaration.firstPassword password) validUntil)
            verifier).join declaration.name
          (creationPairs declaration.name (canonicalMembers declaration.flags.inRole)
            (canonicalMembers declaration.flags.members)))) := by
    refine ⟨?_, ?_, ?_⟩
    · rwa [mem_canonicalMembers]
    · rwa [mem_canonicalMembers]
    · rw [if_pos rfl]
      exact ⟨rfl, verifier, leaves, rfl⟩
  exact ⟨_, InOrder.cons created ((inOrder_firstComment rfl).mpr rfl)⟩

theorem exists_run_repair (notOwnParent : declaration.name ∉ declaration.flags.inRole)
    (notOwnMember : declaration.name ∉ declaration.flags.members) :
    ∃ after, InOrder (Command.OnRole declaration.name)
      (declaration.repair password validUntil state).commands (some state) after := by
  have altered : ∃ between, InOrder (Command.OnRole declaration.name)
      (declaration.alteration password validUntil state) (some state) (some between) := by
    simp only [inOrder_alteration]
    split
    · exact ⟨state, rfl⟩
    · obtain ⟨verifier, leaves⟩ := PasswordChange.exists_leaves declaration.name
        (declaration.passwordChange password (declaration.passwordAgrees password state))
        state.verifier
      exact ⟨_, verifier, leaves, rfl⟩
  obtain ⟨between, altered⟩ := altered
  have lacking : declaration.name ∉ (declaration.parentChanges state).lacking ∧
      declaration.name ∉ (declaration.memberChanges state).lacking := by
    simp only [parentChanges, memberChanges, Difference.mem_lacking_between,
      Std.ExtTreeSet.mem_ofList, List.contains_iff_mem, notOwnParent, notOwnMember, false_and,
      not_false_eq_true, and_self]
  have memberships : InOrder (Command.OnRole declaration.name)
      (declaration.membershipCommands state) (some between)
      (some (declaration.withMemberships state between)) :=
    inOrder_membershipCommands.mpr ⟨lacking, rfl⟩
  simp only [commands_repair]
  exact ⟨_, InOrder.append_iff.mpr
    ⟨_, InOrder.append_iff.mpr ⟨_, altered, memberships⟩, inOrder_commenting.mpr rfl⟩⟩

theorem exists_run {found : Option RoleState} {plan : Plan}
    (planned : declaration.plan password found = .ok plan)
    (notOwnParent : declaration.name ∉ declaration.flags.inRole)
    (notOwnMember : declaration.name ∉ declaration.flags.members) :
    ∃ after, InOrder (Command.OnRole declaration.name) plan.commands found after := by
  obtain ⟨validUntil, -, rfl⟩ := plan_eq_ok_iff.mp planned
  cases found with
  | none => exact exists_run_creation notOwnParent notOwnMember
  | some state => exact exists_run_repair notOwnParent notOwnMember

/-! ## Planning once more -/

theorem Agrees.of_isReadAs {seen : RoleState} (agrees : declaration.Agrees password state)
    (read : state.IsReadAs seen) : declaration.Agrees password seen where
  login := read.login.trans agrees.login
  password := read.verifier ▸ agrees.password
  attributes := read.attributes.trans agrees.attributes
  expiry := read.validUntil ▸ agrees.expiry
  inRole := fun role => (read.inRole role).trans (agrees.inRole role)
  members := fun role => (read.members role).trans (agrees.members role)
  comment := read.comment ▸ agrees.comment

theorem plan_of_agrees (given : password.isSome = declaration.login)
    (agrees : declaration.Agrees password current) :
    declaration.plan password (some current) = .ok .nothing := by
  obtain ⟨validUntil, parsed, -⟩ := agrees.expiry
  obtain ⟨options, comment⟩ := (agrees_iff given parsed).mp agrees
  exact plan_eq_ok_iff.mpr ⟨validUntil, parsed, (repair_of_agree options comment).symm⟩

/-- Where the commands for a role that exists were carried out, and the role was not its own
parent or member, none of the declared memberships names the role itself. -/
theorem not_own_of_repair (read : stored.IsReadAs current)
    (apart : declaration.name ∉ stored.inRole ∧ declaration.name ∉ stored.members)
    (run : InOrder (Command.OnRole declaration.name)
      (declaration.repair password validUntil current).commands (some stored) after) :
    declaration.name ∉ declaration.flags.inRole ∧
      declaration.name ∉ declaration.flags.members := by
  rw [commands_repair, InOrder.append_iff] at run
  obtain ⟨_, run, _⟩ := run
  obtain ⟨_, _, memberships⟩ := InOrder.append_iff.mp run
  obtain ⟨⟨parents, members⟩, -⟩ := inOrder_membershipCommands.mp memberships
  rw [← read.inRole, ← read.members] at apart
  simp only [parentChanges, memberChanges, Difference.mem_lacking_between,
    Std.ExtTreeSet.mem_ofList, List.contains_iff_mem, apart, not_false_eq_true,
    and_true] at parents members
  exact ⟨parents, members⟩

/-- However the commands of a plan are carried out, the role agrees afterwards, if it is read as
it is and is not its own parent or member. -/
theorem agrees_after_plan {found seen : Option RoleState} {plan : Plan}
    (given : password.isSome = declaration.login) (read : Option.Rel RoleState.IsReadAs found seen)
    (apart : ∀ state, found = some state →
      declaration.name ∉ state.inRole ∧ declaration.name ∉ state.members)
    (planned : declaration.plan password seen = .ok plan)
    (run : InOrder (Command.OnRole declaration.name) plan.commands found after) :
    ∃ state, after = some state ∧ declaration.Agrees password state := by
  obtain ⟨validUntil, parsed, rfl⟩ := plan_eq_ok_iff.mp planned
  cases read with
  | none => exact agrees_after_creation given parsed run
  | some read =>
      obtain ⟨notOwnParent, notOwnMember⟩ := not_own_of_repair read (apart _ rfl) run
      exact agrees_after_repair given read parsed notOwnParent notOwnMember run

/-! ## Plans -/

/-- A plan for a role is sound and complete. It has no commands exactly where the role exists and
agrees with its declaration; otherwise its commands can be carried out, and however the server
carries them out, they leave a role that agrees. Only the declared memberships must not name the
role itself: nothing is asked of those that are found. -/
theorem plan_sound_and_complete {found : Option RoleState} {plan : Plan}
    (given : password.isSome = declaration.passwordSecret.isSome)
    (notOwnParent : declaration.name ∉ declaration.flags.inRole)
    (notOwnMember : declaration.name ∉ declaration.flags.members)
    (planned : declaration.plan password found = .ok plan) :
    (plan.commands = [] ↔ ∃ state, found = some state ∧ declaration.Agrees password state) ∧
      (∃ after, InOrder (Command.OnRole declaration.name) plan.commands found after) ∧
      ∀ after, InOrder (Command.OnRole declaration.name) plan.commands found after →
        ∃ state, after = some state ∧ declaration.Agrees password state := by
  refine ⟨?_, exists_run planned notOwnParent notOwnMember, ?_⟩
  · obtain ⟨validUntil, parsed, rfl⟩ := plan_eq_ok_iff.mp planned
    cases found with
    | none => simp only [commands_creation, List.cons_ne_nil, reduceCtorEq, false_and,
        exists_false]
    | some state => simp only [commands_repair_eq_nil_iff, agrees_iff given parsed,
        Option.some.injEq, exists_eq_left']
  · intro after run
    obtain ⟨validUntil, parsed, rfl⟩ := plan_eq_ok_iff.mp planned
    cases found with
    | none => exact agrees_after_creation given parsed run
    | some state =>
        exact agrees_after_repair given state.isReadAs_self parsed notOwnParent notOwnMember run

private def auditors : RoleDeclaration where
  name := "auditors"
  comment := some "read only"
  cluster := ⟨"main", none⟩
  passwordSecret := none
  flags :=
    { RoleFlags.standard with
      validUntil := some "2030-01-01T00:00:00Z"
      inRole := ["readers"] }

private def driftedAuditors : RoleState where
  login := true
  attributes := .standard
  validUntil := none
  verifier := some "md5"
  comment := none
  inRole := ["writers"]
  members := []

private def auditorsExpiry : Instant := ⟨1893456000, 0⟩

theorem plan_sound_and_complete_for_auditors :
    ((none : Option String).isSome = auditors.passwordSecret.isSome ∧
        auditors.name ∉ auditors.flags.inRole ∧ auditors.name ∉ auditors.flags.members ∧
          auditors.plan none (some driftedAuditors) =
            .ok (auditors.repair none (some auditorsExpiry) driftedAuditors)) ∧
      ∀ after,
        InOrder (Command.OnRole "auditors")
            (auditors.repair none (some auditorsExpiry) driftedAuditors).commands
            (some driftedAuditors) after →
          ∃ state, after = some state ∧ auditors.Agrees none state := by
  have planned : auditors.plan none (some driftedAuditors) =
      .ok (auditors.repair none (some auditorsExpiry) driftedAuditors) :=
    plan_eq_ok_iff.mpr ⟨some auditorsExpiry, by rfl, rfl⟩
  exact ⟨⟨rfl, by decide, by decide, planned⟩,
    (plan_sound_and_complete rfl (by decide) (by decide) planned).2.2⟩

end RoleDeclaration

end CatalogSteward
