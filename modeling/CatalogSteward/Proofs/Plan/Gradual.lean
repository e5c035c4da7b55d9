import CatalogSteward.Proofs.Plan.Checks
import CatalogSteward.Proofs.Plan.Role
import CatalogSteward.Proofs.Server.Holding

/-!
# Gradual plans

Plans for privileges and memberships change no more than they have to. However
many of its commands were carried out, what was held and is declared is still
held, and nothing is held that neither was nor is declared; and no command
repeats or undoes what another one does.
-/

set_option autoImplicit false

namespace CatalogSteward

open Sql

/-! ## From what was held to what is declared -/

/-- On the way to what is declared nothing was lost that was held and is declared, and nothing is
held that neither was held nor is declared. -/
structure ServerState.OnTheWay (before : ServerState) (declared : Holding → Prop)
    (after : ServerState) : Prop where
  kept : ∀ holding, before.Holds holding → declared holding → after.Holds holding
  bounded : ∀ holding, after.Holds holding → before.Holds holding ∨ declared holding

namespace Sql.Command

/-- The privileges that are spelled in a command. -/
def privileges? : Command → Option (List Privilege)
  | .grantOnObject _ _ _ privileges _ | .revokeOnObject _ _ _ privileges _ => some privileges
  | .grantDefaultPrivileges _ _ _ privileges _ | .revokeDefaultPrivileges _ _ _ privileges _ =>
      some privileges
  | _ => none

/-- A command may stand before another one: they name nothing in common, and the later one does
not revoke anything in a set in which the earlier one granted something. -/
structure Precedes (database : String) (earlier later : Command) : Prop where
  apart : ∀ holding, earlier.Names database holding → ¬later.Names database holding
  revokesFirst : earlier.isGrant = true → later.isGrant = false →
    ∀ granted revoked, granted.Beside revoked →
      earlier.Names database granted → ¬later.Names database revoked

/-- A command grants only what is declared and revokes only what is not, and it spells no empty
list of privileges. -/
structure IsModerate (database : String) (declared : Holding → Prop) (command : Command) :
    Prop where
  stays : command.createsOrDrops = false
  grants : command.isGrant = true → ∀ holding, command.Names database holding → declared holding
  revokes : command.isGrant = false → ∀ holding, command.Names database holding →
    ¬declared holding
  listed : command.privileges? ≠ some []

end Sql.Command

/-- A plan is gradual: however many of its commands were carried out, what is held is on the way
to what is declared; nothing is named twice, revocations in a set come before grants in it; and no
list of privileges is empty. -/
structure Plan.IsGradual (plan : Plan) (database user : String) (declared : Holding → Prop) :
    Prop where
  onTheWay : ∀ done, done <+: plan.commands → ∀ before after,
    InOrder (Command.Executes database user) done before after →
      before.OnTheWay declared after
  ordered : plan.commands.Pairwise (Command.Precedes database)
  listed : ∀ command ∈ plan.commands, command.privileges? ≠ some []

variable {database user : String} {declared : Holding → Prop} {command earlier later : Command}
  {before between after : ServerState}

/-- A moderate command does not leave the way. -/
theorem ServerState.OnTheWay.step (way : before.OnTheWay declared between)
    (moderate : command.IsModerate database declared)
    (executes : command.Executes database user between after) :
    before.OnTheWay declared after := by
  constructor
  · intro holding held isDeclared
    have still := way.kept holding held isDeclared
    rw [executes.holds_iff moderate.stays]
    cases granting : command.isGrant with
    | true => exact .inl still
    | false => exact ⟨still, fun named => moderate.revokes granting holding named isDeclared⟩
  · intro holding held
    rw [executes.holds_iff moderate.stays] at held
    cases granting : command.isGrant with
    | true =>
        rw [granting] at held
        rcases held with still | named
        · exact way.bounded holding still
        · exact .inr (moderate.grants granting holding named)
    | false =>
        rw [granting] at held
        exact way.bounded holding held.1

theorem ServerState.OnTheWay.of_run {commands : List Command}
    (moderate : ∀ command ∈ commands, command.IsModerate database declared)
    (run : InOrder (Command.Executes database user) commands before after) :
    before.OnTheWay declared after := by
  apply run.induct (motive := before.OnTheWay declared)
  · exact ⟨fun _ held _ => held, fun _ held => .inl held⟩
  · intro command member between next way executes
    exact way.step (moderate command member) executes

theorem Plan.isGradual_of_moderate {plan : Plan}
    (moderate : ∀ command ∈ plan.commands, command.IsModerate database declared)
    (ordered : plan.commands.Pairwise (Command.Precedes database)) :
    plan.IsGradual database user declared where
  onTheWay := fun _ start _ _ run =>
    .of_run (fun command member => moderate command (start.subset member)) run
  ordered := ordered
  listed := fun command member => (moderate command member).listed

namespace Sql.Command

/-! ## Order -/

theorem Precedes.of_revocation (revokes : earlier.isGrant = false)
    (apart : ∀ holding, earlier.Names database holding → ¬later.Names database holding) :
    earlier.Precedes database later where
  apart := apart
  revokesFirst := by
    intro grants
    rw [revokes] at grants
    cases grants

/-- A single command, or none, is in order. -/
theorem pairwise_ite {condition : Prop} [Decidable condition] :
    (if condition then [] else [command]).Pairwise (Precedes database) := by
  split
  · exact .nil
  · exact List.pairwise_singleton _ _

/-- A command that names nothing may stand anywhere. -/
structure IsSilent (database : String) (command : Command) : Prop where
  stays : command.createsOrDrops = false
  names : ∀ holding, ¬command.Names database holding
  listed : command.privileges? = none

theorem IsSilent.isModerate (silent : command.IsSilent database) :
    command.IsModerate database declared where
  stays := silent.stays
  grants := fun _ holding named => absurd named (silent.names holding)
  revokes := fun _ holding named => absurd named (silent.names holding)
  listed := by
    rw [silent.listed]
    exact nofun

theorem IsSilent.precedes (silent : earlier.IsSilent database) :
    earlier.Precedes database later where
  apart := fun holding named => absurd named (silent.names holding)
  revokesFirst := fun _ _ granted _ _ named => absurd named (silent.names granted)

theorem IsSilent.follows (silent : later.IsSilent database) :
    earlier.Precedes database later where
  apart := fun holding _ => silent.names holding
  revokesFirst := fun _ _ _ revoked _ _ => silent.names revoked

end Sql.Command

/-! ## Grants -/

namespace GrantDeclaration

/-- What a grant declares: that its role holds the declared privileges on every target. -/
def Declares (declaration : GrantDeclaration) (database : String)
    (observed : GrantObservation) : Holding → Prop
  | .privilege securable role privilege =>
      role = declaration.role ∧ privilege ∈ declaration.privileges ∧
        ∃ object, declaration.IsTarget observed object ∧
          securable = declaration.securable database object
  | _ => False

/-- A command names nothing but privileges of the role of a grant on the object of a name. -/
def IsOn (declaration : GrantDeclaration) (database object : String) (command : Command) : Prop :=
  ∀ holding, command.Names database holding →
    ∃ privilege, holding =
      .privilege (declaration.securable database object) declaration.role privilege

variable {declaration : GrantDeclaration} {observed : GrantObservation}
  {object left right : String} {privileges : List Privilege}

theorem isOn_of_mem_revokeOn (member : command ∈ declaration.revokeOn object privileges) :
    declaration.IsOn database object command := by
  obtain ⟨-, rfl⟩ := mem_revokeOn_iff.mp member
  rintro holding ⟨privilege, -, rfl⟩
  exact ⟨privilege, rfl⟩

theorem isOn_of_mem_grantOn (member : command ∈ declaration.grantOn object privileges) :
    declaration.IsOn database object command := by
  obtain ⟨-, rfl⟩ := mem_grantOn_iff.mp member
  rintro holding ⟨privilege, -, rfl⟩
  exact ⟨privilege, rfl⟩

theorem isOn_of_mem_adjust {current : ObjectPrivileges}
    (member : command ∈ declaration.adjust current object) :
    declaration.IsOn database object command := by
  rcases List.mem_append.mp member with surplus | lacking
  · exact isOn_of_mem_revokeOn surplus
  · exact isOn_of_mem_grantOn lacking

theorem precedes_of_ne (different : left ≠ right) (onLeft : declaration.IsOn database left earlier)
    (onRight : declaration.IsOn database right later) : earlier.Precedes database later := by
  constructor
  · intro holding named again
    obtain ⟨privilege, rfl⟩ := onLeft holding named
    obtain ⟨other, same⟩ := onRight _ again
    rw [Holding.privilege.injEq] at same
    exact different (ObjectType.securable_inj.mp same.1)
  · intro _ _ granted revoked beside named again
    obtain ⟨privilege, rfl⟩ := onLeft granted named
    obtain ⟨other, rfl⟩ := onRight revoked again
    generalize here : declaration.securable database left = target at beside
    generalize there : declaration.securable database right = elsewhere at beside
    cases beside
    exact different (ObjectType.securable_inj.mp (here.trans there.symm))

/-- Commands for one entry after the other are in order, if every entry is about another object
and its own commands are in order. -/
theorem pairwise_flatMap {Entry : Type} {entries : List Entry}
    {commandsFor : Entry → List Command} (key : Entry → String)
    (distinct : entries.Pairwise fun entry other => key entry ≠ key other)
    (isOn : ∀ entry, ∀ command ∈ commandsFor entry, declaration.IsOn database (key entry) command)
    (each : ∀ entry, (commandsFor entry).Pairwise (Command.Precedes database)) :
    (entries.flatMap commandsFor).Pairwise (Command.Precedes database) := by
  apply List.pairwise_flatMap.mpr
  refine ⟨fun entry _ => each entry, distinct.imp ?_⟩
  intro entry other different earlier first later second
  exact precedes_of_ne different (isOn entry earlier first) (isOn other later second)

theorem pairwise_adjust {current : ObjectPrivileges} :
    (declaration.adjust current object).Pairwise (Command.Precedes database) := by
  apply List.pairwise_append.mpr
  refine ⟨Command.pairwise_ite, Command.pairwise_ite, ?_⟩
  intro earlier surplus later lacking
  obtain ⟨-, rfl⟩ := mem_revokeOn_iff.mp surplus
  obtain ⟨-, rfl⟩ := mem_grantOn_iff.mp lacking
  apply Command.Precedes.of_revocation rfl
  rintro holding ⟨privilege, superfluous, rfl⟩ ⟨other, missing, same⟩
  rw [Holding.privilege.injEq] at same
  rw [← same.2.2] at missing
  exact (Difference.mem_surplus_between.mp superfluous).2
    (Difference.mem_lacking_between.mp missing).1

theorem pairwise_commands :
    (declaration.commands observed).Pairwise (Command.Precedes database) := by
  apply List.pairwise_append.mpr
  refine ⟨?_, ?_, ?_⟩
  · apply pairwise_flatMap id ((declaration.isListing_targets observed).filter _).nodup
    · exact fun object command member => isOn_of_mem_adjust member
    · exact fun object => pairwise_adjust
  · have distinct := observed.current.distinct_keys_toList
    apply pairwise_flatMap Prod.fst
    · apply distinct.imp
      intro entry other different same
      exact different (Std.LawfulEqOrd.compare_eq_iff_eq.mpr same)
    · intro entry command member
      split at member
      · cases member
      · exact isOn_of_mem_revokeOn member
    · intro entry
      split
      · exact .nil
      · exact Command.pairwise_ite
  · intro earlier adjusted later elsewhere
    obtain ⟨object, chosen, adjusted⟩ := List.mem_flatMap.mp adjusted
    obtain ⟨entry, -, elsewhere⟩ := List.mem_flatMap.mp elsewhere
    split at elsewhere
    · cases elsewhere
    · next other =>
        have target := (List.mem_filter.mp chosen).1
        apply precedes_of_ne _ (isOn_of_mem_adjust adjusted) (isOn_of_mem_revokeOn elsewhere)
        rintro rfl
        exact other (List.contains_iff_mem.mpr target)

theorem isModerate_of_mem_revokeOn
    (undeclared : declaration.IsTarget observed object →
      ∀ privilege ∈ privileges, privilege ∉ declaration.privileges)
    (member : command ∈ declaration.revokeOn object privileges) :
    command.IsModerate database (declaration.Declares database observed) := by
  obtain ⟨some, rfl⟩ := mem_revokeOn_iff.mp member
  refine ⟨rfl, nofun, ?_, fun none => some (Option.some.inj none)⟩
  rintro - holding ⟨privilege, listed, rfl⟩ ⟨-, isDeclared, other, target, same⟩
  have here : object = other := ObjectType.securable_inj.mp same
  subst here
  exact undeclared target privilege listed isDeclared

theorem isModerate_of_mem_grantOn (target : declaration.IsTarget observed object)
    (isDeclared : ∀ privilege ∈ privileges, privilege ∈ declaration.privileges)
    (member : command ∈ declaration.grantOn object privileges) :
    command.IsModerate database (declaration.Declares database observed) := by
  obtain ⟨some, rfl⟩ := mem_grantOn_iff.mp member
  refine ⟨rfl, ?_, nofun, fun none => some (Option.some.inj none)⟩
  rintro - holding ⟨privilege, listed, rfl⟩
  exact ⟨rfl, isDeclared privilege listed, object, target, rfl⟩

theorem isModerate_of_mem_commands (member : command ∈ declaration.commands observed) :
    command.IsModerate database (declaration.Declares database observed) := by
  have mem_desired (privilege : Privilege) :
      privilege ∈ declaration.desired ↔ privilege ∈ declaration.privileges := by
    rw [desired, Std.ExtTreeSet.mem_ofList, List.contains_iff_mem]
  rcases List.mem_append.mp member with adjusted | elsewhere
  · obtain ⟨object, chosen, adjusted⟩ := List.mem_flatMap.mp adjusted
    have target := mem_targets_iff.mp (List.mem_filter.mp chosen).1
    rcases List.mem_append.mp adjusted with surplus | lacking
    · apply isModerate_of_mem_revokeOn _ surplus
      intro _ privilege superfluous
      rw [← mem_desired]
      exact (Difference.mem_surplus_between.mp superfluous).2
    · apply isModerate_of_mem_grantOn target _ lacking
      intro privilege missing
      rw [← mem_desired]
      exact (Difference.mem_lacking_between.mp missing).1
  · obtain ⟨entry, -, elsewhere⟩ := List.mem_flatMap.mp elsewhere
    split at elsewhere
    · cases elsewhere
    · next other =>
        apply isModerate_of_mem_revokeOn _ elsewhere
        intro target
        exact absurd (List.contains_iff_mem.mpr (mem_targets_iff.mpr target)) other

end GrantDeclaration

/-! ## Default privileges -/

namespace DefaultPrivilegeDeclaration

/-- What a declaration says is held by default: the declared privileges, under its key. -/
def Declares (declaration : DefaultPrivilegeDeclaration) (database : String) : Holding → Prop
  | .byDefault home place owner role privilege =>
      declaration.Concerns database home place owner role ∧ privilege ∈ declaration.privileges
  | _ => False

variable {declaration : DefaultPrivilegeDeclaration} {current : PrivilegeSet}

theorem mem_desired {privilege : Privilege} :
    privilege ∈ declaration.desired ↔ privilege ∈ declaration.privileges := by
  rw [desired, Std.ExtTreeSet.mem_ofList, List.contains_iff_mem]

theorem pairwise_commands :
    (declaration.commands current).Pairwise (Command.Precedes database) := by
  apply List.pairwise_append.mpr
  refine ⟨Command.pairwise_ite, Command.pairwise_ite, ?_⟩
  intro earlier surplus later lacking
  obtain ⟨-, rfl⟩ := mem_revoke_iff.mp surplus
  obtain ⟨-, rfl⟩ := mem_grant_iff.mp lacking
  apply Command.Precedes.of_revocation rfl
  rintro holding ⟨privilege, superfluous, _, -, -, rfl⟩ ⟨other, missing, _, -, -, same⟩
  rw [Holding.byDefault.injEq] at same
  rw [← same.2.2.2.2] at missing
  exact (Difference.mem_surplus_between.mp superfluous).2
    (Difference.mem_lacking_between.mp missing).1

theorem isModerate_of_mem_commands (member : command ∈ declaration.commands current) :
    command.IsModerate database (declaration.Declares database) := by
  rcases List.mem_append.mp member with surplus | lacking
  · obtain ⟨some, rfl⟩ := mem_revoke_iff.mp surplus
    refine ⟨rfl, nofun, ?_, fun none => some (Option.some.inj none)⟩
    rintro - holding ⟨privilege, superfluous, place, -, -, rfl⟩ ⟨-, isDeclared⟩
    exact (Difference.mem_surplus_between.mp superfluous).2 (mem_desired.mpr isDeclared)
  · obtain ⟨some, rfl⟩ := mem_grant_iff.mp lacking
    refine ⟨rfl, ?_, nofun, fun none => some (Option.some.inj none)⟩
    rintro - holding ⟨privilege, missing, place, objectType, schema, rfl⟩
    rw [scopedSchema_eq] at schema
    exact ⟨⟨rfl, objectType, schema, rfl, rfl⟩,
      mem_desired.mp (Difference.mem_lacking_between.mp missing).1⟩

end DefaultPrivilegeDeclaration

/-! ## Roles -/

namespace RoleDeclaration

/-- A declaration says of a group and a member that the one is in the other, as the role is in
the groups that it lists and has the members that it lists. -/
def Joins (declaration : RoleDeclaration) (group member : String) : Prop :=
  member = declaration.name ∧ group ∈ declaration.flags.inRole ∨
    group = declaration.name ∧ member ∈ declaration.flags.members

/-- What a declaration says of the lists of memberships. -/
def Declares (declaration : RoleDeclaration) : Holding → Prop
  | .group role group => declaration.Joins group role
  | .member role member => declaration.Joins role member
  | _ => False

end RoleDeclaration

namespace Sql.Command

/-- A command makes a member join a group or leave it. -/
def Changes (command : Command) (group member : String) : Prop :=
  command = .grantMembership group member ∨ command = .revokeMembership group member

variable {group member otherGroup otherMember : String}

theorem Changes.names_iff (changes : command.Changes group member) (holding : Holding) :
    command.Names database holding ↔
      holding = .group member group ∨ holding = .member group member := by
  rcases changes with rfl | rfl
  · exact Iff.rfl
  · exact Iff.rfl

theorem Changes.precedes (changes : earlier.Changes group member)
    (changesOther : later.Changes otherGroup otherMember)
    (different : ¬(group = otherGroup ∧ member = otherMember))
    (revokesFirst : earlier.isGrant = true → later.isGrant = false →
      group ≠ otherGroup ∧ member ≠ otherMember) : earlier.Precedes database later := by
  constructor
  · intro holding named again
    rw [changes.names_iff] at named
    rw [changesOther.names_iff] at again
    rcases named with rfl | rfl
    · simp only [Holding.group.injEq, reduceCtorEq, or_false] at again
      exact different again.symm
    · simp only [Holding.member.injEq, reduceCtorEq, false_or] at again
      exact different again
  · intro grants revokes granted revoked beside named again
    rw [changes.names_iff] at named
    rw [changesOther.names_iff] at again
    obtain ⟨otherSet, otherList⟩ := revokesFirst grants revokes
    rcases named with rfl | rfl
    · rcases again with rfl | rfl
      · cases beside
        exact otherList rfl
      · cases beside
    · rcases again with rfl | rfl
      · cases beside
      · cases beside
        exact otherSet rfl

end Sql.Command

namespace RoleDeclaration

variable {declaration : RoleDeclaration} {current : RoleState} {password : Option String}
  {validUntil : Option Time.Instant}

theorem mem_membershipCommands_iff :
    command ∈ declaration.membershipCommands current ↔
      (∃ parent ∈ (declaration.parentChanges current).surplus,
        command = .revokeMembership parent declaration.name) ∨
      (∃ parent ∈ (declaration.parentChanges current).lacking,
        command = .grantMembership parent declaration.name) ∨
      (∃ member ∈ (declaration.memberChanges current).surplus,
        command = .revokeMembership declaration.name member) ∨
      ∃ member ∈ (declaration.memberChanges current).lacking,
        command = .grantMembership declaration.name member := by
  simp only [membershipCommands, List.mem_append, List.mem_map, or_assoc, @eq_comm _ command]

theorem mem_parentChanges {parent : String} :
    (parent ∈ (declaration.parentChanges current).surplus ↔
        parent ∈ current.inRole ∧ parent ∉ declaration.flags.inRole) ∧
      (parent ∈ (declaration.parentChanges current).lacking ↔
        parent ∈ declaration.flags.inRole ∧ parent ∉ current.inRole) := by
  simp [parentChanges]

theorem mem_memberChanges {member : String} :
    (member ∈ (declaration.memberChanges current).surplus ↔
        member ∈ current.members ∧ member ∉ declaration.flags.members) ∧
      (member ∈ (declaration.memberChanges current).lacking ↔
        member ∈ declaration.flags.members ∧ member ∉ current.members) := by
  simp [memberChanges]

/-- A change of a membership is moderate if it is a grant exactly where the membership is
declared. -/
theorem isModerate_of_changes {group member : String} (changes : command.Changes group member)
    (agrees : command.isGrant = true ↔ declaration.Joins group member) :
    command.IsModerate database declaration.Declares := by
  have named (holding : Holding) (names : command.Names database holding) :
      declaration.Declares holding ↔ declaration.Joins group member := by
    rcases (changes.names_iff holding).mp names with rfl | rfl
    · exact Iff.rfl
    · exact Iff.rfl
  refine ⟨?_, ?_, ?_, ?_⟩
  · rcases changes with rfl | rfl <;> rfl
  · intro grants holding names
    exact (named holding names).mpr (agrees.mp grants)
  · intro revokes holding names isDeclared
    rw [agrees.mpr ((named holding names).mp isDeclared)] at revokes
    cases revokes
  · rcases changes with rfl | rfl <;> exact nofun

/-- Changes of one kind are in order, if they are about memberships that differ. -/
theorem pairwise_changes {names : List String} {change : String → Command}
    {group member : String → String} (distinct : names.Nodup)
    (changes : ∀ name, (change name).Changes (group name) (member name))
    (oneKind : ∀ name other, (change name).isGrant = (change other).isGrant)
    (injective : ∀ name other, group name = group other ∧ member name = member other →
      name = other) :
    (names.map change).Pairwise (Command.Precedes database) := by
  apply List.pairwise_map.mpr
  apply distinct.imp
  intro name other different
  apply (changes name).precedes (changes other)
  · exact fun same => different (injective name other same)
  · intro grants revokes
    rw [oneKind name other, revokes] at grants
    cases grants

section Memberships

variable (notOwnParent : declaration.name ∉ declaration.flags.inRole)
  (notOwnMember : declaration.name ∉ declaration.flags.members)

include notOwnParent

/-- The memberships of the role come before those in it; none of them is named twice, as the role
is not in a list of its own. -/
theorem pairwise_membershipCommands (notInOwn : declaration.name ∉ current.inRole)
    (notOwn : declaration.name ∉ current.members) :
    (declaration.membershipCommands current).Pairwise (Command.Precedes database) := by
  have otherParent {parent : String}
      (changed : parent ∈ (declaration.parentChanges current).surplus ∨
        parent ∈ (declaration.parentChanges current).lacking) : parent ≠ declaration.name := by
    rintro rfl
    rcases changed with surplus | lacking
    · exact notInOwn (mem_parentChanges.1.mp surplus).1
    · exact notOwnParent (mem_parentChanges.2.mp lacking).1
  have otherMember {member : String}
      (surplus : member ∈ (declaration.memberChanges current).surplus) :
      declaration.name ≠ member := by
    rintro same
    exact notOwn (same ▸ (mem_memberChanges.1.mp surplus).1)
  refine List.pairwise_append.mpr ⟨List.pairwise_append.mpr ⟨List.pairwise_append.mpr
    ⟨?_, ?_, ?_⟩, ?_, ?_⟩, ?_, ?_⟩
  · exact pairwise_changes Difference.nodup_elementsWithout (fun _ => .inr rfl)
      (fun _ _ => rfl) fun _ _ => And.left
  · exact pairwise_changes Difference.nodup_elementsWithout (fun _ => .inl rfl)
      (fun _ _ => rfl) fun _ _ => And.left
  · simp only [List.mem_map]
    rintro _ ⟨parent, surplus, rfl⟩ _ ⟨other, lacking, rfl⟩
    apply Command.Changes.precedes (.inr rfl) (.inl rfl) _ nofun
    rintro ⟨rfl, -⟩
    exact (mem_parentChanges.1.mp surplus).2 (mem_parentChanges.2.mp lacking).1
  · exact pairwise_changes Difference.nodup_elementsWithout (fun _ => .inr rfl)
      (fun _ _ => rfl) fun _ _ => And.right
  · simp only [List.mem_append, List.mem_map]
    rintro _ (⟨parent, surplus, rfl⟩ | ⟨parent, lacking, rfl⟩) _ ⟨member, leaving, rfl⟩
    · exact Command.Changes.precedes (.inr rfl) (.inr rfl)
        (fun same => otherParent (.inl surplus) same.1) nofun
    · exact Command.Changes.precedes (.inl rfl) (.inr rfl)
        (fun same => otherParent (.inr lacking) same.1)
        fun _ _ => ⟨otherParent (.inr lacking), otherMember leaving⟩
  · exact pairwise_changes Difference.nodup_elementsWithout (fun _ => .inl rfl)
      (fun _ _ => rfl) fun _ _ => And.right
  · simp only [List.mem_append, List.mem_map]
    rintro _ ((⟨parent, surplus, rfl⟩ | ⟨parent, lacking, rfl⟩) | ⟨member, leaving, rfl⟩) _
      ⟨joining, lacks, rfl⟩
    · exact Command.Changes.precedes (.inr rfl) (.inl rfl)
        (fun same => otherParent (.inl surplus) same.1) nofun
    · exact Command.Changes.precedes (.inl rfl) (.inl rfl)
        (fun same => otherParent (.inr lacking) same.1) nofun
    · apply Command.Changes.precedes (.inr rfl) (.inl rfl) _ nofun
      rintro ⟨-, rfl⟩
      exact (mem_memberChanges.1.mp leaving).2 (mem_memberChanges.2.mp lacks).1

include notOwnMember

theorem isModerate_of_mem_membershipCommands
    (listed : command ∈ declaration.membershipCommands current) :
    command.IsModerate database declaration.Declares := by
  rcases mem_membershipCommands_iff.mp listed with
    ⟨parent, surplus, rfl⟩ | ⟨parent, lacking, rfl⟩ | ⟨member, surplus, rfl⟩ |
      ⟨member, lacking, rfl⟩
  · have undeclared := (mem_parentChanges.1.mp surplus).2
    exact isModerate_of_changes (.inr rfl)
      (by simp [Command.isGrant, Joins, undeclared, notOwnMember])
  · have isDeclared := (mem_parentChanges.2.mp lacking).1
    exact isModerate_of_changes (.inl rfl) (by simp [Command.isGrant, Joins, isDeclared])
  · have undeclared := (mem_memberChanges.1.mp surplus).2
    exact isModerate_of_changes (.inr rfl)
      (by simp [Command.isGrant, Joins, undeclared, notOwnParent])
  · have isDeclared := (mem_memberChanges.2.mp lacking).1
    exact isModerate_of_changes (.inl rfl) (by simp [Command.isGrant, Joins, isDeclared])

end Memberships

theorem isSilent_of_mem_alteration
    (member : command ∈ declaration.alteration password validUntil current) :
    command.IsSilent database := by
  unfold alteration at member
  split at member
  · cases member
  · rw [List.mem_singleton.mp member]
    exact ⟨rfl, fun _ => id, rfl⟩

theorem isSilent_of_mem_commenting (member : command ∈ declaration.commenting current) :
    command.IsSilent database := by
  unfold commenting at member
  split at member
  · cases member
  · rw [List.mem_singleton.mp member]
    exact ⟨rfl, fun _ => id, rfl⟩

theorem isGradual_repair (notOwnParent : declaration.name ∉ declaration.flags.inRole)
    (notOwnMember : declaration.name ∉ declaration.flags.members)
    (notInOwn : declaration.name ∉ current.inRole) (notOwn : declaration.name ∉ current.members) :
    (declaration.repair password validUntil current).IsGradual database user
      declaration.Declares := by
  apply Plan.isGradual_of_moderate
  · rw [commands_repair]
    intro command member
    rcases List.mem_append.mp member with member | commenting
    · rcases List.mem_append.mp member with alteration | memberships
      · exact (isSilent_of_mem_alteration alteration).isModerate
      · exact isModerate_of_mem_membershipCommands notOwnParent notOwnMember memberships
    · exact (isSilent_of_mem_commenting commenting).isModerate
  · rw [commands_repair]
    refine List.pairwise_append.mpr ⟨List.pairwise_append.mpr ⟨Command.pairwise_ite,
      pairwise_membershipCommands notOwnParent notInOwn notOwn, ?_⟩, Command.pairwise_ite, ?_⟩
    · intro earlier alteration later _
      exact (isSilent_of_mem_alteration alteration).precedes
    · intro earlier _ later commenting
      exact (isSilent_of_mem_commenting commenting).follows

end RoleDeclaration

/-! ## Plans -/

/-- Plans are minimal and never interrupt access. This holds of every plan for a grant and for
default privileges, whatever was observed and whatever is held when it is carried out, and of
every plan for a role that exists, unless one of the lists of memberships that are declared or
found names the role itself. -/
theorem Plan.isGradual_of_planned :
    (∀ (declaration : GrantDeclaration) (resource : String) (serverVersion : Nat)
        (observed : GrantObservation) (plan : Plan) (database user : String),
        declaration.plan resource serverVersion observed = .ok plan →
          plan.IsGradual database user (declaration.Declares database observed)) ∧
      (∀ (declaration : DefaultPrivilegeDeclaration) (resource : String) (serverVersion : Nat)
        (current : PrivilegeSet) (plan : Plan) (database user : String),
        declaration.plan resource serverVersion current = .ok plan →
          plan.IsGradual database user (declaration.Declares database)) ∧
      ∀ (declaration : RoleDeclaration) (password : Option String) (current : RoleState)
        (plan : Plan) (database user : String),
        declaration.plan password (some current) = .ok plan →
          declaration.name ∉ declaration.flags.inRole →
            declaration.name ∉ declaration.flags.members →
              declaration.name ∉ current.inRole →
                declaration.name ∉ current.members →
                  plan.IsGradual database user declaration.Declares := by
  refine ⟨?_, ?_, ?_⟩
  · intro declaration resource serverVersion observed plan database user planned
    obtain ⟨-, -, rfl⟩ := GrantDeclaration.plan_eq_ok_iff.mp planned
    exact isGradual_of_moderate (fun _ => GrantDeclaration.isModerate_of_mem_commands)
      GrantDeclaration.pairwise_commands
  · intro declaration resource serverVersion current plan database user planned
    obtain ⟨-, rfl⟩ := DefaultPrivilegeDeclaration.plan_eq_ok_iff.mp planned
    exact isGradual_of_moderate (fun _ => DefaultPrivilegeDeclaration.isModerate_of_mem_commands)
      DefaultPrivilegeDeclaration.pairwise_commands
  · intro declaration password current plan database user planned notOwnParent notOwnMember
      notInOwn notOwn
    obtain ⟨validUntil, -, rfl⟩ := RoleDeclaration.plan_eq_ok_iff.mp planned
    exact RoleDeclaration.isGradual_repair notOwnParent notOwnMember notInOwn notOwn

private def ledgers : GrantDeclaration :=
  ⟨⟨"main", none⟩, "app", "reader", some "data", .table, ["orders"], [.select, .insert]⟩

/-- The reader lacks one privilege on a table and has another one too many, and it holds what is
declared on a table that is not listed. -/
private def ledgersSeen : GrantObservation where
  ownership := .ofList [("orders", false), ("audit", false)]
  current :=
    .ofList
      [("orders", Std.ExtTreeSet.ofList [Privilege.insert, Privilege.delete]),
        ("audit", Std.ExtTreeSet.ofList [Privilege.select])]

private def ledgersPlan : Plan where
  commands :=
    [.revokeOnObject .table "data" "orders" [.delete] "reader",
      .grantOnObject .table "data" "orders" [.select] "reader",
      .revokeOnObject .table "data" "audit" [.select] "reader"]
  remark := none

private def outlook : DefaultPrivilegeDeclaration :=
  ⟨⟨"main", none⟩, "app", "reader", "writer", none, .schema, [.usage]⟩

private def outlookPlan : Plan where
  commands :=
    [.revokeDefaultPrivileges "writer" none .schema [.create] "reader",
      .grantDefaultPrivileges "writer" none .schema [.usage] "reader"]
  remark := none

private def analysts : RoleDeclaration where
  name := "analysts"
  comment := none
  cluster := ⟨"main", none⟩
  passwordSecret := none
  flags := { RoleFlags.standard with inRole := ["readers"], members := ["eve"] }

private def analystsFound : RoleState where
  login := false
  attributes := .standard
  validUntil := none
  verifier := none
  comment := none
  inRole := ["writers"]
  members := ["mallory"]

theorem Plan.isGradual_of_planned_for_reader :
    (ledgers.plan "ns/ledgers" 16 ledgersSeen = .ok ledgersPlan ∧
        outlook.plan "ns/outlook" 16 (.ofList [Privilege.create]) = .ok outlookPlan ∧
          analysts.plan none (some analystsFound) =
            .ok (analysts.repair none none analystsFound)) ∧
      ledgersPlan.IsGradual "app" "admin" (ledgers.Declares "app" ledgersSeen) ∧
        outlookPlan.IsGradual "app" "admin" (outlook.Declares "app") ∧
          (analysts.repair none none analystsFound).IsGradual "app" "admin" analysts.Declares := by
  have granting : ledgers.plan "ns/ledgers" 16 ledgersSeen = .ok ledgersPlan := by
    refine GrantDeclaration.plan_eq_ok_iff.mpr ⟨rfl, ?_, by decide +kernel⟩
    intro object target
    rw [← GrantDeclaration.mem_targets_iff] at target
    revert object
    decide +kernel
  have handing : outlook.plan "ns/outlook" 16 (.ofList [Privilege.create]) = .ok outlookPlan :=
    DefaultPrivilegeDeclaration.plan_eq_ok_iff.mpr ⟨rfl, by decide +kernel⟩
  have joining : analysts.plan none (some analystsFound) =
      .ok (analysts.repair none none analystsFound) :=
    RoleDeclaration.plan_eq_ok_iff.mpr ⟨none, rfl, rfl⟩
  obtain ⟨ofGrant, ofDefault, ofRole⟩ := isGradual_of_planned
  exact ⟨⟨granting, handing, joining⟩, ofGrant _ _ _ _ _ _ _ granting,
    ofDefault _ _ _ _ _ _ _ handing,
    ofRole _ _ _ _ _ _ joining (by decide) (by decide) (by decide) (by decide)⟩

end CatalogSteward
