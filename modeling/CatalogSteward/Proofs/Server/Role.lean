import CatalogSteward.Catalog.RoleState
import CatalogSteward.Proofs.Verifier

/-!
# Roles of a server

What commands make of a role. Options that are set replace those of the role,
memberships are added to what there is and taken away from it, and a password
is kept as some verifier that accepts it: which one is up to the server, so that
a command relates the role before it to more than one role after it.
-/

set_option autoImplicit false

namespace CatalogSteward

open Sql Time

/-! ## Commands in order -/

/-- Commands take a state to another one, each from where the one before it ended. -/
inductive InOrder {State : Type} (step : Command → State → State → Prop) :
    List Command → State → State → Prop where
  | nil (state : State) : InOrder step [] state state
  | cons {command : Command} {rest : List Command} {before between after : State}
      (first : step command before between) (others : InOrder step rest between after) :
      InOrder step (command :: rest) before after

namespace InOrder

variable {State : Type} {step : Command → State → State → Prop} {before after : State}

theorem nil_iff : InOrder step [] before after ↔ after = before := by
  constructor
  · intro run
    cases run
    rfl
  · intro same
    subst same
    exact .nil after

theorem cons_iff {command : Command} {rest : List Command} :
    InOrder step (command :: rest) before after ↔
      ∃ between, step command before between ∧ InOrder step rest between after := by
  constructor
  · intro run
    cases run with
    | cons first others => exact ⟨_, first, others⟩
  · intro both
    obtain ⟨between, first, others⟩ := both
    exact .cons first others

theorem append_iff {first second : List Command} :
    InOrder step (first ++ second) before after ↔
      ∃ between, InOrder step first before between ∧ InOrder step second between after := by
  induction first generalizing before with
  | nil => simp only [List.nil_append, nil_iff, exists_eq_left]
  | cons command rest ih =>
      simp only [List.cons_append, cons_iff, ih]
      constructor
      · rintro ⟨middle, one, between, others, last⟩
        exact ⟨between, ⟨middle, one, others⟩, last⟩
      · rintro ⟨between, ⟨middle, one, others⟩, last⟩
        exact ⟨middle, one, between, others, last⟩

theorem singleton_iff {command : Command} :
    InOrder step [command] before after ↔ step command before after := by
  simp only [cons_iff, nil_iff, exists_eq_right']

end InOrder

/-! ## Expiries and passwords -/

theorem Time.Instant.microseconds_ofMicroseconds {microseconds : Int} :
    (Instant.ofMicroseconds microseconds).microseconds = microseconds := by
  simp only [Instant.microseconds, Instant.ofMicroseconds]
  omega

/-- An instant as the server keeps it, in whole microseconds. -/
def Time.Instant.kept (instant : Instant) : Instant :=
  .ofMicroseconds instant.microseconds

@[simp] theorem Time.Instant.microseconds_kept {instant : Instant} :
    instant.kept.microseconds = instant.microseconds := by
  rw [kept, microseconds_ofMicroseconds]

def Sql.PasswordChange.Leaves (role : String) (change : PasswordChange)
    (before after : Option String) : Prop :=
  match change with
  | .keep => after = before
  | .set password => passwordMatches after password role = true
  | .clear => after = none

theorem Sql.PasswordChange.exists_leaves (role : String) (change : PasswordChange)
    (before : Option String) : ∃ after, change.Leaves role before after := by
  cases change with
  | keep => exact ⟨before, rfl⟩
  | set password => exact ⟨some (Verifier.md5Text password role), passwordMatches_md5Text⟩
  | clear => exact ⟨none, rfl⟩

/-! ## Memberships -/

namespace RoleState

/-- A role with options set anew. -/
def withOptions (state : RoleState) (options : RoleOptions) (verifier : Option String) :
    RoleState :=
  { state with
    login := options.login
    attributes := options.attributes
    validUntil := options.validUntil.map Instant.kept
    verifier := verifier }

/-- A role that was just created, before it is made a member of another one. -/
def created (options : RoleOptions) (verifier : Option String) : RoleState :=
  { login := options.login
    attributes := options.attributes
    validUntil := options.validUntil.map Instant.kept
    verifier := verifier
    comment := none
    inRole := []
    members := [] }

/-- The role of the given name after members joined groups; each pair is a group and its new
member. -/
def join (name : String) (pairs : List (String × String)) (state : RoleState) : RoleState :=
  { state with
    inRole := state.inRole ++ (pairs.filter fun pair => pair.2 = name).map Prod.fst
    members := state.members ++ (pairs.filter fun pair => pair.1 = name).map Prod.snd }

/-- The role of the given name after members left groups. -/
def leave (name : String) (pairs : List (String × String)) (state : RoleState) : RoleState :=
  { state with
    inRole := state.inRole.filter fun group => (group, name) ∉ pairs
    members := state.members.filter fun member => (name, member) ∉ pairs }

def forget (gone : String) (state : RoleState) : RoleState :=
  { state with
    inRole := state.inRole.filter (· ≠ gone)
    members := state.members.filter (· ≠ gone) }

variable {name : String} {pairs : List (String × String)} {state : RoleState} {other : String}

theorem mem_inRole_join :
    other ∈ (state.join name pairs).inRole ↔ other ∈ state.inRole ∨ (other, name) ∈ pairs := by
  simp [join]

theorem mem_members_join :
    other ∈ (state.join name pairs).members ↔ other ∈ state.members ∨ (name, other) ∈ pairs := by
  simp [join]

theorem mem_inRole_leave :
    other ∈ (state.leave name pairs).inRole ↔ other ∈ state.inRole ∧ (other, name) ∉ pairs := by
  simp only [leave, List.mem_filter, decide_eq_true_eq]

theorem mem_members_leave :
    other ∈ (state.leave name pairs).members ↔ other ∈ state.members ∧ (name, other) ∉ pairs := by
  simp only [leave, List.mem_filter, decide_eq_true_eq]

theorem join_nil : state.join name [] = state := by
  simp only [join, List.filter_nil, List.map_nil, List.append_nil]

theorem leave_nil : state.leave name [] = state := by
  have everything : ∀ names : List String, names.filter (fun _ => true) = names :=
    fun _ => List.filter_eq_self.mpr fun _ _ => rfl
  simp only [leave, List.not_mem_nil, not_false_eq_true, decide_true, everything]

theorem join_join {more : List (String × String)} :
    (state.join name pairs).join name more = state.join name (pairs ++ more) := by
  simp only [join, List.filter_append, List.map_append, List.append_assoc]

theorem leave_leave {more : List (String × String)} :
    (state.leave name pairs).leave name more = state.leave name (pairs ++ more) := by
  simp only [leave, List.filter_filter, List.mem_append, not_or, Bool.decide_and, Bool.and_comm]

end RoleState

/-! ## Commands -/

def creationPairs (created : String) (inRole members : List String) : List (String × String) :=
  inRole.map (fun group => (group, created)) ++ members.map fun member => (created, member)

theorem mem_creationPairs {created group member : String} {inRole members : List String} :
    (group, member) ∈ creationPairs created inRole members ↔
      (group ∈ inRole ∧ member = created) ∨ (group = created ∧ member ∈ members) := by
  simp only [creationPairs, List.mem_append, List.mem_map, Prod.mk.injEq]
  grind

/-- What a command may make of the role of a name. A role is created where there is none and
changed where there is one, and no role becomes a member of itself. -/
def Sql.Command.OnRole (name : String) (command : Command)
    (before after : Option RoleState) : Prop :=
  match command with
  | .createRole created options inRole members =>
      created ∉ inRole ∧ created ∉ members ∧
        if created = name then
          before = none ∧ ∃ verifier, options.password.Leaves name none verifier ∧
            after =
              some
                ((RoleState.created options verifier).join name
                  (creationPairs created inRole members))
        else after = before.map (RoleState.join name (creationPairs created inRole members))
  | .alterRole altered options =>
      if altered = name then
        ∃ state verifier, before = some state ∧
          options.password.Leaves name state.verifier verifier ∧
            after = some (state.withOptions options verifier)
      else after = before
  | .dropRole dropped =>
      if dropped = name then after = none
      else after = before.map (RoleState.forget dropped)
  | .commentOnRole described comment =>
      if described = name then
        ∃ state, before = some state ∧ after = some { state with comment := comment }
      else after = before
  | .grantMembership group member =>
      group ≠ member ∧ after = before.map (RoleState.join name [(group, member)])
  | .revokeMembership group member => after = before.map (RoleState.leave name [(group, member)])
  | _ => after = before

section Memberships

variable {name : String} {pairs : List (String × String)} {before after : Option RoleState}

theorem inOrder_grantMemberships :
    InOrder (Command.OnRole name)
        (pairs.map fun pair => .grantMembership pair.1 pair.2) before after ↔
      (∀ pair ∈ pairs, pair.1 ≠ pair.2) ∧ after = before.map (RoleState.join name pairs) := by
  induction pairs generalizing before with
  | nil =>
      have nothing : RoleState.join name [] = id := funext fun _ => RoleState.join_nil
      simp only [List.map_nil, InOrder.nil_iff, List.not_mem_nil, false_implies, implies_true,
        nothing, Option.map_id, id_eq, true_and]
  | cons pair rest ih =>
      have both : RoleState.join name rest ∘ RoleState.join name [pair] =
          RoleState.join name (pair :: rest) := funext fun _ => RoleState.join_join
      simp only [List.map_cons, InOrder.cons_iff, Command.OnRole, ih, List.forall_mem_cons]
      constructor
      · rintro ⟨between, ⟨apart, first⟩, others, last⟩
        rw [first, Option.map_map, both] at last
        exact ⟨⟨apart, others⟩, last⟩
      · rintro ⟨⟨apart, others⟩, last⟩
        refine ⟨_, ⟨apart, rfl⟩, others, ?_⟩
        rw [Option.map_map, both]
        exact last

theorem inOrder_revokeMemberships :
    InOrder (Command.OnRole name)
        (pairs.map fun pair => .revokeMembership pair.1 pair.2) before after ↔
      after = before.map (RoleState.leave name pairs) := by
  induction pairs generalizing before with
  | nil =>
      have nothing : RoleState.leave name [] = id := funext fun _ => RoleState.leave_nil
      simp only [List.map_nil, InOrder.nil_iff, nothing, Option.map_id, id_eq]
  | cons pair rest ih =>
      have both : RoleState.leave name rest ∘ RoleState.leave name [pair] =
          RoleState.leave name (pair :: rest) := funext fun _ => RoleState.leave_leave
      simp only [List.map_cons, InOrder.cons_iff, Command.OnRole, ih, exists_eq_left,
        Option.map_map, both]

end Memberships

end CatalogSteward
