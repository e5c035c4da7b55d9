import CatalogSteward.Plan.Role

/-!
# What plans disclose

A password is sent to the server and shown nowhere. Whoever does not execute a
plan learns of two passwords at most whether the stored verifier accepts them:
where it does not tell them apart, neither do the two plans.
-/

set_option autoImplicit false

namespace CatalogSteward

open Sql

/-! ## Statements -/

/-- What is known of a statement to whoever does not execute it: how it is shown and inspected,
whether it is sensitive, and, unless it is, the text that is sent. -/
structure Sql.Disclosure where
  shown : String
  inspected : String
  isSensitive : Bool
  sent : Option String
  deriving DecidableEq, Repr

def Sql.Statement.disclosure (statement : Statement) : Disclosure where
  shown := statement.shown
  inspected := statement.inspected
  isSensitive := statement.isSensitive
  sent := if statement.isSensitive then none else some statement.text

namespace Sql

namespace Command

/-- What a command discloses that holds no password, or whose password is hidden. -/
def disclosure (command : Command) : Disclosure where
  shown := command.text
  inspected := "Statement(" ++ Text.quoted command.text ++ ")"
  isSensitive := command.newPassword?.isSome
  sent := if command.newPassword?.isSome then none else some command.text

/-- Hiding a password keeps that there is one. -/
theorem isSome_newPassword?_hidden (command : Command) :
    command.hidden.newPassword?.isSome = command.newPassword?.isSome := by
  cases command with
  | createRole name options inRole members | alterRole name options =>
      obtain ⟨login, password, attributes, validUntil⟩ := options
      cases password <;> rfl
  | _ => rfl

theorem hidden_eq_self {command : Command} (harmless : command.newPassword? = none) :
    command.hidden = command := by
  cases command with
  | createRole name options inRole members | alterRole name options =>
      obtain ⟨login, password, attributes, validUntil⟩ := options
      cases password with
      | set password => cases harmless
      | keep | clear => rfl
  | _ => rfl

/-- A statement discloses what its command says once the password is hidden, and nothing of the
password. -/
theorem disclosure_statement (command : Command) :
    command.statement.disclosure = command.hidden.disclosure := by
  rw [disclosure, isSome_newPassword?_hidden]
  cases given : command.newPassword? with
  | some password =>
      simp only [Statement.disclosure, statement, given]
      rfl
  | none =>
      simp only [Statement.disclosure, statement, given, hidden_eq_self given]
      rfl

end Command

end Sql

/-! ## Plans -/

/-- What is known of a plan to whoever does not execute it. -/
structure Plan.Disclosure where
  statements : List Sql.Disclosure
  message : Option String
  deriving DecidableEq, Repr

def Plan.disclosure (plan : Plan) : Plan.Disclosure where
  statements := plan.statements.map Statement.disclosure
  message := plan.message

/-- Plans whose commands are the same once their passwords are hidden disclose the same. -/
theorem Plan.disclosure_congr {left right : Plan}
    (commands : left.commands.map Command.hidden = right.commands.map Command.hidden)
    (remark : left.remark = right.remark) : left.disclosure = right.disclosure := by
  have disclosed : ∀ plan : Plan, plan.statements.map Statement.disclosure =
      (plan.commands.map Command.hidden).map Command.disclosure := by
    intro plan
    rw [Plan.statements, List.map_map, List.map_map]
    exact List.map_congr_left fun command _ => command.disclosure_statement
  rw [disclosure, disclosure, disclosed, disclosed, commands, message, message, remark]

namespace RoleDeclaration

variable {declaration : RoleDeclaration} {validUntil : Option Time.Instant} {left right : String}

theorem hidden_passwordChange {agrees : Bool} :
    (declaration.passwordChange (some left) agrees).hidden =
      (declaration.passwordChange (some right) agrees).hidden := by
  cases agrees with
  | true => rfl
  | false =>
      rw [passwordChange, passwordChange]
      split
      · rfl
      · rfl

/-- The creation of a role discloses nothing of its password. -/
theorem disclosure_creation :
    (declaration.creation (some left) validUntil).disclosure =
      (declaration.creation (some right) validUntil).disclosure := by
  apply Plan.disclosure_congr
  · unfold creation
    cases declaration.login with
    | true => rfl
    | false => rfl
  · rfl

/-- The repair of a role discloses whether the password is accepted, and no more of it. -/
theorem disclosure_repair {current : RoleState}
    (alike : passwordMatches current.verifier left declaration.name =
      passwordMatches current.verifier right declaration.name) :
    (declaration.repair (some left) validUntil current).disclosure =
      (declaration.repair (some right) validUntil current).disclosure := by
  have agrees : declaration.passwordAgrees (some left) current =
      declaration.passwordAgrees (some right) current := by
    unfold passwordAgrees
    cases declaration.login with
    | true => exact alike
    | false => rfl
  have change := @hidden_passwordChange declaration left right
    (declaration.passwordAgrees (some right) current)
  unfold repair
  rw [agrees]
  dsimp only
  split
  · rfl
  · apply Plan.disclosure_congr
    · simp only [List.map_append]
      congr 2
      split
      · rfl
      · simp only [List.map_cons, List.map_nil, Command.hidden, options, RoleOptions.hidden,
          change]
    · rfl

/-- Plans keep passwords secret. Whatever is declared and whatever role there is, two passwords
that the stored verifier accepts or refuses alike make plans that cannot be told apart without
executing them: both are rejected for the same reason, or they have the same statements to show
and to inspect, sensitive in the same places and with the same text everywhere else, and the same
message. Where there is no role, any two passwords do. -/
theorem plan_keeps_password_secret {current : Option RoleState}
    (alike : ∀ state, current = some state →
      passwordMatches state.verifier left declaration.name =
        passwordMatches state.verifier right declaration.name) :
    (declaration.plan (some left) current).map Plan.disclosure =
      (declaration.plan (some right) current).map Plan.disclosure := by
  rw [plan, plan]
  cases parseExpiry declaration.flags.validUntil with
  | error rejection => rfl
  | ok validUntil =>
      cases current with
      | none => exact congrArg Except.ok disclosure_creation
      | some state => exact congrArg Except.ok (disclosure_repair (alike state rfl))

/-! The password of a teller is to be changed to one of two, neither of which is the stored one. -/

private def teller : RoleDeclaration where
  name := "teller"
  comment := none
  cluster := ⟨"main", none⟩
  passwordSecret := some ⟨"teller-password", none⟩
  flags := .standard

private def storedTeller : RoleState where
  login := true
  attributes := .standard
  validUntil := none
  verifier := some "md53b7c31d5ef1191f73be7c789069bad05"
  comment := none
  inRole := []
  members := []

private theorem plan_teller {password : String}
    (refused : passwordMatches storedTeller.verifier password "teller" = false) :
    teller.plan (some password) (some storedTeller) =
      .ok
        ⟨[.alterRole "teller" ⟨true, .set password, .standard, none⟩],
          some (.roleUpdated [.password])⟩ := by
  have agrees : teller.passwordAgrees (some password) storedTeller = false := refused
  have planned : teller.plan (some password) (some storedTeller) =
      .ok (teller.repair (some password) none storedTeller) := rfl
  rw [planned, repair, agrees]
  rfl

theorem plan_keeps_password_secret_of_teller :
    ((∀ state, some storedTeller = some state →
        passwordMatches state.verifier "first" teller.name =
          passwordMatches state.verifier "second" teller.name) ∧
      teller.plan (some "first") (some storedTeller) ≠
        teller.plan (some "second") (some storedTeller)) ∧
      (teller.plan (some "first") (some storedTeller)).map Plan.disclosure =
        (teller.plan (some "second") (some storedTeller)).map Plan.disclosure := by
  have first : passwordMatches storedTeller.verifier "first" "teller" = false := by decide +kernel
  have second : passwordMatches storedTeller.verifier "second" "teller" = false := by decide +kernel
  have alike : ∀ state, some storedTeller = some state →
      passwordMatches state.verifier "first" teller.name =
        passwordMatches state.verifier "second" teller.name := by
    intro state same
    cases same
    exact first.trans second.symm
  refine ⟨⟨alike, ?_⟩, plan_keeps_password_secret alike⟩
  rw [plan_teller first, plan_teller second]
  simp

end RoleDeclaration

end CatalogSteward
