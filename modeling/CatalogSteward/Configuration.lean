import CatalogSteward.Network.SocketAddress
import CatalogSteward.Text.Blank

/-!
# Configuration

The settings of the running program, from named values. Blank values count as
not given.
-/

set_option autoImplicit false

namespace CatalogSteward

open Network

structure Configuration where
  podName : Option String
  podNamespace : String
  watchNamespace : Option String
  healthAddress : SocketAddress
  leaderElection : Bool
  deriving DecidableEq, Repr

/-- A named value that cannot be read. -/
structure InvalidSetting where
  name : String
  value : String
  deriving DecidableEq, Repr

def InvalidSetting.message (invalid : InvalidSetting) : String :=
  "Invalid value for " ++ invalid.name ++ ": " ++ invalid.value

namespace Configuration

def standardHealthAddress : SocketAddress :=
  .version4 ⟨0, 0, 0, 0⟩ 8080

/-- The namespace of the lease unless another one is given. -/
def standardNamespace : String := "default"

def switch? (value : String) : Option Bool :=
  match value.map Char.toLower with
  | "true" => some true
  | "1" => some true
  | "yes" => some true
  | "false" => some false
  | "0" => some false
  | "no" => some false
  | _ => none

/-- A named value as `read` understands it, or the standard one where it is not given. -/
def setting {α : Type} (lookup : String → Option String) (name : String) (standard : α)
    (read : String → Option α) : Except InvalidSetting α :=
  match Text.nonBlank? (lookup name) with
  | none => .ok standard
  | some value =>
      match read value with
      | some setting => .ok setting
      | none => .error ⟨name, value⟩

def ofLookup (lookup : String → Option String) : Except InvalidSetting Configuration := do
  let healthAddress ←
    setting lookup "HEALTH_ADDR" standardHealthAddress SocketAddress.ofText?
  let leaderElection ← setting lookup "LEADER_ELECTION" true switch?
  pure
    { podName := Text.nonBlank? (lookup "POD_NAME")
      podNamespace := (Text.nonBlank? (lookup "POD_NAMESPACE")).getD standardNamespace
      watchNamespace := Text.nonBlank? (lookup "WATCH_NAMESPACE")
      healthAddress := healthAddress
      leaderElection := leaderElection }

end Configuration

end CatalogSteward
