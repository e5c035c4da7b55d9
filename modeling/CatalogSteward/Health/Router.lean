import CatalogSteward.Health.Metrics
import CatalogSteward.Network.Target

/-!
# Health and readiness

What the program answers when it is asked whether it lives, whether it is
ready, and for its metrics.
-/

set_option autoImplicit false

namespace CatalogSteward

structure Health where
  ready : Bool
  metrics : Metrics
  lastReconcile : Nat

def Health.initial : Health :=
  ⟨false, .empty, 0⟩

structure HealthResponse where
  status : Nat
  contentType : Option String
  allow : Option String
  body : String
  deriving DecidableEq, Repr

def plainText : String := "text/plain; charset=utf-8"

def metricsText : String := "text/plain; version=0.0.4; charset=utf-8"

def Health.page? (health : Health) (path : String) : Option HealthResponse :=
  if path = "/healthz" then some ⟨200, some plainText, none, "ok"⟩
  else if path = "/readyz" then
    if health.ready then some ⟨200, some plainText, none, "ready"⟩
    else some ⟨503, some plainText, none, "not ready"⟩
  else if path = "/metrics" then
    some ⟨200, some metricsText, none, health.metrics.text⟩
  else none

def Health.respond (health : Health) (method path : String) : HealthResponse :=
  match health.page? path with
  | none => ⟨404, none, none, ""⟩
  | some page =>
      if method = "GET" then page
      else if method = "HEAD" then { page with body := "" }
      else ⟨405, none, some "GET,HEAD", ""⟩

def Health.answer? (health : Health) (method target : String) : Option HealthResponse :=
  if Network.isMethod method then (Network.targetPath? target).map (health.respond method)
  else none

end CatalogSteward
