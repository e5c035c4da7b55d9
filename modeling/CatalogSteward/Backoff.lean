import CatalogSteward.Failure
import CatalogSteward.Time.Duration

/-!
# Backing off

The delay before trying again grows with each attempt, up to a greatest one,
and is spread by chance. Failures that trying again cannot help wait for the
greatest delay at once.
-/

set_option autoImplicit false

namespace CatalogSteward

open Time

structure Backoff where
  initial : Duration
  greatest : Duration
  multiplier : Float
  jitter : Float

def timesPower (number base : Float) (exponent : Nat) : Float :=
  if _zero : exponent = 0 then number
  else
    timesPower (if exponent % 2 = 1 then number * base else number) (base * base) (exponent / 2)
termination_by exponent

def power (base : Float) (exponent : Nat) : Float :=
  timesPower 1.0 base exponent

def atLeastZero (number : Float) : Float :=
  if number > 0.0 then number else 0.0

namespace Backoff

def standard : Backoff :=
  ⟨.ofSeconds 5, .ofSeconds 300, 2.0, 0.1⟩

def greatestExponent : Nat := 2147483647

def delayForAttempt (backoff : Backoff) (chance : Float) (attempt : Nat) : Duration :=
  let base := backoff.initial.toFloat * power backoff.multiplier (min attempt greatestExponent)
  let range := base * backoff.jitter
  let delay := atLeastZero (base + (chance * range * 2.0 - range))
  let greatest := backoff.greatest.toFloat
  .ofFloat (if delay < greatest then delay else greatest)

def delayForFailure (backoff : Backoff) (chance : Float) (failure : Failure)
    (attempt : Nat) : Duration :=
  if failure.isRetryable then backoff.delayForAttempt chance attempt else backoff.greatest

end Backoff

end CatalogSteward
