import BridgeRelay.Host
import BridgeRelay.Retry

/-!
# Repeated reads

A read that fails in a way that may pass is made again after a growing delay, as often as the policy allows.
-/

namespace BridgeRelay.RetryPolicy

variable {I : Interface} [Hosted I] {α : Type}

/-- Sleeps for the delay after attempt number `attempt`. -/
def sleep (p : RetryPolicy) (attempt : Nat) : Program I Unit := do
  Host.sleep (← Host.require (p.backoff attempt))

/-- Reads, and reads again up to `left` times while the failure may pass. `attempt` of the calls were made. -/
def readFrom (p : RetryPolicy) (read : Program I (Except ChainError α)) (attempt : Nat) :
    (left : Nat) → Program I (Except ChainError α)
  | 0 => read
  | left + 1 => do
      match ← read with
      | .ok a => return .ok a
      | .error e =>
          if (ErrorClass.ofError e).isPassing then
            p.sleep attempt
            p.readFrom read (attempt + 1) left
          else return .error e

/-- Reads at least once and at most as often as the policy allows. -/
def read (p : RetryPolicy) (read : Program I (Except ChainError α)) : Program I (Except ChainError α) :=
  p.readFrom read 0 (p.maxAttempts - 1)

end BridgeRelay.RetryPolicy
