import BridgeRelay.Chain
import BridgeRelay.Duration
import BridgeRelay.Text.Character

/-!
# Retry policy

Which failures are worth another attempt, how long to wait before it, and the record of one call's failures.
-/

namespace BridgeRelay

/-! ## Classes of failures -/

/-- What a failure means for the next attempt. -/
inductive ErrorClass where
  /-- the network or the node is in trouble for the moment -/
  | transient
  /-- the price is too low -/
  | underpriced
  /-- the nonce is used or ahead of the chain -/
  | nonceConflict
  /-- the bridge has recorded the vote or execution already -/
  | alreadyProcessed
  /-- no retry can help -/
  | permanent
  | unknown
  deriving DecidableEq, Repr

namespace ErrorClass

/-- The name of the class. -/
def name : ErrorClass → String
  | transient => "Transient"
  | underpriced => "Underpriced"
  | nonceConflict => "NonceConflict"
  | alreadyProcessed => "AlreadyProcessed"
  | permanent => "Permanent"
  | unknown => "Unknown"

/-- The label of the class on counters. -/
def label (c : ErrorClass) : String := c.name.toLower

/-- The phrases that tell a class, in the order in which the classes are tried. -/
def phrases : List (ErrorClass × List String) :=
  [(alreadyProcessed,
      ["relayer already voted", "proposal already passed", "proposal already executed",
       "proposal already cancelled", "already executed"]),
   (transient,
      ["timeout", "timed out", "connection", "network", "rate limit", "too many requests", "503", "502",
       "temporarily unavailable"]),
   (underpriced,
      ["underpriced", "replacement transaction", "gas price too low", "max fee per gas less than"]),
   (nonceConflict, ["nonce too low", "nonce too high", "already known", "invalid nonce"]),
   (permanent,
      ["reverted", "invalid signature", "insufficient funds", "out of gas", "invalid parameters"])]

/-- The class of a node's message: the first one of which it has a phrase, in any case. -/
def ofText (s : String) : ErrorClass :=
  let folded := Text.fold s.toList
  match phrases.find? fun entry => entry.2.any fun phrase => Text.occurs phrase.toList folded with
  | some (c, _) => c
  | none => unknown

/-- The class of a failure. Of a revert only the benign reasons count. -/
def ofError : ChainError → ErrorClass
  | .timeout _ => transient
  | .reverted reason => if ofText reason = alreadyProcessed then alreadyProcessed else permanent
  | .rpc s => ofText s
  | .invalid _ => permanent

/-- Whether a read that failed so is tried again. -/
def isPassing : ErrorClass → Bool
  | transient | unknown => true
  | _ => false

end ErrorClass

/-! ## Policy -/

/-- How often and after what delay a call is tried again. -/
structure RetryPolicy where
  /-- the number of attempts per call, the first one included -/
  maxAttempts : Nat := 5
  initial : Duration := .ofSeconds 2
  maximum : Duration := .ofSeconds 60
  multiplier : Binary64 := 2
  /-- by how many percent the price is raised after it was too low -/
  bumpPercent : Nat := 20
  deriving DecidableEq, Repr, Inhabited

namespace RetryPolicy

/-- The exponent of the multiplier: the attempt as a signed 32-bit number. -/
def exponent (attempt : Nat) : Int := Int.bmod attempt UInt32.size

/-- The delay after attempt number `attempt`, counted from zero: the initial delay times a power of the
multiplier, but at most the maximum. -/
def backoff (p : RetryPolicy) (attempt : Nat) : Except Duration.Fault Duration :=
  let seconds := p.initial.toSeconds * integralPower p.multiplier (exponent attempt)
  Duration.ofBinary64 (seconds.least p.maximum.toSeconds)

/-- Whether there is an attempt left after `attempt` of them. -/
def allows (p : RetryPolicy) (attempt : Nat) : Bool := attempt < p.maxAttempts

end RetryPolicy

/-! ## The record of a call -/

/-- What to do after a failure. -/
inductive RetryAction where
  | retryAfter (delay : Duration)
  | retryWithBump (delay : Duration)
  | refreshNonce (delay : Duration)
  | alreadyProcessed
  | giveUp
  deriving DecidableEq, Repr

/-- Whether an action is followed by another attempt. -/
def RetryAction.isRetry : RetryAction → Bool
  | .retryAfter _ | .retryWithBump _ | .refreshNonce _ => true
  | .alreadyProcessed | .giveUp => false

/-- The failures of one call so far. -/
structure RetryRecord where
  policy : RetryPolicy
  attempt : Nat := 0
  last : Option ChainError := none
  deriving DecidableEq

namespace RetryRecord

/-- The record after one more failure. -/
def fail (r : RetryRecord) (e : ChainError) : RetryRecord :=
  { r with attempt := r.attempt + 1, last := some e }

/-- The text of the last failure; empty if there is none. -/
def lastText (r : RetryRecord) : String := (r.last.map ChainError.message).getD ""

/-- What to do next. -/
def next (r : RetryRecord) : Except Duration.Fault RetryAction :=
  match r.last.map ErrorClass.ofError with
  | none => .ok (.retryAfter .zero)
  | some .alreadyProcessed => .ok .alreadyProcessed
  | some .permanent => .ok .giveUp
  | some c =>
      if !r.policy.allows r.attempt then .ok .giveUp
      else match c with
        | .underpriced => .ok (.retryWithBump (.ofSeconds 1))
        | .nonceConflict => (r.policy.backoff 0).map .refreshNonce
        | _ => (r.policy.backoff (r.attempt - 1)).map .retryAfter

/-- Another attempt follows a failure only while the policy allows one. -/
theorem lt_maxAttempts_of_next {r : RetryRecord} {e : ChainError} {a : RetryAction}
    (h : (r.fail e).next = .ok a) (ha : a.isRetry) : r.attempt + 1 < r.policy.maxAttempts := by
  by_cases hm : r.attempt + 1 < r.policy.maxAttempts
  · exact hm
  · exfalso
    cases hc : ErrorClass.ofError e <;>
      simp_all [next, fail, RetryPolicy.allows] <;>
      (subst h; simp [RetryAction.isRetry] at ha)

/-- After a failure that another attempt follows, fewer attempts are left. -/
theorem left_fail_lt {r : RetryRecord} {e : ChainError} {a : RetryAction}
    (h : (r.fail e).next = .ok a) (ha : a.isRetry) :
    (r.fail e).policy.maxAttempts - (r.fail e).attempt < r.policy.maxAttempts - r.attempt := by
  have := lt_maxAttempts_of_next h ha
  simp only [fail]
  omega

end RetryRecord

end BridgeRelay
