import BridgeRelay.Delivery
import BridgeRelay.Gas.Quote
import BridgeRelay.Retry.Read

/-!
# Signing account

The account that signs the calls to one destination bridge. Nonce and price are chosen and the call is broadcast
while the account is taken; the receipt is awaited after it is given back, so that the next call need not wait for
a block. A call that is not mined in time is replaced at its nonce with a higher price.
-/

namespace BridgeRelay

/-- How a receipt is awaited. -/
structure Confirmation where
  pollInterval : Duration := .ofSeconds 2
  timeout : Duration := .ofSeconds 120
  deriving DecidableEq, Inhabited

/-- The settings of a signing account. -/
structure Signer where
  domain : DomainId
  pricing : GasPricing := .static
  gas : GasSettings := {}
  gasLimit : UInt64
  /-- the price above which no bump goes -/
  ceiling : Option Wei
  retry : RetryPolicy
  confirmation : Confirmation := {}

namespace Signer

open Destination

/-! ## Broadcast -/

/-- The nonce of the next transaction: that of the transaction it replaces, the one that comes next, or, if that
is not known, what the chain says. -/
def chooseNonce (stuck next : Option UInt64) : Program WriterInterface (Except ChainError UInt64) :=
  match stuck.or next with
  | some nonce => return .ok nonce
  | none => query .pendingNonce

/-- Nonce and price of the next transaction, the price raised `bumps` times. -/
def choose (s : Signer) (bumps : Nat) (stuck next : Option UInt64) :
    Program WriterInterface (Except ChainError TransactionOptions) := do
  match ← chooseNonce stuck next with
  | .error e => return .error e
  | .ok nonce =>
      match ← s.gas.quote s.pricing with
      | .error e => return .error e
      | .ok price =>
          return .ok { nonce, gasLimit := s.gasLimit
                       price := price.bumpedTimes bumps s.retry.bumpPercent s.ceiling }

/-- The nonce that comes next once a transaction is accepted. -/
def nextNonce (next : Option UInt64) (accepted : UInt64) : UInt64 := max (next.getD 0) (accepted + 1)

/-- Broadcasts a call while the account is taken, and gives hash and nonce of the transaction. After a refused
broadcast the nonce that comes next is unknown. -/
def broadcast (s : Signer) (call : BridgeCall) (bumps : Nat) (stuck : Option UInt64) :
    Program WriterInterface (Except ChainError (Hash × UInt64)) := do
  let next ← takeNonce
  match ← s.choose bumps stuck next with
  | .error e =>
      giveNonce next
      return .error e
  | .ok options =>
      match ← query (.send call options) with
      | .error e =>
          giveNonce none
          return .error e
      | .ok tx =>
          giveNonce (some (nextNonce next options.nonce))
          return .ok (tx, options.nonce)

/-- Forgets the nonce that comes next. -/
def forgetNonce : Program WriterInterface Unit := do
  let _ ← takeNonce
  giveNonce none

/-! ## Receipt -/

/-- What is said of a transaction that was not mined in time. -/
def Confirmation.lateText (c : Confirmation) (tx : Hash) : String :=
  s!"transaction {Hex.encode tx.toList} not mined after {c.timeout.text}"

/-- What is said of a transaction that was mined and failed. -/
def revertedText (tx : Hash) : String := s!"transaction {Hex.encode tx.toList} reverted"

/-- Whether a transaction succeeded, or a timeout. Failed look-ups count as missing receipts. The clock is taken as
unbounded: a deadline that lies behind the last moment of a real clock is not an error here. -/
def awaitReceipt (c : Confirmation) (tx : Hash) : Program WriterInterface (Except ChainError Bool) := do
  let deadline := (← Host.now) + c.timeout.nanos
  Program.iterate () fun _ => do
    match ← query (.receipt tx) with
    | .ok (some success) => return .inr (.ok success)
    | _ =>
        if deadline ≤ (← Host.now) then return .inr (.error (.timeout (Confirmation.lateText c tx)))
        else
          Host.sleep c.pollInterval
          return .inl ()

/-! ## Submission -/

/-- What one attempt leaves to the next. -/
structure Pending where
  /-- how often the price is raised -/
  bumps : Nat := 0
  /-- the nonce of a transaction that was broadcast and not mined -/
  stuck : Option UInt64 := none
  deriving DecidableEq

/-- One attempt: a broadcast and its receipt. -/
def attempt (s : Signer) (call : BridgeCall) (p : Pending) :
    Program WriterInterface (Except ChainError Hash × Pending) := do
  match ← s.broadcast call p.bumps p.stuck with
  | .error e => return (.error e, p)
  | .ok (tx, nonce) =>
      match ← awaitReceipt s.confirmation tx with
      | .ok true => return (.ok tx, p)
      | .ok false => return (.error (.reverted (revertedText tx)), { p with stuck := none })
      | .error e => return (.error e, ⟨p.bumps + 1, some nonce⟩)

/-- Why a call is given up after the last failure of its record. -/
def surrender (call : BridgeCall) (r : RetryRecord) (c : ErrorClass) : TransactionError :=
  match c with
  | .permanent => .rejected call.kind r.lastText
  | _ => .exhausted call.kind r.attempt r.lastText

/-- Counts a retry and sleeps before it. -/
def postpone (s : Signer) (c : ErrorClass) (delay : Duration) : Program WriterInterface Unit := do
  Host.record (.txRetry s.domain c.label)
  Host.sleep delay

/-- Attempts a call until it is mined, found to be done or given up. -/
def submitFrom (s : Signer) (call : BridgeCall) (r : RetryRecord) (p : Pending) :
    Program WriterInterface (Except TransactionError Submission) := do
  match ← s.attempt call p with
  | (.ok tx, _) => return .ok (.confirmed tx)
  | (.error e, p) =>
      let c := ErrorClass.ofError e
      match _h : (r.fail e).next with
      | .error fault => Host.require (.error fault)
      | .ok .alreadyProcessed => return .ok .alreadyProcessed
      | .ok .giveUp => return .error (surrender call (r.fail e) c)
      | .ok (.retryWithBump delay) =>
          s.postpone c delay
          s.submitFrom call (r.fail e) { p with bumps := p.bumps + 1 }
      | .ok (.refreshNonce delay) =>
          forgetNonce
          s.postpone c delay
          s.submitFrom call (r.fail e) { p with stuck := none }
      | .ok (.retryAfter delay) =>
          s.postpone c delay
          s.submitFrom call (r.fail e) p
termination_by r.policy.maxAttempts - r.attempt
decreasing_by all_goals exact RetryRecord.left_fail_lt (by assumption) rfl

/-- Attempts a call from the beginning. -/
def submit (s : Signer) (call : BridgeCall) : Program WriterInterface (Except TransactionError Submission) :=
  s.submitFrom call { policy := s.retry } {}

end Signer

end BridgeRelay
