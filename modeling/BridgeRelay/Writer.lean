import BridgeRelay.Signer

/-!
# Writers

A writer brings one message at a time to its destination: it votes for the proposal of the message unless the
relayer's vote is recorded, watches the proposal until it has passed, and executes it. Before each action the
bridge is read, so that a message which is written again only gets what it still lacks.
-/

namespace BridgeRelay

/-- The settings of a writer. -/
structure Writer where
  domain : DomainId
  /-- between two looks at a proposal -/
  pollInterval : Duration
  /-- how often a proposal is looked at after the vote -/
  watchLimit : Nat
  /-- the account that votes -/
  relayer : Address
  readRetry : RetryPolicy
  signer : Signer

namespace Writer

open Destination

/-- The end of a step that decides the message, or what the next step works with. -/
abbrev Result (α : Type) : Type := Except DeliveryError α

/-! ## Reads -/

/-- Reads from the bridge, again while a failure may pass. -/
def read (w : Writer) {α : Type} (q : Program WriterInterface (Except ChainError α)) :
    Program WriterInterface (Result α) := do
  match ← w.readRetry.read q with
  | .ok a => return .ok a
  | .error e => return .error (.read e)

/-- The record of a proposal. -/
def readState (w : Writer) (p : Proposal) : Program WriterInterface (Result ProposalState) :=
  w.read (query (.proposal p.origin p.nonce p.dataHash))

/-- Whether the relayer's vote is recorded. -/
def readVote (w : Writer) (p : Proposal) : Program WriterInterface (Result Bool) :=
  w.read (query (.hasVoted p w.relayer))

/-! ## Execution -/

/-- Where the message stands after an execution that was not confirmed. -/
def settle (w : Writer) (p : Proposal) (failure : Option TransactionError) :
    Program WriterInterface (Result Outcome) := do
  match ← w.readState p with
  | .error e => return .error e
  | .ok state =>
      if state.status.isTerminal then return .ok (.alreadyFinal state.status)
      else match failure with
        | some e => return .error (.transaction e)
        | none => return .ok (.alreadyFinal .executed)

/-- Executes a proposal. -/
def execute (w : Writer) (p : Proposal) : Program WriterInterface (Result Outcome) := do
  match ← w.signer.submit (.execute p) with
  | .ok (.confirmed _) =>
      Host.record (.executionSubmitted w.domain)
      return .ok .executed
  | .ok .alreadyProcessed => w.settle p none
  | .error e => w.settle p (some e)

/-! ## Watching -/

/-- Looks at a proposal up to `left` times and executes it once it has passed. -/
def watch (w : Writer) (p : Proposal) : (left : Nat) → Program WriterInterface (Result Outcome)
  | 0 => return .ok .awaitingThreshold
  | left + 1 => do
      if ← Host.stopping then return .ok .interrupted
      else match ← w.readState p with
        | .error e => return .error e
        | .ok state => match state.status with
          | .passed => w.execute p
          | .executed | .cancelled => return .ok (.alreadyFinal state.status)
          | .inactive | .active =>
              Host.pause w.pollInterval
              w.watch p left

/-! ## Voting -/

/-- Whether a proposal went on although the vote failed: its final status, or nothing if it is worth watching. -/
def afterFailedVote (w : Writer) (p : Proposal) (failure : TransactionError) :
    Program WriterInterface (Result (Option Outcome)) := do
  match ← w.readState p with
  | .error e => return .error e
  | .ok state =>
      if state.status.isTerminal then return .ok (some (.alreadyFinal state.status))
      else if state.status = .passed then return .ok none
      else match ← w.readVote p with
        | .error e => return .error e
        | .ok true => return .ok none
        | .ok false => return .error (.transaction failure)

/-- Votes for a proposal. An outcome says that it is final already. -/
def vote (w : Writer) (p : Proposal) : Program WriterInterface (Result (Option Outcome)) := do
  match ← w.signer.submit (.vote p) with
  | .ok (.confirmed _) =>
      Host.record (.voteSubmitted w.domain)
      return .ok none
  | .ok .alreadyProcessed => return .ok none
  | .error e => w.afterFailedVote p e

/-- Votes for a proposal unless the relayer's vote is recorded. -/
def ensureVote (w : Writer) (p : Proposal) : Program WriterInterface (Result (Option Outcome)) := do
  match ← w.readVote p with
  | .error e => return .error e
  | .ok true => return .ok none
  | .ok false => w.vote p

/-! ## Messages -/

/-- Brings a proposal from the status in which it is found to its end. -/
def advance (w : Writer) (p : Proposal) : Program WriterInterface (Result Outcome) := do
  match ← w.readState p with
  | .error e => return .error e
  | .ok state => match state.status with
    | .executed | .cancelled => return .ok (.alreadyFinal state.status)
    | .passed => w.execute p
    | .inactive | .active =>
        match ← w.ensureVote p with
        | .error e => return .error e
        | .ok (some outcome) => return .ok outcome
        | .ok none => w.watch p w.watchLimit

/-- Brings a message to its destination: encodes it, looks up its handler and advances its proposal. -/
def deliver (w : Writer) (m : Message) : Program WriterInterface (Result Outcome) := do
  match Payload.encode m.transferType m.payload with
  | .error e => return .error (.encoding e)
  | .ok data =>
      match ← w.read (query (.handler m.resource)) with
      | .error e => return .error e
      | .ok handler =>
          if handler = Address.zero then return .error (.unknownResource m.resource)
          else w.advance (Proposal.ofMessage m handler data)

/-- Writes a message when those before it are done. Once the relayer is stopping nothing is begun. -/
def write (w : Writer) (m : Message) : Program WriterInterface (Result Outcome) := do
  enter
  let result ← (do
    if ← Host.stopping then return .ok .interrupted
    else w.deliver m : Program WriterInterface (Result Outcome))
  leave
  return result

end Writer

end BridgeRelay
