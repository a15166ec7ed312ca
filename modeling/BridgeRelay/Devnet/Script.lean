import BridgeRelay.Destination
import BridgeRelay.Source

/-!
# Scripted answers

Answers that a node gives in place of its own, one queue for each kind of question.
-/

namespace BridgeRelay.Devnet

/-- The next answers to one kind of question. An entry without a value lets the node answer. -/
abbrev Answers (α : Type) : Type := List (Option (Except ChainError α))

/-- Takes the next entry. -/
def Answers.next {α : Type} : Answers α → Option (Except ChainError α) × Answers α
  | [] => (none, [])
  | a :: as => (a, as)

/-- The next failures of one kind of question. -/
abbrev Failures : Type := List (Option ChainError)

/-- Takes the next entry. -/
def Failures.next : Failures → Option ChainError × Failures
  | [] => (none, [])
  | f :: fs => (f, fs)

/-- The queues of a node. -/
structure Script where
  head : Answers Height := []
  deposits : Failures := []
  sourceHandler : Answers Address := []
  handler : Answers Address := []
  proposal : Answers ProposalStatus := []
  hasVoted : Answers Bool := []
  nonce : Answers UInt64 := []
  send : Failures := []
  receipt : Answers (Option Bool) := []
  gasPrice : Answers Wei := []
  baseFee : Answers (Option Wei) := []
  tip : Answers Wei := []

/-- The queues of one script behind those of another. -/
def Script.append (s t : Script) : Script where
  head := s.head ++ t.head
  deposits := s.deposits ++ t.deposits
  sourceHandler := s.sourceHandler ++ t.sourceHandler
  handler := s.handler ++ t.handler
  proposal := s.proposal ++ t.proposal
  hasVoted := s.hasVoted ++ t.hasVoted
  nonce := s.nonce ++ t.nonce
  send := s.send ++ t.send
  receipt := s.receipt ++ t.receipt
  gasPrice := s.gasPrice ++ t.gasPrice
  baseFee := s.baseFee ++ t.baseFee
  tip := s.tip ++ t.tip

end BridgeRelay.Devnet
