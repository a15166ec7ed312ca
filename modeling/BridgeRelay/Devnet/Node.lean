import BridgeRelay.Devnet.Account
import BridgeRelay.Devnet.Script

/-!
# A chain in memory

A node is a source chain, a destination bridge, an account and a fee market, with scripted answers in front.
-/

namespace BridgeRelay.Devnet

/-- The fees that a node suggests. -/
structure Fees where
  gasPrice : Wei := 100
  baseFee : Option Wei := none
  tip : Wei := 0
  deriving DecidableEq

/-- The fees of a chain with a base fee; its single price is base fee and tip together. -/
def Fees.london (baseFee tip : Wei) : Fees := ⟨baseFee.add tip, some baseFee, tip⟩

/-- A chain. -/
structure Node where
  source : SourceChain := {}
  bridge : Bridge := {}
  account : Account := {}
  /-- whether transactions are applied to the bridge -/
  hasBridge : Bool := true
  fees : Fees := {}
  script : Script := {}

namespace Node

/-! ## Answers -/

/-- The answer to a question to the source side. -/
def answerSource (n : Node) : (q : SourceQuery) → q.Answer × Node
  | .head =>
      let (scripted, rest) := n.script.head.next
      let n := { n with script := { n.script with head := rest } }
      match scripted with
      | some a => (a, n)
      | none =>
          let (a, source) := n.source.answer .head
          (a, { n with source })
  | .deposits first last =>
      let (scripted, rest) := n.script.deposits.next
      let n := { n with script := { n.script with deposits := rest } }
      match scripted with
      | some e => (.error e, n)
      | none =>
          let (a, source) := n.source.answer (.deposits first last)
          (a, { n with source })
  | .handler r =>
      let (scripted, rest) := n.script.sourceHandler.next
      let n := { n with script := { n.script with sourceHandler := rest } }
      match scripted with
      | some a => (a, n)
      | none =>
          let (a, source) := n.source.answer (.handler r)
          (a, { n with source })

/-- Tries a transaction. -/
def send (n : Node) (call : BridgeCall) (options : TransactionOptions) : Except ChainError Hash × Node :=
  let (result, account, bridge) := n.account.send (if n.hasBridge then some n.bridge else none) call options
  (result, { n with account, bridge := bridge.getD n.bridge })

/-- The answer to a question to the destination side. -/
def answerDestination (n : Node) : (q : DestinationQuery) → q.Answer × Node
  | .handler r =>
      let (scripted, rest) := n.script.handler.next
      (scripted.getD (.ok (n.bridge.handler r)), { n with script := { n.script with handler := rest } })
  | .proposal origin nonce dataHash =>
      let (scripted, rest) := n.script.proposal.next
      let n := { n with script := { n.script with proposal := rest } }
      match scripted with
      | some a => (a.map fun status => ⟨status, 0, 0⟩, n)
      | none =>
          let (a, bridge) := n.bridge.readState ⟨origin, nonce, dataHash⟩
          (a, { n with bridge })
  | .hasVoted p relayer =>
      let (scripted, rest) := n.script.hasVoted.next
      (scripted.getD (.ok (n.bridge.hasVoted (.of p) relayer)),
        { n with script := { n.script with hasVoted := rest } })
  | .pendingNonce =>
      let (scripted, rest) := n.script.nonce.next
      (scripted.getD (.ok n.account.chainNonce), { n with script := { n.script with nonce := rest } })
  | .gasPrice =>
      let (scripted, rest) := n.script.gasPrice.next
      (scripted.getD (.ok n.fees.gasPrice), { n with script := { n.script with gasPrice := rest } })
  | .baseFee =>
      let (scripted, rest) := n.script.baseFee.next
      (scripted.getD (.ok n.fees.baseFee), { n with script := { n.script with baseFee := rest } })
  | .priorityFee =>
      let (scripted, rest) := n.script.tip.next
      (scripted.getD (.ok n.fees.tip), { n with script := { n.script with tip := rest } })
  | .send call options =>
      let (scripted, rest) := n.script.send.next
      let n := { n with script := { n.script with send := rest } }
      { n with account := { n.account with failures := n.account.failures ++ scripted.toList } }.send call options
  | .receipt tx =>
      let (scripted, rest) := n.script.receipt.next
      (scripted.getD (.ok (n.account.receipt tx)), { n with script := { n.script with receipt := rest } })

/-! ## Changes from outside -/

/-- Something that happens to a chain. -/
inductive Change where
  | setHead (head : Height)
  | addLog (log : DepositLog)
  | setHandler (a : Address)
  | failDeposits (e : ChainError)
  | setThreshold (votes : Nat)
  | clearHandlers
  | failReads (es : List ChainError)
  /-- a vote of the given relayer, or of the node's own account -/
  | vote (m : Message) (relayer : Option Address)
  | force (m : Message) (s : ProposalStatus)
  | failSends (es : List ChainError)
  | setNonce (nonce : UInt64)
  | loseNext (lose : Bool)
  | addScript (s : Script)

/-- Changes the bridge at the proposal of a message, if it has one. -/
def onProposal (n : Node) (m : Message) (change : Bridge → ProposalKey → Bridge) : Node :=
  match n.bridge.proposalOf? m with
  | some p => { n with bridge := change n.bridge (.of p) }
  | none => n

/-- The node after a change. -/
def apply (n : Node) : Change → Node
  | .setHead head => { n with source := { n.source with head } }
  | .addLog log => { n with source := { n.source with logs := n.source.logs ++ [log] } }
  | .setHandler handler => { n with source := { n.source with handler } }
  | .failDeposits e => { n with source := { n.source with failure := some e } }
  | .setThreshold threshold => { n with bridge := { n.bridge with threshold } }
  | .clearHandlers => { n with bridge := { n.bridge with handlers := [] } }
  | .failReads es => { n with bridge := { n.bridge with readFailures := n.bridge.readFailures ++ es } }
  | .vote m relayer => n.onProposal m fun b k =>
      match b.vote k (relayer.getD n.account.sender) with
      | .ok b => b
      | .error _ => b
  | .force m s => n.onProposal m fun b k => b.force k s
  | .failSends es => { n with account := { n.account with failures := n.account.failures ++ es } }
  | .setNonce chainNonce => { n with account := { n.account with chainNonce } }
  | .loseNext loseNext => { n with account := { n.account with loseNext } }
  | .addScript s => { n with script := n.script.append s }

end Node

end BridgeRelay.Devnet
