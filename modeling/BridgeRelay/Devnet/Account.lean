import BridgeRelay.Destination
import BridgeRelay.Devnet.Bridge

/-!
# A signing account in memory

It accepts transactions, applies them to a bridge, and counts nonces.
-/

namespace BridgeRelay.Devnet

/-- An accepted transaction. -/
structure SentTransaction where
  call : BridgeCall
  options : TransactionOptions
  hash : Hash
  deriving DecidableEq

/-- An account. -/
structure Account where
  sender : Address := .replicate 20 0x5e
  /-- the next nonce as the chain tells it -/
  chainNonce : UInt64 := 0
  /-- with what the next transactions are refused -/
  failures : List ChainError := []
  /-- how many transactions were tried -/
  attempts : Nat := 0
  /-- the accepted transactions, latest first -/
  sent : List SentTransaction := []
  /-- whether the next accepted transaction is never mined -/
  loseNext : Bool := false
  /-- the transactions that are never mined -/
  lost : List Hash := []

namespace Account

/-- The account after a transaction was accepted. -/
def accept (a : Account) (call : BridgeCall) (options : TransactionOptions) : Hash × Account :=
  let hash : Hash := .ofNat 32 a.attempts
  (hash, { a with
    chainNonce := max a.chainNonce (options.nonce + 1)
    sent := ⟨call, options, hash⟩ :: a.sent
    loseNext := false
    lost := if a.loseNext then hash :: a.lost else a.lost })

/-- Tries a transaction against a bridge, if there is one. -/
def send (a : Account) (bridge : Option Bridge) (call : BridgeCall) (options : TransactionOptions) :
    Except ChainError Hash × Account × Option Bridge :=
  let a := { a with attempts := a.attempts + 1 }
  match a.failures with
  | e :: es => (.error e, { a with failures := es }, bridge)
  | [] =>
      match bridge.mapM fun b => b.apply a.sender call with
      | .error e => (.error e, a, bridge)
      | .ok bridge =>
          let (hash, a) := a.accept call options
          (.ok hash, a, bridge)

/-- Whether a transaction succeeded; nothing if it is never mined. -/
def receipt (a : Account) (tx : Hash) : Option Bool := if a.lost.contains tx then none else some true

end Account

end BridgeRelay.Devnet
