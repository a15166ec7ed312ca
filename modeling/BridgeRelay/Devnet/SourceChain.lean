import BridgeRelay.Source

/-!
# A source chain in memory
-/

namespace BridgeRelay.Devnet

/-- The handler that both sides of an in-memory bridge know at first. -/
def fungibleHandler : Address := .replicate 20 0x20

/-- A source chain with a head that is set from outside and a list of deposits. -/
structure SourceChain where
  head : Height := 0
  logs : List DepositLog := []
  /-- the handler of every resource -/
  handler : Address := fungibleHandler
  /-- the ranges that were asked for, latest first -/
  queries : List (Height × Height) := []
  /-- with what the next look at the deposits fails -/
  failure : Option ChainError := none

namespace SourceChain

/-- The deposits in a range of blocks. -/
def depositsIn (c : SourceChain) (first last : Height) : List DepositLog :=
  c.logs.filter fun log => log.blockNumber.any fun b => first ≤ b && b ≤ last

/-- The answer to a question. -/
def answer (c : SourceChain) : (q : SourceQuery) → q.Answer × SourceChain
  | .head => (.ok c.head, c)
  | .deposits first last =>
      let asked := { c with queries := (first, last) :: c.queries }
      match c.failure with
      | some e => (.error e, { asked with failure := none })
      | none => (.ok (c.depositsIn first last), asked)
  | .handler _ => (.ok c.handler, c)

end SourceChain

end BridgeRelay.Devnet
