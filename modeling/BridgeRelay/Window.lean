import BridgeRelay.Chain

/-!
# Windows

The blocks that are scanned at once: from the one behind the checkpoint to the last that has enough
confirmations, unless the number of blocks is limited.
-/

namespace BridgeRelay

/-- A range of blocks, both ends included. -/
structure Window where
  first : Height
  last : Height
  deriving DecidableEq, Repr

namespace Window

/-- The sum, or the largest height. -/
def addHeight (a b : Height) : Height := if Height.last - a < b then Height.last else a + b

/-- The difference, or zero. -/
def subHeight (a b : Height) : Height := if a ≤ b then 0 else a - b

/-- The last block of a window that may reach `safe` and holds at most `maxRange` blocks; zero sets no limit. -/
def lastBlock (first safe : Height) : (maxRange : Option UInt64) → Height
  | some range => if 0 < range then min safe (addHeight first (range - 1)) else safe
  | none => safe

/-- The next window, if the chain has moved far enough past the checkpoint. -/
def next? (head : Height) (confirmations : UInt64) (checkpoint : Height) (maxRange : Option UInt64) :
    Option Window :=
  if head < confirmations then none
  else
    let safe := head - confirmations
    if safe ≤ checkpoint then none
    else some ⟨checkpoint + 1, lastBlock (checkpoint + 1) safe maxRange⟩

end Window

end BridgeRelay
