import BridgeRelay.Metrics.Fingerprint

/-!
# Counters

What the relay counts. A family of series has a fixed list of labels, and each series a value. Label values with equal
fingerprints mean the same series, which keeps the labels of its first touch.
-/

namespace BridgeRelay

namespace Metrics

/-- The families of series. -/
inductive Family where
  | depositsDetected
  | messagesRouted
  | messagesDropped
  | votesSubmitted
  | executionsSubmitted
  | txRetries
  | errors
  | lastCheckpoint
  | latestBlock
  deriving DecidableEq, Repr

/-- The series of a family that has been touched, with its value. -/
structure Series where
  family : Family
  labels : Labels
  value : Int
  deriving DecidableEq

end Metrics

/-- All series, in the order of their first touch, and whether the relay is running. -/
structure Metrics where
  series : List Metrics.Series := []
  up : Int := 0
  deriving DecidableEq

namespace Metrics

/-- Whether a series is the one that label values of a family mean. -/
def Series.isAt (s : Series) (f : Family) (labels : Labels) : Bool :=
  s.family = f && fingerprint s.labels = fingerprint labels

/-- The value of a series; zero if it is untouched. -/
def get (m : Metrics) (f : Family) (labels : Labels) : Int :=
  match m.series.find? (·.isAt f labels) with
  | some s => s.value
  | none => 0

/-- Changes the value of a series, which exists from then on. -/
def update (m : Metrics) (f : Family) (labels : Labels) (g : Int → Int) : Metrics :=
  if m.series.any (·.isAt f labels) then
    { m with series := m.series.map fun s => if s.isAt f labels then { s with value := g s.value } else s }
  else { m with series := m.series ++ [⟨f, labels, g 0⟩] }

/-- Reads a series, which exists from then on. -/
def touch (m : Metrics) (f : Family) (labels : Labels) : Int × Metrics :=
  (m.get f labels, m.update f labels id)

/-! ## What is counted -/

/-- One thing that happened. -/
inductive Update where
  | depositDetected (domain : DomainId)
  | messageRouted (source destination : DomainId)
  | messageDropped (domain : DomainId) (reason : String)
  | voteSubmitted (domain : DomainId)
  | executionSubmitted (domain : DomainId)
  | txRetry (domain : DomainId) (errorClass : String)
  | error (domain : DomainId) (kind : String)
  | checkpoint (domain : DomainId) (height : Height)
  | latestBlock (domain : DomainId) (height : Height)
  | up (value : Int)
  deriving DecidableEq, Repr

/-- A height as a signed 64-bit value. -/
def signed (h : Height) : Int := Int.bmod h.toNat UInt64.size

/-- Counts one thing. -/
def record (m : Metrics) : Update → Metrics
  | .depositDetected d => m.update .depositsDetected [toString d] (· + 1)
  | .messageRouted s d => m.update .messagesRouted [toString s, toString d] (· + 1)
  | .messageDropped d reason => m.update .messagesDropped [toString d, reason] (· + 1)
  | .voteSubmitted d => m.update .votesSubmitted [toString d] (· + 1)
  | .executionSubmitted d => m.update .executionsSubmitted [toString d] (· + 1)
  | .txRetry d c => m.update .txRetries [toString d, c] (· + 1)
  | .error d kind => m.update .errors [toString d, kind] (· + 1)
  | .checkpoint d h => m.update .lastCheckpoint [toString d] fun _ => signed h
  | .latestBlock d h => m.update .latestBlock [toString d] fun _ => signed h
  | .up v => { m with up := v }

end Metrics

end BridgeRelay
