import BridgeRelay.Chain

/-!
# Fingerprints of label values

Within a family a series is known by a 64-bit number, the FNV-1a hash of the values of its labels.
-/

namespace BridgeRelay.Metrics

/-- The values of a family's labels, in the order in which the family declares them. -/
abbrev Labels := List String

/-- The fingerprint of no bytes. -/
def fingerprintBasis : UInt64 := 0xcbf29ce484222325

/-- The number by which each step multiplies. -/
def fingerprintPrime : UInt64 := 0x100000001b3

/-- Takes one more byte into a fingerprint. -/
def absorb (h : UInt64) (b : UInt8) : UInt64 := (h ^^^ b.toUInt64) * fingerprintPrime

/-- The fingerprint of label values. Nothing separates one value from the next: `["1", "12"]` and `["11", "2"]` have
the same one. The registry of the metrics is a library that is not part of the relayer's source, and the definition
follows its documented behaviour, the hash as published and the order of the values. -/
def fingerprint (labels : Labels) : UInt64 :=
  labels.foldl (fun h label => label.toUTF8.toList.foldl absorb h) fingerprintBasis

end BridgeRelay.Metrics
