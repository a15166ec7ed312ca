import BridgeRelay.Chain

/-!
# Routes

The writers of the destinations.
-/

namespace BridgeRelay

/-- For each destination the writer that was registered last. -/
structure Routes (W : Type) where
  entries : List (DomainId × W) := []

namespace Routes

variable {W : Type}

/-- Registers the writer of a destination in place of an earlier one. -/
def set (r : Routes W) (d : DomainId) (w : W) : Routes W := ⟨(d, w) :: r.entries⟩

/-- The writer of a destination. -/
def find? (r : Routes W) (d : DomainId) : Option W := r.entries.lookup d

/-- Whether a destination has a writer. -/
def has (r : Routes W) (d : DomainId) : Bool := (r.find? d).isSome

@[simp] theorem find?_set_self (r : Routes W) (d : DomainId) (w : W) : (r.set d w).find? d = some w := by
  simp [set, find?]

end Routes

end BridgeRelay
