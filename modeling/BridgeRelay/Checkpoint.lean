import BridgeRelay.Chain
import BridgeRelay.Program

/-!
# Checkpoints

The last block of each chain whose deposits were all handed over, kept in a key/value store. A checkpoint never
moves back.
-/

namespace BridgeRelay

/-- Why a checkpoint was not read or written. -/
inductive StoreError where
  | backend (text : String)
  | corrupt (domain : DomainId) (length : Nat)
  | regression (domain : DomainId) (stored attempted : Height)
  | closed
  deriving DecidableEq, Repr

namespace StoreError

/-- The text of the failure. -/
def message : StoreError → String
  | backend s => s!"store backend error: {s}"
  | corrupt d length => s!"checkpoint for domain {d} is {length} bytes, expected 8"
  | regression d stored attempted =>
      s!"checkpoint for domain {d} would move back from {stored} to {attempted}"
  | closed => "store is closed"

/-- The word for the kind of failure. -/
def kind : StoreError → String
  | backend _ => "backend"
  | corrupt .. => "corrupt"
  | regression .. => "regression"
  | closed => "closed"

end StoreError

/-! ## The key/value store -/

/-- A request to the key/value store. -/
inductive StoreRequest where
  | load (key : Bytes)
  | save (key value : Bytes)
  deriving DecidableEq

/-- What a request to the store is answered with. -/
abbrev StoreRequest.Answer : StoreRequest → Type
  | .load _ => Except StoreError (Option Bytes)
  | .save .. => Except StoreError Unit

/-- The interface of the store. -/
abbrev StoreInterface : Interface := ⟨StoreRequest, StoreRequest.Answer⟩

/-- An interface through which the store can be asked. -/
class Stored (I : Interface) where
  store : (r : StoreRequest) → Program I r.Answer

instance : Stored StoreInterface := ⟨fun r => .ask r .done⟩

/-! ## Checkpoints -/

namespace Checkpoint

variable {I : Interface} [Stored I]

/-- The key of a chain's checkpoint: `chain:` and the byte of its number. -/
def key (d : DomainId) : Bytes := [99, 104, 97, 105, 110, 58, d]

/-- A height as eight bytes. -/
def encode (h : Height) : Bytes := bigEndian 8 h.toNat

/-- The height that a stored value spells; zero if nothing is stored. -/
def decode (d : DomainId) : Option Bytes → Except StoreError Height
  | none => .ok 0
  | some value =>
      if value.length = 8 then .ok (UInt64.ofNat (ofBigEndian value)) else .error (.corrupt d value.length)

/-- The checkpoint of a chain; zero if none was ever stored. -/
def get (d : DomainId) : Program I (Except StoreError Height) := do
  match ← Stored.store (.load (key d)) with
  | .error e => return .error e
  | .ok value => return decode d value

/-- Stores a checkpoint, unless it is below the stored one. -/
def put (d : DomainId) (h : Height) : Program I (Except StoreError Unit) := do
  match ← get d with
  | .error e => return .error e
  | .ok stored =>
      if h < stored then return .error (.regression d stored h)
      else Stored.store (.save (key d) (encode h))

end Checkpoint

/-! ## A store in memory -/

/-- A key/value store in memory, which answers until it is closed. -/
structure MemoryStore where
  entries : List (Bytes × Bytes) := []
  closed : Bool := false
  deriving DecidableEq

namespace MemoryStore

/-- The value of a key. -/
def find? (s : MemoryStore) (key : Bytes) : Option Bytes := s.entries.lookup key

/-- The store with a value for a key, whatever stood there before. -/
def insert (s : MemoryStore) (key value : Bytes) : MemoryStore :=
  { s with entries := (key, value) :: s.entries.filter fun entry => entry.1 ≠ key }

/-- The answer to a request. -/
def answer (s : MemoryStore) : (r : StoreRequest) → r.Answer × MemoryStore
  | .load key => (if s.closed then .error .closed else .ok (s.find? key), s)
  | .save key value => if s.closed then (.error .closed, s) else (.ok (), s.insert key value)

end MemoryStore

end BridgeRelay
