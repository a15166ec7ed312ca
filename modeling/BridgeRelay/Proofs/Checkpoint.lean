import BridgeRelay.Checkpoint
import BridgeRelay.Proofs.Entries

/-!
# Stored checkpoints

A stored height reads back as it was stored, under the key of its chain and under no other.
-/

namespace BridgeRelay

namespace Checkpoint

theorem length_encode (h : Height) : (encode h).length = 8 := length_bigEndian 8 _

@[simp] theorem decode_encode (d : DomainId) (h : Height) : decode d (some (encode h)) = .ok h := by
  have hlt : h.toNat < Nat.pow 256 8 := h.toNat_lt
  simp only [decode, length_encode, if_true]
  rw [encode, ofBigEndian_bigEndian, Nat.mod_eq_of_lt hlt, UInt64.ofNat_toNat]

@[simp] theorem key_inj {d e : DomainId} : key d = key e ↔ d = e := by
  simp [key]

end Checkpoint

namespace MemoryStore

variable {s : MemoryStore} {key key' value : Bytes}

@[simp] theorem find?_insert_self : (s.insert key value).find? key = some value :=
  List.lookup_cons_self

theorem find?_insert_of_ne (h : key' ≠ key) : (s.insert key value).find? key' = s.find? key' :=
  lookup_set_of_ne h

end MemoryStore

end BridgeRelay
