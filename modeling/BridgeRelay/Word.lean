import BridgeRelay.Bytes

/-!
# Words

The 256-bit integers of contracts and their big-endian form in 32 bytes.
-/

namespace BridgeRelay

/-- A 256-bit integer. -/
abbrev Word := BitVec 256

namespace Word

/-- The number of bytes of a word. -/
def size : Nat := 32

/-- The word as 32 bytes, high byte first. -/
def toBytes (w : Word) : Bytes := bigEndian size w.toNat

/-- The word that 32 bytes spell. -/
def ofBytes (bytes : Bytes) : Word := BitVec.ofNat 256 (ofBigEndian bytes)

/-- The word of a number, reduced to 256 bits. -/
def ofNat (n : Nat) : Word := BitVec.ofNat 256 n

@[simp] theorem length_toBytes (w : Word) : w.toBytes.length = 32 := length_bigEndian _ _

/-- Reading a written word gives it back. -/
@[simp] theorem ofBytes_toBytes (w : Word) : ofBytes w.toBytes = w := by
  have h : w.toNat < Nat.pow 256 size := w.isLt
  rw [ofBytes, toBytes, ofBigEndian_bigEndian, Nat.mod_eq_of_lt h]
  simp

/-- Writing a word that was read gives its bytes back. -/
theorem toBytes_ofBytes {bytes : Bytes} (h : bytes.length = size) : (ofBytes bytes).toBytes = bytes := by
  have fits : ofBigEndian bytes < Nat.pow 256 size := h ▸ ofBigEndian_lt bytes
  have wide : ofBigEndian bytes < 2 ^ 256 := fits
  rw [toBytes, ofBytes, BitVec.toNat_ofNat, Nat.mod_eq_of_lt wide, ← h, bigEndian_ofBigEndian]

end Word

end BridgeRelay
