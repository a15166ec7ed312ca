/-!
# Byte strings

Byte strings, byte strings of a fixed length, and big-endian numerals of a fixed size.
-/

namespace BridgeRelay

/-- A byte string. -/
abbrev Bytes := List UInt8

/-! ## Big-endian numerals -/

/-- The big-endian numeral of `n` in `size` bytes. Digits beyond `size` are dropped. -/
def bigEndian : (size : Nat) → (n : Nat) → Bytes
  | 0, _ => []
  | size + 1, n => bigEndian size (n / 256) ++ [UInt8.ofNat n]

/-- The number that a big-endian numeral stands for. -/
def ofBigEndian (bytes : Bytes) : Nat :=
  bytes.foldl (fun n b => n * 256 + b.toNat) 0

@[simp] theorem length_bigEndian (size n : Nat) : (bigEndian size n).length = size := by
  induction size generalizing n with
  | zero => rfl
  | succ size ih => simp [bigEndian, ih]

@[simp] theorem ofBigEndian_nil : ofBigEndian [] = 0 := rfl

@[simp] theorem ofBigEndian_concat (bytes : Bytes) (b : UInt8) :
    ofBigEndian (bytes ++ [b]) = ofBigEndian bytes * 256 + b.toNat := by
  simp [ofBigEndian]

/-- Reading a numeral gives the number back, as far as `size` bytes can hold it. -/
theorem ofBigEndian_bigEndian (size n : Nat) : ofBigEndian (bigEndian size n) = n % Nat.pow 256 size := by
  induction size generalizing n with
  | zero => exact (Nat.mod_one n).symm
  | succ size ih =>
      have h : n % Nat.pow 256 (size + 1) = n % 256 + 256 * (n / 256 % Nat.pow 256 size) := by
        change n % (Nat.pow 256 size * 256) = _
        rw [Nat.mul_comm, Nat.mod_mul]
      rw [bigEndian, ofBigEndian_concat, ih, UInt8.toNat_ofNat', h]
      omega

/-- Writing the number that a numeral stands for gives the numeral back. -/
theorem bigEndian_ofBigEndian (bytes : Bytes) : bigEndian bytes.length (ofBigEndian bytes) = bytes := by
  generalize h : bytes.length = size
  induction size generalizing bytes with
  | zero => rw [List.length_eq_zero_iff.mp h, bigEndian]
  | succ size ih =>
      have ne : bytes ≠ [] := List.ne_nil_of_length_eq_add_one h
      have low := (bytes.getLast ne).toNat_lt
      rw [← List.dropLast_concat_getLast ne, ofBigEndian_concat, bigEndian]
      have hd : (ofBigEndian bytes.dropLast * 256 + (bytes.getLast ne).toNat) / 256 = ofBigEndian bytes.dropLast := by
        omega
      have hb : UInt8.ofNat (ofBigEndian bytes.dropLast * 256 + (bytes.getLast ne).toNat) = bytes.getLast ne := by
        apply UInt8.toNat_inj.mp
        rw [UInt8.toNat_ofNat']
        omega
      rw [hd, hb, ih _ (by simp [h])]

theorem ofBigEndian_lt (bytes : Bytes) : ofBigEndian bytes < Nat.pow 256 bytes.length := by
  have h := ofBigEndian_bigEndian bytes.length (ofBigEndian bytes)
  rw [bigEndian_ofBigEndian] at h
  rw [h]
  exact Nat.mod_lt _ (Nat.pow_pos (by decide))

/-! ## Fixed length -/

/-- A byte string of `size` bytes. -/
structure FixedBytes (size : Nat) where
  toList : Bytes
  length_eq : toList.length = size
  deriving DecidableEq

namespace FixedBytes

variable {size : Nat}

instance : Inhabited (FixedBytes size) := ⟨⟨List.replicate size 0, List.length_replicate⟩⟩

/-- The byte string that repeats `b`. -/
def replicate (size : Nat) (b : UInt8) : FixedBytes size :=
  ⟨List.replicate size b, List.length_replicate⟩

/-- The byte string of zeros. -/
def zero : FixedBytes size := replicate size 0

/-- A byte string that has the right length. -/
def ofList? (size : Nat) (bytes : Bytes) : Option (FixedBytes size) :=
  if h : bytes.length = size then some ⟨bytes, h⟩ else none

/-- The big-endian numeral of `n`. -/
def ofNat (size n : Nat) : FixedBytes size := ⟨bigEndian size n, length_bigEndian size n⟩

/-- The number that the bytes spell in big-endian order. -/
def toNat (bytes : FixedBytes size) : Nat := ofBigEndian bytes.toList

/-- The last `size` bytes of a string that has at least so many. -/
def takeLast? (size : Nat) (bytes : Bytes) : Option (FixedBytes size) :=
  ofList? size (bytes.drop (bytes.length - size))

end FixedBytes

/-- An account or contract address. -/
abbrev Address := FixedBytes 20

/-- A 32-byte hash, as of a transaction or of proposal data. -/
abbrev Hash := FixedBytes 32

/-- The address of nothing: what a contract answers for an unset address. -/
def Address.zero : Address := FixedBytes.zero

end BridgeRelay
