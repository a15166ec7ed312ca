import BridgeRelay.Bytes

/-!
# Keccak-256

The sponge over 25 lanes of 64 bits with the first padding byte `0x01`, as Ethereum hashes.
Lane `(x, y)` of the state has index `x + 5 * y`.
-/

namespace BridgeRelay.Keccak

/-- The state of the sponge. -/
abbrev State := Vector UInt64 25

/-- The lane in column `x` and row `y`, both taken modulo 5. -/
def State.lane (s : State) (x y : Nat) : UInt64 := s.get ⟨x % 5 + 5 * (y % 5), by omega⟩

/-- A state given by its lanes. -/
def State.build (f : (x y : Nat) → UInt64) : State := Vector.ofFn fun i : Fin 25 => f (i % 5) (i / 5)

/-- Rotation to the left. -/
def rotate (w : UInt64) (n : Nat) : UInt64 :=
  if n % 64 = 0 then w
  else (w <<< UInt64.ofNat (n % 64)) ||| (w >>> UInt64.ofNat (64 - n % 64))

/-- How far each lane is rotated. -/
def offsets : Vector Nat 25 :=
  #v[0, 1, 62, 28, 27, 36, 44, 6, 55, 20, 3, 10, 43, 25, 39, 41, 45, 15, 21, 8, 18, 2, 61, 56, 14]

/-- The constant of each round. -/
def constants : List UInt64 :=
  [0x0000000000000001, 0x0000000000008082, 0x800000000000808a, 0x8000000080008000,
   0x000000000000808b, 0x0000000080000001, 0x8000000080008081, 0x8000000000008009,
   0x000000000000008a, 0x0000000000000088, 0x0000000080008009, 0x000000008000000a,
   0x000000008000808b, 0x800000000000008b, 0x8000000000008089, 0x8000000000008003,
   0x8000000000008002, 0x8000000000000080, 0x000000000000800a, 0x800000008000000a,
   0x8000000080008081, 0x8000000000008080, 0x0000000080000001, 0x8000000080008008]

/-- Mixes into each lane the parities of two neighbouring columns. -/
def theta (s : State) : State :=
  let parity : Vector UInt64 5 := Vector.ofFn fun x : Fin 5 =>
    s.lane x 0 ^^^ s.lane x 1 ^^^ s.lane x 2 ^^^ s.lane x 3 ^^^ s.lane x 4
  let column (x : Nat) : UInt64 := parity.get ⟨x % 5, by omega⟩
  .build fun x y => s.lane x y ^^^ column (x + 4) ^^^ rotate (column (x + 1)) 1

/-- Rotates each lane by its offset and moves lane `(x, y)` to `(y, 2x + 3y)`. -/
def rhoPi (s : State) : State :=
  let rotated : State := Vector.ofFn fun i : Fin 25 => rotate s[i] offsets[i]
  .build fun x y => rotated.lane (x + 3 * y) x

/-- The non-linear step along each row. -/
def chi (s : State) : State :=
  .build fun x y => s.lane x y ^^^ (~~~(s.lane (x + 1) y) &&& s.lane (x + 2) y)

/-- Adds the round's constant to the first lane. -/
def iota (constant : UInt64) (s : State) : State := s.set 0 (s.lane 0 0 ^^^ constant)

/-- The permutation of 24 rounds. -/
def permute (s : State) : State :=
  constants.foldl (fun s constant => iota constant (chi (rhoPi (theta s)))) s

/-! ## Sponge -/

/-- The number of bytes that are absorbed at a time. -/
def rate : Nat := 136

/-- The little-endian number of eight bytes. -/
def littleEndian (bytes : Bytes) : UInt64 :=
  bytes.foldr (fun b w => (w <<< 8) ||| b.toUInt64) 0

/-- The eight bytes of a lane, low byte first. -/
def laneBytes (w : UInt64) : Bytes :=
  (List.range 8).map fun i => (w >>> UInt64.ofNat (8 * i)).toUInt8

/-- Adds a block to the state and permutes. -/
def absorb (s : State) (block : Bytes) : State :=
  permute (Vector.ofFn fun i : Fin 25 => s[i] ^^^ littleEndian ((block.drop (8 * i)).take 8))

/-- Fills the last block: `0x01` first, zeros, and the top bit of the last byte. -/
def pad (rest : Bytes) : Bytes :=
  let room := rate - rest.length
  if room = 1 then rest ++ [0x81] else rest ++ 0x01 :: (List.replicate (room - 2) 0 ++ [0x80])

/-- Absorbs the whole blocks and then the padded rest. -/
def absorbAll (s : State) (data : Bytes) : State :=
  if _h : data.length < rate then absorb s (pad data)
  else absorbAll (absorb s (data.take rate)) (data.drop rate)
termination_by data.length
decreasing_by
  simp only [List.length_drop, rate] at *
  omega

/-- The Keccak-256 hash. -/
def hash (data : Bytes) : Hash :=
  let s := absorbAll (Vector.replicate 25 0) data
  let out := ((List.range 4).flatMap fun i => laneBytes (s.lane i 0))
  ⟨out, by simp [out, laneBytes, List.range, List.range.loop]⟩

end BridgeRelay.Keccak
