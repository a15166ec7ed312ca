import BridgeRelay.Proofs.Abi
import Mathlib.Algebra.Group.Nat.Defs

/-!
# Calls read by their types

A contract reads the arguments of a call by the types of its function. Read here is only what those types allow: integers
within their range, truth values, and byte strings with zeros up to a whole word. What is written as an argument reads
back, and an argument list with one byte string among words is determined by its bytes, whatever the length of the string.
-/

namespace BridgeRelay.Abi

variable {before after : List Item} {b b' : Bytes} {w : Word} {n bits : Nat}

/-! ## Types and values -/

/-- The type of an argument. -/
inductive ArgType where
  | uint (bits : Nat)
  | bytes32
  | bool
  | bytes
  deriving DecidableEq

/-- The name of a type in signatures. -/
def ArgType.name : ArgType → String
  | .uint bits => s!"uint{bits}"
  | .bytes32 => "bytes32"
  | .bool => "bool"
  | .bytes => "bytes"

/-- The signature of a function: its name and the types of its arguments. -/
def signature (function : String) (types : List ArgType) : String :=
  let arguments := ",".intercalate (types.map ArgType.name)
  s!"{function}({arguments})"

/-- The value of an argument. -/
inductive Value where
  | uint (n : Nat)
  | bytes32 (b : FixedBytes 32)
  | bool (b : Bool)
  | bytes (b : Bytes)
  deriving DecidableEq

/-- The value for which a word stands, if a type has it. -/
def ArgType.ofWord? : ArgType → Word → Option Value
  | .uint bits, w => if w.toNat < Nat.pow 2 bits then some (.uint w.toNat) else none
  | .bytes32, w => some (.bytes32 ⟨w.toBytes, w.length_toBytes⟩)
  | .bool, w => if w = 0 then some (.bool false) else if w = 1 then some (.bool true) else none
  | .bytes, _ => none

/-- The byte string whose length stands at a position, if it is filled up with zeros to whole words. -/
def paddedAt? (data : Bytes) (offset : Nat) : Option Bytes := do
  let length := (← wordAt? data offset).toNat
  let filled ← slice? data (offset + 32) (length + (32 - length % 32) % 32)
  if filled = padded (filled.take length) then some (filled.take length) else none

/-- The value of argument number `i`. A byte string is read where the argument's word points. -/
def argument? (data : Bytes) (i : Nat) (type : ArgType) : Option Value := do
  let w ← word? data i
  if type = .bytes then (paddedAt? data w.toNat).map .bytes else type.ofWord? w

/-- The values of the arguments from number `i` on. -/
def arguments? (data : Bytes) (i : Nat) : List ArgType → Option (List Value)
  | [] => some []
  | type :: types => do
      let v ← argument? data i type
      return v :: (← arguments? data (i + 1) types)

/-- The arguments of a call, if it is one of the function. -/
def ofCall? (function : String) (types : List ArgType) (calldata : Bytes) : Option (List Value) :=
  if calldata.take 4 = selector (signature function types) then arguments? (calldata.drop 4) 0 types else none

/-! ## Reading what was written -/

@[simp] theorem length_selector (signature : String) : (selector signature).length = 4 := by
  simp [selector, FixedBytes.length_eq]

theorem arguments?_cons {data : Bytes} {i : Nat} {type : ArgType} {types : List ArgType} {v : Value} {vs : List Value}
    (first : argument? data i type = some v) (rest : arguments? data (i + 1) types = some vs) :
    arguments? data i (type :: types) = some (v :: vs) := by
  simp [arguments?, first, rest]

/-- A call is read by its own types. -/
theorem ofCall?_call (function : String) (types : List ArgType) (items : List Item) :
    ofCall? function types (call (signature function types) items) = arguments? (encode items) 0 types := by
  have front := length_selector (signature function types)
  rw [ofCall?, call, List.take_left' front, if_pos rfl, List.drop_left' front]

theorem argument?_word {type : ArgType} (word : type ≠ .bytes) (before : List Item) :
    argument? (encode (before ++ .word w :: after)) before.length type = type.ofWord? w := by
  simp [argument?, word?_encode, word]

theorem ofWord?_uint (small : n < Nat.pow 2 bits) (fits : n < UInt64.size) :
    (ArgType.uint bits).ofWord? (Word.ofNat n) = some (.uint n) := by
  rw [ArgType.ofWord?, Word.toNat_ofNat_of_lt fits, if_pos small]

theorem ofWord?_bytes32 (b : FixedBytes 32) : ArgType.bytes32.ofWord? (Word.ofBytes b.toList) = some (.bytes32 b) := by
  simp [ArgType.ofWord?, Word.toBytes_ofBytes b.length_eq]

theorem length_padded (b : Bytes) : (padded b).length = b.length + (32 - b.length % 32) % 32 := by
  simp [padded]

theorem take_padded (b : Bytes) : (padded b).take b.length = b := by
  simp [padded]

theorem toNat_ofNat_of_lt_word (h : n < 2 ^ 256) : (Word.ofNat n).toNat = n := by
  rw [Word.ofNat, BitVec.toNat_ofNat, Nat.mod_eq_of_lt h]

/-- A byte string is read from its place if its length and its position fit into words. -/
theorem argument?_bytes (before : List Item) (short : b.length < 2 ^ 256) (near : position before after < 2 ^ 256) :
    argument? (encode (before ++ .bytes b :: after)) before.length .bytes = some (.bytes b) := by
  obtain ⟨front, back, length, split⟩ := encode_eq_tail before after b
  have told : wordAt? (encode (before ++ .bytes b :: after)) (position before after) = some (Word.ofNat b.length) := by
    rw [split, ← length, tail, List.append_assoc]
    exact wordAt?_append ..
  have filled : slice? (encode (before ++ .bytes b :: after)) (position before after + 32)
      (b.length + (32 - b.length % 32) % 32) = some (padded b) := by
    have part := slice?_append (front ++ (Word.ofNat b.length).toBytes) (padded b) back
    rw [List.length_append, Word.length_toBytes, length, length_padded] at part
    rw [split, tail]
    simpa using part
  simp [argument?, word?_position, toNat_ofNat_of_lt_word near, paddedAt?, told, toNat_ofNat_of_lt_word short, filled,
    take_padded]

/-! ## One byte string among words -/

theorem toBytes_inj {v w : Word} : v.toBytes = w.toBytes ↔ v = w := by
  refine ⟨fun h => ?_, congrArg Word.toBytes⟩
  rw [← Word.ofBytes_toBytes v, h, Word.ofBytes_toBytes]

theorem flatMap_toBytes_inj {vs ws : List Word} (same : vs.length = ws.length) :
    vs.flatMap Word.toBytes = ws.flatMap Word.toBytes ↔ vs = ws := by
  refine ⟨fun h => ?_, congrArg _⟩
  induction vs generalizing ws with
  | nil => exact (List.length_eq_zero_iff.mp same.symm).symm
  | cons v vs ih =>
      obtain ⟨w, ws, rfl⟩ := List.exists_cons_of_length_eq_add_one same.symm
      obtain ⟨first, rest⟩ := List.append_inj h (by simp)
      rw [toBytes_inj.mp first, ih (by simpa using same) rest]

theorem length_flatMap_toBytes (ws : List Word) : (ws.flatMap Word.toBytes).length = 32 * ws.length := by
  induction ws with
  | nil => rfl
  | cons w ws ih =>
      rw [List.flatMap_cons, List.length_append, Word.length_toBytes, ih, List.length_cons]
      omega

theorem ofNat_inj {m n : Nat} : Word.ofNat m = Word.ofNat n ↔ m % 2 ^ 256 = n % 2 ^ 256 := by
  rw [← BitVec.toNat_inj, Word.ofNat, Word.ofNat, BitVec.toNat_ofNat, BitVec.toNat_ofNat]

/-- A byte string is determined behind its length. Where the length is too long for a word, it is known up to a multiple of
`2 ^ 256`, and from the zeros up to a whole word. -/
theorem tail_inj : tail b = tail b' ↔ b = b' := by
  refine ⟨fun h => ?_, congrArg tail⟩
  obtain ⟨length, filled⟩ := List.append_inj h (by simp)
  have close := congrArg List.length filled
  have same : b.length % 2 ^ 256 = b'.length % 2 ^ 256 := ofNat_inj.mp (toBytes_inj.mp length)
  simp only [length_padded] at close
  have equal : b.length = b'.length := by omega
  rw [← take_padded b, ← take_padded b', filled, equal]

/-- The bytes of words, of which one points to a byte string behind them. -/
theorem encode_amongWords (vs ws : List Word) (b : Bytes) :
    encode (vs.map .word ++ .bytes b :: ws.map .word) =
      vs.flatMap Word.toBytes ++ ((Word.ofNat (32 * (vs.length + (ws.length + 1)))).toBytes ++
        (ws.flatMap Word.toBytes ++ tail b)) := by
  have words : ∀ (offset : Nat) (ws : List Word), heads offset (ws.map .word) = ws.flatMap Word.toBytes := by
    intro offset ws
    induction ws with
    | nil => rfl
    | cons w ws ih => simp [heads, ih]
  have none : ∀ ws : List Word, tails (ws.map .word) = [] := by
    intro ws
    induction ws with
    | nil => rfl
    | cons w ws ih => simp [tails, ih]
  simp [encode, heads_append, tails_append, heads, tails, words, none]

/-- Words and the byte string among them are determined by their bytes. -/
theorem encode_amongWords_inj {vs vs' ws ws' : List Word} (before : vs.length = vs'.length)
    (after : ws.length = ws'.length) :
    encode (vs.map .word ++ .bytes b :: ws.map .word) = encode (vs'.map .word ++ .bytes b' :: ws'.map .word) ↔
      vs = vs' ∧ b = b' ∧ ws = ws' := by
  rw [encode_amongWords, encode_amongWords]
  constructor
  · intro h
    obtain ⟨first, h⟩ := List.append_inj h (by simp only [length_flatMap_toBytes, before])
    obtain ⟨-, h⟩ := List.append_inj h (by simp)
    obtain ⟨last, h⟩ := List.append_inj h (by simp only [length_flatMap_toBytes, after])
    exact ⟨(flatMap_toBytes_inj before).mp first, tail_inj.mp h, (flatMap_toBytes_inj after).mp last⟩
  · rintro ⟨rfl, rfl, rfl⟩
    rfl

end BridgeRelay.Abi
