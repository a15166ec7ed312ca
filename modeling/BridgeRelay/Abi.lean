import BridgeRelay.Keccak
import BridgeRelay.Word

/-!
# Contract calls

The encoding of argument lists: one word for each argument, and behind them the byte strings, to which their
words point. Reading is lenient: it looks only at the bytes that an argument needs.
-/

namespace BridgeRelay.Abi

/-- An argument: a word, or a byte string of any length. -/
inductive Item where
  | word (w : Word)
  | bytes (b : Bytes)
  deriving DecidableEq

/-- The first four bytes of the hash of a signature. -/
def selector (signature : String) : Bytes := (Keccak.hash signature.toUTF8.toList).toList.take 4

/-! ## Writing -/

/-- A byte string filled up with zeros to whole words. -/
def padded (b : Bytes) : Bytes := b ++ List.replicate ((32 - b.length % 32) % 32) 0

/-- A byte string behind its length. -/
def tail (b : Bytes) : Bytes := (Word.ofNat b.length).toBytes ++ padded b

/-- The words of the arguments, if the next byte string goes to `offset`. -/
def heads (offset : Nat) : List Item → Bytes
  | [] => []
  | .word w :: items => w.toBytes ++ heads offset items
  | .bytes b :: items => (Word.ofNat offset).toBytes ++ heads (offset + (tail b).length) items

/-- The byte strings of the arguments, one behind the other. -/
def tails : List Item → Bytes
  | [] => []
  | .word _ :: items => tails items
  | .bytes b :: items => tail b ++ tails items

/-- An argument list. -/
def encode (items : List Item) : Bytes := heads (32 * items.length) items ++ tails items

/-- The call of a function. -/
def call (signature : String) (items : List Item) : Bytes := selector signature ++ encode items

/-! ## Reading -/

/-- A part of a byte string, if it lies within. -/
def slice? (data : Bytes) (offset length : Nat) : Option Bytes :=
  let part := (data.drop offset).take length
  if offset ≤ data.length ∧ part.length = length then some part else none

/-- The word at a position. -/
def wordAt? (data : Bytes) (offset : Nat) : Option Word := (slice? data offset 32).map Word.ofBytes

/-- The word of argument number `i`. -/
def word? (data : Bytes) (i : Nat) : Option Word := wordAt? data (32 * i)

/-- The low 64 bits of a word, as positions and lengths are read. -/
def low64 (w : Word) : Nat := w.toNat % UInt64.size

/-- The byte string to which argument number `i` points. -/
def bytes? (data : Bytes) (i : Nat) : Option Bytes := do
  let offset := low64 (← word? data i)
  let length := low64 (← wordAt? data offset)
  slice? data (offset + 32) length

end BridgeRelay.Abi
