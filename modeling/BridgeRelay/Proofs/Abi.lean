import BridgeRelay.Abi
import BridgeRelay.Proofs.Payload.RoundTrip

/-!
# Arguments that read back

The words of an argument list stand in front, and the word of a byte string holds the position of its length behind
them. So each argument reads back from its place in the list, whatever the other arguments are.
-/

namespace BridgeRelay.Abi

variable {before after : List Item} {b : Bytes} {w : Word}

/-! ## Positions -/

theorem slice?_append (front part back : Bytes) :
    slice? (front ++ (part ++ back)) front.length part.length = some part := by
  simp [slice?]

theorem wordAt?_append (front back : Bytes) (w : Word) :
    wordAt? (front ++ (w.toBytes ++ back)) front.length = some w := by
  have part := slice?_append front w.toBytes back
  rw [Word.length_toBytes] at part
  simp [wordAt?, part]

theorem length_heads (offset : Nat) (items : List Item) : (heads offset items).length = 32 * items.length := by
  induction items generalizing offset with
  | nil => rfl
  | cons item items ih => cases item <;> simp [heads, ih] <;> omega

theorem heads_append (offset : Nat) (items items' : List Item) :
    heads offset (items ++ items') = heads offset items ++ heads (offset + (tails items).length) items' := by
  induction items generalizing offset with
  | nil => rfl
  | cons item items ih =>
      cases item with
      | word w => simp [heads, tails, ih]
      | bytes b => simp [heads, tails, ih, Nat.add_assoc]

theorem tails_append (items items' : List Item) : tails (items ++ items') = tails items ++ tails items' := by
  induction items with
  | nil => rfl
  | cons item items ih => cases item <;> simp [tails, ih]

/-! ## Reading -/

/-- A word is read from its place. -/
theorem word?_encode (before : List Item) : word? (encode (before ++ .word w :: after)) before.length = some w := by
  have place := length_heads (32 * (before ++ .word w :: after).length) before
  simp only [word?, encode, heads_append, heads, List.append_assoc]
  rw [← place]
  exact wordAt?_append ..

/-- Where a byte string stands: behind all words and the byte strings before it. -/
def position (before after : List Item) : Nat := 32 * (before.length + 1 + after.length) + (tails before).length

theorem word?_position : word? (encode (before ++ .bytes b :: after)) before.length =
    some (Word.ofNat (position before after)) := by
  have place := length_heads (32 * (before ++ .bytes b :: after).length) before
  have front : 32 * (before ++ .bytes b :: after).length + (tails before).length = position before after := by
    simp only [position, List.length_append, List.length_cons]
    omega
  simp only [word?, encode, heads_append, heads, List.append_assoc, front]
  rw [← place]
  exact wordAt?_append ..

/-- At its position stands the byte string, behind its length. -/
theorem encode_eq_tail (before after : List Item) (b : Bytes) : ∃ front back, front.length = position before after ∧
    encode (before ++ .bytes b :: after) = front ++ (tail b ++ back) := by
  refine ⟨heads (32 * (before ++ .bytes b :: after).length) (before ++ .bytes b :: after) ++ tails before,
    tails after, ?_, ?_⟩
  · simp only [List.length_append, length_heads, List.length_cons, position]
    omega
  · simp [encode, tails_append, tails]

theorem low64_ofNat {n : Nat} (h : n < UInt64.size) : low64 (Word.ofNat n) = n := by
  rw [low64, Word.toNat_ofNat_of_lt h, Nat.mod_eq_of_lt h]

/-- A byte string is read from its place, unless the arguments are too long for their positions. -/
theorem bytes?_encode (before : List Item) (fits : (encode (before ++ .bytes b :: after)).length < UInt64.size) :
    bytes? (encode (before ++ .bytes b :: after)) before.length = some b := by
  obtain ⟨front, back, length, split⟩ := encode_eq_tail before after b
  have here : position before after < UInt64.size := by
    rw [split, List.length_append] at fits
    omega
  have short : b.length < UInt64.size := by
    simp only [split, tail, padded, List.length_append] at fits
    omega
  have told : wordAt? (encode (before ++ .bytes b :: after)) (position before after) =
      some (Word.ofNat b.length) := by
    rw [split, ← length, tail, List.append_assoc]
    exact wordAt?_append ..
  have read : slice? (encode (before ++ .bytes b :: after)) (position before after + 32) b.length = some b := by
    have part := slice?_append (front ++ (Word.ofNat b.length).toBytes) b
      (List.replicate ((32 - b.length % 32) % 32) 0 ++ back)
    rw [List.length_append, Word.length_toBytes, length] at part
    rw [split, tail, padded]
    simpa using part
  simp [bytes?, word?_position, low64_ofNat here, told, low64_ofNat short, read]

end BridgeRelay.Abi
