import BridgeRelay.Payload.Codec

/-!
# Round trips of handler data

Each part of a layout reads back in front of any bytes, and so does a whole payload. Main statement: a payload that is
declared as the kind of transfer that it is reads back as it was written, and declared otherwise it is not written.
-/

namespace BridgeRelay

/-- A number of 64 bits is the number of its word. -/
theorem Word.toNat_ofNat_of_lt {n : Nat} (h : n < UInt64.size) : (Word.ofNat n).toNat = n := by
  have wide : UInt64.size < 2 ^ 256 := by decide
  rw [Word.ofNat, BitVec.toNat_ofNat]
  exact Nat.mod_eq_of_lt (Nat.lt_trans h wide)

namespace Payload

/-- The lengths of all byte strings of the payload are below `2 ^ 64`. -/
def Fits : Payload → Prop
  | .fungible _ recipient => recipient.length < UInt64.size
  | .nonFungible _ recipient metadata => recipient.length < UInt64.size ∧ metadata.length < UInt64.size
  | .generic metadata => metadata.length < UInt64.size

instance : DecidablePred Fits
  | .fungible .. => inferInstanceAs (Decidable (_ < _))
  | .nonFungible .. => inferInstanceAs (Decidable (_ ∧ _))
  | .generic .. => inferInstanceAs (Decidable (_ < _))

variable {offset : Nat} {rest : Bytes}

/-! ## Parts of a layout -/

@[simp] theorem length_encodeBytes (b : Bytes) : (encodeBytes b).length = Word.size + b.length := by
  simp [encodeBytes, Word.size]

/-- Even an empty byte string is written, as its length. -/
@[simp] theorem encodeBytes_ne_nil (b : Bytes) : encodeBytes b ≠ [] := by
  intro h
  have length := length_encodeBytes b
  rw [h, Word.size, List.length_nil] at length
  omega

namespace Cursor

theorem take_append (front : Bytes) :
    take ⟨offset, front ++ rest⟩ front.length = .ok (front, ⟨offset + front.length, rest⟩) := by
  simp [take]

theorem word_toBytes (w : Word) : word ⟨offset, w.toBytes ++ rest⟩ = .ok (w, ⟨offset + Word.size, rest⟩) := by
  have taken : take ⟨offset, w.toBytes ++ rest⟩ Word.size = .ok (w.toBytes, ⟨offset + Word.size, rest⟩) := by
    simpa [Word.size] using (take_append w.toBytes : take ⟨offset, w.toBytes ++ rest⟩ w.toBytes.length = _)
  rw [word, taken]
  simp [bind, Except.bind, pure, Except.pure]

theorem bytes_encodeBytes {b : Bytes} (h : b.length < UInt64.size) :
    bytes ⟨offset, encodeBytes b ++ rest⟩ = .ok (b, ⟨offset + (encodeBytes b).length, rest⟩) := by
  rw [length_encodeBytes, ← Nat.add_assoc, bytes, encodeBytes, List.append_assoc, word_toBytes]
  change (if UInt64.size ≤ (Word.ofNat b.length).toNat then _ else take _ (Word.ofNat b.length).toNat) = _
  rw [Word.toNat_ofNat_of_lt h, if_neg (Nat.not_le.mpr h)]
  exact take_append b

end Cursor

/-! ## Whole payloads -/

/-- A payload reads back whatever follows it. Metadata that is empty is written all the same, so it is never taken for
missing. -/
theorem read_layout {p : Payload} (h : p.Fits) :
    read p.transferType ⟨offset, p.layout ++ rest⟩ = .ok (p, ⟨offset + p.layout.length, rest⟩) := by
  cases p with
  | fungible amount recipient =>
      simp [read, layout, transferType, Cursor.word_toBytes, Cursor.bytes_encodeBytes h,
        bind, Except.bind, pure, Except.pure, Word.size, Nat.add_assoc]
  | nonFungible tokenId recipient metadata =>
      obtain ⟨hr, hm⟩ := h
      simp [read, layout, transferType, Cursor.word_toBytes, Cursor.bytes_encodeBytes hr,
        Cursor.bytes_encodeBytes hm, bind, Except.bind, pure, Except.pure, Word.size, Nat.add_assoc]
  | generic metadata =>
      simp [read, layout, transferType, Cursor.bytes_encodeBytes h, bind, Except.bind, pure, Except.pure]

theorem decode_layout {p : Payload} (h : p.Fits) : decode p.transferType p.layout = .ok p := by
  have whole : read p.transferType ⟨0, p.layout⟩ = .ok (p, ⟨p.layout.length, []⟩) := by
    simpa using (read_layout h : read p.transferType ⟨0, p.layout ++ []⟩ = _)
  rw [decode, whole]
  rfl

theorem encode_transferType (p : Payload) : encode p.transferType p = .ok p.layout := if_pos rfl

theorem encode_of_ne {p : Payload} {declared : TransferType} (h : declared ≠ p.transferType) :
    encode declared p = .error ⟨declared, p.transferType⟩ := if_neg h.symm

theorem eq_of_encode {p : Payload} {declared : TransferType} {data : Bytes} (h : encode declared p = .ok data) :
    declared = p.transferType ∧ data = p.layout := by
  by_cases hd : declared = p.transferType
  · subst hd
    rw [encode_transferType, Except.ok.injEq] at h
    exact ⟨rfl, h.symm⟩
  · rw [encode_of_ne hd] at h
    cases h

/-! ## Main statement -/

/-- A payload declared as what it is is written and reads back; declared as another kind it is refused, and nothing is
written. So of the payloads declared as one kind no two are written alike. -/
theorem written_reads_back :
    (∀ p : Payload, p.Fits → ∃ data, encode p.transferType p = .ok data ∧ decode p.transferType data = .ok p) ∧
    (∀ (p : Payload) (declared : TransferType), declared ≠ p.transferType →
      encode declared p = .error ⟨declared, p.transferType⟩) ∧
    ∀ (declared : TransferType) (p q : Payload) (data : Bytes), p.Fits → q.Fits →
      encode declared p = .ok data → encode declared q = .ok data → p = q := by
  refine ⟨fun p hp => ⟨p.layout, encode_transferType p, decode_layout hp⟩, fun _ _ => encode_of_ne, ?_⟩
  intro declared p q data hp hq writtenP writtenQ
  obtain ⟨kindP, dataP⟩ := eq_of_encode writtenP
  obtain ⟨kindQ, dataQ⟩ := eq_of_encode writtenQ
  have readP : decode declared data = .ok p := by rw [kindP, dataP, decode_layout hp]
  have readQ : decode declared data = .ok q := by rw [kindQ, dataQ, decode_layout hq]
  rw [readP, Except.ok.injEq] at readQ
  exact readQ

/-- A token without metadata. -/
def sampleToken : Payload := .nonFungible (Word.ofNat 7) [0xab] []

theorem sample_token_reads_back : sampleToken.Fits ∧ TransferType.fungible ≠ sampleToken.transferType ∧
    (∃ data, encode .nonFungible sampleToken = .ok data ∧ decode .nonFungible data = .ok sampleToken) ∧
    encode .fungible sampleToken = .error ⟨.fungible, .nonFungible⟩ ∧
    (∀ q : Payload, q.Fits → encode .nonFungible q = encode .nonFungible sampleToken → q = sampleToken) := by
  have fits : sampleToken.Fits := by decide
  have other : TransferType.fungible ≠ sampleToken.transferType := by decide
  obtain ⟨back, refused, distinct⟩ := written_reads_back
  refine ⟨fits, other, back sampleToken fits, refused sampleToken .fungible other, fun q hq h => ?_⟩
  have written := encode_transferType sampleToken
  exact distinct .nonFungible q sampleToken _ hq fits (h.trans written) written

end Payload

end BridgeRelay
