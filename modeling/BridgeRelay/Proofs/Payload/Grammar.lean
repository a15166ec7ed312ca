import BridgeRelay.Proofs.Payload.Bounds
import BridgeRelay.Proofs.Payload.RoundTrip

/-!
# The grammar of handler data

Which data the payloads of each kind of transfer are read from, and the first fault of all other data, from the left.
Main statement: reading accepts exactly the data of the grammar and names the first fault otherwise.
-/

namespace BridgeRelay.Payload

/-! ## Accepted data -/

/-- A byte string behind a word with its length, which is below `2 ^ 64`. -/
inductive Field : Bytes → Bytes → Prop where
  | intro {b : Bytes} (length : Word) (length_eq : length.toNat = b.length) (fits : length.toNat < UInt64.size) :
      Field b (length.toBytes ++ b)

/-- The data of a payload with all its parts. -/
inductive Whole : Payload → Bytes → Prop where
  | fungible {recipient r : Bytes} (amount : Word) (h : Field recipient r) :
      Whole (.fungible amount recipient) (amount.toBytes ++ r)
  | nonFungible {recipient r metadata m : Bytes} (tokenId : Word) (h : Field recipient r) (h' : Field metadata m) :
      Whole (.nonFungible tokenId recipient metadata) (tokenId.toBytes ++ r ++ m)
  | generic {metadata m : Bytes} (h : Field metadata m) : Whole (.generic metadata) m

/-- The data of a token that ends right behind the recipient. -/
inductive Bare : Payload → Bytes → Prop where
  | intro {recipient r : Bytes} (tokenId : Word) (h : Field recipient r) :
      Bare (.nonFungible tokenId recipient []) (tokenId.toBytes ++ r)

/-- The data from which a payload is read. -/
def Spells (p : Payload) (d : Bytes) : Prop := Whole p d ∨ Bare p d

/-! ## Faults -/

/-- What data consists of: words, and byte strings behind their lengths. -/
inductive Part where
  | word
  | field

/-- Behind the front of the data a part has to follow, where the rest begins. -/
inductive Awaits (rest : Bytes) : TransferType → Bytes → Part → Prop where
  | amount : Awaits rest .fungible [] .word
  | recipient (amount : Word) : Awaits rest .fungible amount.toBytes .field
  | tokenId : Awaits rest .nonFungible [] .word
  | owner (tokenId : Word) : Awaits rest .nonFungible tokenId.toBytes .field
  | metadata {p : Payload} {front : Bytes} (h : Bare p front) (more : rest ≠ []) : Awaits rest .nonFungible front .field
  | generic : Awaits rest .generic [] .field

/-- Why the rest of the data, which begins at a position, does not begin with a part. -/
inductive Part.Fails (offset : Nat) : Part → Bytes → Fault → Prop where
  | short {rest : Bytes} (part : Part) (h : rest.length < Word.size) :
      Fails offset part rest (.truncated offset Word.size (offset + rest.length))
  | overflow (length : Word) (rest : Bytes) (h : UInt64.size ≤ length.toNat) :
      Fails offset .field (length.toBytes ++ rest) .lengthOverflow
  | cut {rest : Bytes} (length : Word) (fits : length.toNat < UInt64.size) (h : rest.length < length.toNat) :
      Fails offset .field (length.toBytes ++ rest)
        (.truncated (offset + Word.size) length.toNat (offset + Word.size + rest.length))

/-- The first fault of the data, from the left: a part is missing, or all parts are there and bytes are left. -/
inductive FirstFault : TransferType → Bytes → Fault → Prop where
  | part {t : TransferType} {front rest : Bytes} {part : Part} {fault : Fault} (h : Awaits rest t front part)
      (fails : part.Fails front.length rest fault) : FirstFault t (front ++ rest) fault
  | trailing {p : Payload} {front rest : Bytes} (h : Whole p front) (more : rest ≠ []) :
      FirstFault p.transferType (front ++ rest) (.trailingBytes rest.length)

variable {t : TransferType} {p : Payload} {d front rest b r : Bytes} {fault : Fault} {offset : Nat}

/-! ## Fields -/

theorem field_iff : Field b r ↔ b.length < UInt64.size ∧ encodeBytes b = r := by
  constructor
  · intro h
    cases h with
    | intro length length_eq fits =>
        refine ⟨length_eq ▸ fits, ?_⟩
        have same : length = Word.ofNat b.length := by
          apply BitVec.eq_of_toNat_eq
          rw [Word.toNat_ofNat_of_lt (length_eq ▸ fits), length_eq]
        rw [encodeBytes, same]
  · rintro ⟨fits, rfl⟩
    have same := Word.toNat_ofNat_of_lt fits
    exact .intro _ same (same.symm ▸ fits)

/-- Data that begins with a word, or is too short for one. -/
theorem word_or_short (d : Bytes) : (∃ (w : Word) (rest : Bytes), w.toBytes ++ rest = d) ∨ d.length < Word.size := by
  by_cases h : d.length < Word.size
  · exact .inr h
  · have long : (d.take Word.size).length = Word.size := by
      rw [List.length_take]
      omega
    refine .inl ⟨Word.ofBytes (d.take Word.size), d.drop Word.size, ?_⟩
    rw [Word.toBytes_ofBytes long, List.take_append_drop]

theorem field_or_fails (offset : Nat) (d : Bytes) :
    (∃ b r rest, Field b r ∧ r ++ rest = d) ∨ ∃ fault, Part.field.Fails offset d fault := by
  rcases word_or_short d with ⟨length, rest, rfl⟩ | short
  · by_cases big : UInt64.size ≤ length.toNat
    · exact .inr ⟨_, .overflow length rest big⟩
    · have fits : length.toNat < UInt64.size := Nat.not_le.mp big
      by_cases short : rest.length < length.toNat
      · exact .inr ⟨_, .cut length fits short⟩
      · have taken : length.toNat = (rest.take length.toNat).length := by
          rw [List.length_take]
          omega
        refine .inl ⟨_, _, rest.drop length.toNat, .intro length taken fits, ?_⟩
        rw [List.append_assoc, List.take_append_drop]
  · exact .inr ⟨_, .short .field short⟩

/-! ## Every data is accepted or has a first fault -/

/-- The data begins with a payload of the kind, is a token without metadata, or lacks a part. -/
theorem whole_bare_or_awaits (t : TransferType) (d : Bytes) :
    (∃ p front rest, p.transferType = t ∧ front ++ rest = d ∧ Whole p front) ∨
    (∃ p, t = .nonFungible ∧ Bare p d) ∨
    ∃ front part rest fault, front ++ rest = d ∧ Awaits rest t front part ∧ part.Fails front.length rest fault := by
  cases t with
  | fungible =>
      rcases word_or_short d with ⟨amount, d, rfl⟩ | short
      · rcases field_or_fails amount.toBytes.length d with ⟨b, r, rest, h, rfl⟩ | ⟨fault, fails⟩
        · exact .inl ⟨_, _, rest, rfl, List.append_assoc .., .fungible amount h⟩
        · exact .inr (.inr ⟨_, _, d, fault, rfl, .recipient amount, fails⟩)
      · exact .inr (.inr ⟨[], _, d, _, rfl, .amount, .short .word short⟩)
  | nonFungible =>
      rcases word_or_short d with ⟨tokenId, d, rfl⟩ | short
      · rcases field_or_fails tokenId.toBytes.length d with ⟨b, r, rest, h, rfl⟩ | ⟨fault, fails⟩
        · have bare := Bare.intro tokenId h
          by_cases ends : rest = []
          · subst ends
            rw [List.append_nil]
            exact .inr (.inl ⟨_, rfl, bare⟩)
          · rcases field_or_fails (tokenId.toBytes ++ r).length rest with ⟨b', m, rest, h', rfl⟩ | ⟨fault, fails⟩
            · exact .inl ⟨_, _, rest, rfl, by simp only [List.append_assoc], .nonFungible tokenId h h'⟩
            · exact .inr (.inr ⟨_, _, rest, fault, List.append_assoc .., .metadata bare ends, fails⟩)
        · exact .inr (.inr ⟨_, _, d, fault, rfl, .owner tokenId, fails⟩)
      · exact .inr (.inr ⟨[], _, d, _, rfl, .tokenId, .short .word short⟩)
  | generic =>
      rcases field_or_fails 0 d with ⟨b, r, rest, h, rfl⟩ | ⟨fault, fails⟩
      · exact .inl ⟨_, r, rest, rfl, rfl, .generic h⟩
      · exact .inr (.inr ⟨[], _, d, fault, rfl, .generic, fails⟩)

theorem spells_or_firstFault (t : TransferType) (d : Bytes) :
    (∃ p, p.transferType = t ∧ Spells p d) ∨ ∃ fault, FirstFault t d fault := by
  rcases whole_bare_or_awaits t d with ⟨p, front, rest, rfl, rfl, whole⟩ | ⟨p, rfl, bare⟩ | h
  · by_cases ends : rest = []
    · subst ends
      rw [List.append_nil]
      exact .inl ⟨p, rfl, .inl whole⟩
    · exact .inr ⟨_, .trailing whole ends⟩
  · cases bare with
    | intro tokenId h => exact .inl ⟨_, rfl, .inr (.intro tokenId h)⟩
  · obtain ⟨front, part, rest, fault, rfl, awaits, fails⟩ := h
    exact .inr ⟨fault, .part awaits fails⟩

/-! ## Reading accepted data -/

theorem Whole.fits_layout (h : Whole p d) : p.Fits ∧ p.layout = d := by
  cases h with
  | fungible amount h =>
      obtain ⟨fits, rfl⟩ := field_iff.mp h
      exact ⟨fits, rfl⟩
  | nonFungible tokenId h h' =>
      obtain ⟨fits, rfl⟩ := field_iff.mp h
      obtain ⟨fits', rfl⟩ := field_iff.mp h'
      exact ⟨⟨fits, fits'⟩, rfl⟩
  | generic h =>
      obtain ⟨fits, rfl⟩ := field_iff.mp h
      exact ⟨fits, rfl⟩

theorem read_whole (h : Whole p front) :
    read p.transferType ⟨0, front ++ rest⟩ = .ok (p, ⟨front.length, rest⟩) := by
  obtain ⟨fits, rfl⟩ := h.fits_layout
  rw [read_layout fits, Nat.zero_add]

theorem decode_bare (h : Bare p d) : decode .nonFungible d = .ok p := by
  cases h with
  | @intro recipient _ tokenId h =>
      obtain ⟨fits, rfl⟩ := field_iff.mp h
      have owned : Cursor.bytes ⟨Word.size, encodeBytes recipient ++ []⟩ = .ok (recipient, ⟨_, []⟩) :=
        Cursor.bytes_encodeBytes fits
      rw [List.append_nil] at owned
      simp [decode, read, Cursor.word_toBytes, owned, bind, Except.bind, pure, Except.pure, Cursor.finish]

theorem decode_spells (h : Spells p d) : decode p.transferType d = .ok p := by
  rcases h with whole | bare
  · obtain ⟨fits, rfl⟩ := whole.fits_layout
    exact decode_layout fits
  · have kind : p.transferType = .nonFungible := by
      cases bare
      rfl
    rw [kind]
    exact decode_bare bare

/-! ## Reading data with a fault -/

/-- Reading a part gives a fault. -/
def Part.Refuses (part : Part) (c : Cursor) (fault : Fault) : Prop :=
  match part with
  | .word => c.word = .error fault
  | .field => c.bytes = .error fault

theorem word_short (h : rest.length < Word.size) :
    Cursor.word ⟨offset, rest⟩ = .error (.truncated offset Word.size (offset + rest.length)) := by
  simp [Cursor.word, Cursor.take, Cursor.length, h, bind, Except.bind]

theorem bytes_of_word {c c' : Cursor} {length : Word} (h : c.word = .ok (length, c')) :
    c.bytes = if UInt64.size ≤ length.toNat then .error .lengthOverflow else c'.take length.toNat := by
  rw [Cursor.bytes, h]
  rfl

theorem Part.Fails.refuses {part : Part} (h : part.Fails offset rest fault) : part.Refuses ⟨offset, rest⟩ fault := by
  cases h with
  | short _ h =>
      cases part with
      | word => exact word_short h
      | field => simp [Refuses, Cursor.bytes, word_short h, bind, Except.bind]
  | overflow length rest big => simp [Refuses, bytes_of_word (Cursor.word_toBytes length), big]
  | cut length fits short =>
      simp [Refuses, bytes_of_word (Cursor.word_toBytes length), Nat.not_le.mpr fits, Cursor.take, Cursor.length, short]

/-- The parts in front are read, and then the part that has to follow is refused. -/
theorem Awaits.read_eq {part : Part} (h : Awaits rest t front part)
    (refused : part.Refuses ⟨front.length, rest⟩ fault) : read t ⟨0, front ++ rest⟩ = .error fault := by
  cases h with
  | amount | tokenId =>
      have refused : Cursor.word ⟨0, rest⟩ = .error fault := refused
      simp [read, refused, bind, Except.bind]
  | generic =>
      have refused : Cursor.bytes ⟨0, rest⟩ = .error fault := refused
      simp [read, refused, bind, Except.bind]
  | recipient w | owner w =>
      have refused : Cursor.bytes ⟨Word.size, rest⟩ = .error fault := by
        simpa [Part.Refuses, Word.size] using refused
      simp [read, Cursor.word_toBytes, refused, bind, Except.bind]
  | metadata bare more =>
      cases bare with
      | @intro recipient _ tokenId h =>
          obtain ⟨fits, rfl⟩ := field_iff.mp h
          have owned : Cursor.bytes ⟨Word.size, encodeBytes recipient ++ rest⟩ = .ok (recipient, ⟨_, rest⟩) :=
            Cursor.bytes_encodeBytes fits
          have refused : Cursor.bytes ⟨Word.size + (Word.size + recipient.length), rest⟩ = .error fault := by
            simpa [Part.Refuses, Word.size] using refused
          simp [read, Cursor.word_toBytes, owned, more, refused, bind, Except.bind, List.append_assoc]

theorem decode_firstFault (h : FirstFault t d fault) : decode t d = .error fault := by
  cases h with
  | part awaits fails =>
      rw [decode, awaits.read_eq fails.refuses]
      rfl
  | trailing whole more =>
      rw [decode, read_whole whole]
      simp [Cursor.finish, more, bind, Except.bind]

theorem decode_eq_ok : decode t d = .ok p ↔ p.transferType = t ∧ Spells p d := by
  constructor
  · intro h
    rcases spells_or_firstFault t d with ⟨q, rfl, spells⟩ | ⟨fault, first⟩
    · rw [decode_spells spells, Except.ok.injEq] at h
      exact h ▸ ⟨rfl, spells⟩
    · rw [decode_firstFault first] at h
      cases h
  · rintro ⟨rfl, spells⟩
    exact decode_spells spells

theorem decode_eq_error : decode t d = .error fault ↔ FirstFault t d fault := by
  constructor
  · intro h
    rcases spells_or_firstFault t d with ⟨q, rfl, spells⟩ | ⟨first, hf⟩
    · rw [decode_spells spells] at h
      cases h
    · rw [decode_firstFault hf, Except.error.injEq] at h
      exact h ▸ hf
  · exact decode_firstFault

/-- The numbers of a fault are those of the data: what is needed does not fit behind the position, and some bytes are
left. -/
theorem FirstFault.numbers (h : FirstFault t d fault) :
    match fault with
    | .truncated offset needed length => length = d.length ∧ offset ≤ d.length ∧ d.length < offset + needed
    | .lengthOverflow => True
    | .trailingBytes extra => 0 < extra ∧ extra ≤ d.length := by
  cases h with
  | part awaits fails =>
      cases fails with
      | short _ h => simp [h]
      | overflow => trivial
      | cut length fits h =>
          simp [Word.size]
          omega
  | trailing whole more => simpa using List.length_pos_iff.mpr more

/-! ## Main statement -/

/-- Reading gives a payload if and only if the data is one of its spellings, and otherwise the first fault from the
left. The position and the numbers in a fault are true of the data, and while it is read no difference and no slice is
out of range. -/
theorem reads_exactly_its_grammar (t : TransferType) (d : Bytes) :
    (∀ p, decode t d = .ok p ↔ p.transferType = t ∧ Spells p d) ∧
    (∀ fault, decode t d = .error fault ↔ FirstFault t d fault) ∧
    (∀ offset needed length, decode t d = .error (.truncated offset needed length) →
      length = d.length ∧ offset ≤ d.length ∧ d.length < offset + needed) ∧
    (∀ extra, decode t d = .error (.trailingBytes extra) → 0 < extra ∧ extra ≤ d.length) ∧
    (decodeAt t d).run = some (decode t d) := by
  refine ⟨fun p => decode_eq_ok, fun fault => decode_eq_error, ?_, ?_, decodeAt_eq t d⟩
  · intro offset needed length h
    exact (decode_eq_error.mp h).numbers
  · intro extra h
    exact (decode_eq_error.mp h).numbers

/-- An amount, and a recipient of twenty bytes of which five are there. -/
def sampleCut : Bytes := (Word.ofNat 500).toBytes ++ ((Word.ofNat 20).toBytes ++ List.replicate 5 0)

theorem sample_reads_exactly :
    decode .fungible sampleCut = .error (.truncated 64 20 69) ∧ FirstFault .fungible sampleCut (.truncated 64 20 69) ∧
    69 = sampleCut.length ∧ sampleCut.length < 64 + 20 ∧
    decode .generic ((Word.ofNat 1).toBytes ++ [1, 2]) = .error (.trailingBytes 1) ∧
    1 ≤ ((Word.ofNat 1).toBytes ++ [1, 2]).length := by
  obtain ⟨-, first, cut, -, -⟩ := reads_exactly_its_grammar .fungible sampleCut
  obtain ⟨-, -, -, left, -⟩ := reads_exactly_its_grammar .generic ((Word.ofNat 1).toBytes ++ [1, 2])
  have truncated : decode .fungible sampleCut = .error (.truncated 64 20 69) := rfl
  have trailing : decode .generic ((Word.ofNat 1).toBytes ++ [1, 2]) = .error (.trailingBytes 1) := rfl
  obtain ⟨total, -, short⟩ := cut 64 20 69 truncated
  exact ⟨truncated, (first _).mp truncated, total, short, trailing, (left 1 trailing).2⟩

end BridgeRelay.Payload
