import BridgeRelay.Proofs.Hex
import BridgeRelay.Proofs.Text.Encoding
import BridgeRelay.Resource

/-!
# Texts of resources

A resource is read from exactly those texts that are its own text up to the case of the digits and one missing `0x`. For
every other text the fault that comes first is found, in the bytes behind the `0x`.
-/

namespace BridgeRelay

variable {s : String} {r : ResourceId}

/-! ## Marks -/

namespace Hex

/-- The text without one leading `0x`. -/
def unmarked (s : String) : String :=
  match s.toList with
  | '0' :: 'x' :: rest => String.ofList rest
  | _ => s

theorem toList_unmarked {rest : List Char} (h : s.toList = '0' :: 'x' :: rest) : (unmarked s).toList = rest := by
  simp [unmarked, h]

theorem unmarked_of_bare (h : ∀ rest, s.toList ≠ '0' :: 'x' :: rest) : unmarked s = s := by
  unfold unmarked
  split
  · next rest marked => exact absurd marked (h rest)
  · rfl

/-- The bytes of the mark are those of its characters only, so it is the same whether bytes or characters are left out. -/
theorem withoutMark_eq (s : String) : withoutMark s = (unmarked s).toUTF8.toList := by
  by_cases marked : ∃ rest, s.toList = '0' :: 'x' :: rest
  · obtain ⟨rest, marked⟩ := marked
    have bytes : s.toUTF8.toList = 48 :: 120 :: rest.flatMap String.utf8EncodeChar := by
      rw [Text.toList_toUTF8, marked]
      rfl
    rw [Text.toList_toUTF8, toList_unmarked marked, withoutMark, bytes]
    rfl
  · rw [unmarked_of_bare fun rest h => marked ⟨rest, h⟩, withoutMark]
    split
    · next rest bytes =>
        exfalso
        obtain ⟨cs, first, later⟩ := Text.exists_toList_eq_cons bytes (by decide)
        rw [← String.toList_ofList (l := cs), ← Text.toList_toUTF8] at later
        obtain ⟨cs', second, -⟩ := Text.exists_toList_eq_cons later (by decide)
        rw [String.toList_ofList] at second
        exact marked ⟨cs', by rw [first, second]; rfl⟩
    · rfl

end Hex

/-! ## Reading -/

namespace ResourceId

open Hex (IsDigit Misread unmarked)

theorem text_eq_iff : r.text = "0x" ++ (unmarked s).toLower ↔
    (unmarked s).toList.map Char.toLower = Hex.digits r.bytes.toList := by
  have lower : (unmarked s).toLower.toList = (unmarked s).toList.map Char.toLower := String.toList_map
  rw [text, Hex.encode, ← String.toList_inj, String.toList_append, String.toList_append, List.append_cancel_left_eq,
    String.toList_ofList, lower, eq_comm]

theorem ofText_of_text_eq (h : r.text = "0x" ++ (unmarked s).toLower) : ofText s = .ok r := by
  rw [text_eq_iff] at h
  have ascii : ∀ c ∈ (unmarked s).toList, c.toNat < 128 := fun c hc => by
    obtain ⟨v, low, digit⟩ := Hex.exists_digit_of_toLower h hc
    exact Hex.ascii_of_toLower low digit
  rw [ofText, Hex.withoutMark_eq, Text.toList_toUTF8_ascii ascii, Hex.decodeFixed_of_toLower h]
  rfl

theorem bytes_digits_iff_of_ascii {t : String} {n : Nat} (ascii : ∀ c ∈ t.toList, c.toNat < 128) :
    (t.toUTF8.toList.length = n ∧ ∀ d ∈ t.toUTF8.toList, IsDigit (Char.ofNat d.toNat)) ↔
      t.length = n ∧ ∀ c ∈ t.toList, IsDigit c := by
  rw [Text.toList_toUTF8_ascii ascii, List.length_map, String.length_toList, List.forall_mem_map]
  exact and_congr_right fun _ => forall₂_congr fun c hc => by rw [Text.ofNat_toUInt8 (ascii c hc)]

/-- The bytes are the right number of digits exactly if the characters are. -/
theorem bytes_digits_iff {t : String} {n : Nat} :
    (t.toUTF8.toList.length = n ∧ ∀ d ∈ t.toUTF8.toList, IsDigit (Char.ofNat d.toNat)) ↔
      t.length = n ∧ ∀ c ∈ t.toList, IsDigit c := by
  constructor
  · intro h
    have low : ∀ d ∈ t.toUTF8.toList, d.toNat < 128 := fun d hd => by
      obtain ⟨v, hv⟩ := Option.isSome_iff_exists.mp (Hex.isSome_value?_iff.mpr (h.2 d hd))
      exact (Hex.value?_lt hv).2
    refine (bytes_digits_iff_of_ascii fun c hc => ?_).mp h
    rw [(Text.toList_toUTF8_eq_iff low).mp rfl, Text.ofAscii, String.toList_ofList] at hc
    obtain ⟨d, hd, rfl⟩ := List.mem_map.mp hc
    exact (h.2 d hd).ascii
  · intro h
    exact (bytes_digits_iff_of_ascii fun c hc => (h.2 c hc).ascii).mpr h

theorem ofText_eq : ofText s = (Hex.decodeFixed 32 (unmarked s).toUTF8.toList).map ResourceId.mk := by
  rw [ofText, Hex.withoutMark_eq]

theorem exists_ofText_iff :
    (∃ r, ofText s = .ok r) ↔ (unmarked s).length = 64 ∧ ∀ c ∈ (unmarked s).toList, IsDigit c := by
  have digits : (∃ a, Hex.decodeFixed 32 (unmarked s).toUTF8.toList = .ok a) ↔ _ := Hex.exists_decodeFixed_iff
  rw [← bytes_digits_iff, ← digits, ofText_eq]
  cases Hex.decodeFixed 32 (unmarked s).toUTF8.toList <;> simp [Except.map]

theorem ofText_eq_error_iff {f : Hex.Fault} :
    ofText s = .error f ↔ Misread 32 (unmarked s).toUTF8.toList f := by
  rw [← Hex.decodeFixed_eq_error_iff, ofText_eq]
  cases Hex.decodeFixed 32 (unmarked s).toUTF8.toList <;> simp [Except.map]

theorem ofText_eq_ok_iff : ofText s = .ok r ↔ r.text = "0x" ++ (unmarked s).toLower := by
  refine ⟨fun read => ?_, ofText_of_text_eq⟩
  obtain ⟨length, digits⟩ := exists_ofText_iff.mp ⟨r, read⟩
  rw [← String.length_toList] at length
  obtain ⟨bytes, half, spelled⟩ := Hex.exists_spelled (by rw [length]) digits
  have own : ResourceId.text ⟨⟨bytes, by omega⟩⟩ = "0x" ++ (unmarked s).toLower := text_eq_iff.mpr spelled
  cases (ofText_of_text_eq own).symm.trans read
  exact own

/-- The text of a resource is its own text behind the mark, as its digits are in lower case. -/
theorem text_eq_unmarked (r : ResourceId) : r.text = "0x" ++ (unmarked r.text).toLower := by
  have marked : r.text.toList = '0' :: 'x' :: Hex.digits r.bytes.toList := by simp [text, Hex.encode]
  have lower : ∀ v < 16, (Hex.digit v).toLower = Hex.digit v := by decide
  rw [text_eq_iff, Hex.toList_unmarked marked, Hex.digits_eq, List.map_map]
  exact List.map_congr_left fun v hv => lower v (Hex.nibbles_lt hv)

/-! ## Main statement -/

/-- A resource is read back from its text. A text is read exactly if it is 64 digits of either case after at most one
`0x`, as the resource whose text has these digits in lower case. For every other text there is the fault that comes
first. -/
theorem reading_agrees_with_text (r : ResourceId) (s : String) :
    ofText r.text = .ok r ∧
    ((∃ r', ofText s = .ok r') ↔ (unmarked s).length = 64 ∧ ∀ c ∈ (unmarked s).toList, IsDigit c) ∧
    (ofText s = .ok r ↔ r.text = "0x" ++ (unmarked s).toLower) ∧
    ∀ f, ofText s = .error f ↔ Misread 32 (unmarked s).toUTF8.toList f :=
  ⟨ofText_of_text_eq r.text_eq_unmarked, exists_ofText_iff, ofText_eq_ok_iff, fun _ => ofText_eq_error_iff⟩

end ResourceId

end BridgeRelay
