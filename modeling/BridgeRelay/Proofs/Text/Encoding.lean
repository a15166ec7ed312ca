import BridgeRelay.Bytes
import Mathlib.Data.List.Basic

/-!
# The bytes of a text

A text is determined by the bytes that encode it, and a text of ASCII characters is encoded by their codes.
-/

namespace BridgeRelay.Text

/-- The list of a packed byte string is read from its front, with what was read before in reverse. -/
theorem toList_loop (bs : ByteArray) (i : Nat) (front : Bytes) :
    ByteArray.toList.loop bs i front = front.reverse ++ bs.data.toList.drop i := by
  fun_induction ByteArray.toList.loop bs i front with
  | case1 i front h ih =>
      have inside : i < bs.data.toList.length := by simpa using h
      have next : bs.get! i = bs.data.toList[i] := getElem!_pos bs.data i (by simpa using h)
      rw [ih, List.drop_eq_getElem_cons inside, next]
      simp
  | case2 i front h =>
      have beyond : bs.data.toList.drop i = [] := List.drop_eq_nil_of_le (by simpa using h)
      rw [beyond, List.append_nil]

theorem toList_byteArray (bs : ByteArray) : bs.toList = bs.data.toList := toList_loop bs 0 []

theorem toList_toUTF8 (s : String) : s.toUTF8.toList = s.toList.flatMap String.utf8EncodeChar := by
  conv_lhs => rw [← String.ofList_toList (s := s)]
  rw [String.toUTF8_eq_toByteArray, toList_byteArray]
  exact List.toList_data_toByteArray

theorem toUTF8_toList_inj {s t : String} : s.toUTF8.toList = t.toUTF8.toList ↔ s = t := by
  rw [toList_byteArray, toList_byteArray, Array.toList_inj, ← ByteArray.ext_iff, String.toUTF8_eq_toByteArray,
    String.toUTF8_eq_toByteArray, String.toByteArray_inj]

/-- Characters with codes below 128 are encoded by their codes. -/
theorem flatMap_utf8EncodeChar {cs : List Char} (ascii : ∀ c ∈ cs, c.toNat < 128) :
    cs.flatMap String.utf8EncodeChar = cs.map Char.toUInt8 := by
  induction cs with
  | nil => rfl
  | cons c cs ih =>
      have single : c.utf8Size = 1 :=
        Char.utf8Size_eq_one_iff.mpr (UInt32.le_iff_toNat_le.mpr (Nat.le_of_lt_succ (ascii c (by simp))))
      rw [List.flatMap_cons, String.utf8EncodeChar_eq_singleton single, ih fun d hd => ascii d (by simp [hd])]
      rfl

theorem toList_toUTF8_ascii {s : String} (ascii : ∀ c ∈ s.toList, c.toNat < 128) :
    s.toUTF8.toList = s.toList.map Char.toUInt8 := by
  rw [toList_toUTF8, flatMap_utf8EncodeChar ascii]

/-- The text of ASCII bytes. -/
def ofAscii (bytes : Bytes) : String := String.ofList (bytes.map fun b => Char.ofNat b.toNat)

theorem toNat_ofNat_ascii {n : Nat} (h : n < 128) : (Char.ofNat n).toNat = n := by
  have valid : n.isValidChar := .inl (by omega)
  rw [Char.ofNat, dif_pos valid]
  rfl

theorem ofNat_toUInt8 {c : Char} (h : c.toNat < 128) : Char.ofNat c.toUInt8.toNat = c := by
  have whole : c.toUInt8.toNat = c.toNat := by
    change c.toNat % 256 = c.toNat
    omega
  rw [whole, Char.ofNat_toNat]

theorem toList_toUTF8_ofAscii {bytes : Bytes} (ascii : ∀ b ∈ bytes, b.toNat < 128) :
    (ofAscii bytes).toUTF8.toList = bytes := by
  have low : ∀ c ∈ (ofAscii bytes).toList, c.toNat < 128 := by
    intro c hc
    obtain ⟨b, hb, rfl⟩ := List.mem_map.mp (by simpa only [ofAscii, String.toList_ofList] using hc)
    rw [toNat_ofNat_ascii (ascii b hb)]
    exact ascii b hb
  rw [toList_toUTF8_ascii low, ofAscii, String.toList_ofList, List.map_map]
  conv_rhs => rw [← List.map_id bytes]
  refine List.map_congr_left fun b hb => UInt8.toNat_inj.mp ?_
  have code : (Char.ofNat b.toNat).toNat = b.toNat := toNat_ofNat_ascii (ascii b hb)
  simp only [Function.comp_apply, id_eq, Char.toUInt8, UInt32.toNat_toUInt8]
  change (Char.ofNat b.toNat).toNat % 256 = b.toNat
  rw [code, Nat.mod_eq_of_lt b.toNat_lt]

/-- A text of ASCII bytes is the text that they spell. -/
theorem toList_toUTF8_eq_iff {s : String} {bytes : Bytes} (ascii : ∀ b ∈ bytes, b.toNat < 128) :
    s.toUTF8.toList = bytes ↔ s = ofAscii bytes := by
  rw [← toUTF8_toList_inj, toList_toUTF8_ofAscii ascii]

/-- A first byte below 128 is all of its character. -/
theorem eq_of_utf8EncodeChar {c : Char} {b : UInt8} {bs : Bytes} (h : String.utf8EncodeChar c = b :: bs)
    (ascii : b.toNat < 128) : c = Char.ofNat b.toNat ∧ bs = [] := by
  -- the first of several bytes is at least 192
  unfold String.utf8EncodeChar at h
  dsimp only at h
  split at h
  · rename_i single
    obtain ⟨rfl, rfl⟩ := List.cons.inj h
    rw [UInt8.toNat_ofNat', Nat.mod_eq_of_lt (Nat.lt_of_le_of_lt single (by decide))]
    exact ⟨(Char.ofNat_toNat c).symm, rfl⟩
  · exfalso
    repeat' split at h
    all_goals
      obtain ⟨rfl, -⟩ := List.cons.inj h
      rw [UInt8.toNat_ofNat'] at ascii
      omega

/-- A text whose bytes begin below 128 begins with the character of that code. -/
theorem exists_toList_eq_cons {s : String} {b : UInt8} {bs : Bytes} (h : s.toUTF8.toList = b :: bs)
    (ascii : b.toNat < 128) : ∃ cs, s.toList = Char.ofNat b.toNat :: cs ∧ cs.flatMap String.utf8EncodeChar = bs := by
  rw [toList_toUTF8] at h
  cases hs : s.toList with
  | nil => simp [hs] at h
  | cons c cs =>
      rw [hs, List.flatMap_cons] at h
      cases hc : String.utf8EncodeChar c with
      | nil => exact absurd hc String.utf8EncodeChar_ne_nil
      | cons b' rest =>
          rw [hc, List.cons_append, List.cons.injEq] at h
          obtain ⟨rfl, h⟩ := h
          obtain ⟨rfl, rfl⟩ := eq_of_utf8EncodeChar hc ascii
          exact ⟨cs, rfl, h⟩

end BridgeRelay.Text
