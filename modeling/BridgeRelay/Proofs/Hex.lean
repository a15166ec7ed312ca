import BridgeRelay.Hex
import Mathlib.Data.List.Basic

/-!
# Digits of either case

The digits of a byte string, each in either case, are read back as the byte string, and every even number of digits is
read.
-/

namespace BridgeRelay.Hex

variable {bytes : Bytes} {b : UInt8} {c : Char} {v : Nat}

/-! ## Digits and values -/

/-- The values of the digits of a byte string. -/
def nibbles (bytes : Bytes) : List Nat := bytes.flatMap fun b => [b.toNat / 16, b.toNat % 16]

theorem digits_eq (bytes : Bytes) : digits bytes = (nibbles bytes).map digit := by
  simp [digits, nibbles, List.map_flatMap]

theorem nibbles_lt (h : v ∈ nibbles bytes) : v < 16 := by
  obtain ⟨b, -, h⟩ := List.mem_flatMap.mp h
  have := b.toNat_lt
  simp only [List.mem_cons, List.not_mem_nil, or_false] at h
  omega

theorem length_nibbles (bytes : Bytes) : (nibbles bytes).length = 2 * bytes.length := by
  simp [nibbles, List.length_flatMap, Nat.mul_comm]

theorem pairs_nibbles (bytes : Bytes) : pairs (nibbles bytes) = bytes := by
  induction bytes with
  | nil => rfl
  | cons b bytes ih =>
      have whole : b.toNat / 16 * 16 + b.toNat % 16 = b.toNat := by omega
      rw [nibbles, List.flatMap_cons] at *
      simp only [List.cons_append, List.nil_append, pairs, whole, UInt8.ofNat_toNat]
      rw [ih]

/-- An even number of values are those of the bytes that they are joined to. -/
theorem nibbles_pairs {vs : List Nat} (even : vs.length % 2 = 0) (low : ∀ v ∈ vs, v < 16) : nibbles (pairs vs) = vs := by
  fun_induction pairs vs with
  | case1 high low' rest ih =>
      have hhigh := low high (by simp)
      have hlow := low low' (by simp)
      have byte : (UInt8.ofNat (high * 16 + low')).toNat = high * 16 + low' := by
        rw [UInt8.toNat_ofNat']
        omega
      have later := ih (by simp only [List.length_cons] at even; omega) fun v hv => low v (by simp [hv])
      rw [nibbles, List.flatMap_cons, byte, ← nibbles, later]
      simp only [List.cons_append, List.nil_append, List.cons.injEq, and_true]
      omega
  | case2 vs none =>
      match vs, none with
      | [], _ => rfl
      | [_], _ => simp at even
      | high :: low' :: rest, none => exact absurd rfl (none high low' rest)

theorem value?_lt (h : value? b = some v) : v < 16 ∧ b.toNat < 128 := by
  unfold value? at h
  simp only [UInt8.le_iff_toNat_le] at h
  repeat' split at h
  all_goals simp_all
  all_goals omega

theorem ascii_of_toLower (low : v < 16) (h : c.toLower = digit v) : c.toNat < 128 := by
  have ascii : ∀ v < 16, (digit v).toNat < 128 := by decide
  unfold Char.toLower at h
  split at h
  · rename_i upper
    exact Nat.lt_of_le_of_lt (UInt32.le_iff_toNat_le.mp upper.2) (by decide)
  · exact h ▸ ascii v low

theorem value?_of_toLower (low : v < 16) (h : c.toLower = digit v) : value? c.toUInt8 = some v := by
  have each : ∀ n < 128, ∀ v < 16, (Char.ofNat n).toLower = digit v → value? (Char.ofNat n).toUInt8 = some v := by
    decide +kernel
  have read := each c.toNat (ascii_of_toLower low h) v low
  rw [Char.ofNat_toNat] at read
  exact read h

theorem exists_digit_of_toLower {cs : List Char} (h : cs.map Char.toLower = digits bytes) (hc : c ∈ cs) :
    ∃ v < 16, c.toLower = digit v := by
  have among : c.toLower ∈ (nibbles bytes).map digit := by
    rw [← digits_eq, ← h]
    exact List.mem_map_of_mem hc
  obtain ⟨v, hv, same⟩ := List.mem_map.mp among
  exact ⟨v, nibbles_lt hv, same.symm⟩

theorem length_of_toLower {cs : List Char} (h : cs.map Char.toLower = digits bytes) : cs.length = 2 * bytes.length := by
  simpa [digits_eq, length_nibbles] using congrArg List.length h

/-! ## Reading -/

theorem values_of_toLower {cs : List Char} {vs : List Nat} (position : Nat) (low : ∀ v ∈ vs, v < 16)
    (h : cs.map Char.toLower = vs.map digit) : values position (cs.map Char.toUInt8) = .ok vs := by
  induction cs generalizing vs position with
  | nil =>
      rw [List.map_nil, List.nil_eq, List.map_eq_nil_iff] at h
      rw [h]
      rfl
  | cons c cs ih =>
      obtain ⟨v, vs, rfl, first, rest⟩ := List.map_eq_cons_iff.mp h.symm
      have hv := value?_of_toLower (low v (by simp)) first.symm
      simp only [List.map_cons, values, hv, ih (position + 1) (fun w hw => low w (by simp [hw])) rest.symm]
      rfl

/-- The digits of a byte string are read in either case. -/
theorem decode_of_toLower {cs : List Char} (h : cs.map Char.toLower = digits bytes) :
    decode bytes.length (cs.map Char.toUInt8) = .ok bytes := by
  have length := length_of_toLower h
  have read := values_of_toLower 0 (fun v hv => nibbles_lt hv) (h.trans (digits_eq bytes))
  rw [decode, List.length_map, if_neg (by omega), if_neg (by omega), read]
  exact congrArg Except.ok (pairs_nibbles bytes)

theorem decodeFixed_of_toLower {size : Nat} {a : FixedBytes size} {cs : List Char}
    (h : cs.map Char.toLower = digits a.toList) : decodeFixed size (cs.map Char.toUInt8) = .ok a := by
  have read := decode_of_toLower h
  rw [a.length_eq] at read
  simp [decodeFixed, read, bind, Except.bind, FixedBytes.ofList?, a.length_eq]

/-! ## Characters -/

/-- Is a digit, of either case. -/
def IsDigit (c : Char) : Prop := c ∈ "0123456789abcdefABCDEF".toList

instance : DecidablePred IsDigit := fun _ => inferInstanceAs (Decidable (_ ∈ _))

theorem IsDigit.toLower (h : IsDigit c) : ∃ v < 16, c.toLower = digit v := by
  have each : List.Forall (fun c => ∃ v < 16, c.toLower = digit v) "0123456789abcdefABCDEF".toList := by decide
  exact List.forall_iff_forall_mem.mp each c h

theorem IsDigit.ascii (h : IsDigit c) : c.toNat < 128 := by
  obtain ⟨v, low, digit⟩ := h.toLower
  exact ascii_of_toLower low digit

theorem isSome_value?_iff : (value? b).isSome ↔ IsDigit (Char.ofNat b.toNat) := by
  have each : ∀ n < 256, (value? (UInt8.ofNat n)).isSome ↔ IsDigit (Char.ofNat n) := by decide +kernel
  have known := each b.toNat b.toNat_lt
  rwa [UInt8.ofNat_toNat] at known

theorem exists_values {cs : List Char} (h : ∀ c ∈ cs, IsDigit c) :
    ∃ vs : List Nat, (∀ v ∈ vs, v < 16) ∧ cs.map Char.toLower = vs.map digit := by
  induction cs with
  | nil => exact ⟨[], by simp, rfl⟩
  | cons c cs ih =>
      obtain ⟨here, later⟩ := List.forall_mem_cons.mp h
      obtain ⟨v, hv, first⟩ := here.toLower
      obtain ⟨vs, low, rest⟩ := ih later
      exact ⟨v :: vs, List.forall_mem_cons.mpr ⟨hv, low⟩, by rw [List.map_cons, List.map_cons, first, rest]⟩

/-- An even number of digits spell the bytes that they are joined to. -/
theorem exists_spelled {cs : List Char} (even : cs.length % 2 = 0) (h : ∀ c ∈ cs, IsDigit c) :
    ∃ bytes : Bytes, 2 * bytes.length = cs.length ∧ cs.map Char.toLower = digits bytes := by
  obtain ⟨vs, low, spelled⟩ := exists_values h
  have length : vs.length = cs.length := by simpa using (congrArg List.length spelled).symm
  have joined := nibbles_pairs (by rwa [length]) low
  exact ⟨pairs vs, by rw [← length_nibbles, joined, length], by rw [spelled, digits_eq, joined]⟩

theorem exists_of_values {ds : Bytes} (even : ds.length % 2 = 0) (h : ∀ b ∈ ds, (value? b).isSome) :
    ∃ bytes : Bytes, 2 * bytes.length = ds.length ∧ (ds.map fun b => (Char.ofNat b.toNat).toLower) = digits bytes := by
  have digits : ∀ c ∈ ds.map fun b => Char.ofNat b.toNat, IsDigit c := fun c hc => by
    obtain ⟨b, hb, rfl⟩ := List.mem_map.mp hc
    exact isSome_value?_iff.mp (h b hb)
  simpa [Function.comp_def] using exists_spelled (by rwa [List.length_map]) digits

/-! ## Faults -/

/-- What is wrong with a text from which so many bytes are to be read. An odd length is found first, then a wrong one,
then the first byte that is no digit. -/
inductive Misread (size : Nat) (text : Bytes) : Fault → Prop where
  | oddLength (odd : text.length % 2 = 1) : Misread size text .oddLength
  | wrongLength (even : text.length % 2 = 0) (wrong : text.length ≠ 2 * size) : Misread size text .wrongLength
  | invalid {front rest : Bytes} {b : UInt8} (length : text.length = 2 * size) (split : text = front ++ b :: rest)
      (digits : ∀ d ∈ front, IsDigit (Char.ofNat d.toNat)) (other : ¬ IsDigit (Char.ofNat b.toNat)) :
      Misread size text (.invalid b front.length)

/-- Digits are passed over, and the first byte that is none is the fault. -/
theorem values_digits_append {front rest : Bytes} (position : Nat)
    (digits : ∀ d ∈ front, IsDigit (Char.ofNat d.toNat)) (other : ¬ IsDigit (Char.ofNat b.toNat)) :
    values position (front ++ b :: rest) = .error (.invalid b (position + front.length)) := by
  induction front generalizing position with
  | nil =>
      have none : value? b = none := by simpa using isSome_value?_iff.not.mpr other
      simp [values, none]
  | cons d front ih =>
      obtain ⟨here, later⟩ := List.forall_mem_cons.mp digits
      obtain ⟨v, hv⟩ := Option.isSome_iff_exists.mp (isSome_value?_iff.mpr here)
      simp [values, hv, ih (position + 1) later, Except.map, Nat.add_comm, Nat.add_left_comm]

section

variable {size : Nat} {text : Bytes} {f : Fault}

theorem Misread.decodeFixed (h : Misread size text f) : decodeFixed size text = .error f := by
  cases h with
  | oddLength odd => simp [Hex.decodeFixed, decode, odd, bind, Except.bind]
  | wrongLength even wrong => simp [Hex.decodeFixed, decode, even, wrong, bind, Except.bind]
  | @invalid front rest b length split digits other =>
      have found : values 0 text = .error (.invalid b front.length) := by
        rw [split, values_digits_append 0 digits other, Nat.zero_add]
      simp [Hex.decodeFixed, decode, length, found, bind, Except.bind, Except.map]

/-- The right number of digits is read. -/
theorem exists_decodeFixed (length : text.length = 2 * size) (digits : ∀ d ∈ text, IsDigit (Char.ofNat d.toNat)) :
    ∃ a, decodeFixed size text = .ok a := by
  have codes : (text.map fun d => Char.ofNat d.toNat).map Char.toUInt8 = text := by
    have each : ∀ n < 256, (Char.ofNat n).toUInt8 = UInt8.ofNat n := by decide +kernel
    rw [List.map_map]
    conv_rhs => rw [← List.map_id text]
    exact List.map_congr_left fun d _ => (each d.toNat d.toNat_lt).trans UInt8.ofNat_toNat
  have characters : ∀ c ∈ text.map fun d => Char.ofNat d.toNat, IsDigit c := by simpa using digits
  have even : (text.map fun d => Char.ofNat d.toNat).length % 2 = 0 := by
    rw [List.length_map, length]
    exact Nat.mul_mod_right 2 size
  obtain ⟨bytes, half, spelled⟩ := exists_spelled even characters
  rw [List.length_map] at half
  exact ⟨⟨bytes, by omega⟩, codes ▸ decodeFixed_of_toLower spelled⟩

theorem exists_misread (h : ¬ (text.length = 2 * size ∧ ∀ d ∈ text, IsDigit (Char.ofNat d.toNat))) :
    ∃ f, Misread size text f := by
  by_cases odd : text.length % 2 = 1
  · exact ⟨_, .oddLength odd⟩
  by_cases length : text.length = 2 * size
  · obtain ⟨b, found⟩ : ∃ b, text.find? (fun d => ¬ IsDigit (Char.ofNat d.toNat)) = some b := by
      rw [← Option.isSome_iff_exists, List.find?_isSome]
      simpa [length] using h
    obtain ⟨other, front, rest, split, digits⟩ := List.find?_eq_some_iff_append.mp found
    exact ⟨_, .invalid length split (by simpa using digits) (by simpa using other)⟩
  · exact ⟨_, .wrongLength (by omega) length⟩

theorem exists_decodeFixed_iff :
    (∃ a, decodeFixed size text = .ok a) ↔ text.length = 2 * size ∧ ∀ d ∈ text, IsDigit (Char.ofNat d.toNat) := by
  constructor
  · rintro ⟨a, read⟩
    by_contra bad
    obtain ⟨f, misread⟩ := exists_misread bad
    cases misread.decodeFixed.symm.trans read
  · rintro ⟨length, digits⟩
    exact exists_decodeFixed length digits

theorem decodeFixed_eq_error_iff : decodeFixed size text = .error f ↔ Misread size text f := by
  refine ⟨fun failed => ?_, Misread.decodeFixed⟩
  have bad : ¬ (text.length = 2 * size ∧ ∀ d ∈ text, IsDigit (Char.ofNat d.toNat)) := fun good => by
    obtain ⟨a, read⟩ := exists_decodeFixed good.1 good.2
    cases failed.symm.trans read
  obtain ⟨f', misread⟩ := exists_misread bad
  cases failed.symm.trans misread.decodeFixed
  exact misread

end

end BridgeRelay.Hex
