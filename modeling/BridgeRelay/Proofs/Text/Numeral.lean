import BridgeRelay.Binary64.Text
import BridgeRelay.Text.Character
import BridgeRelay.Text.Numeral

/-!
# Numbers as text

What a number is written with has no white space in it, so trimming leaves it alone. A natural number in decimal is read
back by every reader whose bound it keeps.
-/

namespace BridgeRelay

namespace Text

variable {cs ds : List Char} {n bound : Nat}

/-! ## White space -/

/-- No character is white space. -/
def Solid (cs : List Char) : Prop := ∀ c ∈ cs, isBlank c = false

-- The characters of the text decide, not all characters.
instance : DecidablePred Solid := fun cs => List.decidableBAll _ cs

theorem Solid.sublist (h : Solid cs) (sub : ds.Sublist cs) : Solid ds := fun c hc => h c (sub.subset hc)

theorem Solid.append (h : Solid cs) (h' : Solid ds) : Solid (cs ++ ds) := List.forall_mem_append.mpr ⟨h, h'⟩

theorem Solid.trimStart_eq (h : Solid cs) : trimStart cs = cs := by
  cases cs with
  | nil => rfl
  | cons c cs => exact List.dropWhile_cons_of_neg (by simp [h c])

theorem Solid.trim_eq (h : Solid cs) : trim cs = cs := by
  have reversed : trimStart cs.reverse = cs.reverse := trimStart_eq fun c hc => h c (List.mem_reverse.mp hc)
  rw [trim, h.trimStart_eq, trimEnd]
  exact (congrArg List.reverse reversed).trans (List.reverse_reverse cs)

theorem solid_of_digits (h : ∀ c ∈ cs, c.isDigit = true) : Solid cs := by
  intro c hc
  have range : 48 ≤ c.toNat ∧ c.toNat ≤ 57 := by simpa [Char.isDigit, UInt32.le_iff_toNat_le] using h c hc
  simp only [isBlank, Bool.or_eq_false_iff, Bool.and_eq_false_iff, decide_eq_false_iff_not]
  omega

/-! ## Digits -/

theorem isDigit_of_mem_toDigits : ∀ c ∈ Nat.toDigits 10 n, c.isDigit = true := fun _ =>
  Nat.isDigit_of_mem_toDigits (by decide) (by decide)

/-- The digits of a number spell it. -/
theorem toDigits_inj {m : Nat} : Nat.toDigits 10 m = Nat.toDigits 10 n ↔ m = n := by
  constructor
  · intro digits
    have spelled := congrArg (Nat.ofDigitChars 10 · 0) digits
    simpa only [Nat.ofDigitChars_ten_toDigits] using spelled
  · rintro rfl
    rfl

theorem le_ofDigitChars (cs : List Char) (n : Nat) : n ≤ Nat.ofDigitChars 10 cs n := by
  induction cs generalizing n with
  | nil => exact Nat.le_refl n
  | cons c cs ih =>
      rw [Nat.ofDigitChars_cons]
      exact Nat.le_trans (by omega) (ih _)

/-- Digits whose number keeps the bound are read to the end: no start of them spells more. -/
theorem readDigits_eq_ok (digits : ∀ c ∈ cs, c.isDigit = true) (h : Nat.ofDigitChars 10 cs n ≤ bound) :
    readDigits bound n cs = .ok (Nat.ofDigitChars 10 cs n) := by
  induction cs generalizing n with
  | nil => rfl
  | cons c cs ih =>
      rw [List.forall_mem_cons] at digits
      rw [Nat.ofDigitChars_cons, Nat.mul_comm] at h ⊢
      have start : n * 10 + (c.toNat - '0'.toNat) ≤ bound := Nat.le_trans (le_ofDigitChars cs _) h
      simp only [readDigits, digits.1, start, if_true]
      exact ih digits.2 h

theorem readNat_eq_readDigits (nonempty : cs ≠ []) (digits : ∀ c ∈ cs, c.isDigit = true) :
    readNat bound cs = readDigits bound 0 cs := by
  unfold readNat
  split
  · contradiction
  · exact absurd (digits '+' (by simp)) (by decide)
  · exact absurd (digits '+' (by simp)) (by decide)
  · rfl

/-! ## Decimals -/

theorem toList_toString (n : Nat) : (toString n).toList = Nat.toDigits 10 n := by
  rw [Nat.toString_eq_repr, Nat.toList_repr]

theorem solid_toString (n : Nat) : Solid (toString n).toList :=
  toList_toString n ▸ solid_of_digits isDigit_of_mem_toDigits

/-- A number that keeps the bound is read back from its decimal. -/
theorem readNat_toString (h : n ≤ bound) : readNat bound (toString n).toList = .ok n := by
  have spelled : Nat.ofDigitChars 10 (Nat.toDigits 10 n) 0 = n := Nat.ofDigitChars_ten_toDigits
  rw [toList_toString, readNat_eq_readDigits Nat.toDigits_ne_nil isDigit_of_mem_toDigits,
    readDigits_eq_ok isDigit_of_mem_toDigits (spelled.symm ▸ h), spelled]

end Text

/-! ## Floating point -/

namespace Binary64

open Text

theorem solid_trimZeros {fraction : List Char} (h : Solid fraction) : Solid (trimZeros fraction) := fun c hc =>
  h c (List.mem_reverse.mp ((List.dropWhile_sublist _).subset (List.mem_reverse.mp hc)))

theorem solid_positional (c : Nat) (p : Int) : Solid (positional c p) := by
  have digits : Solid (Nat.toDigits 10 c) := solid_of_digits isDigit_of_mem_toDigits
  have zeros (n : Nat) : Solid (List.replicate n '0') := fun ch h => by
    rw [List.eq_of_mem_replicate h]
    rfl
  unfold positional
  split
  · exact digits.append (zeros _)
  · have padded := (zeros ((-p).toNat + 1 - (Nat.toDigits 10 c).length)).append digits
    have whole (k : Nat) := padded.sublist (List.take_sublist k _)
    have fraction (k : Nat) := solid_trimZeros (padded.sublist (List.drop_sublist k _))
    dsimp only
    split
    · exact whole _
    · exact (whole _).append (List.forall_mem_cons.mpr ⟨rfl, fraction _⟩)

theorem solid_text (x : Binary64) : Solid x.text.toList := by
  cases x with
  | nan => decide +kernel
  | infinite s => cases s <;> decide +kernel
  | finite s m e =>
      have magnitude : Solid (if m = 0 then ['0'] else
          positional ((interval m e).shortest (floorLog10 (interval m e).value (interval m e).den) 17).1
            ((interval m e).shortest (floorLog10 (interval m e).value (interval m e).den) 17).2) := by
        split
        · decide
        · exact solid_positional _ _
      rw [text, String.toList_ofList]
      cases s with
      | false => exact magnitude
      | true => exact List.forall_mem_cons.mpr ⟨rfl, magnitude⟩

end Binary64

end BridgeRelay
