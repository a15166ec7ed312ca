import BridgeRelay.Proofs.Text.Numeral
import BridgeRelay.Text.Character
import Mathlib.Algebra.Group.Nat.Defs

/-!
# Occurrences

Where a phrase can occur in a text that is put together from pieces. A piece that shares no character with the phrase
separates what stands before it from what stands behind it. In the digits of a number, a numeral of three digits occurs
exactly if the number shows it when some of its last digits are dropped.
-/

namespace BridgeRelay.Text

variable {part cs ds sep : List Char} {c : Char} {n : Nat}

/-! ## Pieces of a text -/

theorem occurs_iff_isInfix : occurs part cs ↔ part <:+: cs := by
  induction cs with
  | nil => simp [occurs, List.infix_nil]
  | cons c cs ih => simp only [occurs, Bool.or_eq_true, List.isPrefixOf_iff_prefix, ih, List.infix_cons_iff]

theorem isPrefix_append_cons (h : c ∉ part) : part <+: cs ++ c :: ds ↔ part <+: cs := by
  induction part generalizing cs with
  | nil => simp
  | cons p part ih =>
      obtain ⟨first, rest⟩ : c ≠ p ∧ c ∉ part := by simpa using h
      cases cs with
      | nil => simp [List.cons_prefix_cons, Ne.symm first]
      | cons d cs => simp [List.cons_prefix_cons, ih rest]

theorem isInfix_cons (nonempty : part ≠ []) (h : c ∉ part) : part <:+: c :: ds ↔ part <:+: ds := by
  have front : ¬ part <+: [] ++ c :: ds := by rwa [isPrefix_append_cons h, List.prefix_nil]
  rw [List.infix_cons_iff]
  exact or_iff_right front

/-- A character that the phrase does not have separates its occurrences. -/
theorem isInfix_append_cons (nonempty : part ≠ []) (h : c ∉ part) :
    part <:+: cs ++ c :: ds ↔ part <:+: cs ∨ part <:+: ds := by
  induction cs with
  | nil => rw [List.nil_append, isInfix_cons nonempty h, List.infix_nil, or_iff_right nonempty]
  | cons d cs ih =>
      rw [List.cons_append, List.infix_cons_iff, ← List.cons_append, isPrefix_append_cons h, ih, List.infix_cons_iff,
        or_assoc]

theorem isInfix_behind (nonempty : part ≠ []) (apart : ∀ c ∈ sep, c ∉ part) : part <:+: sep ++ ds ↔ part <:+: ds := by
  induction sep with
  | nil => rfl
  | cons c sep ih =>
      obtain ⟨here, rest⟩ := List.forall_mem_cons.mp apart
      rw [List.cons_append, isInfix_cons nonempty here, ih rest]

/-- A piece that shares no character with the phrase separates its occurrences. -/
theorem isInfix_across (nonempty : part ≠ []) (separated : sep ≠ []) (apart : ∀ c ∈ sep, c ∉ part) :
    part <:+: cs ++ (sep ++ ds) ↔ part <:+: cs ∨ part <:+: ds := by
  cases sep with
  | nil => contradiction
  | cons c sep =>
      obtain ⟨here, rest⟩ := List.forall_mem_cons.mp apart
      rw [List.cons_append, isInfix_append_cons nonempty here, isInfix_behind nonempty rest]

/-! ## Numbers in a text -/

theorem digitChar_inj {m d : Nat} (hm : m < 10) (hd : d < 10) : m.digitChar = d.digitChar ↔ m = d := by
  have distinct : ∀ m < 10, ∀ d < 10, m.digitChar = d.digitChar → m = d := by decide
  exact ⟨distinct m hm d hd, congrArg _⟩

/-- The digits of a number are those of its tenth, unless that is nothing, and a last one. -/
theorem toDigits_eq_concat (n : Nat) :
    Nat.toDigits 10 n = (if n < 10 then [] else Nat.toDigits 10 (n / 10)) ++ [(n % 10).digitChar] := by
  split
  · rename_i small
    rw [Nat.toDigits_of_lt_base small, Nat.mod_eq_of_lt small, List.nil_append]
  · rename_i large
    exact Nat.toDigits_of_base_le (by decide) (Nat.not_lt.mp large)

theorem lower_digitChar {d : Nat} (h : d < 10) : lower d.digitChar = [d.digitChar] := by
  have lowered : ∀ d < 10, lower d.digitChar = [d.digitChar] := by decide +kernel
  exact lowered d h

theorem fold_toDigits (n : Nat) : fold (Nat.toDigits 10 n) = Nat.toDigits 10 n := by
  induction n using Nat.strongRecOn with
  | ind n ih =>
      have last : lower (n % 10).digitChar = [(n % 10).digitChar] := lower_digitChar (Nat.mod_lt _ (by decide))
      rw [toDigits_eq_concat, fold, List.flatMap_append, ← fold, List.flatMap_singleton, last]
      split
      · rfl
      · rw [ih (n / 10) (by omega)]

theorem concat_isSuffix_concat {d : Char} : part ++ [c] <:+ cs ++ [d] ↔ c = d ∧ part <:+ cs := by
  rw [← List.reverse_prefix]
  simp [List.cons_prefix_cons]

variable {k : Nat}

/-- A number ends with a numeral exactly if so many of its last digits have that value. -/
theorem toDigits_isSuffix_toDigits (positive : 0 < k) :
    Nat.toDigits 10 k <:+ Nat.toDigits 10 n ↔ n % 10 ^ (Nat.toDigits 10 k).length = k := by
  induction k using Nat.strongRecOn generalizing n with
  | ind k ih =>
      have last : (k % 10).digitChar = (n % 10).digitChar ↔ k % 10 = n % 10 :=
        digitChar_inj (Nat.mod_lt _ (by decide)) (Nat.mod_lt _ (by decide))
      rw [toDigits_eq_concat k, toDigits_eq_concat n, concat_isSuffix_concat, last]
      by_cases small : k < 10
      · simp only [small, if_true, List.nil_suffix, and_true, List.nil_append, List.length_singleton, Nat.pow_one]
        omega
      · have tenth : 0 < k / 10 := by omega
        have parts : n % (10 ^ ((Nat.toDigits 10 (k / 10)).length + 1)) =
            n % 10 + 10 * (n / 10 % 10 ^ (Nat.toDigits 10 (k / 10)).length) := by
          rw [Nat.pow_succ', Nat.mod_mul]
        have inner : Nat.toDigits 10 (k / 10) <:+ Nat.toDigits 10 (n / 10) ↔ _ := ih (k / 10) (by omega) tenth
        simp only [small, if_false, List.length_append, List.length_singleton, parts]
        split
        · rename_i little
          have absent : ¬ Nat.toDigits 10 (k / 10) <:+ [] := by simp [Nat.toDigits_ne_nil]
          simp only [absent, and_false, false_iff, Nat.div_eq_of_lt little, Nat.zero_mod]
          omega
        · rw [inner]
          omega

/-- A numeral occurs in a number exactly if the number ends with it when some of its last digits are dropped. -/
theorem toDigits_isInfix_toDigits (positive : 0 < k) : Nat.toDigits 10 k <:+: Nat.toDigits 10 n ↔
    ∃ i, n / 10 ^ i % 10 ^ (Nat.toDigits 10 k).length = k := by
  induction n using Nat.strongRecOn with
  | ind n ih =>
      have shifted : (∃ i, n / 10 ^ i % 10 ^ (Nat.toDigits 10 k).length = k) ↔
          n % 10 ^ (Nat.toDigits 10 k).length = k ∨
            ∃ i, n / 10 / 10 ^ i % 10 ^ (Nat.toDigits 10 k).length = k := by
        rw [← Nat.or_exists_add_one, Nat.pow_zero, Nat.div_one]
        simp only [Nat.div_div_eq_div_mul, Nat.pow_succ']
      rw [shifted, ← toDigits_isSuffix_toDigits positive, toDigits_eq_concat n, List.infix_concat_iff]
      refine or_congr_right ?_
      split
      · rename_i small
        simp [Nat.div_eq_of_lt small, Nat.toDigits_ne_nil, Nat.ne_of_lt positive]
      · exact ih (n / 10) (by omega)

end BridgeRelay.Text
