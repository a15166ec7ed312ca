import BridgeRelay.Metrics.Fingerprint
import Mathlib.Data.List.Nodup
import Mathlib.Data.List.Perm.Basic

/-!
# Fingerprints as numbers

Fingerprints computed on natural numbers, and a test that many of them are different. Each domain has a fingerprint of its
own.
-/

namespace BridgeRelay.Metrics

/-! ## Numbers -/

/-- The bytes of a text as numbers. -/
def bytesOf (s : String) : List Nat := s.toUTF8.toList.map UInt8.toNat

/-- A step of a fingerprint on numbers, by operations that compute at once. -/
def absorbed (h b : Nat) : Nat := ((h.xor b).mul 0x100000001b3).mod 0x10000000000000000

theorem toNat_absorb (h : UInt64) (b : UInt8) : (absorb h b).toNat = absorbed h.toNat b.toNat := by
  simp [absorb, fingerprintPrime]
  rfl

theorem toNat_foldl_absorb (bytes : List UInt8) (h : UInt64) :
    (bytes.foldl absorb h).toNat = (bytes.map UInt8.toNat).foldl absorbed h.toNat := by
  induction bytes generalizing h with
  | nil => rfl
  | cons b bytes ih => rw [List.foldl_cons, ih, toNat_absorb, List.map_cons, List.foldl_cons]

/-- The fingerprint of a domain's number. -/
def front (n : Nat) : Nat := (bytesOf (toString (UInt8.ofNat n))).foldl absorbed 0xcbf29ce484222325

theorem toNat_fingerprint (d : DomainId) (kind : String) :
    (fingerprint [toString d, kind]).toNat = (bytesOf kind).foldl absorbed (front d.toNat) := by
  rw [front, UInt8.ofNat_toNat]
  refine (toNat_foldl_absorb ..).trans (congrArg (List.foldl absorbed · _) ?_)
  exact toNat_foldl_absorb ..

/-- Whether no two numbers agree in their lowest bits. -/
def distinct : (bits : Nat) → List Nat → Bool
  | _, [] | _, [_] => true
  | 0, _ => false
  | bits + 1, l => distinct bits ((l.filter fun n => (n.mod 2).beq 0).map (Nat.div · 2)) &&
      distinct bits ((l.filter fun n => (n.mod 2).beq 1).map (Nat.div · 2))

theorem nodup_of_distinct {bits : Nat} {l : List Nat} (h : distinct bits l = true) : l.Nodup := by
  fun_induction distinct bits l with
  | case1 => exact .nil
  | case2 => exact List.nodup_singleton _
  | case3 => cases h
  | case4 bits l _ _ ih₁ ih₂ =>
      obtain ⟨evens, odds⟩ := Bool.and_eq_true_iff.mp h
      have split := List.filter_append_perm (fun n => (n.mod 2).beq 0) l
      refine split.nodup_iff.mp (List.nodup_append.mpr ⟨(ih₁ evens).of_map _, ?_, ?_⟩)
      · have odd (n : Nat) : (!(n.mod 2).beq 0) = (n.mod 2).beq 1 := by
          obtain h | h : n.mod 2 = 0 ∨ n.mod 2 = 1 := Nat.mod_two_eq_zero_or_one n <;> rw [h] <;> rfl
        simp only [odd]
        exact (ih₂ odds).of_map _
      · rintro n even _ odd rfl
        have here := (List.mem_filter.mp even).2
        simp [here] at odd

/-! ## Domains -/

theorem toNat_fingerprint_domain (d : DomainId) : (fingerprint [toString d]).toNat = front d.toNat := by
  rw [front, UInt8.ofNat_toNat]
  exact toNat_foldl_absorb ..

theorem distinct_fronts : distinct 64 ((List.range 256).map front) = true := by
  decide +kernel

theorem domain_label_inj {d d' : DomainId} : fingerprint [toString d] = fingerprint [toString d'] ↔ d = d' := by
  constructor
  · intro same
    have fronts : front d.toNat = front d'.toNat := by
      rw [← toNat_fingerprint_domain, ← toNat_fingerprint_domain, same]
    have number : d.toNat = d'.toNat := List.inj_on_of_nodup_map (nodup_of_distinct distinct_fronts)
      (List.mem_range.mpr d.toNat_lt) (List.mem_range.mpr d'.toNat_lt) fronts
    exact UInt8.toNat_inj.mp number
  · rintro rfl
    rfl

end BridgeRelay.Metrics
