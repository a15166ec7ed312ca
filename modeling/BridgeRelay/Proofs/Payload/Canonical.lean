import BridgeRelay.Proofs.Payload.Grammar

/-!
# Handler data written again

A payload that was read is written as the data from which it was read. Only token data that ends behind the recipient
grows, by the length of metadata that is empty.
-/

namespace BridgeRelay.Payload

variable {t : TransferType} {p : Payload} {d : Bytes}

/-- Token data that ends right behind the recipient. -/
def Unfinished (t : TransferType) (d : Bytes) : Prop := t = .nonFungible ∧ ∃ p, Bare p d

/-- The word that is zero. -/
def zeroWord : Bytes := List.replicate Word.size 0

theorem Bare.layout_eq (h : Bare p d) : p.layout = d ++ zeroWord := by
  cases h with
  | intro tokenId h =>
      obtain ⟨-, rfl⟩ := field_iff.mp h
      rfl

/-- Data that was read is unfinished if and only if it is written otherwise. -/
theorem unfinished_iff (h : decode t d = .ok p) : Unfinished t d ↔ p.layout ≠ d := by
  have ⟨kind, spells⟩ := decode_eq_ok.mp h
  constructor
  · rintro ⟨rfl, q, bare⟩ same
    have read := decode_bare bare
    rw [h, Except.ok.injEq] at read
    subst read
    have longer := congrArg List.length bare.layout_eq
    simp [same, zeroWord, Word.size] at longer
  · intro other
    rcases spells with whole | bare
    · exact absurd whole.fits_layout.2 other
    · cases bare with
      | intro tokenId owner => exact ⟨kind.symm, _, .intro tokenId owner⟩

instance : Decidable (Unfinished t d) :=
  match h : decode t d with
  | .ok _ => decidable_of_iff _ (unfinished_iff h).symm
  | .error _ => .isFalse fun ⟨kind, _, bare⟩ => by
      rw [kind, decode_bare bare] at h
      cases h

/-- The data with the length of metadata that is missing. -/
def finished (t : TransferType) (d : Bytes) : Bytes := if Unfinished t d then d ++ zeroWord else d

/-- What is read is written as it was, or with the metadata that is missing. -/
theorem layout_of_decode (h : decode t d = .ok p) : p.layout = finished t d := by
  unfold finished
  split
  · next unfinished =>
      obtain ⟨rfl, q, bare⟩ := unfinished
      have read := decode_bare bare
      rw [h, Except.ok.injEq] at read
      exact read ▸ bare.layout_eq
  · next other => exact Decidable.of_not_not fun longer => other ((unfinished_iff h).mpr longer)

theorem encode_of_decode (h : decode t d = .ok p) : encode p.transferType p = .ok (finished t d) := by
  rw [encode_transferType, layout_of_decode h]

end BridgeRelay.Payload
