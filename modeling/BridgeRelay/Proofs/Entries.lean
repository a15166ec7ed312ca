/-!
# Lists of keys and values

Where a value is set in front and the earlier one taken out, all other keys keep their values.
-/

namespace BridgeRelay

variable {κ α : Type} [BEq κ] [LawfulBEq κ] [DecidableEq κ] {entries : List (κ × α)} {k k' : κ} {x : α}

theorem lookup_filter_ne (h : k' ≠ k) :
    (entries.filter fun entry => entry.1 ≠ k).lookup k' = entries.lookup k' := by
  induction entries with
  | nil => rfl
  | cons entry entries ih =>
      obtain ⟨key, x⟩ := entry
      by_cases hk : key = k
      · subst hk
        simp_all [List.lookup_cons, beq_eq_false_iff_ne.mpr h]
      · simp_all [List.lookup_cons]

theorem lookup_set_of_ne (h : k' ≠ k) :
    ((k, x) :: entries.filter fun entry => entry.1 ≠ k).lookup k' = entries.lookup k' := by
  rw [List.lookup_cons, beq_eq_false_iff_ne.mpr h]
  exact lookup_filter_ne h

end BridgeRelay
