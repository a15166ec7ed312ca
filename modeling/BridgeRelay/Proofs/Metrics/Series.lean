import BridgeRelay.Proofs.Metrics

/-!
# Single series

An update sets one series and leaves all others as they are. Within a family each series has a fingerprint of its own,
whatever the label values are.
-/

namespace BridgeRelay.Metrics

variable {m m' : Metrics} {f f' : Family} {labels labels' : Labels} {g : Int → Int} {s : Series} {v : Int}

/-! ## Values -/

@[simp] theorem isAt_updated : (s.updated f labels g).isAt f' labels' = s.isAt f' labels' := by
  simp [Series.isAt]

theorem isAt_congr (same : fingerprint labels = fingerprint labels') : s.isAt f labels = s.isAt f labels' := by
  simp [Series.isAt, same]

/-- The value of a series, if it has been touched. -/
def value? (m : Metrics) (f : Family) (labels : Labels) : Option Int :=
  (m.series.find? (·.isAt f labels)).map Series.value

theorem get_eq : m.get f labels = (m.value? f labels).getD 0 := by
  unfold get value?
  cases m.series.find? (·.isAt f labels) <;> rfl

theorem find?_updated {series : List Series} : (series.map (Series.updated f labels g)).find? (·.isAt f' labels') =
    (series.find? (·.isAt f' labels')).map (Series.updated f labels g) := by
  simp only [List.find?_map, Function.comp_def, isAt_updated]

/-- An update sets the series that it means. -/
theorem value?_update_same (same : fingerprint labels = fingerprint labels') :
    (m.update f labels g).value? f labels' = some (g ((m.value? f labels').getD 0)) := by
  have meant (s : Series) : s.isAt f labels = s.isAt f labels' := isAt_congr same
  rw [value?, value?, update_eq]
  split
  · next found =>
      simp only [meant] at found
      obtain ⟨s, hs⟩ := Option.isSome_iff_exists.mp (List.find?_isSome.mpr (List.any_eq_true.mp found))
      have here : s.isAt f labels' = true := List.find?_some (p := fun s : Series => s.isAt f labels') hs
      rw [find?_updated, hs]
      simp [Series.updated, meant, here]
  · next missing =>
      simp only [meant] at missing
      have none : m.series.find? (·.isAt f labels') = none := by simpa [List.find?_eq_none] using missing
      have new : Series.isAt ⟨f, labels, g 0⟩ f labels' = true := by simp [Series.isAt, same]
      simp [none, new]

/-- An update leaves all other series as they are. -/
theorem value?_update_other (other : f = f' → fingerprint labels ≠ fingerprint labels') :
    (m.update f labels g).value? f' labels' = m.value? f' labels' := by
  rw [value?, value?, update_eq]
  split
  · cases found : m.series.find? (·.isAt f' labels') with
    | none =>
        rw [find?_updated, found]
        rfl
    | some s =>
        have here : s.isAt f' labels' = true := List.find?_some (p := fun s : Series => s.isAt f' labels') found
        have apart : s.isAt f labels = false := by
          simp only [Series.isAt, Bool.and_eq_true, decide_eq_true_eq] at here
          obtain ⟨rfl, same⟩ := here
          simpa [Series.isAt] using fun meant here => other meant.symm (here.symm.trans same)
        rw [find?_updated, found]
        simp [Series.updated, apart]
  · have new : Series.isAt ⟨f, labels, g 0⟩ f' labels' = false := by
      simpa [Series.isAt] using other
    simp [new]

theorem get_update_same (same : fingerprint labels = fingerprint labels') :
    (m.update f labels g).get f labels' = g (m.get f labels') := by
  rw [get_eq, get_eq, value?_update_same same, Option.getD_some]

theorem get_update_other (other : f = f' → fingerprint labels ≠ fingerprint labels') :
    (m.update f labels g).get f' labels' = m.get f' labels' := by
  rw [get_eq, get_eq, value?_update_other other]

/-- Reading a series changes no value. -/
theorem get_touch : (m.touch f labels).2.get f' labels' = m.get f' labels' := by
  by_cases same : f = f' ∧ fingerprint labels = fingerprint labels'
  · obtain ⟨rfl, same⟩ := same
    exact get_update_same same
  · exact get_update_other fun h same' => same ⟨h, same'⟩

/-! ## Rows -/

@[simp] theorem up_update : (m.update f labels g).up = m.up := by
  rw [update_eq]
  split <;> rfl

/-- The series of a family. -/
def rows (m : Metrics) (f : Family) : List Series := m.series.filter fun s => s.family = f

theorem family_of_mem_rows (h : s ∈ m.rows f) : s.family = f := by simpa using (List.mem_filter.mp h).2

theorem any_rows : (m.rows f).any (·.isAt f labels) = m.series.any (·.isAt f labels) := by
  rw [rows, List.any_filter]
  congr 1
  funext s
  simp only [Series.isAt]
  cases decide (s.family = f) <;> simp

theorem filter_updated {series : List Series} : (series.map (Series.updated f labels g)).filter (fun s => s.family = f') =
    (series.filter fun s => s.family = f').map (Series.updated f labels g) := by
  simp [List.filter_map, Function.comp_def]

theorem rows_update_same : (m.update f labels g).rows f =
    if (m.rows f).any (·.isAt f labels) then (m.rows f).map (Series.updated f labels g)
    else m.rows f ++ [⟨f, labels, g 0⟩] := by
  rw [any_rows, update_eq]
  split
  · exact filter_updated
  · simp [rows]

theorem rows_update_other (other : f ≠ f') : (m.update f labels g).rows f' = m.rows f' := by
  rw [update_eq]
  split
  · refine filter_updated.trans ?_
    conv_rhs => rw [← List.map_id (m.rows f')]
    refine List.map_congr_left fun s hs => ?_
    have family : s.family = f' := family_of_mem_rows hs
    have elsewhere : s.isAt f labels = false := by simp [Series.isAt, family, Ne.symm other]
    simp [Series.updated, elsewhere]
  · simp [rows, other]

/-- What an update makes of a family hangs on that family only. -/
theorem rows_update_congr (same : m.rows f' = m'.rows f') :
    (m.update f labels g).rows f' = (m'.update f labels g).rows f' := by
  by_cases h : f = f'
  · subst h
    rw [rows_update_same, rows_update_same, same]
  · rw [rows_update_other h, rows_update_other h, same]

/-! ## Fingerprints of series -/

/-- No two series of a family have one fingerprint. -/
def Distinct (m : Metrics) : Prop :=
  m.series.Pairwise fun s s' => s.family = s'.family → fingerprint s.labels ≠ fingerprint s'.labels

theorem distinct_update (distinct : m.Distinct) : (m.update f labels g).Distinct := by
  rw [update_eq]
  split
  · exact List.pairwise_map.mpr (by simpa [Distinct] using distinct)
  · next missing =>
      refine List.pairwise_append.mpr ⟨distinct, List.pairwise_singleton _ _, fun s hs s' hs' => ?_⟩
      obtain rfl := List.mem_singleton.mp hs'
      simp only [List.any_eq_true, not_exists, not_and, Bool.not_eq_true] at missing
      simpa [Series.isAt] using missing s hs

theorem value?_of_mem (distinct : m.Distinct) (hs : s ∈ m.series) : m.value? s.family s.labels = some s.value := by
  unfold Distinct at distinct
  unfold value?
  generalize m.series = series at *
  induction series with
  | nil => cases hs
  | cons s' series ih =>
      obtain ⟨here, later⟩ := List.pairwise_cons.mp distinct
      rcases List.mem_cons.mp hs with rfl | hs
      · have own : s.isAt s.family s.labels = true := by simp [Series.isAt]
        simp only [List.find?_cons, own, Option.map_some]
      · have other : s'.isAt s.family s.labels = false := by simpa [Series.isAt] using here s hs
        simp only [List.find?_cons, other]
        exact ih later hs

theorem exists_of_value? (h : m.value? f labels = some v) :
    ∃ s ∈ m.series, s.family = f ∧ fingerprint s.labels = fingerprint labels ∧ s.value = v := by
  obtain ⟨s, found, rfl⟩ := Option.map_eq_some_iff.mp h
  have at_ : s.isAt f labels = true := List.find?_some (p := fun s : Series => s.isAt f labels) found
  simp only [Series.isAt, Bool.and_eq_true, decide_eq_true_eq] at at_
  exact ⟨s, List.mem_of_find?_eq_some found, at_.1, at_.2, rfl⟩

end BridgeRelay.Metrics
