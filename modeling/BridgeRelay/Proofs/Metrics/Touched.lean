import BridgeRelay.Proofs.Metrics.Gauges
import Mathlib.Data.List.Dedup
import Mathlib.Data.List.Flatten

/-!
# Touched gauges

A gauge that is only touched has the value zero. Touching gauges of domains adds those that were missing, and to the text
one line for each of them, below the description of their family.
-/

namespace BridgeRelay.Metrics

variable {m m' : Metrics} {f f' : Family} {labels : Labels} {g : Int → Int} {s : Series} {d d' : DomainId}

/-! ## Untouched gauges -/

/-- The gauges of domains that nothing has touched, at zero. -/
def untouched (m : Metrics) (ds : List DomainId) : List Series :=
  gauges.flatMap fun f => (ds.dedup.filter fun d => m.value? f [toString d] = none).map fun d => ⟨f, [toString d], 0⟩

/-- The registry in which every gauge of domains has been touched. -/
def filled (m : Metrics) (ds : List DomainId) : Metrics := { m with series := m.series ++ m.untouched ds }

variable {ds : List DomainId}

theorem mem_untouched_iff : s ∈ m.untouched ds ↔
    ∃ f ∈ gauges, ∃ d ∈ ds, m.value? f [toString d] = none ∧ s = ⟨f, [toString d], 0⟩ := by
  simp only [untouched, List.mem_flatMap, List.mem_map, List.mem_filter, List.mem_dedup, decide_eq_true_eq, and_assoc,
    eq_comm (b := s)]

theorem filled_nil : m.filled [] = m := by simp [filled, untouched, gauges]

theorem value?_filled (h : f ∈ gauges) : (m.filled ds).value? f [toString d] =
    (m.value? f [toString d]).or (if d ∈ ds then some 0 else none) := by
  rw [value?, filled, List.find?_append, Option.map_or, ← value?]
  cases unset : m.value? f [toString d] with
  | some v => rfl
  | none =>
      simp only [Option.none_or]
      split
      · next among =>
          have new : ⟨f, [toString d], 0⟩ ∈ m.untouched ds := mem_untouched_iff.mpr ⟨f, h, d, among, unset, rfl⟩
          have here : Series.isAt ⟨f, [toString d], 0⟩ f [toString d] = true := by simp [Series.isAt]
          obtain ⟨s, found⟩ := Option.isSome_iff_exists.mp
            ((List.find?_isSome (p := fun s : Series => s.isAt f [toString d])).mpr ⟨_, new, here⟩)
          obtain ⟨f', -, d', -, -, rfl⟩ := mem_untouched_iff.mp (List.mem_of_find?_eq_some found)
          rw [found]
          rfl
      · next absent =>
          rw [List.find?_eq_none.mpr, Option.map_none]
          intro s hs meant
          obtain ⟨f', -, d', among, -, rfl⟩ := mem_untouched_iff.mp hs
          simp only [Series.isAt, Bool.and_eq_true, decide_eq_true_eq, domain_label_inj] at meant
          exact absent (meant.2 ▸ among)

theorem rows_filled (h : f ∉ gauges) : (m.filled ds).rows f = m.rows f := by
  have none : (m.untouched ds).filter (fun s => s.family = f) = [] := by
    rw [List.filter_eq_nil_iff]
    intro s hs
    obtain ⟨f', hf', d, -, -, rfl⟩ := mem_untouched_iff.mp hs
    simpa using fun same : f' = f => h (same ▸ hf')
  rw [rows, filled, List.filter_append, none, List.append_nil]
  rfl

/-- A gauge that is touched at zero still has no value but zero. -/
theorem getD_value?_filled (h : f ∈ gauges) :
    ((m.filled ds).value? f [toString d]).getD 0 = (m.value? f [toString d]).getD 0 := by
  rw [value?_filled h]
  cases m.value? f [toString d] with
  | some v => rfl
  | none => split <;> rfl

theorem Alike.filled (alike : m.Alike m') (ds : List DomainId) : (m.filled ds).Alike (m'.filled ds) :=
  ⟨alike.up, fun f h => by rw [rows_filled h, rows_filled h, alike.rows f h],
    fun f h d => by rw [value?_filled h, value?_filled h, alike.values f h d]⟩

/-- Touching more gauges at once is touching them all. -/
theorem alike_filled_filled {ds' : List DomainId} (sub : ds' ⊆ ds) : ((m.filled ds').filled ds).Alike (m.filled ds) := by
  refine ⟨rfl, fun f h => by rw [rows_filled h, rows_filled h, rows_filled h], fun f h d => ?_⟩
  rw [value?_filled h, value?_filled h, value?_filled h, Option.or_assoc]
  by_cases among : d ∈ ds'
  · simp [among, sub among]
  · simp [among]

/-- Updates and touching commute. -/
theorem alike_update_filled (h : f ∈ gauges → ∃ d : DomainId, labels = [toString d]) :
    ((m.filled ds).update f labels g).Alike ((m.update f labels g).filled ds) := by
  refine ⟨by simp [Metrics.filled], fun f' counter => ?_, fun f' hf' d' => ?_⟩
  · rw [rows_filled counter]
    exact rows_update_congr (rows_filled counter)
  · rw [value?_filled hf']
    by_cases gauge : f ∈ gauges
    · obtain ⟨d, rfl⟩ := h gauge
      rw [value?_update_gauge, value?_update_gauge, getD_value?_filled hf']
      split
      · rfl
      · exact value?_filled hf'
    · have other : f ≠ f' := fun same => gauge (same ▸ hf')
      rw [value?_update_other (absurd · other), value?_update_other (absurd · other), value?_filled hf']

theorem Regular.filled (regular : m.Regular) (ds : List DomainId) : (m.filled ds).Regular := by
  refine ⟨List.pairwise_append.mpr ⟨regular.distinct, ?_, ?_⟩, ?_⟩
  · refine List.pairwise_flatMap.mpr ⟨fun f _ => List.pairwise_map.mpr ?_, ?_⟩
    · exact (ds.nodup_dedup.filter _).imp fun other _ same => other (domain_label_inj.mp same)
    · have families : gauges.Pairwise (· ≠ ·) := by decide
      refine families.imp fun other s hs s' hs' family => ?_
      obtain ⟨d, -, rfl⟩ := List.mem_map.mp hs
      obtain ⟨d', -, rfl⟩ := List.mem_map.mp hs'
      exact absurd family other
  · intro s hs s' hs' family same
    obtain ⟨f, hf, d, -, unset, rfl⟩ := mem_untouched_iff.mp hs'
    obtain rfl : s.family = f := family
    obtain ⟨d', labels⟩ := regular.labelled s hs hf
    rw [labels, domain_label_inj] at same
    rw [← same, ← labels, value?_of_mem regular.distinct hs] at unset
    cases unset
  · intro s hs gauge
    rcases List.mem_append.mp hs with hs | hs
    · exact regular.labelled s hs gauge
    · obtain ⟨f, -, d, -, -, rfl⟩ := mem_untouched_iff.mp hs
      exact ⟨d, rfl⟩


/-! ## Text -/

/-- The line of a series. -/
def Series.text (s : Series) : String := line s.family.description.name s.row.1 s.row.2

/-- The description of a family that has series only after touching. -/
def newHead (m : Metrics) (ds : List DomainId) (f : Family) : List String :=
  if m.rows f = [] ∧ (m.filled ds).rows f ≠ [] then headLines f.description else []

/-- A gauge that is only touched has a line with the value zero. -/
theorem text_of_untouched (hs : s ∈ m.untouched ds) : ∃ f ∈ gauges, ∃ d ∈ ds, m.value? f [toString d] = none ∧
    s.text = line f.description.name [("chain", toString d)] 0 := by
  obtain ⟨f, h, d, among, unset, rfl⟩ := mem_untouched_iff.mp hs
  refine ⟨f, h, d, among, unset, ?_⟩
  rw [Series.text, Series.row, pairs_gauge h]

theorem rows_filled_eq (ds : List DomainId) :
    (m.filled ds).rows f = m.rows f ++ (m.untouched ds).filter fun s => s.family = f := List.filter_append ..

theorem flatMap_untouched (ds : List DomainId) :
    families.flatMap (fun f => (m.untouched ds).filter fun s => s.family = f) = m.untouched ds := by
  simp [families, untouched, gauges, List.filter_map, Function.comp_def]

theorem familyLines_perm (some : m.rows f ≠ []) :
    (m.familyLines f).Perm (headLines f.description ++ (m.rows f).map Series.text) := by
  have texts : (m.rows f).map Series.text = ((m.rows f).map Series.row).map fun row =>
      line f.description.name row.1 row.2 := by
    rw [List.map_map]
    refine List.map_congr_left fun s hs => ?_
    obtain rfl := family_of_mem_rows hs
    rfl
  rw [familyLines_eq, if_neg some, texts]
  exact .append_left _ ((List.mergeSort_perm _ _).map _)

/-- What touching adds to the lines of a family. -/
theorem familyLines_filled_perm (ds : List DomainId) : ((m.filled ds).familyLines f).Perm (m.familyLines f ++
    (m.newHead ds f ++ ((m.untouched ds).filter fun s => s.family = f).map Series.text)) := by
  have after := rows_filled_eq (m := m) (f := f) ds
  by_cases none : m.rows f = []
  · have before : m.familyLines f = [] := by rw [familyLines_eq, if_pos none]
    rw [none, List.nil_append] at after
    rw [before, List.nil_append, ← after, newHead]
    by_cases some : (m.filled ds).rows f = []
    · simp [familyLines_eq, some]
    · rw [if_pos ⟨none, some⟩]
      exact familyLines_perm some
  · have some : (m.filled ds).rows f ≠ [] := by simp [after, none]
    rw [newHead, if_neg (absurd ·.1 none), List.nil_append]
    refine (familyLines_perm some).trans ?_
    rw [after, List.map_append, ← List.append_assoc]
    exact (familyLines_perm none).symm.append_right _

/-- Sorting more rows keeps the order of those that were there. -/
theorem mergeSort_sublist_append {rows new : List (List (String × String) × Int)}
    (keys : ∀ a ∈ rows ++ new, ∀ b ∈ rows ++ new, a.1.map Prod.snd = b.1.map Prod.snd → a = b) :
    (rows.mergeSort fun a b => valuesLE a.1 b.1).Sublist ((rows ++ new).mergeSort fun a b => valuesLE a.1 b.1) := by
  rw [mergeSort_rows_eq ((List.mergeSort_perm rows _).symm.append_right new) keys]
  refine @List.sublist_mergeSort _ (fun a b : List (String × String) × Int => valuesLE a.1 b.1) _ ?_ ?_ _
    (sorted_rows rows) (List.sublist_append_left ..)
  · exact fun _ _ _ => valuesLE_trans
  · exact fun a b => valuesLE_total a.1 b.1

theorem familyLines_sublist (regular : m.Regular) (ds : List DomainId) :
    (m.familyLines f).Sublist ((m.filled ds).familyLines f) := by
  by_cases h : f ∈ gauges
  · by_cases none : m.rows f = []
    · simp [familyLines_eq, none]
    · have some : (m.filled ds).rows f ≠ [] := by simp [rows_filled_eq, none]
      have keys := (regular.filled ds).row_inj h
      rw [familyLines_eq, if_neg none, familyLines_eq, if_neg some]
      rw [rows_filled_eq, List.map_append] at keys ⊢
      exact .append_left (.map _ (mergeSort_sublist_append keys)) _
  · rw [familyLines_of_rows (rows_filled h)]

theorem lines_perm (m : Metrics) : m.lines.Perm (families.flatMap m.familyLines ++
    (headLines upDescription ++ [line upDescription.name [] m.up])) := by
  simp only [lines, List.partition_eq_filter_filter]
  rw [List.append_assoc _ (headLines upDescription), List.append_assoc]
  refine (List.perm_append_comm.append_left _).trans ?_
  rw [← List.append_assoc, ← List.flatMap_append]
  exact ((List.filter_append_perm _ families).flatMap_right _).append_right _

/-- Touching gauges adds one line for each gauge that was untouched, and describes the families that are new. All other
lines stay as they are, in their order. -/
theorem lines_filled (regular : m.Regular) (ds : List DomainId) : m.lines.Sublist (m.filled ds).lines ∧
    (m.filled ds).lines.Perm
      (m.lines ++ (families.flatMap (m.newHead ds) ++ (m.untouched ds).map Series.text)) := by
  constructor
  · have kept (l : List Family) : (l.flatMap m.familyLines).Sublist (l.flatMap (m.filled ds).familyLines) :=
      .flatMap_right l fun f _ => familyLines_sublist regular ds
    simp only [lines, List.partition_eq_filter_filter]
    exact (((kept _).append_right _).append_right _).append (kept _)
  · have added : (families.flatMap fun f => m.newHead ds f ++
        ((m.untouched ds).filter fun s => s.family = f).map Series.text).Perm
          (families.flatMap (m.newHead ds) ++ (m.untouched ds).map Series.text) := by
      refine (List.flatMap_append_perm ..).symm.trans ?_
      rw [← List.map_flatMap, flatMap_untouched]
    have grown : (families.flatMap (m.filled ds).familyLines).Perm (families.flatMap m.familyLines ++
        (families.flatMap (m.newHead ds) ++ (m.untouched ds).map Series.text)) := by
      refine (List.Perm.flatMap_left _ fun f _ => familyLines_filled_perm ds).trans ?_
      exact (List.flatMap_append_perm ..).symm.trans (added.append_left _)
    refine (lines_perm _).trans ((grown.append_right _).trans (.trans ?_ ((lines_perm m).symm.append_right _)))
    exact (List.Perm.of_eq (List.append_assoc ..)).trans
      ((List.perm_append_comm.append_left _).trans (.of_eq (List.append_assoc ..).symm))

end BridgeRelay.Metrics
