import BridgeRelay.Metrics.Exposition
import BridgeRelay.Proofs.Metrics.Fingerprint
import BridgeRelay.Proofs.Metrics.Series

/-!
# Gauges

The gauges of a registry are those of domains, and the values that they have determine their part of the text: it is
sorted by domain, whatever the order of their first touch.
-/

namespace BridgeRelay.Metrics

variable {m m' : Metrics} {f f' : Family} {labels labels' : Labels} {g : Int → Int} {s : Series} {u : Update}
  {d d' : DomainId} {v : Int}

/-! ## Order of rows -/

theorem valuesLE_trans {a b c : List (String × String)} (hab : valuesLE a b = true) (hbc : valuesLE b c = true) :
    valuesLE a c = true := by
  induction a generalizing b c with
  | nil => simp [valuesLE]
  | cons x a ih =>
      cases b with
      | nil => simp [valuesLE] at hab
      | cons y b =>
          cases c with
          | nil => simp [valuesLE] at hbc
          | cons z c =>
              simp only [valuesLE] at *
              grind

theorem valuesLE_total (a b : List (String × String)) : (valuesLE a b || valuesLE b a) = true := by
  induction a generalizing b with
  | nil => simp [valuesLE]
  | cons x a ih =>
      cases b with
      | nil => simp [valuesLE]
      | cons y b =>
          have := ih b
          simp only [valuesLE] at *
          grind

theorem values_eq_of_valuesLE {a b : List (String × String)} (hab : valuesLE a b = true) (hba : valuesLE b a = true) :
    a.map Prod.snd = b.map Prod.snd := by
  induction a generalizing b with
  | nil =>
      cases b with
      | nil => rfl
      | cons y b => simp [valuesLE] at hba
  | cons x a ih =>
      cases b with
      | nil => simp [valuesLE] at hab
      | cons y b =>
          simp only [valuesLE] at *
          grind

theorem sorted_rows (rows : List (List (String × String) × Int)) :
    (rows.mergeSort fun a b => valuesLE a.1 b.1).Pairwise fun a b => valuesLE a.1 b.1 = true :=
  @List.pairwise_mergeSort _ (fun a b => valuesLE a.1 b.1) (fun _ _ _ => valuesLE_trans)
    (fun a b => valuesLE_total a.1 b.1) rows

/-- Rows that differ in the values of their labels have one order. -/
theorem mergeSort_rows_eq {rows rows' : List (List (String × String) × Int)} (perm : rows.Perm rows')
    (keys : ∀ a ∈ rows, ∀ b ∈ rows, a.1.map Prod.snd = b.1.map Prod.snd → a = b) :
    (rows.mergeSort fun a b => valuesLE a.1 b.1) = rows'.mergeSort fun a b => valuesLE a.1 b.1 := by
  refine List.Perm.eq_of_pairwise (fun a b ha hb hab hba => ?_) (sorted_rows rows) (sorted_rows rows') ?_
  · have ha := List.mem_mergeSort.mp ha
    have hb := perm.mem_iff.mpr (List.mem_mergeSort.mp hb)
    exact keys a ha b hb (values_eq_of_valuesLE hab hba)
  · exact (List.mergeSort_perm rows _).trans (perm.trans (List.mergeSort_perm rows' _).symm)

/-! ## Registries with gauges -/

/-- The families of gauges. -/
def gauges : List Family := [.lastCheckpoint, .latestBlock]

/-- Gauges are labelled by domain, and each series has a fingerprint of its own. -/
structure Regular (m : Metrics) : Prop where
  distinct : m.Distinct
  labelled : ∀ s ∈ m.series, s.family ∈ gauges → ∃ d : DomainId, s.labels = [toString d]

theorem regular_empty : Regular {} := ⟨.nil, nofun⟩

theorem Regular.update (regular : m.Regular) (h : f ∈ gauges → ∃ d : DomainId, labels = [toString d]) :
    (m.update f labels g).Regular := by
  refine ⟨distinct_update regular.distinct, ?_⟩
  rw [update_eq]
  split
  · simpa using regular.labelled
  · intro s hs
    rcases List.mem_append.mp hs with hs | hs
    · exact regular.labelled s hs
    · obtain rfl := List.mem_singleton.mp hs
      exact h

theorem Update.labelled_of_place (place : u.place = some (f, labels)) (h : f ∈ gauges) :
    ∃ d : DomainId, labels = [toString d] := by
  cases u <;> cases place <;> first | exact ⟨_, rfl⟩ | simp [gauges] at h

theorem Regular.record (regular : m.Regular) (u : Update) : (m.record u).Regular := by
  cases place : u.place with
  | none =>
      cases u with
      | up v => exact ⟨regular.distinct, regular.labelled⟩
      | _ => cases place
  | some at_ =>
      rw [record_of_place place]
      exact regular.update (Update.labelled_of_place place)

/-! ## Values of gauges -/

theorem value?_update_gauge : (m.update f [toString d] g).value? f' [toString d'] =
    if f = f' ∧ d = d' then some (g ((m.value? f' [toString d']).getD 0)) else m.value? f' [toString d'] := by
  split
  · next same =>
      obtain ⟨rfl, rfl⟩ := same
      exact value?_update_same rfl
  · next other => exact value?_update_other fun family same => other ⟨family, domain_label_inj.mp same⟩

/-- The series of a gauge are its domains with their values. -/
theorem Regular.mem_rows_iff (regular : m.Regular) (h : f ∈ gauges) :
    s ∈ m.rows f ↔ ∃ d : DomainId, ∃ v, s = ⟨f, [toString d], v⟩ ∧ m.value? f [toString d] = some v := by
  simp only [rows, List.mem_filter, decide_eq_true_eq]
  constructor
  · rintro ⟨hs, rfl⟩
    obtain ⟨d, hd⟩ := regular.labelled s hs h
    exact ⟨d, s.value, by rw [← hd], hd ▸ value?_of_mem regular.distinct hs⟩
  · rintro ⟨d, v, rfl, value⟩
    obtain ⟨s, hs, rfl, same, rfl⟩ := exists_of_value? value
    obtain ⟨d', hd'⟩ := regular.labelled s hs h
    rw [hd', domain_label_inj] at same
    rw [← same, ← hd']
    exact ⟨hs, rfl⟩

theorem Distinct.nodup (distinct : m.Distinct) : m.series.Nodup :=
  distinct.imp fun apart same => apart (congrArg Series.family same) (congrArg (fingerprint ∘ Series.labels) same)

/-- Registries in which the gauge has the same values have the same series of it, in some order. -/
theorem Regular.rows_perm (regular : m.Regular) (regular' : m'.Regular) (h : f ∈ gauges)
    (values : ∀ d : DomainId, m.value? f [toString d] = m'.value? f [toString d]) : (m.rows f).Perm (m'.rows f) := by
  have nodup := regular.distinct.nodup.filter fun s => s.family = f
  have nodup' := regular'.distinct.nodup.filter fun s => s.family = f
  refine (List.perm_ext_iff_of_nodup nodup nodup').mpr fun s => ?_
  refine (regular.mem_rows_iff h).trans (Iff.trans ?_ (regular'.mem_rows_iff h).symm)
  simp only [values]

/-! ## Text -/

theorem pairs_gauge (h : f ∈ gauges) (x : String) : f.description.pairs [x] = [("chain", x)] := by
  simp only [gauges, List.mem_cons, List.not_mem_nil, or_false] at h
  rcases h with rfl | rfl <;> simp [Family.description, Description.pairs]

/-- The names and values of the labels of a series, with its value. -/
def Series.row (s : Series) : List (String × String) × Int := (s.family.description.pairs s.labels, s.value)

theorem familyLines_eq : m.familyLines f = if m.rows f = [] then [] else headLines f.description ++
    (((m.rows f).map Series.row).mergeSort fun a b => valuesLE a.1 b.1).map fun row =>
      line f.description.name row.1 row.2 := by
  have rows : (m.rows f).map (fun s => (f.description.pairs s.labels, s.value)) = (m.rows f).map Series.row := by
    refine List.map_congr_left fun s hs => ?_
    obtain rfl := family_of_mem_rows hs
    rfl
  rw [familyLines, ← Metrics.rows, rows]
  simp only [List.isEmpty_map, List.isEmpty_iff]

theorem familyLines_of_rows (same : m.rows f = m'.rows f) : m.familyLines f = m'.familyLines f := by
  rw [familyLines_eq, familyLines_eq, same]

/-- The rows of a gauge differ in the values of their labels. -/
theorem Regular.row_inj (regular : m.Regular) (h : f ∈ gauges) :
    ∀ a ∈ (m.rows f).map Series.row, ∀ b ∈ (m.rows f).map Series.row,
      a.1.map Prod.snd = b.1.map Prod.snd → a = b := by
  simp only [List.forall_mem_map]
  intro s hs s' hs' same
  obtain ⟨d, v, rfl, value⟩ := (regular.mem_rows_iff h).mp hs
  obtain ⟨d', v', rfl, value'⟩ := (regular.mem_rows_iff h).mp hs'
  simp only [Series.row, pairs_gauge h, List.map_cons, List.map_nil, List.cons.injEq, and_true, toString_inj] at same
  subst same
  rw [Option.some.inj (value.symm.trans value')]

theorem Regular.familyLines_eq (regular : m.Regular) (regular' : m'.Regular) (h : f ∈ gauges)
    (values : ∀ d : DomainId, m.value? f [toString d] = m'.value? f [toString d]) :
    m.familyLines f = m'.familyLines f := by
  have perm := regular.rows_perm regular' h values
  have sorted := mergeSort_rows_eq (perm.map Series.row) (regular.row_inj h)
  have empty : m.rows f = [] ↔ m'.rows f = [] := by rw [← List.isEmpty_iff, ← List.isEmpty_iff, perm.isEmpty_eq]
  simp only [Metrics.familyLines_eq, sorted, empty]

/-! ## Likeness -/

/-- Differ at most in the order in which gauges were touched first. -/
structure Alike (m m' : Metrics) : Prop where
  up : m.up = m'.up
  rows : ∀ f, f ∉ gauges → m.rows f = m'.rows f
  values : ∀ f ∈ gauges, ∀ d : DomainId, m.value? f [toString d] = m'.value? f [toString d]

namespace Alike

theorem refl (m : Metrics) : m.Alike m := ⟨rfl, fun _ _ => rfl, fun _ _ _ => rfl⟩

theorem trans {m'' : Metrics} (alike : m.Alike m') (alike' : m'.Alike m'') : m.Alike m'' :=
  ⟨alike.up.trans alike'.up, fun f h => (alike.rows f h).trans (alike'.rows f h),
    fun f h d => (alike.values f h d).trans (alike'.values f h d)⟩

theorem update_gauge (alike : m.Alike m') : (m.update f [toString d] g).Alike (m'.update f [toString d] g) := by
  refine ⟨by simpa using alike.up, fun f' counter => rows_update_congr (alike.rows f' counter), fun f' h d' => ?_⟩
  rw [value?_update_gauge, value?_update_gauge, alike.values f' h d']

theorem update_counter (alike : m.Alike m') (h : f ∉ gauges) : (m.update f labels g).Alike (m'.update f labels g) := by
  refine ⟨by simpa using alike.up, fun f' counter => rows_update_congr (alike.rows f' counter), fun f' hf' d => ?_⟩
  have other : f ≠ f' := fun same => h (same ▸ hf')
  rw [value?_update_other (absurd · other), value?_update_other (absurd · other), alike.values f' hf' d]

theorem record (alike : m.Alike m') (u : Update) : (m.record u).Alike (m'.record u) := by
  cases place : u.place with
  | none =>
      cases u with
      | up v => exact ⟨rfl, alike.rows, alike.values⟩
      | _ => cases place
  | some at_ =>
      obtain ⟨f, labels⟩ := at_
      rw [record_of_place place, record_of_place place]
      by_cases h : f ∈ gauges
      · obtain ⟨d, rfl⟩ := Update.labelled_of_place place h
        exact alike.update_gauge
      · exact alike.update_counter h

theorem get_eq (alike : m.Alike m') (h : f ∈ gauges) : m.get f [toString d] = m'.get f [toString d] := by
  rw [Metrics.get_eq, Metrics.get_eq, alike.values f h d]

/-- Registries that are alike have the same lines. -/
theorem lines_eq (alike : m.Alike m') (regular : m.Regular) (regular' : m'.Regular) : m.lines = m'.lines := by
  have families : m.familyLines = m'.familyLines := funext fun f => by
    by_cases h : f ∈ gauges
    · exact regular.familyLines_eq regular' h (alike.values f h)
    · exact familyLines_of_rows (alike.rows f h)
  rw [lines, lines, families, alike.up]

theorem exposition_eq (alike : m.Alike m') (regular : m.Regular) (regular' : m'.Regular) :
    m.exposition = m'.exposition := by
  rw [exposition, exposition, alike.lines_eq regular regular']

end Alike

end BridgeRelay.Metrics
