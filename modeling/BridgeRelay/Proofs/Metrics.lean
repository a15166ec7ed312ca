import BridgeRelay.Metrics
import BridgeRelay.Proofs.Text.Numeral
import Mathlib.Algebra.BigOperators.Group.List.Basic
import Mathlib.Algebra.GroupWithZero.Nat
import Mathlib.Algebra.Ring.Int.Defs
import Mathlib.Data.List.Nodup

/-!
# What the counters of a source add up to

A registry knows its series by fingerprints. As long as these tell apart the label values that are in use, each update
changes exactly the series that it means, so the counters of a source add up to what was counted of it.
-/

namespace BridgeRelay.Metrics

variable {used : Family → Labels → Prop} {m : Metrics} {f f' : Family} {labels : Labels} {d : DomainId}
  {g : Int → Int} {s : Series} {u : Update}

/-! ## Label values in use -/

/-- The family and the label values of an update. The value that tells whether the relay runs has none. -/
def Update.place : Update → Option (Family × Labels)
  | .depositDetected d => some (.depositsDetected, [toString d])
  | .messageRouted s d => some (.messagesRouted, [toString s, toString d])
  | .messageDropped d reason => some (.messagesDropped, [toString d, reason])
  | .voteSubmitted d => some (.votesSubmitted, [toString d])
  | .executionSubmitted d => some (.executionsSubmitted, [toString d])
  | .txRetry d c => some (.txRetries, [toString d, c])
  | .error d kind => some (.errors, [toString d, kind])
  | .checkpoint d _ => some (.lastCheckpoint, [toString d])
  | .latestBlock d _ => some (.latestBlock, [toString d])
  | .up _ => none

/-- What an update makes of a value. -/
def Update.change : Update → Int → Int
  | .checkpoint _ h | .latestBlock _ h => fun _ => signed h
  | _ => (· + 1)

theorem record_of_place (place : u.place = some (f, labels)) : m.record u = m.update f labels u.change := by
  cases u <;> cases place <;> rfl

/-- The label values of an update are among those in use. -/
def Update.Uses (used : Family → Labels → Prop) (u : Update) : Prop := ∀ f labels, u.place = some (f, labels) → used f labels

/-- Fingerprints tell apart the label values in use. -/
def Apart (used : Family → Labels → Prop) : Prop :=
  ∀ f labels labels', used f labels → used f labels' → fingerprint labels = fingerprint labels' → labels = labels'

/-- The labels of all series are among those in use, and no two series have the same. -/
structure Plain (used : Family → Labels → Prop) (m : Metrics) : Prop where
  used : ∀ s ∈ m.series, used s.family s.labels
  once : (m.series.map fun s => (s.family, s.labels)).Nodup

theorem plain_empty : Plain used {} := ⟨by simp, by simp⟩

theorem isAt_iff (apart : Apart used) (hs : used s.family s.labels) (h : used f labels) :
    s.isAt f labels = true ↔ (s.family, s.labels) = (f, labels) := by
  simp only [Series.isAt, Bool.and_eq_true, decide_eq_true_eq, Prod.mk.injEq]
  constructor
  · rintro ⟨rfl, same⟩
    exact ⟨rfl, apart _ _ _ hs h same⟩
  · rintro ⟨rfl, rfl⟩
    exact ⟨rfl, rfl⟩

/-- What an update makes of a series. -/
def Series.updated (f : Family) (labels : Labels) (g : Int → Int) (s : Series) : Series :=
  if s.isAt f labels then { s with value := g s.value } else s

@[simp] theorem updated_family : (s.updated f labels g).family = s.family := by
  unfold Series.updated
  split <;> rfl

@[simp] theorem updated_labels : (s.updated f labels g).labels = s.labels := by
  unfold Series.updated
  split <;> rfl

theorem update_eq : m.update f labels g =
    if m.series.any (·.isAt f labels) then { m with series := m.series.map (Series.updated f labels g) }
    else { m with series := m.series ++ [⟨f, labels, g 0⟩] } := rfl

theorem update_plain (apart : Apart used) (h : used f labels) (plain : m.Plain used) :
    (m.update f labels g).Plain used := by
  rw [update_eq]
  split
  · have keys : (m.series.map (Series.updated f labels g)).map (fun s => (s.family, s.labels)) =
        m.series.map fun s => (s.family, s.labels) := by simp
    refine ⟨?_, ?_⟩
    · simpa using fun s hs => plain.used s hs
    · exact keys ▸ plain.once
  · next none =>
      refine ⟨?_, ?_⟩
      · intro s hs
        rcases List.mem_append.mp hs with hs | hs
        · exact plain.used s hs
        · cases List.mem_singleton.mp hs
          exact h
      · have new : (f, labels) ∉ m.series.map fun s => (s.family, s.labels) := by
          intro old
          obtain ⟨s, hs, same⟩ := List.mem_map.mp old
          exact none (List.any_eq_true.mpr ⟨s, hs, (isAt_iff apart (plain.used s hs) h).mpr same⟩)
        simpa [List.nodup_append] using ⟨plain.once, fun s hs hf hl => new (List.mem_map.mpr ⟨s, hs, by rw [hf, hl]⟩)⟩

/-! ## Totals -/

/-- What a series adds to the total of a source in a family: its value, if its first label is the source. -/
def Series.share (f : Family) (d : DomainId) (s : Series) : Int :=
  if s.family = f ∧ s.labels.head? = some (toString d) then s.value else 0

/-- The sum of the series of a family over all labels of a source. -/
def total (m : Metrics) (f : Family) (d : DomainId) : Int := (m.series.map (·.share f d)).sum

theorem total_update_of_ne (h : f ≠ f') : (m.update f labels g).total f' d = m.total f' d := by
  have same (s : Series) : (s.updated f labels g).share f' d = s.share f' d := by
    unfold Series.updated
    split
    · next at_ =>
        have here : s.family ≠ f' := by
          simp only [Series.isAt, Bool.and_eq_true, decide_eq_true_eq] at at_
          exact at_.1 ▸ h
        simp [Series.share, here]
    · rfl
  rw [update_eq]
  split
  · simp [total, Function.comp_def, same]
  · simp [total, Series.share, h]

/-- In a registry where the series is found, one share grows by one, if the series is one of the source. -/
theorem sum_updated (apart : Apart used) (h : used f labels) {series : List Series}
    (within : ∀ s ∈ series, used s.family s.labels) (once : (series.map fun s => (s.family, s.labels)).Nodup)
    (found : series.any (·.isAt f labels) = true) :
    (series.map fun s => (s.updated f labels (· + 1)).share f d).sum =
      (series.map (·.share f d)).sum + if labels.head? = some (toString d) then 1 else 0 := by
  induction series with
  | nil => cases found
  | cons s series ih =>
      obtain ⟨here, within⟩ := List.forall_mem_cons.mp within
      obtain ⟨new, once⟩ := List.nodup_cons.mp once
      by_cases hs : s.isAt f labels = true
      · have key := (isAt_iff apart here h).mp hs
        -- no later series is changed
        have rest : series.map (fun s => (s.updated f labels (· + 1)).share f d) = series.map (·.share f d) := by
          refine List.map_congr_left fun s' hs' => ?_
          have other : ¬ s'.isAt f labels = true := fun same =>
            new (List.mem_map.mpr ⟨s', hs', ((isAt_iff apart (within s' hs') h).mp same).trans key.symm⟩)
          simp [Series.updated, other]
        have one : (s.updated f labels (· + 1)).share f d =
            s.share f d + if labels.head? = some (toString d) then 1 else 0 := by
          obtain ⟨rfl, rfl⟩ := Prod.mk.inj key
          simp only [Series.updated, if_pos hs, Series.share, true_and]
          split <;> rfl
        rw [List.map_cons, List.sum_cons, rest, one, List.map_cons, List.sum_cons]
        omega
      · have later : series.any (·.isAt f labels) = true := by simpa [hs] using found
        have same : s.updated f labels (· + 1) = s := if_neg hs
        rw [List.map_cons, List.sum_cons, ih within once later, same, List.map_cons, List.sum_cons]
        omega

theorem total_update (apart : Apart used) (h : used f labels) (plain : m.Plain used) :
    (m.update f labels (· + 1)).total f d = m.total f d + if labels.head? = some (toString d) then 1 else 0 := by
  rw [update_eq]
  split
  · next found => simpa [total, Function.comp_def] using sum_updated apart h plain.used plain.once found
  · simp [total, Series.share]

/-! ## What is counted of a source -/

/-- How many deposits of a source an update counts. -/
def Update.detections (d : DomainId) : Update → Nat
  | .depositDetected source => if source = d then 1 else 0
  | _ => 0

/-- How many messages of a source an update counts as routed or as dropped. -/
def Update.settlements (d : DomainId) : Update → Nat
  | .messageRouted source _ | .messageDropped source _ => if source = d then 1 else 0
  | _ => 0

/-- The deposits of a source that were detected. -/
def detected (m : Metrics) (d : DomainId) : Int := m.total .depositsDetected d

/-- The messages of a source that were routed or dropped, over all destinations and reasons. -/
def settled (m : Metrics) (d : DomainId) : Int := m.total .messagesRouted d + m.total .messagesDropped d

theorem toString_inj {d d' : DomainId} : toString d = toString d' ↔ d = d' := by
  constructor
  · intro h
    have digits : Nat.toDigits 10 d.toNat = Nat.toDigits 10 d'.toNat := String.ofList_inj.mp h
    exact UInt8.toNat_inj.mp (Text.toDigits_inj.mp digits)
  · rintro rfl
    rfl

theorem record_plain (apart : Apart used) (uses : u.Uses used) (plain : m.Plain used) : (m.record u).Plain used := by
  cases h : u.place with
  | none =>
      cases u with
      | up v => exact ⟨plain.used, plain.once⟩
      | _ => cases h
  | some place =>
      rw [record_of_place h]
      exact update_plain apart (uses _ _ h) plain

theorem detected_record (apart : Apart used) (uses : u.Uses used) (plain : m.Plain used) :
    (m.record u).detected d = m.detected d + u.detections d := by
  cases u with
  | depositDetected source =>
      simp [record, detected, total_update apart (uses _ _ rfl) plain, Update.detections, toString_inj,
        apply_ite (Nat.cast : Nat → Int)]
  | up v => simp [record, detected, total, Update.detections]
  | _ => simp [record, detected, total_update_of_ne, Update.detections]

theorem settled_record (apart : Apart used) (uses : u.Uses used) (plain : m.Plain used) :
    (m.record u).settled d = m.settled d + u.settlements d := by
  cases u with
  | messageRouted source destination =>
      simp [record, settled, total_update apart (uses _ _ rfl) plain, total_update_of_ne, Update.settlements,
        toString_inj, add_right_comm, apply_ite (Nat.cast : Nat → Int)]
  | messageDropped source reason =>
      simp [record, settled, total_update apart (uses _ _ rfl) plain, total_update_of_ne, Update.settlements,
        toString_inj, add_assoc, apply_ite (Nat.cast : Nat → Int)]
  | up v => simp [record, settled, total, Update.settlements]
  | _ => simp [record, settled, total_update_of_ne, Update.settlements]

end BridgeRelay.Metrics
