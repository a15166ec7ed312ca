import BridgeRelay.Proofs.Metrics.Fingerprint
import BridgeRelay.Proofs.Metrics.Series
import BridgeRelay.RelayError
import Mathlib.Data.List.ProdSigma

/-!
# The counters of errors

Each kind of error of each domain has a series of its own: the fingerprints of their label values are different. So such a
series counts exactly the errors of that domain and kind.
-/

namespace BridgeRelay.Metrics

variable {m : Metrics} {labels : Labels} {u : Update}

/-! ## Counted errors -/

/-- Whether an update counts an error in the series of label values. -/
def Update.errors (labels : Labels) : Update → Nat
  | .error d kind => if fingerprint [toString d, kind] = fingerprint labels then 1 else 0
  | _ => 0

theorem errors_record : (m.record u).get .errors labels = m.get .errors labels + u.errors labels := by
  cases u with
  | error d kind =>
      by_cases same : fingerprint [toString d, kind] = fingerprint labels
      · simp [record, Update.errors, same, get_update_same]
      · simp [record, Update.errors, same, get_update_other]
  | up v => simp [record, Update.errors, get]
  | _ => simp [record, Update.errors, get_update_other]

theorem errors_records (us : List Update) :
    (us.foldl record m).get .errors labels = m.get .errors labels + (us.map (·.errors labels)).sum := by
  induction us generalizing m with
  | nil => simp
  | cons u us ih => simp [ih, errors_record, add_assoc]

/-! ## Fingerprints -/

/-- The kinds of errors. -/
def errorKinds : List String :=
  ["transient_network", "configuration", "encoding", "exhausted_retries", "store", "malformed_event", "unfinished_proposal"]

theorem kind_mem (e : RelayError) : e.kind ∈ errorKinds := by
  cases e <;> simp [RelayError.kind, errorKinds]

/-- The fingerprints of all domains and kinds, with those of the domains computed once. -/
def errorPrints : List Nat :=
  let fronts := (List.range 256).map front
  errorKinds.flatMap fun kind => fronts.map fun n => (bytesOf kind).foldl absorbed n

theorem distinct_errorPrints : distinct 64 errorPrints = true := by
  decide +kernel

theorem nodup_errorPrints :
    ((errorKinds ×ˢ List.range 256).map fun p => (bytesOf p.1).foldl absorbed (front p.2)).Nodup := by
  have same : (errorKinds ×ˢ List.range 256).map (fun p => (bytesOf p.1).foldl absorbed (front p.2)) = errorPrints := by
    simp only [SProd.sprod, List.product, List.map_flatMap, List.map_map, errorPrints]
    rfl
  exact same ▸ nodup_of_distinct distinct_errorPrints

/-- The errors of a domain and a kind have a series of their own. -/
theorem error_labels_inj {d d' : DomainId} {e e' : RelayError} :
    fingerprint [toString d, e.kind] = fingerprint [toString d', e'.kind] ↔ d = d' ∧ e.kind = e'.kind := by
  constructor
  · intro same
    have known (d : DomainId) (e : RelayError) : (e.kind, d.toNat) ∈ errorKinds ×ˢ List.range 256 :=
      List.mem_product.mpr ⟨kind_mem e, List.mem_range.mpr d.toNat_lt⟩
    have prints : (bytesOf e.kind).foldl absorbed (front d.toNat) = (bytesOf e'.kind).foldl absorbed (front d'.toNat) := by
      rw [← toNat_fingerprint, ← toNat_fingerprint, same]
    have pair := List.inj_on_of_nodup_map nodup_errorPrints (known d e) (known d' e') prints
    obtain ⟨kind, domain⟩ := Prod.mk.inj pair
    exact ⟨UInt8.toNat_inj.mp domain, kind⟩
  · rintro ⟨rfl, kind⟩
    rw [kind]

end BridgeRelay.Metrics
