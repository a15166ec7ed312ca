import BridgeRelay.Health
import BridgeRelay.Proofs.Metrics.Touched
import Mathlib.Data.List.Induction

/-!
# What a look at the status pages leaves behind

Each chain that `/health` reports is read in two gauges, and a gauge that nothing has touched is there from then on, at
zero. That is all that requests leave behind: no count changes, and no later report of the chains.
-/

namespace BridgeRelay.Health

open Metrics

variable {m m' : Metrics} {d d' : DomainId} {ds : List DomainId} {f : Family} {method target : String}

/-! ## Reading chains -/

/-- The registry after a chain was read. -/
def look (m : Metrics) (d : DomainId) : Metrics :=
  ((m.touch .lastCheckpoint [toString d]).2.touch .latestBlock [toString d]).2

theorem chains_cons : chains m (d :: ds) =
    (⟨d, m.get .lastCheckpoint [toString d], m.get .latestBlock [toString d]⟩ :: (chains (look m d) ds).1,
      (chains (look m d) ds).2) := by
  have later : (m.touch .lastCheckpoint [toString d]).2.get .latestBlock [toString d] =
      m.get .latestBlock [toString d] := get_touch
  rw [← later]
  rfl

/-- What is reported are the values, whatever chains were read before. -/
theorem chains_eq_map : (chains m ds).1 =
    ds.map fun d => ⟨d, m.get .lastCheckpoint [toString d], m.get .latestBlock [toString d]⟩ := by
  induction ds generalizing m with
  | nil => rfl
  | cons d ds ih =>
      rw [chains_cons, ih, List.map_cons]
      simp only [look, get_touch]

theorem regular_chains (regular : m.Regular) : (chains m ds).2.Regular := by
  induction ds generalizing m with
  | nil => exact regular
  | cons d ds ih =>
      rw [chains_cons]
      exact ih ((regular.update fun _ => ⟨d, rfl⟩).update fun _ => ⟨d, rfl⟩)

theorem value?_look (h : f ∈ gauges) :
    (look m d).value? f [toString d'] = (m.value? f [toString d']).or (if d' = d then some 0 else none) := by
  simp only [gauges, List.mem_cons, List.not_mem_nil, or_false] at h
  rcases h with rfl | rfl
  all_goals
    simp only [look, touch, value?_update_gauge]
    by_cases same : d = d'
    · subst same
      cases m.value? _ [toString d] <;> simp
    · simp [same, Ne.symm same]

/-- Reading chains touches their gauges. -/
theorem alike_chains : (chains m ds).2.Alike (m.filled ds) := by
  induction ds generalizing m with
  | nil => exact filled_nil ▸ .refl m
  | cons d ds ih =>
      rw [chains_cons]
      refine ih.trans ⟨?_, fun f h => ?_, fun f h d' => ?_⟩
      · simp [filled, look, touch]
      · have checkpoint : Family.lastCheckpoint ≠ f := fun same => h (same ▸ by decide)
        have block : Family.latestBlock ≠ f := fun same => h (same ▸ by decide)
        rw [rows_filled h, rows_filled h, look, touch, touch, rows_update_other block, rows_update_other checkpoint]
      · rw [value?_filled h, value?_filled h, value?_look h, Option.or_assoc]
        by_cases here : d' = d <;> by_cases there : d' ∈ ds <;> simp [here, there]

/-! ## Histories -/

/-- What happens to a registry: something is counted, or a page is asked for. -/
inductive Event where
  | counted (u : Update)
  | asked (method target : String)

/-- Whether the chains are reported. -/
def Event.checks : Event → Bool
  | .counted _ => false
  | .asked method target => (method = "GET" || method = "HEAD") && pathOf target = "/health"

/-- What is counted, if something is. -/
def Event.update? : Event → Option Update
  | .counted u => some u
  | .asked .. => none

/-- The registry after an event. -/
def after (ds : List DomainId) (m : Metrics) : Event → Metrics
  | .counted u => m.record u
  | .asked method target => (respond m ds method target).2

/-- The registry after a history. -/
def run (ds : List DomainId) (h : List Event) : Metrics := h.foldl (after ds) {}

/-- The registry after a history in which nobody asked for a page. -/
def unasked (h : List Event) : Metrics := (h.filterMap Event.update?).foldl record {}

/-- The domains whose gauges have been read. -/
def checked (ds : List DomainId) (h : List Event) : List DomainId := if h.any Event.checks then ds else []

theorem after_asked :
    after ds m (.asked method target) = if (Event.asked method target).checks then (chains m ds).2 else m := by
  simp only [after, respond, page?, Event.checks]
  grind

/-! ## What a history leaves behind -/

theorem respond_congr (reported : (chains m ds).1 = (chains m' ds).1)
    (text : pathOf target = "/metrics" → m.exposition = m'.exposition) :
    (respond m ds method target).1 = (respond m' ds method target).1 := by
  simp only [respond, page?]
  grind

theorem reported_of_alike (alike : m.Alike m') : (chains m ds).1 = (chains m' ds).1 := by
  have checkpoint : Family.lastCheckpoint ∈ gauges := by decide
  have block : Family.latestBlock ∈ gauges := by decide
  simp only [chains_eq_map, alike.get_eq checkpoint, alike.get_eq block]

theorem reported_filled {ds' : List DomainId} : (chains (m.filled ds') ds).1 = (chains m ds).1 := by
  have checkpoint : Family.lastCheckpoint ∈ gauges := by decide
  have block : Family.latestBlock ∈ gauges := by decide
  simp only [chains_eq_map, get_eq, getD_value?_filled checkpoint, getD_value?_filled block]

/-- Counting and touching commute. -/
theorem alike_record_filled (u : Update) : ((m.filled ds).record u).Alike ((m.record u).filled ds) := by
  cases place : u.place with
  | none =>
      cases u with
      | up v => exact .refl _
      | _ => cases place
  | some at_ =>
      rw [record_of_place place, record_of_place place]
      exact alike_update_filled (Update.labelled_of_place place)

theorem regular_run (ds : List DomainId) (h : List Event) : (run ds h).Regular := by
  induction h using List.reverseRecOn with
  | nil => exact regular_empty
  | append_singleton h e ih =>
      rw [run, List.foldl_append, ← run, List.foldl_cons, List.foldl_nil]
      cases e with
      | counted u => exact ih.record u
      | asked method target =>
          rw [after_asked]
          split
          · exact regular_chains ih
          · exact ih

theorem unasked_concat (h : List Event) (e : Event) : unasked (h ++ [e]) =
    match e with
    | .counted u => (unasked h).record u
    | .asked .. => unasked h := by
  cases e <;> simp [unasked, Event.update?, List.filterMap_cons]

theorem regular_unasked (h : List Event) : (unasked h).Regular := by
  induction h using List.reverseRecOn with
  | nil => exact regular_empty
  | append_singleton h e ih =>
      rw [unasked_concat]
      cases e with
      | counted u => exact ih.record u
      | asked => exact ih

theorem run_alike (ds : List DomainId) (h : List Event) : (run ds h).Alike ((unasked h).filled (checked ds h)) := by
  induction h using List.reverseRecOn with
  | nil => exact filled_nil ▸ .refl _
  | append_singleton h e ih =>
      rw [run, List.foldl_append, ← run, List.foldl_cons, List.foldl_nil, unasked_concat]
      cases e with
      | counted u =>
          have before : checked ds (h ++ [.counted u]) = checked ds h := by simp [checked, Event.checks]
          rw [before]
          exact (ih.record u).trans (alike_record_filled u)
      | asked method target =>
          rw [after_asked]
          split
          · next checks =>
              have now : checked ds (h ++ [.asked method target]) = ds := by simp [checked, checks]
              have sub : checked ds h ⊆ ds := by
                unfold checked
                split <;> simp
              rw [now]
              exact alike_chains.trans ((ih.filled ds).trans (alike_filled_filled sub))
          · next other =>
              have before : checked ds (h ++ [.asked method target]) = checked ds h := by simp [checked, other]
              rw [before]
              exact ih

/-- The lines after a history are those without the requests, in their order, and those that touching the gauges of the
reported chains adds: a line with the value zero for each that nothing else has touched, and the description of a family
that has no other series. -/
theorem lines_run (ds : List DomainId) (h : List Event) : (unasked h).lines.Sublist (run ds h).lines ∧
    (run ds h).lines.Perm ((unasked h).lines ++ (families.flatMap ((unasked h).newHead (checked ds h)) ++
      ((unasked h).untouched (checked ds h)).map Series.text)) := by
  rw [(run_alike ds h).lines_eq (regular_run ds h) ((regular_unasked h).filled _)]
  exact lines_filled (regular_unasked h) (checked ds h)

/-! ## Main statement -/

/-- Requests at any points of a history change no later report of the chains, and no other page but `/metrics`. That page
is as if every gauge of the chains that a request reported had been touched at zero, so it is unchanged as long as no
chains were reported, and as soon as all their gauges have been set. -/
theorem requests_only_touch (ds : List DomainId) (h : List Event) (method target : String) :
    (respond (run ds h) ds method target).1 =
      (respond ((unasked h).filled (checked ds h)) ds method target).1 ∧
    (pathOf target ≠ "/metrics" → (respond (run ds h) ds method target).1 = (respond (unasked h) ds method target).1) ∧
    (h.any Event.checks = false ∨ (∀ f ∈ gauges, ∀ d ∈ ds, (unasked h).value? f [toString d] ≠ none) →
      (respond (run ds h) ds method target).1 = (respond (unasked h) ds method target).1) := by
  have alike := run_alike ds h
  have touched : (respond (run ds h) ds method target).1 =
      (respond ((unasked h).filled (checked ds h)) ds method target).1 :=
    respond_congr (reported_of_alike alike) fun _ =>
      alike.exposition_eq (regular_run ds h) ((regular_unasked h).filled _)
  refine ⟨touched, fun other => ?_, fun set => ?_⟩
  · exact touched.trans (respond_congr reported_filled fun same => absurd same other)
  · have none : (unasked h).untouched (checked ds h) = [] := by
      rw [List.eq_nil_iff_forall_not_mem]
      intro s hs
      obtain ⟨f, hf, d, hd, unset, -⟩ := mem_untouched_iff.mp hs
      rcases set with unchecked | set
      · simp [checked, unchecked] at hd
      · unfold checked at hd
        split at hd
        · exact set f hf d hd unset
        · cases hd
    rw [touched, filled, none, List.append_nil]

/-- A chain that is reported before its gauges are set. -/
def sampleHistory : List Event :=
  [.asked "GET" "/health", .counted (.checkpoint 1 95), .counted (.latestBlock 1 100), .asked "GET" "/metrics",
   .asked "GET" "/health?x=1", .asked "POST" "/health"]

theorem sample_requests_only_touch :
    sampleHistory.any Event.checks = true ∧
    (∀ f ∈ gauges, ∀ d ∈ ([1] : List DomainId), (unasked sampleHistory).value? f [toString d] ≠ none) ∧
    (respond (run [1] sampleHistory) [1] "GET" "/metrics").1 = (respond (unasked sampleHistory) [1] "GET" "/metrics").1 ∧
    pathOf "/health" ≠ "/metrics" ∧
    (respond (run [1] sampleHistory) [1] "GET" "/health").1 = ⟨200, some "application/json", .chains [⟨1, 95, 100⟩]⟩ := by
  have set : ∀ f ∈ gauges, ∀ d ∈ ([1] : List DomainId), (unasked sampleHistory).value? f [toString d] ≠ none := by
    decide +kernel
  have other : pathOf "/health" ≠ "/metrics" := by decide +kernel
  have reported := (requests_only_touch [1] sampleHistory "GET" "/health").2.1 other
  refine ⟨by decide +kernel, set, (requests_only_touch [1] sampleHistory "GET" "/metrics").2.2 (.inr set), other, ?_⟩
  rw [reported]
  decide +kernel

/-- A report of a chain that nothing has been counted of yet is seen in the text of the counters. -/
theorem sample_check_is_seen :
    (respond (run [1] [.asked "GET" "/health"]) [1] "GET" "/metrics").1 ≠
      (respond (unasked [.asked "GET" "/health"]) [1] "GET" "/metrics").1 := by
  decide +kernel

end BridgeRelay.Health
