import BridgeRelay.Devnet.Sample
import BridgeRelay.Proofs.Checkpoint
import BridgeRelay.Proofs.Deposit
import BridgeRelay.Proofs.Listener.Commit

/-!
# Histories

The runs of listeners on one chain, one after another over one store. Each run may break off anywhere, as when the
process is killed. The main statement: no deposit is skipped by a stored checkpoint.
-/

namespace BridgeRelay.Listener

open Program

/-- How an exchange changes what the store holds under a key. A save that fails may have been carried out. -/
def StoreStep (key : Bytes) (held : Option Bytes) (x : Exchange ListenerInterface) (held' : Option Bytes) : Prop :=
  match x with
  | ⟨.store (.load k), .ok found⟩ => (k = key → found = held) ∧ held' = held
  | ⟨.store (.save k value), .ok ()⟩ => held' = if k = key then some value else held
  | ⟨.store (.save k value), .error _⟩ => held' = held ∨ k = key ∧ held' = some value
  | _ => held' = held

/-- What the store holds under a key before and after a trace. -/
def Stores (key : Bytes) : Option Bytes → Trace → Option Bytes → Prop
  | held, [], held' => held' = held
  | held, x :: t, held' => ∃ between, StoreStep key held x between ∧ Stores key between t held'

/-- Runs of listeners on one chain, one after another, and what the store holds as its checkpoint before and after. -/
inductive History (d : DomainId) (held : Option Bytes) : List (Listener × Trace) → Option Bytes → Prop where
  | nil : History d held [] held
  | snoc {runs : List (Listener × Trace)} {held₁ held₂ : Option Bytes} {l : Listener} {t : Trace}
      {p : Program ListenerInterface (Result Unit)} (before : History d held runs held₁) (domain : l.domain = d)
      (run : l.run.Runs t p) (stores : Stores (Checkpoint.key d) held₁ t held₂) :
      History d held (runs ++ [(l, t)]) held₂

/-! ## Where a checkpoint comes from -/

theorem StoreStep.eq_or_saved {key : Bytes} {held held' : Option Bytes} {x : Exchange ListenerInterface}
    (h : StoreStep key held x held') :
    held' = held ∨ ∃ value answer, x = ⟨.store (.save key value), answer⟩ ∧ held' = some value := by
  obtain ⟨r, answer⟩ := x
  rcases r with q | r | (k | ⟨k, value⟩) | ⟨d, m⟩ | r
  · exact .inl h
  · exact .inl h
  · cases answer with
    | error e => exact .inl h
    | ok found => exact .inl h.2
  · cases answer with
    | error e =>
        rcases h with h | ⟨rfl, h⟩
        · exact .inl h
        · exact .inr ⟨value, _, rfl, h⟩
    | ok saved =>
        by_cases hk : k = key
        · subst hk
          exact .inr ⟨value, _, rfl, h.trans (if_pos rfl)⟩
        · exact .inl (h.trans (if_neg hk))
  · exact .inl h
  · exact .inl h

theorem stores_snoc {key : Bytes} {held held' : Option Bytes} {t : Trace} {x : Exchange ListenerInterface} :
    Stores key held (t ++ [x]) held' ↔ ∃ between, Stores key held t between ∧ StoreStep key between x held' := by
  induction t generalizing held with
  | nil => simp [Stores]
  | cons y t ih =>
      simp only [List.cons_append, Stores, ih]
      constructor
      · rintro ⟨first, hy, between, ht, hx⟩
        exact ⟨between, ⟨first, hy, ht⟩, hx⟩
      · rintro ⟨between, ⟨first, hy, ht⟩, hx⟩
        exact ⟨first, hy, between, ht, hx⟩

theorem Stores.eq_or_saved {key : Bytes} {held held' : Option Bytes} {t : Trace} (h : Stores key held t held') :
    held' = held ∨ ∃ before value answer after,
      t = before ++ ⟨.store (.save key value), answer⟩ :: after ∧ held' = some value := by
  induction t generalizing held with
  | nil => exact .inl h
  | cons x t ih =>
      obtain ⟨between, hx, ht⟩ := h
      rcases ih ht with rfl | ⟨before, value, answer, after, rfl, hv⟩
      · rcases hx.eq_or_saved with hb | ⟨value, answer, rfl, hv⟩
        · exact .inl hb
        · exact .inr ⟨[], value, answer, t, rfl, hv⟩
      · exact .inr ⟨x :: before, value, answer, after, rfl, hv⟩

theorem History.eq_or_saved {d : DomainId} {held held' : Option Bytes} {runs : List (Listener × Trace)}
    (h : History d held runs held') :
    held' = held ∨ ∃ run ∈ runs, ∃ before value answer after,
      run.2 = before ++ ⟨.store (.save (Checkpoint.key d) value), answer⟩ :: after ∧ held' = some value := by
  induction h with
  | nil => exact .inl rfl
  | snoc _ _ _ stores ih =>
      rcases stores.eq_or_saved with rfl | ⟨before, value, answer, after, ht, hv⟩
      · rcases ih with h | ⟨run, hm, h⟩
        · exact .inl h
        · exact .inr ⟨run, List.mem_append_left _ hm, h⟩
      · exact .inr ⟨_, List.mem_append_right _ (List.mem_singleton.mpr rfl), before, value, answer, after, ht, hv⟩

theorem History.mem {d : DomainId} {held held' : Option Bytes} {runs : List (Listener × Trace)}
    (h : History d held runs held') {run : Listener × Trace} (hm : run ∈ runs) :
    run.1.domain = d ∧ ∃ p, run.1.run.Runs run.2 p := by
  induction h with
  | nil => cases hm
  | snoc _ domain r _ ih =>
      rcases List.mem_append.mp hm with hm | hm
      · exact ih hm
      · cases List.mem_singleton.mp hm
        exact ⟨domain, _, r⟩

/-! ## A deposit that is dropped -/

section Sample

variable {l : Listener} {log : DepositLog} {d : Deposit}

theorem runs_insist {α : Type} {q : Program ListenerInterface (Except ChainError α)} {t : Trace} {a : α}
    (h : q.Runs t (done (.ok a))) : (l.insist q).Runs t (done (.ok a)) := .silent rfl ((h.bind _).bind _)

/-- The trace of a deposit whose handler is not configured. -/
def dropping (l : Listener) (r : ResourceId) (handler : Address) : Trace :=
  [⟨.host (.record (.depositDetected l.domain)), ()⟩, ⟨.chain (.handler r), .ok handler⟩,
   ⟨.host (.record (.messageDropped l.domain "unknown_handler")), ()⟩,
   ⟨.report ⟨l.domain, .listener, unknownHandler handler r⟩, ()⟩]

theorem runs_dropping {handler : Address} (hd : Deposit.ofLog log = .ok d) (hh : l.handlers.find? handler = none) :
    (l.handle log).Runs (l.dropping d.resource handler) (done (.ok .handled)) := by
  have looked : (l.insist (Source.query (.handler d.resource))).Runs [⟨.chain (.handler d.resource), .ok handler⟩]
      (done (.ok handler)) := runs_insist (.ask rfl .stay)
  unfold handle
  rw [hd]
  refine .ask rfl ((looked.bind _).trans ?_)
  simp only [done_bind, hh]
  exact .ask rfl (.ask rfl .stay)

/-- A listener without handlers. -/
def sample : Listener := { domain := 1, confirmations := 5, pollInterval := .ofMillis 1000 }

def sampleLog : DepositLog := (Devnet.sampleDeposit 2 7 []).toLog (some 3) none none

theorem ofLog_sampleLog : Deposit.ofLog sampleLog = .ok (Devnet.sampleDeposit 2 7 []) :=
  Deposit.ofLog_toLog (by decide +kernel) ..

/-- A scan of three blocks with one deposit in them, which is dropped. -/
def sampleScan (log : DepositLog) (r : ResourceId) : Trace :=
  [⟨.store (.load (Checkpoint.key 1)), .ok none⟩, ⟨.host .stopping, false⟩, ⟨.chain .head, .ok 8⟩,
   ⟨.host (.record (.latestBlock 1 8)), ()⟩, ⟨.chain (.deposits 1 3), .ok [log]⟩, ⟨.host .stopping, false⟩] ++
  sample.dropping r Devnet.fungibleHandler ++ [⟨.store (.load (Checkpoint.key 1)), .ok none⟩]

def sampleSave : Exchange ListenerInterface :=
  ⟨.store (.save (Checkpoint.key 1) (Checkpoint.encode 3)), .ok ()⟩

theorem runs_sampleScan (hd : Deposit.ofLog log = .ok d) :
    ∃ p, sample.run.Runs (sampleScan log d.resource ++ [sampleSave]) p := by
  apply Exists.intro
  apply Runs.trans
  · apply Runs.trans
    · apply Runs.trans
      · exact .ask rfl (.silent rfl (.ask rfl (.ask rfl (.ask rfl (.ask rfl (.ask rfl .stay))))))
      · exact ((((runs_dropping hd rfl).bind _).bind _).bind _).bind _
    · exact .ask rfl .stay
  · exact .ask rfl .stay

end Sample

/-! ## Main statement -/

/-- Whenever the store holds the checkpoint `K`, it was there at first or was saved as the end of a window, and every
save in every run, whether it was answered or not, ends a scan in which all deposits of its window were handled. -/
theorem stored_checkpoint_skips_no_deposit {d : DomainId} {held held' : Option Bytes}
    {runs : List (Listener × Trace)} {K : Height} (h : History d held runs held')
    (hK : Checkpoint.decode d held' = .ok K) :
    (held' = held ∨ ∃ run ∈ runs, ∃ before answer after,
      run.2 = before ++ ⟨.store (.save (Checkpoint.key d) (Checkpoint.encode K)), answer⟩ :: after) ∧
    ∀ run ∈ runs, ∀ before key value answer after,
      run.2 = before ++ ⟨.store (.save key value), answer⟩ :: after →
        ∃ last, key = Checkpoint.key d ∧ value = Checkpoint.encode last ∧ run.1.Committable before last := by
  have saves : ∀ run ∈ runs, ∀ before key value answer after,
      run.2 = before ++ ⟨.store (.save key value), answer⟩ :: after →
        ∃ last, key = Checkpoint.key d ∧ value = Checkpoint.encode last ∧ run.1.Committable before last := by
    intro run hm before key value answer after ht
    obtain ⟨rfl, p, hr⟩ := h.mem hm
    rw [ht] at hr
    exact savesDue_of_runs hr
  refine ⟨?_, saves⟩
  rcases h.eq_or_saved with hv | ⟨run, hm, before, value, answer, after, ht, hv⟩
  · exact .inl hv
  · obtain ⟨last, -, rfl, -⟩ := saves run hm before _ value answer after ht
    rw [hv, Checkpoint.decode_encode, Except.ok.injEq] at hK
    exact .inr ⟨run, hm, before, answer, after, hK ▸ ht⟩

theorem sample_skips_no_deposit :
    History 1 none [(sample, sampleScan sampleLog Devnet.sampleResource ++ [sampleSave])]
      (some (Checkpoint.encode 3)) ∧
    ∃ last, Checkpoint.encode 3 = Checkpoint.encode last ∧
      sample.Committable (sampleScan sampleLog Devnet.sampleResource) last := by
  obtain ⟨p, hr⟩ := runs_sampleScan ofLog_sampleLog
  have h : History 1 none [(sample, sampleScan sampleLog Devnet.sampleResource ++ [sampleSave])]
      (some (Checkpoint.encode 3)) := by
    refine .snoc .nil rfl hr ?_
    simp [sampleScan, sampleSave, dropping, Stores, StoreStep]
  obtain ⟨last, -, hl, hc⟩ := (stored_checkpoint_skips_no_deposit h (Checkpoint.decode_encode 1 3)).2 _
    (List.mem_singleton.mpr rfl) _ _ _ _ [] rfl
  exact ⟨h, last, hl, hc⟩

end BridgeRelay.Listener
