import BridgeRelay.Proofs.Listener.Halting
import BridgeRelay.Proofs.Window

/-!
# Checkpoints that would move back

A store that carries out what it is asked still refuses to move a checkpoint back. Main statement: a listener halts at
such a store only because it began behind a block below the stored checkpoint, which it does only if it was told not to
begin at the stored one.
-/

namespace BridgeRelay.Listener

open Program

/-- A request that the store did not carry out. -/
def StoreFails : Exchange ListenerInterface → Prop
  | ⟨.store (.load _), .error _⟩ | ⟨.store (.save ..), .error _⟩ => True
  | _ => False

/-- The store carried out every request. -/
def Healthy (t : Trace) : Prop := ∀ x ∈ t, ¬ StoreFails x

/-- The head of the chain when it was first read. -/
def firstHead? (t : Trace) : Option Height := t.findSome? fun
  | ⟨.chain .head, .ok head⟩ => some head
  | _ => none

/-- The checkpoint behind which the first window of a run begins, if the store held one of a height before. -/
def origin? (l : Listener) (stored : Height) (t : Trace) : Option Height :=
  if l.latestBlock then (firstHead? t).map (Window.subHeight · 1)
  else if l.freshStart then some (Window.subHeight l.startBlock 1)
  else some (max stored (Window.subHeight l.startBlock 1))

variable {l : Listener} {t : Trace} {x : Exchange ListenerInterface} {held held' : Option Bytes} {K c : Height}
  {e : RelayError}

/-! ## What stays -/

theorem firstHead?_append {head : Height} (u : Trace) (h : firstHead? t = some head) :
    firstHead? (t ++ u) = some head := by
  rw [firstHead?, List.findSome?_append, ← firstHead?, h]
  rfl

theorem origin?_append {stored : Height} (u : Trace) (h : l.origin? stored t = some c) :
    l.origin? stored (t ++ u) = some c := by
  unfold origin? at h ⊢
  split at h
  · next latest =>
      obtain ⟨head, hf, hc⟩ := Option.map_eq_some_iff.mp h
      rw [if_pos latest, firstHead?_append u hf]
      exact congrArg some hc
  · next other => rwa [if_neg other]

theorem StoreStep.eq_of_ne_save {key : Bytes} (hx : ∀ k value, x.request ≠ .store (.save k value))
    (h : StoreStep key held x held') : held' = held := by
  obtain ⟨r, answer⟩ := x
  rcases r with q | r | (k | ⟨k, value⟩) | ⟨d, m⟩ | r
  case store.load =>
    cases answer with
    | error e => exact h
    | ok found => exact h.2
  case store.save => exact absurd rfl (hx k value)
  all_goals exact h

theorem ne_save_of_isAside {r : ListenerRequest} (h : r.IsAside) (k value : Bytes) : r ≠ .store (.save k value) := by
  rintro rfl
  exact h

theorem Waiting.firstHead?_eq (h : Waiting t) (head : Height) :
    firstHead? (t ++ [⟨.chain .head, .ok head⟩]) = some head := by
  have unread : firstHead? t = none := by
    refine List.findSome?_eq_none_iff.mpr fun x hx => ?_
    obtain ⟨r, a, rfl⟩ | ⟨failure, rfl⟩ := h x hx <;> rfl
  rw [firstHead?, List.findSome?_append, ← firstHead?, unread]
  rfl

/-- Something holds of the checkpoint that the store holds after a trace, if the store carried out every request. -/
def Surely (l : Listener) (held : Option Bytes) (P : Option Bytes → Prop) (t : Trace) : Prop :=
  ∀ held', Healthy t → Stores (Checkpoint.key l.domain) held t held' → P held'

theorem Surely.snoc {P P' : Option Bytes → Prop} (h : l.Surely held P t)
    (hP : ∀ held₁ held₂, P held₁ → ¬ StoreFails x → StoreStep (Checkpoint.key l.domain) held₁ x held₂ → P' held₂) :
    l.Surely held P' (t ++ [x]) := by
  intro held' healthy stores
  obtain ⟨between, before, step⟩ := stores_snoc.mp stores
  have healthyBefore : Healthy t := fun y hy => healthy y (List.mem_append_left _ hy)
  exact hP _ _ (h between healthyBefore before) (healthy x (by simp)) step

theorem Surely.unsaved {P : Option Bytes → Prop} (h : l.Surely held P t)
    (hx : ∀ k value, x.request ≠ .store (.save k value)) : l.Surely held P (t ++ [x]) :=
  h.snoc fun _ _ hp _ step => step.eq_of_ne_save hx ▸ hp

theorem Surely.mono {P P' : Option Bytes → Prop} (h : l.Surely held P t) (hP : ∀ held', P held' → P' held') :
    l.Surely held P' t :=
  fun held' healthy stores => hP held' (h held' healthy stores)

theorem Surely.append {P : Option Bytes → Prop} {u : Trace} (h : l.Surely held P t)
    (hu : ∀ x ∈ u, ∀ k value, x.request ≠ .store (.save k value)) : l.Surely held P (t ++ u) := by
  induction u generalizing t with
  | nil => rwa [List.append_nil]
  | cons x u ih =>
      rw [List.append_cons]
      exact ih (h.unsaved (hu x (by simp))) fun y hy => hu y (List.mem_cons_of_mem x hy)

theorem Waiting.surely {P : Option Bytes → Prop} (h : Waiting t) (hP : l.Surely held P []) : l.Surely held P t := by
  refine hP.append fun x hx k value => ?_
  obtain ⟨r, a, rfl⟩ | ⟨failure, rfl⟩ := h x hx <;> exact nofun

/-! ## The checkpoint behind which a listener scans -/

/-- A listener scans behind a checkpoint: its run began there and the store holds what it held, or the stored
checkpoint is not above. -/
def Standing (l : Listener) (held : Option Bytes) (K c : Height) (t : Trace) : Prop :=
  l.Surely held (fun held' => (held' = held ∧ l.origin? K t = some c) ∨
    ∃ stored, Checkpoint.decode l.domain held' = .ok stored ∧ stored ≤ c) t

/-- If the error is one of the store, the run began behind a block below the stored checkpoint, and the end of the
first window is still below it. -/
def Regressed (l : Listener) (held : Option Bytes) (K : Height) (e : RelayError) (t : Trace) : Prop :=
  l.Surely held (fun held' => ∀ text, e = .store text → ∃ origin last, l.origin? K t = some origin ∧
    origin < last ∧ last < K ∧ text = (StoreError.regression l.domain K last).message ∧ held' = held) t

theorem Standing.unsaved (h : l.Standing held K c t) (hx : ∀ k value, x.request ≠ .store (.save k value)) :
    l.Standing held K c (t ++ [x]) :=
  (Surely.unsaved h hx).mono fun _ => Or.imp_left fun h => ⟨h.1, origin?_append _ h.2⟩

theorem steady_standing : Steady anything (l.Standing held K) where
  drift _ _ _ h hd := hd ▸ h
  permits _ _ _ := trivial
  reply c t x t' hx h ht := by
    subst ht
    exact h.unsaved (ne_save_of_isAside hx)

theorem regressed_of_ne (h : ∀ text, e ≠ .store text) : l.Regressed held K e t :=
  fun _ _ _ text he => absurd he (h text)

theorem Regressed.unsaved (h : l.Regressed held K e t) (hx : ∀ k value, x.request ≠ .store (.save k value)) :
    l.Regressed held K e (t ++ [x]) := by
  refine (Surely.unsaved h hx).mono fun held' h text he => ?_
  obtain ⟨origin, last, begun, rest⟩ := h text he
  exact ⟨origin, last, origin?_append _ begun, rest⟩

theorem ne_store_of_ofScan (h : e.OfScan) : ∀ text, e ≠ .store text := by
  rintro text rfl
  exact h.elim

theorem eq_of_load {key : Bytes} {loaded : Except StoreError (Option Bytes)}
    (healthy : ¬ StoreFails ⟨.store (.load key), loaded⟩) (h : StoreStep key held ⟨.store (.load key), loaded⟩ held') :
    loaded = .ok held ∧ held = held' := by
  cases loaded with
  | error e => exact absurd trivial healthy
  | ok found => exact ⟨congrArg Except.ok (h.1 rfl), h.2.symm⟩

/-! ## A look at the chain -/

section Look

variable (hK : Checkpoint.decode l.domain held = .ok K)
include hK

theorem keeps_commit_standing {last : Height} (hs : l.Standing held K c t) (hc : c < last) :
    (l.commit last).Keeps anything (Looked (l.Standing held K) (l.Regressed held K) c) t := by
  refine keeps_do.mpr (keeps_do.mpr (Listener.keeps_get.mpr ⟨trivial, fun loaded => ?_⟩))
  cases hr : loaded.bind (Checkpoint.decode l.domain) with
  | error e =>
      -- what is loaded is what is held, and that is a height
      refine Surely.snoc hs fun held₁ held₂ standing healthy step => ?_
      obtain ⟨rfl, rfl⟩ := eq_of_load healthy step
      change Checkpoint.decode l.domain held₁ = .error e at hr
      rcases standing with ⟨rfl, -⟩ | ⟨stored, hd, -⟩
      · rw [hK] at hr
        cases hr
      · rw [hd] at hr
        cases hr
  | ok stored =>
      dsimp only
      split
      · next below =>
          -- the save is refused, so nothing was saved before
          refine Surely.snoc hs fun held₁ held₂ standing healthy step => ?_
          obtain ⟨rfl, rfl⟩ := eq_of_load healthy step
          change Checkpoint.decode l.domain held₁ = .ok stored at hr
          rcases standing with ⟨rfl, begun⟩ | ⟨stored', hd, hle⟩
          · cases hK.symm.trans hr
            rintro text ⟨rfl⟩
            exact ⟨c, last, origin?_append _ begun, hc, below, rfl, rfl⟩
          · cases hd.symm.trans hr
            exact absurd (UInt64.lt_trans hc below) (UInt64.not_lt.mpr hle)
      · have loading := hs.unsaved (x := ⟨.store (.load (Checkpoint.key l.domain)), loaded⟩) nofun
        refine keeps_ask_traced.mpr ⟨trivial, fun answer => ?_⟩
        rcases answer with e | _
        · exact Surely.snoc loading fun _ _ _ healthy _ => absurd trivial healthy
        · refine keeps_do.mpr (steady_standing.keeps asks_host (Surely.snoc loading fun held₁ held₂ _ _ step => ?_))
          obtain rfl : held₂ = some (Checkpoint.encode last) := Eq.trans step (if_pos rfl)
          exact .inr ⟨last, Checkpoint.decode_encode _ _, UInt64.le_refl _⟩

theorem keeps_poll_standing (hs : l.Standing held K c t) :
    (l.poll c).Keeps anything (Looked (l.Standing held K) (l.Regressed held K) c) t := by
  have failed {e : RelayError} {t : Trace} (he : e.OfScan) (hs : l.Standing held K c t) :
      Looked (l.Standing held K) (l.Regressed held K) c (.error e) t := by
    simp only [Looked]
    split
    · exact hs
    · exact regressed_of_ne (ne_store_of_ofScan he)
  refine keeps_do.mpr ((steady_standing.keeps (asks_query (q := .head) trivial) hs).mono fun head t hs => ?_)
  rcases head with e | head
  · exact failed (RelayError.ofScan_ofChain e) hs
  · refine keeps_do.mpr ((steady_standing.keeps asks_host hs).mono fun _ t hs => ?_)
    cases hw : Window.next? head l.confirmations c l.maxRange with
    | none => exact hs
    | some w =>
        obtain ⟨first, last⟩ := Window.next?_follows hw
        have behind : c < w.last := by
          rw [UInt64.lt_iff_toNat_lt]
          have := UInt64.le_iff_toNat_le.mp last
          omega
        refine keeps_do.mpr (keeps_ask_traced.mpr ⟨trivial, fun logs => ?_⟩)
        have asked := hs.unsaved (x := ⟨.chain (.deposits w.first w.last), logs⟩) (by simp)
        rcases logs with e | logs
        · exact failed (RelayError.ofScan_ofChain e) asked
        · refine keeps_done.mpr (keeps_do.mpr ?_)
          refine ((steady_standing.keeps asks_handleAll asked).and_gives gives_handleAll).mono ?_
          rintro (e | (_ | _)) t ⟨hs, handled⟩
          · exact failed (handled e rfl) hs
          · exact keeps_commit_standing hK hs behind
          · exact hs

/-! ## The whole -/

theorem keeps_start_standing : l.start.Keeps anything (Started (l.Standing held K) (l.Regressed held K)) [] := by
  have opening {origin : Height} {t : Trace} (unsaved : l.Surely held (· = held) t)
      (begun : l.origin? K t = some origin) : l.Standing held K origin t := unsaved.mono fun _ h => .inl ⟨h, begun⟩
  have nothing : l.Surely held (· = held) [] := fun _ _ stores => stores
  unfold start
  split
  · next latest =>
      refine keeps_do.mpr (keeps_head.mono fun r t h => ?_)
      cases h with
      | @read before head h =>
          refine opening ((h.surely nothing).unsaved nofun) ?_
          simp [origin?, latest, h.firstHead?_eq]
      | left h _ => exact regressed_of_ne (ne_store_of_ofScan (RelayError.ofScan_ofChain _))
      | failed h _ => exact regressed_of_ne (ne_store_of_ofScan (RelayError.ofScan_ofChain _))
  · next began =>
      split
      · next fresh => exact opening nothing (by simp [origin?, began, fresh])
      · next resumed =>
          refine keeps_do.mpr (Listener.keeps_get.mpr ⟨trivial, fun loaded => ?_⟩)
          have loading : l.Surely held (fun held' => loaded = .ok held ∧ held' = held)
              [⟨.store (.load (Checkpoint.key l.domain)), loaded⟩] := nothing.snoc fun held₁ held₂ h healthy step => by
            obtain ⟨found, rfl⟩ := eq_of_load healthy step
            exact ⟨h ▸ found, h⟩
          cases hr : loaded.bind (Checkpoint.decode l.domain) with
          | error e =>
              refine loading.mono fun held' h => ?_
              rw [h.1] at hr
              cases hK.symm.trans hr
          | ok stored =>
              refine loading.mono fun held' h => .inl ⟨h.2, ?_⟩
              rw [h.1] at hr
              cases hK.symm.trans hr
              simp [origin?, began, resumed]

/-- The run halts at an error of a healthy store only if the store refused to move the checkpoint back. -/
theorem regressed_of_runs (run : l.run.Runs t (done (.error e))) : l.Regressed held K e t := by
  have rounds : Rounds l anything (l.Standing held K) (l.Regressed held K)
      fun r t => ∀ e, r = .error e → l.Regressed held K e t := by
    refine steady_standing.rounds (fun _ => nofun) (fun c t => keeps_poll_standing hK) fun e t h => ?_
    refine keeps_do.mpr (keeps_report.mpr ⟨trivial, fun _ => ?_⟩)
    rintro _ ⟨rfl⟩
    exact h.unsaved nofun
  exact (rounds.keeps_run (keeps_start_standing hK)).done_traced run e rfl

end Look

/-! ## Main statement -/

/-- While the store carries out every request and holds a checkpoint, a listener halts at an error of the store only if
its run began behind a block below that checkpoint and the first window that it delivered ends below it as well. So it
never does if it is to begin at the stored checkpoint. -/
theorem healthy_store_halts_only_below (run : l.run.Runs t (done (.error e))) (healthy : Healthy t)
    (stores : Stores (Checkpoint.key l.domain) held t held') (hK : Checkpoint.decode l.domain held = .ok K) :
    (∀ text, e = .store text → ∃ origin last, l.origin? K t = some origin ∧ origin < last ∧ last < K ∧
      text = (StoreError.regression l.domain K last).message ∧ held' = held) ∧
    ((∀ origin, l.origin? K t = some origin → K ≤ origin) → ∀ text, e ≠ .store text) ∧
    (l.freshStart = false → l.latestBlock = false → ∀ text, e ≠ .store text) := by
  have below := regressed_of_runs hK run held' healthy stores
  have above (h : ∀ origin, l.origin? K t = some origin → K ≤ origin) (text : String) : e ≠ .store text := by
    rintro rfl
    obtain ⟨origin, last, begun, behind, regressing, -⟩ := below text rfl
    exact absurd (UInt64.lt_trans behind regressing) (UInt64.not_lt.mpr (h origin begun))
  refine ⟨below, above, fun fresh latest => above fun origin begun => ?_⟩
  simp only [origin?, fresh, latest, Bool.false_eq_true, if_false, Option.some.injEq] at begun
  rw [← begun, UInt64.le_iff_toNat_le, UInt64.toNat_max]
  exact Nat.le_max_left ..

/-! ## A start below the stored checkpoint -/

/-- A listener that begins at block 5 whatever is stored. -/
def sampleFresh : Listener := { sample with startBlock := 5, freshStart := true }

/-- The error at which a window up to block 25 ends while 26 is stored. -/
def sampleRefusal : RelayError := .store (StoreError.regression 1 26 25).message

/-- A scan of the blocks from 5 to 25, which hold no deposit, while 26 is stored. -/
def sampleRefused : Trace :=
  [⟨.host .stopping, false⟩, ⟨.chain .head, .ok 30⟩, ⟨.host (.record (.latestBlock 1 30)), ()⟩,
   ⟨.chain (.deposits 5 25), .ok []⟩, ⟨.store (.load (Checkpoint.key 1)), .ok (some (Checkpoint.encode 26))⟩,
   ⟨.report ⟨1, .listener, sampleRefusal⟩, ()⟩]

theorem runs_sampleRefused : sampleFresh.run.Runs sampleRefused (done (.error sampleRefusal)) :=
  .silent rfl (.ask rfl (.ask rfl (.ask rfl (.ask rfl (.ask rfl (.ask rfl .stay))))))

theorem healthy_sampleRefused : Healthy sampleRefused := by
  simp [Healthy, sampleRefused, StoreFails]

theorem stores_sampleRefused :
    Stores (Checkpoint.key 1) (some (Checkpoint.encode 26)) sampleRefused (some (Checkpoint.encode 26)) := by
  simp [sampleRefused, Stores, StoreStep]

theorem sample_begins_below : ∃ origin last, sampleFresh.origin? 26 sampleRefused = some origin ∧ origin < last ∧
    last < 26 ∧ (StoreError.regression 1 26 25).message = (StoreError.regression 1 26 last).message := by
  obtain ⟨origin, last, begun, behind, regressing, text, -⟩ := (healthy_store_halts_only_below runs_sampleRefused
    healthy_sampleRefused stores_sampleRefused (Checkpoint.decode_encode 1 26)).1 _ rfl
  exact ⟨origin, last, begun, behind, regressing, text⟩

/-- A healthy store halts a listener that was told to pass over the stored checkpoint. -/
theorem sample_halts_at_healthy_store : ∃ (l : Listener) (held : Option Bytes) (K : Height) (t : Trace) (text : String),
    Checkpoint.decode l.domain held = .ok K ∧ Healthy t ∧ Stores (Checkpoint.key l.domain) held t held ∧
      l.run.Runs t (done (.error (.store text))) :=
  ⟨sampleFresh, some (Checkpoint.encode 26), 26, sampleRefused, _, Checkpoint.decode_encode 1 26,
    healthy_sampleRefused, stores_sampleRefused, runs_sampleRefused⟩

end BridgeRelay.Listener
