import BridgeRelay.Proofs.Listener.History
import BridgeRelay.Proofs.Listener.Windows

/-!
# Windows that are committed

The windows that the runs of a listener commit, one run after another over one store, follow one another without gap
or overlap. Each run may break off anywhere, and a save that fails may have been carried out. The main statement: every
block between where the first run began and the stored checkpoint lies in exactly one of them.
-/

namespace BridgeRelay.Listener

open Program

/-! ## The ledger -/

/-- What the store holds as the checkpoint of a chain, which window is scanned, and which were committed, in order. -/
structure Ledger where
  held : Option Bytes
  scanning : Option Window := none
  committed : List Window := []

namespace Ledger

/-- The scanned window is committed with a stored value. -/
def commit (s : Ledger) (value : Bytes) : Ledger :=
  { s with held := some value, committed := s.committed ++ s.scanning.toList }

/-- How an exchange changes the ledger of the chain whose checkpoint is kept under a key. A save that fails may have
been carried out. -/
def Step (key : Bytes) (s : Ledger) (x : Exchange ListenerInterface) (s' : Ledger) : Prop :=
  match x with
  | ⟨.chain (.deposits first last), _⟩ => s' = { s with scanning := some ⟨first, last⟩ }
  | ⟨.store (.load k), .ok found⟩ => (k = key → found = s.held) ∧ s' = s
  | ⟨.store (.save k value), .ok ()⟩ => s' = if k = key then s.commit value else s
  | ⟨.store (.save k value), .error _⟩ => s' = s ∨ k = key ∧ s' = s.commit value
  | _ => s' = s

/-- The checkpoint behind which a listener scans, which is the stored one or, if that is below, the configured one. -/
def Reached (d : DomainId) (base : Height) (c : Height) (s : Ledger) : Prop :=
  ∃ stored, Checkpoint.decode d s.held = .ok stored ∧ c = max stored base

/-- The world of a listener that saves only the checkpoint of the scanned window, and that only if the window follows
the checkpoint behind which it scans. -/
def world (d : DomainId) (base : Height) : World ListenerInterface Ledger where
  permits s
    | .store (.save key value) => key = Checkpoint.key d ∧ ∃ c w, Reached d base c s ∧ s.scanning = some w ∧
        value = Checkpoint.encode w.last ∧ w.Follows c
    | _ => True
  reply := Step (Checkpoint.key d)

variable {d : DomainId} {base c : Height} {s s' : Ledger} {x : Exchange ListenerInterface} {l : Listener}

theorem eq_of_aside (hx : x.request.IsAside) (h : Step (Checkpoint.key d) s x s') : s' = s := by
  obtain ⟨r, answer⟩ := x
  rcases r with (_ | ⟨first, last⟩ | _) | r | (key | ⟨key, value⟩) | ⟨d, m⟩ | r
  case chain.deposits => exact hx.elim
  case store.save => exact hx.elim
  case store.load =>
    cases answer with
    | error e => exact h
    | ok found => exact h.2
  all_goals exact h

theorem Step.store {key : Bytes} (h : Step key s x s') : StoreStep key s.held x s'.held := by
  obtain ⟨r, answer⟩ := x
  rcases r with (_ | ⟨first, last⟩ | _) | r | (k | ⟨k, value⟩) | ⟨d, m⟩ | r
  case chain.deposits =>
    obtain rfl : s' = { s with scanning := some ⟨first, last⟩ } := h
    rfl
  case store.load =>
    cases answer with
    | error e => exact congrArg held h
    | ok found => exact ⟨h.1, congrArg held h.2⟩
  case store.save =>
    cases answer with
    | error e => exact h.imp (congrArg held) fun h => ⟨h.1, congrArg held h.2⟩
    | ok saved => exact (congrArg held h).trans (apply_ite held ..)
  all_goals exact congrArg held h

theorem stores_of_along {t : Trace} (h : (world d base).Along s t s') :
    Stores (Checkpoint.key d) s.held t s'.held := by
  induction h with
  | nil => rfl
  | cons drift reply _ ih =>
      cases drift
      exact ⟨_, Step.store reply, ih⟩

theorem steady {P : Height → Ledger → Prop} : Steady (world d base) P where
  drift c s s' hs h := h ▸ hs
  permits s r hr := by
    rcases r with q | r | (key | ⟨key, value⟩) | ⟨d, m⟩ | r
    case store.save => exact hr.elim
    all_goals trivial
  reply c s x s' hx hs h := eq_of_aside hx h ▸ hs

theorem Reached.commit {value : Bytes} {w : Window} (hv : value = Checkpoint.encode w.last) (hw : w.Follows c)
    (h : Reached d base c s) : Reached d base w.last (s.commit value) := by
  obtain ⟨stored, -, rfl⟩ := h
  refine ⟨w.last, by rw [commit, hv, Checkpoint.decode_encode], ?_⟩
  obtain ⟨first, last⟩ := hw
  apply UInt64.toNat_inj.mp
  have := UInt64.le_iff_toNat_le.mp last
  rw [UInt64.toNat_max] at first ⊢
  omega

/-! ## A look at the chain -/

theorem keeps_get : (Checkpoint.get d : Program ListenerInterface _).Keeps (world d base)
    (fun r s' => s = s' ∧ ∀ stored, r = .ok stored → Checkpoint.decode d s.held = .ok stored) s := by
  refine keeps_do.mpr (keeps_ask.mpr ?_)
  rintro _ rfl
  refine ⟨trivial, fun loaded s' reply => ?_⟩
  rcases loaded with e | found
  · exact ⟨Eq.symm reply, nofun⟩
  · obtain ⟨rfl, rfl⟩ : found = s.held ∧ s' = s := ⟨reply.1 rfl, reply.2⟩
    exact ⟨rfl, fun _ => id⟩

theorem keeps_commit {w : Window} (hs : Reached l.domain base c s) (hscan : s.scanning = some w) (hw : w.Follows c) :
    (l.commit w.last).Keeps (world l.domain base) (Polled (Reached l.domain base) c) s := by
  refine keeps_do.mpr (keeps_do.mpr (keeps_get.mono ?_))
  rintro (e | stored) _ ⟨rfl, -⟩
  · exact nofun
  · dsimp only
    split
    · exact nofun
    · refine keeps_ask.mpr ?_
      rintro _ rfl
      refine ⟨⟨rfl, c, w, hs, hscan, rfl, hw⟩, fun saved s' reply => ?_⟩
      rcases saved with e | _
      · exact nofun
      · obtain rfl : s' = s.commit _ := reply.trans (if_pos rfl)
        exact keeps_do.mpr (steady.keeps asks_host (hs.commit rfl hw))

theorem keeps_scan {w : Window} (hs : Reached l.domain base c s) (hw : w.Follows c) :
    (l.scan w).Keeps (world l.domain base) (Polled (Reached l.domain base) c) s := by
  refine keeps_do.mpr (keeps_ask.mpr ?_)
  rintro _ rfl
  refine ⟨trivial, fun logs s' reply => ?_⟩
  -- the window stays the scanned one while its deposits are handled
  obtain ⟨hs', hscan⟩ : Reached l.domain base c s' ∧ s'.scanning = some w := reply ▸ ⟨hs, rfl⟩
  rcases logs with e | logs
  · exact fun _ => hs'
  · refine keeps_done.mpr (keeps_do.mpr ?_)
    refine ((steady (P := fun c s => Reached l.domain base c s ∧ s.scanning = some w)).keeps asks_handleAll
      ⟨hs', hscan⟩).mono ?_
    rintro (e | (_ | _)) s ⟨hs, hscan⟩
    · exact fun _ => hs
    · exact keeps_commit hs hscan hw
    · exact hs

theorem keeps_poll (hs : Reached l.domain base c s) :
    (l.poll c).Keeps (world l.domain base) (Polled (Reached l.domain base) c) s := by
  refine keeps_do.mpr ((steady.keeps (asks_query (q := .head) trivial) hs).mono fun head s hs => ?_)
  rcases head with e | head
  · exact fun _ => hs
  · refine keeps_do.mpr ((steady.keeps asks_host hs).mono fun _ s hs => ?_)
    cases hw : Window.next? head l.confirmations c l.maxRange with
    | none => exact hs
    | some w => exact keeps_scan hs (Window.next?_follows hw)

/-! ## The whole -/

theorem keeps_start (fresh : l.freshStart = false) (latest : l.latestBlock = false) :
    l.start.Keeps (world l.domain (Window.subHeight l.startBlock 1))
      (fun r s => ∀ c, r = .ok c → Reached l.domain (Window.subHeight l.startBlock 1) c s) s := by
  unfold start
  simp only [fresh, latest, Bool.false_eq_true, if_false]
  refine keeps_do.mpr (keeps_get.mono ?_)
  rintro (e | stored) _ ⟨rfl, hstored⟩
  · exact nofun
  · rintro c ⟨rfl⟩
    exact ⟨stored, hstored stored rfl, rfl⟩

theorem keeps_run (fresh : l.freshStart = false) (latest : l.latestBlock = false) :
    l.run.Keeps (world l.domain (Window.subHeight l.startBlock 1)) (fun _ _ => True) s :=
  steady.keeps_run (keeps_start fresh latest) fun _ _ => keeps_poll

/-! ## Commits -/

theorem Reached.unique {c' : Height} (h : Reached d base c s) (h' : Reached d base c' s) : c = c' := by
  obtain ⟨stored, hd, rfl⟩ := h
  obtain ⟨stored', hd', rfl⟩ := h'
  cases hd.symm.trans hd'
  rfl

theorem Step.eq_or_commit (h : Step (Checkpoint.key d) s x s') :
    (s'.held = s.held ∧ s'.committed = s.committed) ∨
      ∃ value, x.request = .store (.save (Checkpoint.key d) value) ∧ s' = s.commit value := by
  obtain ⟨r, answer⟩ := x
  rcases r with (_ | ⟨first, last⟩ | _) | r | (key | ⟨key, value⟩) | ⟨d, m⟩ | r
  case store.load =>
    cases answer with
    | error e => exact .inl (h ▸ ⟨rfl, rfl⟩)
    | ok found => exact .inl (h.2 ▸ ⟨rfl, rfl⟩)
  case store.save =>
    cases answer with
    | error e =>
        rcases h with rfl | ⟨rfl, rfl⟩
        · exact .inl ⟨rfl, rfl⟩
        · exact .inr ⟨value, rfl, rfl⟩
    | ok saved =>
        by_cases hk : key = Checkpoint.key d
        · exact .inr ⟨value, by rw [hk], h.trans (if_pos hk)⟩
        · exact .inl (h.trans (if_neg hk) ▸ ⟨rfl, rfl⟩)
  all_goals exact .inl (h ▸ ⟨rfl, rfl⟩)

/-- The committed windows tile the blocks up to the checkpoint behind which a listener scans. -/
def Tiled (d : DomainId) (base origin : Height) (s : Ledger) : Prop :=
  ∃ c, Reached d base c s ∧ Window.Tiles origin s.committed c

theorem Tiled.step {origin : Height} (h : Tiled d base origin s) (permitted : (world d base).permits s x.request)
    (reply : (world d base).reply s x s') : Tiled d base origin s' := by
  obtain ⟨c, hc, tiles⟩ := h
  rcases Step.eq_or_commit reply with ⟨hheld, hcommitted⟩ | ⟨value, hx, rfl⟩
  · exact ⟨c, by rwa [Reached, hheld], by rwa [hcommitted]⟩
  · rw [hx] at permitted
    obtain ⟨-, c', w, hc', hscan, hv, hw⟩ := permitted
    cases hc.unique hc'
    refine ⟨w.last, hc.commit hv hw, ?_⟩
    rw [commit, hscan]
    exact tiles.snoc hw

theorem unchanged_of_corrupt {e : StoreError} (h : Checkpoint.decode d s.held = .error e)
    (permitted : (world d base).permits s x.request) (reply : (world d base).reply s x s') :
    s'.held = s.held ∧ s'.committed = s.committed := by
  rcases Step.eq_or_commit reply with h | ⟨value, hx, -⟩
  · exact h
  · rw [hx] at permitted
    obtain ⟨-, c, w, ⟨stored, hd, -⟩, -⟩ := permitted
    cases h.symm.trans hd

end Ledger

/-! ## Runs one after another -/

/-- Runs of a listener on one chain, one after another, with the ledger after them. Its other settings may change. -/
inductive Sessions (d : DomainId) (startBlock : Height) (held : Option Bytes) :
    List (Listener × Trace) → Ledger → Prop where
  | nil : Sessions d startBlock held [] { held }
  | snoc {runs : List (Listener × Trace)} {s s' : Ledger} {l : Listener} {t : Trace}
      {p : Program ListenerInterface (Result Unit)} (before : Sessions d startBlock held runs s) (domain : l.domain = d)
      (start : l.startBlock = startBlock) (fresh : l.freshStart = false) (latest : l.latestBlock = false)
      (run : l.run.Runs t p)
      (ledger : (Ledger.world d (Window.subHeight startBlock 1)).Along { s with scanning := none } t s') :
      Sessions d startBlock held (runs ++ [(l, t)]) s'

variable {d : DomainId} {startBlock : Height} {held : Option Bytes} {runs : List (Listener × Trace)} {s : Ledger}

theorem Sessions.inv {P : Ledger → Prop} (h : Sessions d startBlock held runs s) (hi : P { held })
    (hs : ∀ s, P s → P { s with scanning := none })
    (hx : ∀ s x s', P s → (Ledger.world d (Window.subHeight startBlock 1)).permits s x.request →
      (Ledger.world d (Window.subHeight startBlock 1)).reply s x s' → P s') : P s := by
  induction h with
  | nil => exact hi
  | snoc _ domain start fresh latest run ledger ih =>
      subst domain start
      exact (Ledger.keeps_run fresh latest).inv_of_runs run ledger (hs _ ih) (fun s s' hs hd => hd ▸ hs) hx

theorem Sessions.tiled {stored : Height} (h : Sessions d startBlock held runs s)
    (hd : Checkpoint.decode d held = .ok stored) :
    Ledger.Tiled d (Window.subHeight startBlock 1) (max stored (Window.subHeight startBlock 1)) s := by
  refine h.inv (P := Ledger.Tiled d _ _) ⟨_, ⟨stored, hd, rfl⟩, rfl⟩ (fun _ hs => hs) ?_
  exact fun s x s' hs permitted reply => hs.step permitted reply

theorem Sessions.committed_of_corrupt {e : StoreError} (h : Sessions d startBlock held runs s)
    (hd : Checkpoint.decode d held = .error e) : s.committed = [] := by
  refine (h.inv (P := fun s => s.held = held ∧ s.committed = []) ⟨rfl, rfl⟩ (fun _ hs => hs) ?_).2
  rintro s x s' ⟨rfl, hc⟩ permitted reply
  obtain ⟨hheld, hcommitted⟩ := Ledger.unchanged_of_corrupt hd permitted reply
  exact ⟨hheld, hcommitted.trans hc⟩

theorem Sessions.history (h : Sessions d startBlock held runs s) : History d held runs s.held := by
  induction h with
  | nil => exact .nil
  | snoc _ domain _ _ _ run ledger ih =>
      have stores := Ledger.stores_of_along ledger
      exact .snoc ih domain run stores

/-! ## A run for each window -/

/-- A run that scans a window without deposits, saves its end, and breaks off. -/
def sampleWindow (stored : Option Bytes) (head : Height) (w : Window) : Trace :=
  [⟨.store (.load (Checkpoint.key 1)), .ok stored⟩, ⟨.host .stopping, false⟩, ⟨.chain .head, .ok head⟩,
   ⟨.host (.record (.latestBlock 1 head)), ()⟩, ⟨.chain (.deposits w.first w.last), .ok []⟩,
   ⟨.store (.load (Checkpoint.key 1)), .ok stored⟩,
   ⟨.store (.save (Checkpoint.key 1) (Checkpoint.encode w.last)), .ok ()⟩]

theorem along_sampleWindow {base head : Height} {w : Window} (s : Ledger) :
    (Ledger.world 1 base).Along s (sampleWindow s.held head w)
      ⟨some (Checkpoint.encode w.last), some w, s.committed ++ [w]⟩ := by
  refine .cons rfl ⟨fun _ => rfl, rfl⟩ (.cons rfl rfl (.cons rfl rfl (.cons rfl rfl (.cons rfl rfl ?_))))
  exact .cons rfl ⟨fun _ => rfl, rfl⟩ (.cons rfl (if_pos rfl).symm .nil)

/-! ## Main statement -/

/-- The windows that were committed so far tile the blocks behind the one where the first run began, up to the stored
checkpoint; none is committed if the stored value is no checkpoint. Each window that is scanned is bounded by the head
that was read just before and by the range, and its ends are those that the integers give. -/
theorem committed_windows_tile (h : Sessions d startBlock held runs s) :
    (∀ stored, Checkpoint.decode d held = .ok stored → ∃ K, Checkpoint.decode d s.held = .ok K ∧
      Window.Tiles (max stored (Window.subHeight startBlock 1)) s.committed
        (max K (Window.subHeight startBlock 1)) ∧
      s.committed.Pairwise (fun v w => v.last < w.first) ∧
      ∀ block, s.committed.countP (block ∈ ·) =
        if max stored (Window.subHeight startBlock 1) < block ∧ block ≤ K then 1 else 0) ∧
    (∀ e, Checkpoint.decode d held = .error e → s.committed = []) ∧
    (∀ run ∈ runs, ∀ before first last answer after,
      run.2 = before ++ ⟨.chain (.deposits first last), answer⟩ :: after →
        ∃ earlier head,
          before = earlier ++ [⟨.chain .head, .ok head⟩, ⟨.host (.record (.latestBlock d head)), ()⟩] ∧
          first ≤ last ∧ last.toNat + run.1.confirmations.toNat ≤ head.toNat ∧
          ∀ range, run.1.maxRange = some range → 0 < range → last.toNat + 1 ≤ first.toNat + range.toNat) ∧
    ∀ head confirmations checkpoint maxRange,
      (Window.next? head confirmations checkpoint maxRange).map Window.ends =
        Window.ideal? head.toNat confirmations.toNat checkpoint.toNat
          (maxRange.map fun range => (range.toNat : ℤ)) := by
  refine ⟨?_, fun e => h.committed_of_corrupt, ?_, Window.map_ends_next?⟩
  · intro stored hd
    obtain ⟨_, ⟨K, hK, rfl⟩, tiles⟩ := h.tiled hd
    refine ⟨K, hK, tiles, tiles.pairwise, fun block => (tiles.countP block).trans ?_⟩
    simp only [UInt64.lt_iff_toNat_lt, UInt64.le_iff_toNat_le, UInt64.toNat_max]
    split <;> split <;> omega
  · intro run hm before first last answer after ht
    obtain ⟨rfl, p, hr⟩ := h.history.mem hm
    rw [ht] at hr
    obtain ⟨earlier, head, checkpoint, rfl, hw⟩ := due_of_runs hr
    exact ⟨earlier, head, rfl, (Window.next?_follows hw).2, Window.next?_confirmed hw,
      fun range hrange hpos => Window.next?_span hw hrange hpos⟩

theorem sample_windows_tile :
    Sessions 1 0 none
      [(sample, sampleWindow none 8 ⟨1, 3⟩), (sample, sampleWindow (some (Checkpoint.encode 3)) 10 ⟨4, 5⟩)]
      ⟨some (Checkpoint.encode 5), some ⟨4, 5⟩, [⟨1, 3⟩, ⟨4, 5⟩]⟩ ∧
    ∃ K, Checkpoint.decode 1 (some (Checkpoint.encode 5)) = .ok K ∧
      ∀ block, [(⟨1, 3⟩ : Window), ⟨4, 5⟩].countP (block ∈ ·) = if (0 : Height) < block ∧ block ≤ K then 1 else 0 := by
  obtain ⟨p, run⟩ : ∃ p, sample.run.Runs (sampleWindow none 8 ⟨1, 3⟩) p := by
    apply Exists.intro
    exact .ask rfl (.silent rfl (.ask rfl (.ask rfl (.ask rfl (.ask rfl (.ask rfl (.ask rfl .stay)))))))
  obtain ⟨p', run'⟩ : ∃ p, sample.run.Runs (sampleWindow (some (Checkpoint.encode 3)) 10 ⟨4, 5⟩) p := by
    apply Exists.intro
    exact .ask rfl (.silent rfl (.ask rfl (.ask rfl (.ask rfl (.ask rfl (.ask rfl (.ask rfl .stay)))))))
  have first : Sessions 1 0 none [(sample, sampleWindow none 8 ⟨1, 3⟩)]
      ⟨some (Checkpoint.encode 3), some ⟨1, 3⟩, [⟨1, 3⟩]⟩ :=
    .snoc .nil rfl rfl rfl rfl run (along_sampleWindow { held := none })
  have resumed : Sessions 1 0 none
      [(sample, sampleWindow none 8 ⟨1, 3⟩), (sample, sampleWindow (some (Checkpoint.encode 3)) 10 ⟨4, 5⟩)]
      ⟨some (Checkpoint.encode 5), some ⟨4, 5⟩, [⟨1, 3⟩, ⟨4, 5⟩]⟩ :=
    .snoc first rfl rfl rfl rfl run'
      (along_sampleWindow { held := some (Checkpoint.encode 3), committed := [⟨1, 3⟩] })
  obtain ⟨K, hK, -, -, count⟩ := (committed_windows_tile resumed).1 0 rfl
  exact ⟨resumed, K, hK, count⟩

end BridgeRelay.Listener
