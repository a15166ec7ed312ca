import BridgeRelay.Proofs.Checkpoint
import BridgeRelay.Proofs.Devnet.Ledger
import BridgeRelay.Proofs.Listener.Resting
import BridgeRelay.Proofs.Program.Pool
import BridgeRelay.Proofs.Relay.Stage

/-!
# Sites of a relay

The chains of a relay on fresh nodes, and which requests of the workers are in order. A request in order keeps the view
sound, and changes nothing on which another worker relies.
-/

namespace BridgeRelay.Simulation

open Devnet Function

/-! ## Sites -/

/-- A chain of a relay, and the node behind it. -/
structure Site where
  chain : RelayChain
  node : Node

namespace Site

/-- The domain of the chain. -/
abbrev domain (c : Site) : DomainId := c.chain.listener.domain

/-- The key of the chain's checkpoint. -/
abbrev key (c : Site) : Bytes := Checkpoint.key c.domain

/-- The last block that the listener has to scan, as it is stored. -/
abbrev target (c : Site) : Option Bytes := (c.chain.listener.lastConfirmed c.node.source).map Checkpoint.encode

/-- A confirmed deposit of the site asks for the proposal at a destination. -/
def Proposes (c : Site) (d : DomainId) (p : Proposal) : Prop :=
  ∃ log deposit payload, c.chain.listener.Confirmed c.node.source log ∧ Deposit.ofLog log = .ok deposit ∧
    Payload.decode .fungible deposit.data = .ok payload ∧ deposit.destination = d ∧
    p = .ofMessage (c.chain.listener.message log deposit payload) fungibleHandler deposit.data

/-- The settings belong together, and the node is fresh but for its blocks, which hold deposits of the sample. -/
structure Wired (c : Site) : Prop where
  domain : c.chain.writer.domain = c.domain
  relayer : c.chain.writer.relayer = c.node.account.sender
  watched : c.chain.writer.watchLimit ≠ 0
  freshStart : c.chain.listener.freshStart = false
  latestBlock : c.chain.listener.latestBlock = false
  configured : c.chain.listener.handlers.find? fungibleHandler = some .fungible
  calm : c.node.Calm
  bridge : c.node.bridge = {}
  sent : c.node.account.sent = []
  failure : c.node.source.failure = none
  handler : c.node.source.handler = fungibleHandler
  fungible (log : DepositLog) : log ∈ c.node.source.logs → ∃ deposit payload, Deposit.ofLog log = .ok deposit ∧
    deposit.resource = sampleResource ∧ Payload.decode .fungible deposit.data = .ok payload

/-- The node is that of the site, some time later. -/
structure Later (c : Site) (m : Node) : Prop where
  calm : m.Calm
  sender : m.account.sender = c.node.account.sender
  source : ∃ queries, m.source = { c.node.source with queries }

variable {c : Site} {m : Node}

theorem Wired.later (hc : c.Wired) : c.Later c.node := ⟨hc.calm, rfl, _, rfl⟩

/-- A question to the source side is answered as by the chain at the beginning. -/
theorem Later.source_reply (h : c.Later m) (hc : c.Wired) (q : SourceQuery) :
    (m.answerSource q).1 = (c.node.source.answer q).1 ∧ c.Later (m.answerSource q).2 ∧
      (m.answerSource q).2.ledger = m.ledger := by
  obtain ⟨calm, sender, queries, source⟩ := h
  have sound : m.source.failure = none := by rw [source]; exact hc.failure
  obtain ⟨answer, queries', after⟩ := calm.source_reply sound q
  refine ⟨?_, ?_, by rw [after]; rfl⟩
  · rw [answer, source]
    cases q with
    | head | handler => rfl
    | deposits => simp only [SourceChain.answer, hc.failure]; rfl
  · rw [after]
    exact ⟨⟨⟨calm.plain.script, calm.plain.hasBridge, calm.plain.failures, calm.plain.lost, calm.plain.loseNext⟩,
      calm.readable⟩, sender, queries', by rw [source]⟩

/-- A question to the destination side is answered as by a ledger. -/
theorem Later.destination_reply (h : c.Later m) (q : DestinationQuery) : c.Later (m.answerDestination q).2 ∧
    Ledger.Reply c.node.account.sender m.ledger ⟨.chain q, (m.answerDestination q).1⟩ (m.answerDestination q).2.ledger := by
  obtain ⟨calm, source, sender, reply⟩ := h.calm.reply q
  exact ⟨⟨calm, sender.trans h.sender, source ▸ h.source⟩, h.sender ▸ reply⟩

end Site

/-- Some site asks for the proposal at a destination. -/
def Due (sites : List Site) (d : DomainId) (p : Proposal) : Prop := ∃ c ∈ sites, c.Proposes d p

/-- Sites of different domains, each of which is in order. -/
structure Wired (sites : List Site) : Prop where
  distinct : (sites.map Site.domain).Nodup
  wired (c : Site) : c ∈ sites → c.Wired

variable {sites : List Site} {w u : Worker} {v v' v'' : View} {c c' : Site} {k k' : Nat}

theorem Wired.eq_of_domain (wired : Wired sites) (hc : sites[k]? = some c) (hc' : sites[k']? = some c')
    (same : c.domain = c'.domain) : k = k' := by
  have at_domain {k : Nat} {c : Site} (hc : sites[k]? = some c) : (sites.map Site.domain)[k]? = some c.domain := by
    rw [List.getElem?_map, hc]
    rfl
  have placed : k < (sites.map Site.domain).length := (List.getElem?_eq_some_iff.mp (at_domain hc)).1
  exact (List.getElem?_inj placed wired.distinct).mp (by rw [at_domain hc, at_domain hc', same])

/-! ## Views in order -/

/-- What holds whoever acts. The ledger of a destination to which nobody writes is tidy. -/
structure Sound (sites : List Site) (v : View) : Prop where
  stopping : v.stopping = false
  store : ∃ entries, v.store = { memory := { entries } }
  later (k : Nat) (c : Site) : sites[k]? = some c → c.Later (v.node k)
  holder (k : Nat) (w : Worker) : v.writing k = some w → w < sites.length
  tidy (k : Nat) (c : Site) : sites[k]? = some c → v.writing k = none →
    ∃ ps, Ledger.Tidy (Due sites c.domain) ps (v.node k).ledger

/-- What the store holds as the checkpoint of a site. -/
def View.stored (v : View) (c : Site) : Option Bytes := v.store.memory.find? c.key

/-- A proposal is executed at a place. -/
def View.Executed (v : View) (k : Nat) (p : Proposal) : Prop :=
  ((v.node k).ledger.bridge.record (.of p)).status = .executed

/-- All has been done that the chain of a site asks for. -/
structure Rested (sites : List Site) (c : Site) (v : View) : Prop where
  stored : v.stored c = c.target
  executed (k : Nat) (c' : Site) (p : Proposal) : sites[k]? = some c' → c.Proposes c'.domain p → v.Executed k p

/-- Which requests of a worker are in order. It asks a destination only while it writes there, leaves behind a tidy ledger,
uses no checkpoint but its own, and pauses only while it writes or when it has nothing left to do. -/
def Permits (sites : List Site) (w : Worker) (v : View) : RelayRequest → Prop
  | .source k _ => k < sites.length
  | .destination k _ => k < sites.length ∧ v.writing k = some w
  | .enter k => k < sites.length ∧ w < sites.length
  | .leave k => k < sites.length ∧ v.writing k = some w ∧
      ∀ c, sites[k]? = some c → ∃ ps, Ledger.Tidy (Due sites c.domain) ps (v.node k).ledger
  | .store (.load key) | .store (.save key _) => ∃ c, sites[w]? = some c ∧ key = c.key
  | .host (.pause _) => (∀ k, v.writing k ≠ some w) → ∀ c, sites[w]? = some c → Rested sites c v
  | _ => True

theorem Permits.placed {r : RelayRequest} (h : Permits sites w v r) : Stage.Placed sites.length r := by
  cases r with
  | source | destination | enter | leave => first | exact h.1 | exact h
  | _ => trivial

theorem permits_of_quiet {r : RelayRequest} (hr : View.Quiet r)
    (paused : ∀ d, r = .host (.pause d) → ∃ k, v.writing k = some w) : Permits sites w v r := by
  rcases r with (_ | _ | d | _ | _ | _) | _ | _ | _ | _ | _ | _ | _ | _ | _ | _ | _
  case host.pause =>
    obtain ⟨k, held⟩ := paused d rfl
    exact fun away => absurd held (away k)
  case host.stopping | source | destination | enter | leave | store => exact hr.elim
  all_goals trivial

/-! ## Soundness -/

theorem Sound.set_node {m : Node} (h : Sound sites v) (later : ∀ c, sites[k]? = some c → c.Later m)
    (tidy : ∀ c, sites[k]? = some c → v.writing k = none → ∃ ps, Ledger.Tidy (Due sites c.domain) ps m.ledger) :
    Sound sites { v with node := update v.node k m } where
  stopping := h.stopping
  store := h.store
  holder := h.holder
  later k' c hc := by
    by_cases hk : k' = k
    · subst hk
      simpa using later c hc
    · simpa [hk] using h.later k' c hc
  tidy k' c hc free := by
    by_cases hk : k' = k
    · subst hk
      simpa using tidy c hc free
    · simpa [hk] using h.tidy k' c hc free

theorem Sound.set_writing {holder : Option Worker} (h : Sound sites v) (known : ∀ w, holder = some w → w < sites.length)
    (tidy : ∀ c, sites[k]? = some c → holder = none → ∃ ps, Ledger.Tidy (Due sites c.domain) ps (v.node k).ledger) :
    Sound sites { v with writing := update v.writing k holder } where
  stopping := h.stopping
  store := h.store
  later := h.later
  holder k' w hw := by
    by_cases hk : k' = k
    · subst hk
      exact known w (by simpa using hw)
    · exact h.holder k' w (by simpa [hk] using hw)
  tidy k' c hc free := by
    by_cases hk : k' = k
    · subst hk
      exact tidy c hc (by simpa using free)
    · exact h.tidy k' c hc (by simpa [hk] using free)

/-- The store answers, and a load leaves it as it is. -/
theorem Sound.load (h : Sound sites v) (key : Bytes) :
    v.store.answer (.load key) = (.ok (v.store.memory.find? key), v.store) := by
  obtain ⟨entries, store⟩ := h.store
  rw [store]
  rfl

theorem Sound.save (h : Sound sites v) (key value : Bytes) :
    v.store.answer (.save key value) = (.ok (), { memory := v.store.memory.insert key value }) := by
  obtain ⟨entries, store⟩ := h.store
  rw [store]
  rfl

/-- A request in order keeps the view sound. -/
theorem View.Step.sound {x : Exchange RelayInterface} (h : Step w v x v') (hx : Permits sites w v x.request)
    (wired : Wired sites) (hv : Sound sites v) : Sound sites v' := by
  obtain ⟨r, a⟩ := x
  rcases r with (_ | d | d | _ | u | fault) | ⟨k, q⟩ | ⟨k, q⟩ | k | ⟨k, next⟩ | k | k | (key | ⟨key, value⟩) | r |
    ⟨d, result⟩ | _ | _
  case source =>
    obtain ⟨-, rfl⟩ := h
    have reply c (hc : sites[k]? = some c) := (hv.later k c hc).source_reply (wired.wired c (List.mem_of_getElem? hc)) q
    refine hv.set_node (fun c hc => (reply c hc).2.1) fun c hc free => ?_
    rw [(reply c hc).2.2]
    exact hv.tidy k c hc free
  case destination =>
    obtain ⟨-, rfl⟩ := h
    refine hv.set_node (fun c hc => ((hv.later k c hc).destination_reply q).1) fun c hc free => ?_
    rw [hx.2] at free
    cases free
  case enter =>
    obtain ⟨free, rfl⟩ := h
    refine hv.set_writing ?_ fun _ _ taken => ?_
    · rintro _ ⟨⟩
      exact hx.2
    · cases taken
  case leave =>
    cases (h : v' = _)
    refine hv.set_writing ?_ fun c hc _ => hx.2.2 c hc
    rintro _ ⟨⟩
  case store.load =>
    obtain ⟨-, rfl⟩ := h
    exact hv.load key ▸ hv
  case store.save =>
    obtain ⟨-, rfl⟩ := h
    obtain ⟨entries, store⟩ := hv.store
    exact ⟨hv.stopping, ⟨_, by rw [hv.save, store]; rfl⟩, hv.later, hv.holder, hv.tidy⟩
  case host.stopping =>
    obtain ⟨-, rfl⟩ := h
    exact hv
  all_goals
    cases (h : v' = v)
    exact hv

/-! ## What the others keep -/

/-- One view becomes another: at each place the bridge goes on. -/
def Onward (v v' : View) : Prop := ∀ k, Bridge.Onward (v.node k).ledger.bridge (v'.node k).ledger.bridge

theorem Onward.refl (v : View) : Onward v v := fun _ => .refl _

theorem Onward.trans (h : Onward v v') (h' : Onward v' v'') : Onward v v'' := fun k => (h k).trans (h' k)

theorem Onward.executed {p : Proposal} (h : Onward v v') (hp : v.Executed k p) : v'.Executed k p := by
  unfold View.Executed at hp ⊢
  rw [((h k).status _).eq_of_isTerminal (by rw [hp]; rfl), hp]

theorem onward_set_node {m : Node} (h : Bridge.Onward (v.node k).ledger.bridge m.ledger.bridge) :
    Onward v { v with node := update v.node k m } := by
  intro k'
  by_cases hk : k' = k
  · subst hk
    simpa using h
  · simpa [hk] using .refl _

theorem View.Step.onward {x : Exchange RelayInterface} (h : Step w v x v') (hx : Permits sites w v x.request)
    (wired : Wired sites) (hv : Sound sites v) : Onward v v' := by
  obtain ⟨r, a⟩ := x
  rcases r with (_ | d | d | _ | u | fault) | ⟨k, q⟩ | ⟨k, q⟩ | k | ⟨k, next⟩ | k | k | r | r | ⟨d, result⟩ | _ | _
  case source =>
    obtain ⟨-, rfl⟩ := h
    have hc := List.getElem?_eq_getElem (hx : k < _)
    have reply := (hv.later k _ hc).source_reply (wired.wired _ (List.mem_of_getElem? hc)) q
    exact onward_set_node (by rw [reply.2.2]; exact .refl _)
  case destination =>
    obtain ⟨-, rfl⟩ := h
    have reply := ((hv.later k _ (List.getElem?_eq_getElem hx.1)).destination_reply q).2
    exact onward_set_node (Ledger.onward_reply reply)
  case enter =>
    obtain ⟨-, rfl⟩ := h
    exact .refl _
  case store | host.stopping =>
    obtain ⟨-, rfl⟩ := h
    exact .refl _
  all_goals
    cases (h : v' = _)
    exact .refl _

/-- What a worker has reached stays: its checkpoint, and what is executed. -/
structure Since (sites : List Site) (w : Worker) (v v' : View) : Prop where
  stored (c : Site) : sites[w]? = some c → v'.stored c = v.stored c
  onward : Onward v v'

theorem Since.refl (sites : List Site) (w : Worker) (v : View) : Since sites w v v := ⟨fun _ _ => rfl, .refl v⟩

theorem Since.trans (h : Since sites w v v') (h' : Since sites w v' v'') : Since sites w v v'' :=
  ⟨fun c hc => (h'.stored c hc).trans (h.stored c hc), h.onward.trans h'.onward⟩

/-- What a worker relies on stays: what it has reached, and the places to which it writes. -/
structure Kept (sites : List Site) (w : Worker) (v v' : View) : Prop extends Since sites w v v' where
  held (k : Nat) : v.writing k = some w → v'.writing k = some w ∧ (v'.node k).ledger = (v.node k).ledger
  free (k : Nat) : v.writing k ≠ some w → v'.writing k ≠ some w

theorem Kept.refl (sites : List Site) (w : Worker) (v : View) : Kept sites w v v :=
  ⟨.refl sites w v, fun _ h => ⟨h, rfl⟩, fun _ h => h⟩

theorem Kept.trans (h : Kept sites w v v') (h' : Kept sites w v' v'') : Kept sites w v v'' where
  toSince := h.toSince.trans h'.toSince
  held k hk := by
    obtain ⟨held, ledger⟩ := h.held k hk
    obtain ⟨held', ledger'⟩ := h'.held k held
    exact ⟨held', ledger'.trans ledger⟩
  free k hk := h'.free k (h.free k hk)

/-- A request in order of one worker changes nothing on which another one relies. -/
theorem View.Step.kept {x : Exchange RelayInterface} (h : Step w v x v') (hx : Permits sites w v x.request)
    (wired : Wired sites) (hv : Sound sites v) (other : u ≠ w) : Kept sites u v v' := by
  have onward := h.onward hx wired hv
  have taken {k : Nat} (hw : v.writing k = some w) : v.writing k ≠ some u := by
    rw [hw]
    exact fun same => other (Option.some.inj same).symm
  obtain ⟨r, a⟩ := x
  rcases r with (_ | d | d | _ | _ | fault) | ⟨k, q⟩ | ⟨k, q⟩ | k | ⟨k, next⟩ | k | k | (key | ⟨key, value⟩) | r |
    ⟨d, result⟩ | _ | _
  case source =>
    obtain ⟨-, rfl⟩ := h
    refine ⟨⟨fun _ _ => rfl, onward⟩, fun k' held => ⟨held, ?_⟩, fun _ => id⟩
    by_cases hk : k' = k
    · subst hk
      have hc := List.getElem?_eq_getElem (hx : k' < _)
      have reply := (hv.later k' _ hc).source_reply (wired.wired _ (List.mem_of_getElem? hc)) q
      simpa using reply.2.2
    · simp [hk]
  case destination =>
    obtain ⟨-, rfl⟩ := h
    refine ⟨⟨fun _ _ => rfl, onward⟩, fun k' held => ⟨held, ?_⟩, fun _ => id⟩
    have hk : k' ≠ k := by
      rintro rfl
      exact taken hx.2 held
    simp [hk]
  case enter =>
    obtain ⟨free, rfl⟩ := h
    refine ⟨⟨fun _ _ => rfl, onward⟩, fun k' held => ⟨?_, rfl⟩, fun k' away => ?_⟩
    · have hk : k' ≠ k := by
        rintro rfl
        cases free.symm.trans held
      simpa [hk] using held
    · by_cases hk : k' = k
      · subst hk
        simpa using Ne.symm other
      · simpa [hk] using away
  case leave =>
    cases (h : v' = _)
    refine ⟨⟨fun _ _ => rfl, onward⟩, fun k' held => ⟨?_, rfl⟩, fun k' away => ?_⟩
    · have hk : k' ≠ k := by
        rintro rfl
        exact taken hx.2.1 held
      simpa [hk] using held
    · by_cases hk : k' = k
      · subst hk
        simp
      · simpa [hk] using away
  case store.load =>
    obtain ⟨-, rfl⟩ := h
    exact hv.load key ▸ .refl ..
  case store.save =>
    obtain ⟨-, rfl⟩ := h
    obtain ⟨c, hc, rfl⟩ := hx
    refine ⟨⟨fun c' hc' => ?_, onward⟩, fun _ held => ⟨held, rfl⟩, fun _ => id⟩
    have apart : c'.key ≠ c.key := fun same => other (wired.eq_of_domain hc' hc (Checkpoint.key_inj.mp same))
    rw [hv.save]
    exact MemoryStore.find?_insert_of_ne apart
  case host.stopping =>
    obtain ⟨-, rfl⟩ := h
    exact .refl ..
  all_goals
    cases (h : v' = v)
    exact .refl ..

/-! ## Stages in order -/

/-- A stage with a place for each site whose view is sound. -/
structure Ordered (sites : List Site) (s : Stage) : Prop where
  sized : s.Sized sites.length
  sound : Sound sites s.view

/-- The stage as a worker may use it. Before each of its requests the others may have made any that are in order. -/
def guarded (sites : List Site) (w : Worker) : World RelayInterface Stage where
  drift s s' := Ordered sites s → Ordered sites s' ∧ Kept sites w s.view s'.view
  permits s := Permits sites w s.view
  reply := Stage.Reply w

variable {s s' : Stage} {x : Exchange RelayInterface}

theorem Ordered.step (hs : Ordered sites s) (permitted : Permits sites w s.view x.request) (reply : Stage.Reply w s x s') :
    View.Step w s.view x s'.view := reply.step hs.sized permitted.placed

/-- A request in order keeps the stage in order. -/
theorem Ordered.reply (wired : Wired sites) (hs : Ordered sites s) (permitted : Permits sites w s.view x.request)
    (reply : Stage.Reply w s x s') : Ordered sites s' :=
  ⟨reply.sized hs.sized, (hs.step permitted reply).sound permitted wired hs.sound⟩

theorem fair_guarded (wired : Wired sites) {ι : Type} {worker : ι → Worker} (distinct : Injective worker) :
    Pool.Fair fun i => guarded sites (worker i) where
  refl _ _ hs := ⟨hs, .refl ..⟩
  trans _ _ _ _ h h' hs := by
    obtain ⟨between, kept⟩ := h hs
    obtain ⟨after, kept'⟩ := h' between
    exact ⟨after, kept.trans kept'⟩
  drift _ _ _ _ _ other permitted reply hs :=
    ⟨hs.reply wired permitted reply,
      (hs.step permitted reply).kept permitted wired hs.sound fun same => other (distinct same)⟩

end BridgeRelay.Simulation
