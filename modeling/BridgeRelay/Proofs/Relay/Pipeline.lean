import BridgeRelay.Proofs.Relay.Progress
import BridgeRelay.Simulation.Scene

/-!
# The pipeline

A relay between chains in memory that stand still, its workers interleaved in any way. Main statement: once all listeners
are idle, each checkpoint is at the last confirmed block, the proposal of each confirmed deposit is executed at its
destination, and nothing was sent but one vote for each of them with the execution right behind it. Whatever the
sites are, the listeners can become idle.
-/

namespace BridgeRelay.Simulation

open Program Devnet Listener

variable {sites : List Site} {c : Site} {k : Nat} {s : Stage}

/-! ## Workers -/

/-- The number of a worker. The supervisor comes behind the listeners. -/
def number {n : Nat} : Option (Fin n) → Worker
  | none => n
  | some i => i

theorem number_injective {n : Nat} : Function.Injective (number (n := n)) := by
  rintro (_ | i) (_ | j) same
  · rfl
  · exact absurd same.symm j.isLt.ne
  · exact absurd same i.isLt.ne
  · exact congrArg some (Fin.ext same)

/-- The workers of a relay on their stage. -/
abbrev Crew (sites : List Site) : Type 1 := Pool (Option (Fin sites.length)) RelayInterface Unit Stage

/-- What a worker does: it supervises, or listens to a chain. -/
def program (sites : List Site) : Option (Fin sites.length) → Program RelayInterface Unit
  | none => Relay.supervise.bind fun _ => .done ()
  | some i => (relay sites).listenerWorker i sites[i].chain

/-- The workers before they begin, with an empty store. -/
def opening (sites : List Site) : Crew sites where
  programs := program sites
  state := ({ nodes := sites.map Site.node } : Stage).forRelay (relay sites)

/-- One crew becomes another while its workers take turns. -/
abbrev Reaches : Crew sites → Crew sites → Prop := Pool.Reaches fun i => Stage.world (number i)

/-- A listener waits for its next look at the chain. -/
structure Idle (P : Crew sites) (i : Fin sites.length) : Prop where
  paused : ∃ d next, (P.programs (some i)).head = .ask (.host (.pause d)) next
  free (k : Nat) : (P.state.desk k).writing ≠ some i

/-- At a site all is done, and nothing else: the checkpoint is at the last confirmed block, if there is one, and each
proposal that is due was voted for once and executed right after. -/
structure Settled (sites : List Site) (s : Stage) (k : Nat) (c : Site) : Prop where
  checkpoint : s.store.memory.find? (Checkpoint.key c.domain) =
    (c.chain.listener.lastConfirmed c.node.source).map Checkpoint.encode
  executed (p : Proposal) : Due sites c.domain p → ((s.node k).bridge.record (.of p)).status = .executed
  transactions : ∃ ps : List Proposal, (ps.map ProposalKey.of).Nodup ∧ (∀ p ∈ ps, Due sites c.domain p) ∧
    (∀ p, Due sites c.domain p → ProposalKey.of p ∈ ps.map ProposalKey.of) ∧
    (s.node k).account.sent.reverse.map SentTransaction.call = ps.flatMap fun p => [.vote p, .execute p]

/-! ## The beginning -/

theorem node_opening (hk : sites[k]? = some c) : (opening sites).state.node k = c.node := by
  have hn : (sites.map Site.node)[k]? = some c.node := by rw [List.getElem?_map, hk]; rfl
  exact congrArg (Option.getD · {}) hn

theorem vacant_opening : (opening sites).state.Vacant k := by
  unfold Stage.Vacant Stage.desk
  cases hd : (opening sites).state.desks[k]? with
  | none => exact ⟨rfl, rfl⟩
  | some d =>
      obtain ⟨_, -, rfl⟩ := List.mem_map.mp (List.mem_of_getElem? hd)
      exact ⟨rfl, rfl⟩

theorem ordered_opening (wired : Wired sites) : Ordered sites (opening sites).state where
  sized := ⟨List.length_map .., by simp [opening, Stage.forRelay, relay]⟩
  sound :=
    { stopping := rfl
      store := ⟨[], rfl⟩
      later k c hk := by
        have later := (wired.wired c (List.mem_of_getElem? hk)).later
        rwa [← node_opening hk] at later
      holder k w hw := by
        cases vacant_opening.2.symm.trans hw
      tidy k c hk _ := by
        have hc := wired.wired c (List.mem_of_getElem? hk)
        have fresh : ((opening sites).state.node k).ledger = {} := by
          rw [node_opening hk, Node.ledger, hc.bridge, hc.sent]
          rfl
        exact ⟨[], fresh ▸ Ledger.tidy_fresh⟩ }

/-- A listener that has not begun has nothing stored. -/
theorem agrees_waiting (ordered : Ordered sites s) (free : ∀ k, s.view.writing k = none) (stored : s.view.stored c = none)
    (w : Worker) : Agrees sites w c { held := fun _ => none } s where
  ordered := ordered
  free k hw := by
    cases (free k).symm.trans hw
  stored := stored
  executed _ _ _ _ _ hm := absurd hm List.not_mem_nil

/-! ## The workers keep to the stage -/

/-- What the supervisor asks: it waits for what concerns it, and counts. -/
def Supervises : RelayRequest → Prop
  | .host (.record _) | .notice | .leftover => True
  | _ => False

theorem asks_supervise : Relay.supervise.Asks Supervises := by
  have attends : Relay.attend.Asks Supervises := by
    refine Asks.iterate fun halted => ⟨trivial, ?_⟩
    rintro (r | ⟨d, e | _⟩ | _ | _)
    · exact ⟨trivial, fun _ => trivial⟩
    all_goals trivial
  have counts : Relay.countLeftovers.Asks Supervises := by
    refine Asks.iterate fun _ => ⟨trivial, ?_⟩
    rintro (_ | r)
    · trivial
    · exact ⟨trivial, fun _ => trivial⟩
  exact ⟨trivial, fun _ => attends.bind fun _ => counts.bind fun _ => ⟨trivial, fun _ => trivial⟩⟩

theorem permits_of_supervises {w : Worker} {v : View} {r : RelayRequest} (hr : Supervises r) : Permits sites w v r := by
  rcases r with (_ | _ | _ | _ | _ | _) | _ | _ | _ | _ | _ | _ | _ | _ | _ | _ | _
  case host.record | notice | leftover => trivial
  all_goals exact hr.elim

theorem keeps_listenerWorker (wired : Wired sites) (hk : sites[k]? = some c)
    (h : Agrees sites k c { held := fun _ => none } s) :
    ((relay sites).listenerWorker k c.chain).Keeps (guarded sites k) (fun _ _ => True) s := by
  have hc := wired.wired c (List.mem_of_getElem? hk)
  have keeps := keeps_run_still (l := c.chain.listener) (c := c.node.source) (j := { held := fun _ => none }) hc.freshStart
    hc.latestBlock (fun log hl => hc.exists_carried hl) rfl
  have relayed (j : Journal) (s : Stage) (r : ListenerRequest) (h : Agrees sites k c j s)
      (permitted : (c.chain.listener.stillWorld c.node.source).permits j r) := h.keeps_relayed wired hk permitted
  have placed := keeps.translate (fun _ => rfl) relayed h
  exact keeps_do.mpr (placed.mono fun _ _ ⟨_, ended, _⟩ => ended.elim)

theorem keeps_opening (wired : Wired sites) : (opening sites).Keeps fun i => guarded sites (number i) := by
  rintro (_ | i)
  · have asks : (program sites none).Asks Supervises := asks_supervise.bind fun _ => trivial
    refine asks.keeps trivial (fun _ _ _ _ => trivial) ?_ fun _ _ _ _ _ _ => trivial
    exact fun _ _ hr _ => permits_of_supervises hr
  · exact keeps_listenerWorker wired (List.getElem?_eq_getElem i.isLt)
      (agrees_waiting (ordered_opening wired) (fun _ => vacant_opening.2) rfl i)

/-! ## Main statement -/

theorem reaches_guarded {P P' : Crew sites} (h : Reaches P P') :
    Pool.Reaches (fun i => guarded sites (number i)) P P' := by
  refine Relation.ReflTransGen.mono ?_ _ _ h
  intro _ _ step
  cases step with
  | silent i hp => exact .silent i hp
  | ask i hp reply => exact .ask i hp reply

/-- Chains of different domains are relayed without a fault, and their nodes hold deposits of the sample. However the
workers take turns, once all listeners are idle each site is settled. -/
theorem settled_of_idle (wired : Wired sites) {P : Crew sites} (reached : Reaches (opening sites) P)
    (idle : ∀ i, Idle P i) (i : Fin sites.length) : Settled sites P.state i sites[i] := by
  obtain ⟨keeps, ordered⟩ := (keeps_opening wired).reaches (fair_guarded wired number_injective) (ordered_opening wired)
    (fun i s x s' permitted reply h => h.reply wired permitted reply) (reaches_guarded reached)
  have rested (i : Fin sites.length) : Rested sites sites[i] P.state.view := by
    obtain ⟨d, next, paused⟩ := (idle i).paused
    have permitted := ((keeps (some i)).of_ask paused fun ordered => ⟨ordered, .refl ..⟩).1
    exact permitted (idle i).free _ (List.getElem?_eq_getElem i.isLt)
  have free : P.state.view.writing i = none := by
    cases hw : P.state.view.writing i with
    | none => rfl
    | some w => exact absurd hw ((idle ⟨w, ordered.sound.holder _ _ hw⟩).free i)
  have placed : sites[i.val]? = some sites[i] := List.getElem?_eq_getElem i.isLt
  have executed (p : Proposal) (due : Due sites sites[i].domain p) : P.state.view.Executed i p := by
    obtain ⟨c, hc, proposed⟩ := due
    obtain ⟨k, hk, rfl⟩ := List.getElem_of_mem hc
    exact (rested ⟨k, hk⟩).executed i _ p placed proposed
  obtain ⟨ps, tidy⟩ := ordered.sound.tidy i _ placed free
  refine ⟨(rested i).stored, executed, ps, tidy.distinct, tidy.due, fun p due => ?_, ?_⟩
  · exact tidy.executed_iff.mp (executed p due)
  · exact (List.map_reverse ..).trans tidy.calls

/-! ## A way to rest -/

/-- The first listeners of a crew have come to rest one after another, and the others have not begun. -/
structure Halfway (n : Nat) (P : Crew sites) : Prop where
  ordered : Ordered sites P.state
  vacant (k : Nat) : P.state.Vacant k
  paused (i : Fin sites.length) : i < n → Pauses (P.programs (some i))
  waiting (i : Fin sites.length) : n ≤ i → P.programs (some i) = program sites (some i) ∧ P.state.view.stored sites[i] = none

theorem halfway_opening (wired : Wired sites) : Halfway 0 (opening sites) where
  ordered := ordered_opening wired
  vacant _ := vacant_opening
  paused _ h := absurd h (Nat.not_lt_zero _)
  waiting _ _ := ⟨rfl, rfl⟩

/-- The next listener comes to rest while the others wait. -/
theorem Halfway.next {n : Nat} {P : Crew sites} (h : Halfway n P) (wired : Wired sites) (hn : n < sites.length) :
    ∃ P', Reaches P P' ∧ Halfway (n + 1) P' := by
  have hc : sites[n]? = some sites[n] := List.getElem?_eq_getElem hn
  obtain ⟨begins, stored⟩ := h.waiting ⟨n, hn⟩ le_rfl
  have agrees := agrees_waiting h.ordered (fun k => (h.vacant k).2) stored n
  obtain ⟨q, s', way, pauses, vacant⟩ := agrees.leads_rest h.vacant wired hc rfl
  have others {u : Worker} := kept_of_leads (u := u) wired (keeps_listenerWorker wired hc agrees) h.ordered way
  obtain ⟨t, runs, along⟩ := way
  have reached : Reaches P ⟨Function.update P.programs (some ⟨n, hn⟩) q, s'⟩ := Pool.Reaches.of_runs runs begins rfl along
  refine ⟨_, reached, (others (Nat.succ_ne_self n)).1, vacant, fun i hi => ?_, fun i hi => ?_⟩
  · by_cases same : i = ⟨n, hn⟩
    · subst same
      simpa using pauses
    · have earlier : i.val ≠ n := fun h => same (Fin.ext h)
      simpa [same] using h.paused i (by omega)
  · have later : i.val ≠ n := Nat.ne_of_gt hi
    have other : i ≠ ⟨n, hn⟩ := fun h => later (congrArg Fin.val h)
    obtain ⟨waits, stored⟩ := h.waiting i (Nat.le_of_succ_le hi)
    refine ⟨?_, ((others later).2.stored _ (List.getElem?_eq_getElem i.isLt)).trans stored⟩
    simpa [other] using waits

/-- The listeners can come to rest, whatever the sites are. -/
theorem exists_idle (wired : Wired sites) : ∃ P, Reaches (opening sites) P ∧ ∀ i, Idle P i := by
  have halfway (n : Nat) (hn : n ≤ sites.length) : ∃ P, Reaches (opening sites) P ∧ Halfway n P := by
    induction n with
    | zero => exact ⟨_, .refl, halfway_opening wired⟩
    | succ n ih =>
        obtain ⟨P, reached, h⟩ := ih (Nat.le_of_succ_le hn)
        obtain ⟨P', further, h'⟩ := h.next wired hn
        exact ⟨P', reached.trans further, h'⟩
  obtain ⟨P, reached, h⟩ := halfway sites.length le_rfl
  refine ⟨P, reached, fun i => ⟨h.paused i i.isLt, fun k held => ?_⟩⟩
  cases (h.vacant k).2.symm.trans held

/-! ## A sample -/

/-- A chain with a confirmed deposit, and the chain to which it goes. -/
def sampleSites : List Site :=
  [{ chain := ⟨sampleBound, { Writer.sample with domain := 1 }⟩
     node := { source := { head := 8, logs := [samplePaidLog] } } },
   { chain := ⟨{ sampleBound with domain := 2 }, Writer.sample⟩, node := {} }]

theorem wired_sampleSites : Wired sampleSites where
  distinct := by decide
  wired := by
    rintro c (_ | ⟨_, _ | ⟨_, ⟨⟩⟩⟩)
    · refine ⟨rfl, rfl, by decide, rfl, rfl, by decide, ⟨⟨rfl, rfl, rfl, rfl, rfl⟩, rfl⟩, rfl, rfl, rfl, rfl, ?_⟩
      rintro log (_ | ⟨_, ⟨⟩⟩)
      exact ⟨samplePaid, _, ofLog_samplePaidLog, rfl, decode_samplePaid⟩
    · refine ⟨rfl, rfl, by decide, rfl, rfl, by decide, ⟨⟨rfl, rfl, rfl, rfl, rfl⟩, rfl⟩, rfl, rfl, rfl, rfl, ?_⟩
      rintro log ⟨⟩

/-- The proposal of the one deposit. -/
def sampleDue : Proposal := .ofMessage samplePaidMessage fungibleHandler samplePaid.data

theorem due_sampleSites {p : Proposal} : Due sampleSites 2 p ↔ p = sampleDue := by
  constructor
  · rintro ⟨c, hc, log, deposit, payload, confirmed, hd, hp, -, rfl⟩
    obtain rfl | rfl : c = sampleSites[0] ∨ c = sampleSites[1] := by simpa [sampleSites] using hc
    · cases List.mem_singleton.mp confirmed.1
      cases hd.symm.trans ofLog_samplePaidLog
      cases hp.symm.trans decode_samplePaid
      rfl
    · exact absurd confirmed.1 List.not_mem_nil
  · rintro rfl
    refine ⟨sampleSites[0], List.mem_cons_self .., samplePaidLog, samplePaid, _, ?_, ofLog_samplePaidLog, decode_samplePaid,
      rfl, rfl⟩
    exact ⟨List.mem_singleton.mpr rfl, 3, rfl, by decide, by decide⟩

theorem sample_settled_of_idle : ∃ P : Crew sampleSites, Reaches (opening sampleSites) P ∧ (∀ i, Idle P i) ∧
    P.state.store.memory.find? (Checkpoint.key 1) = some (Checkpoint.encode 3) ∧
    P.state.store.memory.find? (Checkpoint.key 2) = none ∧
    (P.state.node 1).account.sent.reverse.map SentTransaction.call = [.vote sampleDue, .execute sampleDue] := by
  obtain ⟨P, reached, idle⟩ := exists_idle wired_sampleSites
  have source := settled_of_idle wired_sampleSites reached idle ⟨0, by decide⟩
  have destination := settled_of_idle wired_sampleSites reached idle ⟨1, by decide⟩
  refine ⟨P, reached, idle, source.checkpoint, destination.checkpoint, ?_⟩
  obtain ⟨ps, distinct, due, all, calls⟩ := destination.transactions
  have one : ps = [sampleDue] := by
    have equal : ∀ p ∈ ps, p = sampleDue := fun p hp => due_sampleSites.mp (due p hp)
    cases ps with
    | nil => exact absurd (all _ (due_sampleSites.mpr rfl)) List.not_mem_nil
    | cons p ps =>
        obtain ⟨rfl, others⟩ := List.forall_mem_cons.mp equal
        cases ps with
        | nil => rfl
        | cons q ps =>
            cases others q (List.mem_cons_self ..)
            exact absurd (List.mem_cons_self ..) (List.nodup_cons.mp distinct).1
  rw [calls, one]
  rfl

end BridgeRelay.Simulation
