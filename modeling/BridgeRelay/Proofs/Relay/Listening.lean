import BridgeRelay.Proofs.Relay.Writes
import BridgeRelay.Proofs.Transfer

/-!
# Listeners on the stage

What a listener hands over reaches the writer of its destination and is executed there, so on the stage a listener is
answered as by a chain that stands still.
-/

namespace BridgeRelay

/-! ## Routes -/

theorem Routes.find?_set_of_ne {W : Type} {r : Routes W} {d d' : DomainId} {w : W} (h : d' ≠ d) :
    (r.set d w).find? d' = r.find? d' := by
  rw [find?, set, List.lookup_cons, beq_eq_false_iff_ne.mpr h, find?]

namespace Relay

variable {chains : List RelayChain} {c : RelayChain} {d : DomainId} {routes : Routes (Nat × Writer)} {place k : Nat}

theorem find?_register_of_not_mem (h : d ∉ chains.map fun c => c.writer.domain) :
    (register routes place chains).find? d = routes.find? d := by
  induction chains generalizing routes place with
  | nil => rfl
  | cons c cs ih =>
      obtain ⟨other, later⟩ := not_or.mp (fun h' => h (List.mem_cons.mpr h'))
      exact (ih later).trans (Routes.find?_set_of_ne other)

/-- A destination has the writer of the one chain with its domain. -/
theorem find?_register (distinct : (chains.map fun c => c.writer.domain).Nodup) (hc : chains[k]? = some c) :
    (register routes place chains).find? c.writer.domain = some (place + k, c.writer) := by
  induction chains generalizing routes place k with
  | nil => cases hc
  | cons c' cs ih =>
      obtain ⟨others, distinct⟩ := List.nodup_cons.mp distinct
      cases k with
      | zero =>
          cases hc
          exact (find?_register_of_not_mem others).trans (Routes.find?_set_self ..)
      | succ k =>
          refine (ih distinct hc).trans ?_
          rw [Nat.add_right_comm, Nat.add_assoc]

end Relay

namespace Simulation

open Program Devnet Function Listener

/-- The relay of the sites. -/
def relay (sites : List Site) : Relay := ⟨sites.map Site.chain⟩

variable {sites : List Site} {w : Worker} {k : Nat} {c c' : Site} {v : View} {s s' : Stage} {m : Message} {log : DepositLog}
  {j : Journal} {d : DomainId}

theorem Wired.writers (wired : Wired sites) :
    ((relay sites).chains.map fun c => c.writer.domain) = sites.map Site.domain := by
  rw [relay, List.map_map]
  exact List.map_congr_left fun (c : Site) hc => (wired.wired c hc).domain

theorem Wired.find?_routes (wired : Wired sites) (hk : sites[k]? = some c) :
    (relay sites).routes.find? c.domain = some (k, c.chain.writer) := by
  have hc : (relay sites).chains[k]? = some c.chain := by
    rw [relay, List.getElem?_map, hk]
    rfl
  have found : (Relay.register {} 0 (relay sites).chains).find? c.chain.writer.domain = _ :=
    Relay.find?_register (wired.writers ▸ wired.distinct) hc
  rw [(wired.wired c (List.mem_of_getElem? hk)).domain, Nat.zero_add] at found
  exact found

theorem Wired.find?_routes_none (wired : Wired sites) (h : ∀ (k : Nat) (c : Site), sites[k]? = some c → c.domain ≠ d) :
    (relay sites).routes.find? d = none := by
  refine Relay.find?_register_of_not_mem ?_
  rw [wired.writers]
  intro hd
  obtain ⟨c, hc, rfl⟩ := List.mem_map.mp hd
  obtain ⟨k, hk⟩ := List.getElem?_of_mem hc
  exact h k c hk rfl

/-! ## Messages -/

theorem Site.Wired.known (hc : c.Wired) : c.chain.listener.handlers.find? c.node.source.handler = some .fungible :=
  hc.handler.symm ▸ hc.configured

/-- The message of a log of the site carries a transfer of the sample, and is written as its deposit was. -/
theorem Site.Wired.message (hc : c.Wired) (hl : log ∈ c.node.source.logs)
    (carried : c.chain.listener.Carries (still c.node.source) log m) :
    ∃ deposit payload, Deposit.ofLog log = .ok deposit ∧ deposit.resource = sampleResource ∧
      Payload.decode .fungible deposit.data = .ok payload ∧ m = c.chain.listener.message log deposit payload ∧
      Payload.encode m.transferType m.payload = .ok deposit.data := by
  obtain ⟨deposit, kind, payload, hd, hk, hp, rfl⟩ := carried
  obtain ⟨_, _, hd', resource, -⟩ := hc.fungible log hl
  cases hd.symm.trans hd'
  cases hc.known.symm.trans hk
  have whole : ¬ Payload.Unfinished .fungible deposit.data := fun h => nomatch h.1
  refine ⟨deposit, payload, hd, resource, hp, rfl, ?_⟩
  rw [encode_message hp, Payload.finished, if_neg whole]

theorem Site.Wired.exists_carried (hc : c.Wired) (hl : log ∈ c.node.source.logs) :
    ∃ m, c.chain.listener.Carries (still c.node.source) log m := by
  obtain ⟨deposit, payload, hd, -, hp⟩ := hc.fungible log hl
  exact ⟨_, deposit, .fungible, payload, hd, hc.known, hp, rfl⟩

/-! ## Listeners -/

/-- The stage is as it is known to a listener that writes nowhere: its checkpoint is stored, and what it handed over is
executed, if the destination is one of the relay. -/
structure Agrees (sites : List Site) (w : Worker) (c : Site) (j : Journal) (s : Stage) : Prop where
  ordered : Ordered sites s
  free (k : Nat) : s.view.writing k ≠ some w
  stored : s.view.stored c = j.held c.key
  executed (k : Nat) (c' : Site) (m : Message) (data : Bytes) : sites[k]? = some c' →
    m ∈ j.sent.map Handover.message → m.destination = c'.domain →
    Payload.encode m.transferType m.payload = .ok data → s.view.Executed k (.ofMessage m fungibleHandler data)

theorem Agrees.drift (h : Agrees sites w c j s) (hw : sites[w]? = some c) (hd : (guarded sites w).drift s s') :
    Agrees sites w c j s' := by
  obtain ⟨ordered, kept⟩ := hd h.ordered
  exact ⟨ordered, fun k => kept.free k (h.free k), (kept.stored c hw).trans h.stored,
    fun k c' m data hk hm dest hd => kept.onward.executed (h.executed k c' m data hk hm dest hd)⟩

/-- A listener at rest has done all that its chain asks for. -/
theorem Agrees.rested (h : Agrees sites w c j s) (hc : c.Wired) (rest : c.chain.listener.AtRest c.node.source j) :
    Rested sites c s.view where
  stored := h.stored.trans rest.held
  executed := by
    rintro k c' _ hk ⟨log, deposit, payload, confirmed, hd, hp, dest, rfl⟩
    obtain ⟨m, carried, sent⟩ := rest.sent log confirmed
    obtain ⟨deposit', payload', hd', -, hp', rfl, written⟩ := hc.message confirmed.1 carried
    cases hd.symm.trans hd'
    cases hp.symm.trans hp'
    exact h.executed k c' _ _ hk sent dest written

theorem Agrees.of_view (h : Agrees sites w c j s) (ordered : Ordered sites s') (same : s'.view = s.view) :
    Agrees sites w c j s' := by
  obtain ⟨-, free, stored, executed⟩ := h
  rw [← same] at free stored executed
  exact ⟨ordered, free, stored, executed⟩

/-- A request that leaves the view as it is. -/
theorem Agrees.keeps_ask_quiet {r : RelayRequest} (h : Agrees sites w c j s) (wired : Wired sites) (hw : sites[w]? = some c)
    (hr : View.Quiet r) (permitted : ∀ s', Agrees sites w c j s' → Permits sites w s'.view r) :
    (Program.ask r .done : Program RelayInterface r.Answer).Keeps (guarded sites w) (fun _ s' => Agrees sites w c j s') s := by
  refine keeps_ask.mpr fun s₁ drift => ?_
  have h := h.drift hw drift
  have permitted := permitted s₁ h
  exact ⟨permitted, fun a s₂ reply => h.of_view (h.ordered.reply wired (x := ⟨r, a⟩) permitted reply)
    ((h.ordered.step (x := ⟨r, a⟩) permitted reply).quiet hr)⟩

theorem Agrees.keeps_stopping (h : Agrees sites w c j s) (wired : Wired sites) (hw : sites[w]? = some c) :
    (Program.ask (.host .stopping) .done : Program RelayInterface Bool).Keeps (guarded sites w)
      (fun a s' => a = false ∧ Agrees sites w c j s') s := by
  refine keeps_ask.mpr fun s₁ drift => ⟨trivial, fun a s₂ reply => ?_⟩
  have h := h.drift hw drift
  obtain ⟨answer, same⟩ := h.ordered.step (x := ⟨.host .stopping, a⟩) trivial reply
  exact ⟨answer.trans h.ordered.sound.stopping,
    h.of_view (h.ordered.reply wired (x := ⟨.host .stopping, a⟩) trivial reply) same⟩

/-- The node answers the listener as the chain that stands still. -/
theorem Agrees.keeps_source (h : Agrees sites w c j s) (wired : Wired sites) (hw : sites[w]? = some c) (q : SourceQuery) :
    (Program.ask (.source w q) .done : Program RelayInterface q.Answer).Keeps (guarded sites w)
      (fun a s' => a = (c.node.source.answer q).1 ∧ Agrees sites w c j s') s := by
  refine keeps_ask.mpr fun s₁ drift => ?_
  have h := h.drift hw drift
  have permitted : Permits sites w s₁.view (.source w q) := (List.getElem?_eq_some_iff.mp hw).1
  refine ⟨permitted, fun a s₂ reply => ?_⟩
  have step := h.ordered.step (x := ⟨.source w q, a⟩) permitted reply
  have onward := step.onward permitted wired h.ordered.sound
  have ordered := h.ordered.reply wired (x := ⟨.source w q, a⟩) permitted reply
  obtain ⟨rfl, after⟩ := step
  have answered := (h.ordered.sound.later w c hw).source_reply (wired.wired c (List.mem_of_getElem? hw)) q
  refine ⟨answered.1, ordered, ?_, ?_, fun k c' m data hk hm dest hd => onward.executed (h.executed k c' m data hk hm dest hd)⟩
  · rw [after]
    exact h.free
  · rw [after]
    exact h.stored

theorem Agrees.keeps_load (h : Agrees sites w c j s) (wired : Wired sites) (hw : sites[w]? = some c) :
    (Program.ask (.store (.load c.key)) .done : Program RelayInterface (Except StoreError (Option Bytes))).Keeps
      (guarded sites w) (fun a s' => a = .ok (j.held c.key) ∧ Agrees sites w c j s') s := by
  refine keeps_ask.mpr fun s₁ drift => ?_
  have h := h.drift hw drift
  have permitted : Permits sites w s₁.view (.store (.load c.key)) := ⟨c, hw, rfl⟩
  refine ⟨permitted, fun a s₂ reply => ?_⟩
  have ordered := h.ordered.reply wired (x := ⟨.store (.load c.key), a⟩) permitted reply
  obtain ⟨answer, after⟩ := h.ordered.step (x := ⟨.store (.load c.key), a⟩) permitted reply
  rw [h.ordered.sound.load] at answer after
  refine ⟨answer.trans (congrArg Except.ok h.stored), h.of_view ordered after⟩

theorem Agrees.keeps_save {value : Bytes} (h : Agrees sites w c j s) (wired : Wired sites) (hw : sites[w]? = some c) :
    (Program.ask (.store (.save c.key value)) .done : Program RelayInterface (Except StoreError Unit)).Keeps
      (guarded sites w)
      (fun a s' => a = .ok () ∧ Agrees sites w c (j.after ⟨.store (.save c.key value), .ok ()⟩) s') s := by
  refine keeps_ask.mpr fun s₁ drift => ?_
  have h := h.drift hw drift
  have permitted : Permits sites w s₁.view (.store (.save c.key value)) := ⟨c, hw, rfl⟩
  refine ⟨permitted, fun a s₂ reply => ?_⟩
  have ordered := h.ordered.reply wired (x := ⟨.store (.save c.key value), a⟩) permitted reply
  obtain ⟨answer, after⟩ := h.ordered.step (x := ⟨.store (.save c.key value), a⟩) permitted reply
  rw [h.ordered.sound.save] at answer after
  refine ⟨answer, ordered, ?_, ?_, ?_⟩
  · rw [after]
    exact h.free
  · rw [after]
    exact MemoryStore.find?_insert_self.trans (update_self c.key (some value) j.held).symm
  · rw [after]
    exact h.executed

theorem Agrees.away (h : Agrees sites w c j s) : Away sites w s.view s := ⟨h.ordered, .refl .., h.free⟩

/-- The stage after one more message was handed over, and is executed if its destination is one of the relay. -/
theorem Agrees.route (h : Agrees sites w c j s) (hw : sites[w]? = some c) (away : Away sites w s.view s')
    (executed : ∀ (k : Nat) (c' : Site) (data : Bytes), sites[k]? = some c' → m.destination = c'.domain →
      Payload.encode m.transferType m.payload = .ok data → s'.view.Executed k (.ofMessage m fungibleHandler data))
    (a : Except RouteError Outcome) : Agrees sites w c (j.after ⟨.route m.destination m, a⟩) s' where
  ordered := away.ordered
  free := away.free
  stored := (away.since.stored c hw).trans h.stored
  executed k c' m' data hk hm dest hd := by
    obtain earlier | rfl : m' ∈ j.sent.map Handover.message ∨ m' = m := by simpa [Journal.after] using hm
    · exact away.since.onward.executed (h.executed k c' m' data hk earlier dest hd)
    · exact executed k c' data hk dest hd

/-- A message of a confirmed deposit is executed, if its destination is one of the relay, and never held back. -/
theorem Agrees.keeps_route (h : Agrees sites w c j s) (wired : Wired sites) (hw : sites[w]? = some c)
    (confirmed : c.chain.listener.Confirmed c.node.source log)
    (carried : c.chain.listener.Carries (still c.node.source) log m) :
    (Relay.route (relay sites).routes m.destination m).Keeps (guarded sites w)
      (fun a s' => ¬ HoldsBack a ∧ Agrees sites w c (j.after ⟨.route m.destination m, a⟩) s') s := by
  unfold Relay.route
  by_cases routed : ∃ (k : Nat) (c' : Site), sites[k]? = some c' ∧ c'.domain = m.destination
  · obtain ⟨k, c', hk, dest⟩ := routed
    obtain ⟨deposit, payload, hd, resource, hp, rfl, written⟩ :=
      (wired.wired c (List.mem_of_getElem? hw)).message confirmed.1 carried
    have due : Due sites c'.domain
        (.ofMessage (c.chain.listener.message log deposit payload) fungibleHandler deposit.data) :=
      ⟨c, List.mem_of_getElem? hw, log, deposit, payload, confirmed, hd, hp, dest.symm, rfl⟩
    rw [← dest, wired.find?_routes hk, dest]
    refine keeps_do.mpr
      ((h.away.keeps_write wired (List.getElem?_eq_some_iff.mp hw).1 hk written resource rfl due).mono ?_)
    rintro a s' ⟨outcome, away, executed⟩
    have agrees := h.route hw away fun k' c'' data hk' dest' hd' => by
      cases wired.eq_of_domain hk hk' (dest.trans dest')
      cases written.symm.trans hd'
      exact executed
    obtain rfl | rfl := outcome
    · exact ⟨not_false, agrees _⟩
    · exact ⟨not_false, agrees _⟩
  · rw [wired.find?_routes_none fun k c' hk dest => routed ⟨k, c', hk, dest⟩]
    exact ⟨not_false, h.route hw h.away (fun k c' _ hk dest _ => absurd ⟨k, c', hk, dest.symm⟩ routed) _⟩

/-- A listener is answered on the stage as by a chain that stands still. -/
theorem Agrees.keeps_relayed (h : Agrees sites w c j s) (wired : Wired sites) (hw : sites[w]? = some c)
    {r : ListenerRequest} (permitted : (c.chain.listener.stillWorld c.node.source).permits j r) :
    (Listener.relayed w (Relay.route (relay sites).routes) r).Keeps (guarded sites w)
      (fun a s' => ∃ j', (c.chain.listener.stillWorld c.node.source).reply j ⟨r, a⟩ j' ∧ Agrees sites w c j' s') s := by
  have hc := wired.wired c (List.mem_of_getElem? hw)
  rcases r with q | (_ | _ | d | _ | _ | fault) | (key | ⟨key, value⟩) | ⟨d, m⟩ | r
  case chain =>
    refine (h.keeps_source wired hw q).mono ?_
    rintro _ s' ⟨rfl, h⟩
    refine ⟨j, ⟨?_, trivial, rfl⟩, h⟩
    cases q with
    | head | handler => exact rfl
    | deposits first last => simp [SourceChain.answer, hc.failure, Surroundings.Answers, still]
  case host.stopping =>
    refine (h.keeps_stopping wired hw).mono ?_
    rintro _ s' ⟨rfl, h⟩
    exact ⟨j, ⟨rfl, trivial, rfl⟩, h⟩
  case host.abort => exact keeps_ask.mpr fun _ _ => ⟨trivial, fun a => a.elim⟩
  case host.pause =>
    refine Keeps.mono (h.keeps_ask_quiet wired hw trivial fun s' h _ c' hc' => ?_) ?_
    · cases hw.symm.trans hc'
      exact h.rested hc permitted
    · exact fun _ s' h => ⟨j, ⟨trivial, trivial, rfl⟩, h⟩
  case store.load =>
    cases (permitted : key = _)
    refine (h.keeps_load wired hw).mono ?_
    rintro _ s' ⟨rfl, h⟩
    exact ⟨j, ⟨rfl, trivial, rfl⟩, h⟩
  case store.save =>
    cases (permitted : key = _)
    refine (h.keeps_save wired hw).mono ?_
    rintro _ s' ⟨rfl, h⟩
    exact ⟨_, ⟨rfl, trivial, rfl⟩, h⟩
  case route =>
    obtain ⟨rfl, log, confirmed, carried⟩ := permitted
    refine (h.keeps_route wired hw confirmed carried).mono ?_
    rintro a s' ⟨passes, h⟩
    exact ⟨_, ⟨trivial, passes, rfl⟩, h⟩
  all_goals
    refine Keeps.mono (h.keeps_ask_quiet wired hw trivial fun _ _ => trivial) ?_
    exact fun _ s' h => ⟨j, ⟨trivial, trivial, rfl⟩, h⟩

end Simulation

end BridgeRelay
