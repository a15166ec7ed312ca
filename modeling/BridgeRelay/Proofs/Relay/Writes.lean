import BridgeRelay.Proofs.Relay.Sites
import BridgeRelay.Proofs.Writer.Completion
import BridgeRelay.Proofs.Writer.Inbox

/-!
# Writes on the stage

While a worker writes to a place, the ledger there is as if it were alone. So a write completes a proposal that is due and
leaves a tidy ledger behind.
-/

namespace BridgeRelay.Simulation

open Program Devnet Function

variable {sites : List Site} {w : Worker} {k : Nat} {c : Site} {v v₀ : View} {s s' : Stage} {l : Ledger} {m : Message}
  {p : Proposal} {data : Bytes}

/-! ## Workers -/

/-- A worker that writes nowhere, and what it has reached. -/
structure Away (sites : List Site) (w : Worker) (v₀ : View) (s : Stage) : Prop where
  ordered : Ordered sites s
  since : Since sites w v₀ s.view
  free (k : Nat) : s.view.writing k ≠ some w

/-- A worker that writes to a place with such a ledger, and what it has reached. -/
structure Writing (sites : List Site) (w : Worker) (k : Nat) (v₀ : View) (l : Ledger) (s : Stage) : Prop where
  ordered : Ordered sites s
  since : Since sites w v₀ s.view
  held : s.view.writing k = some w
  free (k' : Nat) : k' ≠ k → s.view.writing k' ≠ some w
  ledger : (s.view.node k).ledger = l

theorem Away.drift (h : Away sites w v₀ s) (hd : (guarded sites w).drift s s') : Away sites w v₀ s' := by
  obtain ⟨ordered, kept⟩ := hd h.ordered
  exact ⟨ordered, h.since.trans kept.toSince, fun k => kept.free k (h.free k)⟩

theorem Writing.drift (h : Writing sites w k v₀ l s) (hd : (guarded sites w).drift s s') : Writing sites w k v₀ l s' := by
  obtain ⟨ordered, kept⟩ := hd h.ordered
  obtain ⟨held, ledger⟩ := kept.held k h.held
  exact ⟨ordered, h.since.trans kept.toSince, held, fun k' hk => kept.free k' (h.free k' hk), ledger.trans h.ledger⟩

/-! ## Requests -/

theorem Writing.reply (h : Writing sites w k v₀ l s) (wired : Wired sites) {x : Exchange RelayInterface}
    (permitted : Permits sites w s.view x.request) (reply : Stage.Reply w s x s') (same : s'.view = s.view) :
    Writing sites w k v₀ l s' := by
  obtain ⟨ordered, since, held, free, ledger⟩ := h
  rw [← same] at since held free ledger
  exact ⟨ordered.reply wired permitted reply, since, held, free, ledger⟩

theorem Writing.keeps_ask_quiet {r : RelayRequest} (h : Writing sites w k v₀ l s) (wired : Wired sites) (hr : View.Quiet r) :
    (Program.ask r .done : Program RelayInterface r.Answer).Keeps (guarded sites w)
      (fun _ s' => Writing sites w k v₀ l s') s := by
  refine keeps_ask.mpr fun s₁ drift => ?_
  have h := h.drift drift
  have permitted : Permits sites w s₁.view r := permits_of_quiet hr fun _ _ => ⟨k, h.held⟩
  exact ⟨permitted, fun a s₂ reply =>
    h.reply wired (x := ⟨r, a⟩) permitted reply ((h.ordered.step (x := ⟨r, a⟩) permitted reply).quiet hr)⟩

/-- Nobody stops the worker. -/
theorem Writing.keeps_stopping (h : Writing sites w k v₀ l s) (wired : Wired sites) :
    (Program.ask (.host .stopping) .done : Program RelayInterface Bool).Keeps (guarded sites w)
      (fun a s' => a = false ∧ Writing sites w k v₀ l s') s := by
  refine keeps_ask.mpr fun s₁ drift => ⟨trivial, fun a s₂ reply => ?_⟩
  have h := h.drift drift
  obtain ⟨answer, same⟩ := h.ordered.step (x := ⟨.host .stopping, a⟩) trivial reply
  exact ⟨answer.trans h.ordered.sound.stopping, h.reply wired (x := ⟨.host .stopping, a⟩) trivial reply same⟩

theorem Writing.keeps_ask_destination (h : Writing sites w k v₀ l s) (wired : Wired sites) (hk : sites[k]? = some c)
    (q : DestinationQuery) : (Program.ask (.destination k q) .done : Program RelayInterface q.Answer).Keeps
      (guarded sites w)
      (fun a s' => ∃ l', Ledger.Reply c.node.account.sender l ⟨.chain q, a⟩ l' ∧ Writing sites w k v₀ l' s') s := by
  refine keeps_ask.mpr fun s₁ drift => ?_
  have h := h.drift drift
  have permitted : Permits sites w s₁.view (.destination k q) := ⟨(List.getElem?_eq_some_iff.mp hk).1, h.held⟩
  refine ⟨permitted, fun a s₂ reply => ?_⟩
  have step := h.ordered.step (x := ⟨.destination k q, a⟩) permitted reply
  have onward := step.onward permitted wired h.ordered.sound
  obtain ⟨rfl, after⟩ := step
  have answered := ((h.ordered.sound.later k c hk).destination_reply q).2
  refine ⟨_, h.ledger ▸ answered, h.ordered.reply (x := ⟨.destination k q, _⟩) wired permitted reply, ?_, ?_, ?_, ?_⟩
  · exact h.since.trans ⟨fun _ _ => by rw [after]; rfl, onward⟩
  · rw [after]
    exact h.held
  · rw [after]
    exact h.free
  · rw [after]
    exact congrArg Node.ledger (update_self ..)

/-- While a worker writes to a place, its requests are answered as by the ledger. -/
theorem Writing.keeps_relayed (h : Writing sites w k v₀ l s) (wired : Wired sites) (hk : sites[k]? = some c)
    {r : WriterRequest} (inner : r.IsInner) : (Writer.relayed k r).Keeps (guarded sites w)
      (fun a s' => ∃ l', Ledger.Reply c.node.account.sender l ⟨r, a⟩ l' ∧ Writing sites w k v₀ l' s') s := by
  cases r with
  | chain q => exact h.keeps_ask_destination wired hk q
  | host r =>
      cases r with
      | stopping =>
          refine (h.keeps_stopping wired).mono ?_
          rintro _ s' ⟨rfl, h⟩
          exact ⟨l, ⟨rfl, rfl⟩, h⟩
      | abort fault => exact keeps_ask.mpr fun _ _ => ⟨trivial, fun a => a.elim⟩
      | now | sleep | pause | record =>
          refine Keeps.mono (h.keeps_ask_quiet wired trivial) ?_
          exact fun _ _ h => ⟨l, ⟨trivial, rfl⟩, h⟩
  | takeNonce | giveNonce =>
      refine Keeps.mono (h.keeps_ask_quiet wired trivial) ?_
      exact fun _ _ h => ⟨l, ⟨trivial, rfl⟩, h⟩
  | enter | leave => exact inner.elim

/-! ## Deliveries -/

/-- At a tidy ledger a delivery ends and completes its proposal. -/
theorem ends_deliver {ps : List Proposal} (hc : c.Wired) (hd : Payload.encode m.transferType m.payload = .ok data)
    (hr : m.resource = sampleResource) (hp : p = .ofMessage m fungibleHandler data)
    (tidy : Ledger.Tidy (Due sites c.domain) ps l) :
    (c.chain.writer.deliver m).Ends (Ledger.world c.node.account.sender) (Writer.Completes p l) l := by
  have bound : l.bridge.handler m.resource = fungibleHandler := by
    rw [hr, Bridge.handler, tidy.handlers]
    exact Writer.handler_fresh
  rw [← hc.relayer]
  refine Writer.ends_deliver_bound hd (bound ▸ Writer.fungibleHandler_ne_zero) ?_
  rw [bound, ← hp]
  exact Writer.ends_advance_alone hc.watched tidy.counted tidy.uncancelled tidy.enough

/-- A delivery completes its proposal. -/
theorem keeps_deliver {ps : List Proposal} (wired : Wired sites) (hk : sites[k]? = some c)
    (hd : Payload.encode m.transferType m.payload = .ok data) (hr : m.resource = sampleResource)
    (hp : p = .ofMessage m fungibleHandler data) (tidy : Ledger.Tidy (Due sites c.domain) ps l)
    (h : Writing sites w k v₀ l s) : (Writer.place k (c.chain.writer.deliver m)).Keeps (guarded sites w)
      (fun a s' => ∃ l', Writer.Completes p l a l' ∧ Writing sites w k v₀ l' s') s := by
  have ends := ends_deliver (wired.wired c (List.mem_of_getElem? hk)) hd hr hp tidy
  refine ((ends.keeps fun _ _ => trivial).and_asks Writer.asks_deliver).translate (fun _ => rfl) ?_ h
  exact fun l s r h permitted => h.keeps_relayed wired hk permitted.2

/-! ## Writes -/

theorem place_bind {α β : Type} (q : Program WriterInterface α) (f : α → Program WriterInterface β) :
    Writer.place k (q >>= f) = (Writer.place k q).bind fun a => Writer.place k (f a) := translate_bind q f

/-- A worker that has to wait for its turn begins to write at a tidy ledger. -/
theorem Away.keeps_enter (h : Away sites w v₀ s) (wired : Wired sites) (hw : w < sites.length) (hk : sites[k]? = some c) :
    (Program.ask (.enter k) .done : Program RelayInterface Unit).Keeps (guarded sites w)
      (fun _ s' => ∃ ps l, Ledger.Tidy (Due sites c.domain) ps l ∧ Writing sites w k v₀ l s') s := by
  refine keeps_ask.mpr fun s₁ drift => ?_
  have h := h.drift drift
  have permitted : Permits sites w s₁.view (.enter k) := ⟨(List.getElem?_eq_some_iff.mp hk).1, hw⟩
  refine ⟨permitted, fun a s₂ reply => ?_⟩
  have ordered := h.ordered.reply wired (x := ⟨.enter k, a⟩) permitted reply
  obtain ⟨free, after⟩ := h.ordered.step (x := ⟨.enter k, a⟩) permitted reply
  obtain ⟨ps, tidy⟩ := h.ordered.sound.tidy k c hk free
  refine ⟨ps, _, tidy, ordered, ?_, ?_, fun k' hk' => ?_, ?_⟩
  · rw [after]
    exact ⟨h.since.stored, h.since.onward⟩
  · rw [after]
    exact update_self ..
  · rw [after]
    simpa [hk'] using h.free k'
  · rw [after]

/-- A worker stops writing when the ledger is tidy. -/
theorem Writing.keeps_leave {ps : List Proposal} (h : Writing sites w k v₀ l s) (wired : Wired sites)
    (hk : sites[k]? = some c) (tidy : Ledger.Tidy (Due sites c.domain) ps l) :
    (Program.ask (.leave k) .done : Program RelayInterface Unit).Keeps (guarded sites w)
      (fun _ s' => Away sites w v₀ s' ∧ (s'.view.node k).ledger = l) s := by
  refine keeps_ask.mpr fun s₁ drift => ?_
  have h := h.drift drift
  have permitted : Permits sites w s₁.view (.leave k) := by
    refine ⟨(List.getElem?_eq_some_iff.mp hk).1, h.held, fun c' hc' => ⟨ps, ?_⟩⟩
    cases hk.symm.trans hc'
    exact h.ledger ▸ tidy
  refine ⟨permitted, fun a s₂ reply => ?_⟩
  have ordered := h.ordered.reply wired (x := ⟨.leave k, a⟩) permitted reply
  have after : s₂.view = _ := h.ordered.step (x := ⟨.leave k, a⟩) permitted reply
  refine ⟨⟨ordered, ?_, fun k' => ?_⟩, ?_⟩
  · rw [after]
    exact ⟨h.since.stored, h.since.onward⟩
  · rw [after]
    by_cases hk' : k' = k
    · subst hk'
      simp
    · simpa [hk'] using h.free k' hk'
  · rw [after]
    exact h.ledger

/-- A write completes its proposal. -/
theorem Away.keeps_write (h : Away sites w v₀ s) (wired : Wired sites) (hw : w < sites.length) (hk : sites[k]? = some c)
    (hd : Payload.encode m.transferType m.payload = .ok data) (hr : m.resource = sampleResource)
    (hp : p = .ofMessage m fungibleHandler data) (due : Due sites c.domain p) :
    (Writer.place k (c.chain.writer.write m)).Keeps (guarded sites w)
      (fun a s' => (a = .ok .executed ∨ a = .ok (.alreadyFinal .executed)) ∧ Away sites w v₀ s' ∧ s'.view.Executed k p)
      s := by
  refine keeps_bind.mpr ((h.keeps_enter wired hw hk).mono ?_)
  rintro _ s ⟨ps, l, tidy, h⟩
  refine keeps_bind.mpr ((h.keeps_stopping wired).mono ?_)
  rintro _ s ⟨rfl, h⟩
  change (Writer.place k (c.chain.writer.deliver m >>= fun a => Destination.leave >>= fun _ => pure a)).Keeps _ _ _
  rw [place_bind]
  refine keeps_bind.mpr ((keeps_deliver wired hk hd hr hp tidy h).mono ?_)
  rintro a s ⟨l', ⟨outcome, completed⟩, h⟩
  obtain ⟨ps', tidy⟩ := tidy.completed due completed
  refine keeps_bind.mpr ((h.keeps_leave wired hk tidy).mono ?_)
  rintro _ s' ⟨away, rfl⟩
  exact ⟨outcome.imp And.left And.left, away, completed.status⟩

end BridgeRelay.Simulation
