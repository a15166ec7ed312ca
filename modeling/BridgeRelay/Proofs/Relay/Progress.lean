import BridgeRelay.Proofs.Listener.Arrival
import BridgeRelay.Proofs.Relay.Listening
import BridgeRelay.Proofs.Writer.Custody

/-!
# Workers that are not held up

A worker that goes on while the others wait somewhere without a lock is never held up itself: each of its writes ends, and
its listener comes to rest.
-/

namespace BridgeRelay

/-- The place whose locks a request changes. -/
def RelayRequest.place? : RelayRequest → Option Nat
  | .takeNonce k | .giveNonce k _ | .enter k | .leave k => some k
  | _ => none

namespace Simulation

open Program Devnet Function

namespace Stage

variable {w : Worker} {s s' : Stage} {k : Nat} {x : Exchange RelayInterface}

/-- Nobody writes to the place, or has its account. -/
def Vacant (s : Stage) (k : Nat) : Prop := (s.desk k).signing = none ∧ (s.desk k).writing = none

/-- Is answered at once. -/
def Ready (s : Stage) : RelayRequest → Prop
  | .takeNonce k => (s.desk k).signing = none
  | .enter k => (s.desk k).writing = none
  | .notice | .host (.abort _) => False
  | _ => True

theorem exists_reply {r : RelayRequest} (hr : s.Ready r) : ∃ a s', Reply w s ⟨r, a⟩ s' := by
  rcases r with (_ | d | d | _ | u | fault) | ⟨k, q⟩ | ⟨k, q⟩ | k | ⟨k, next⟩ | k | k | r | r | ⟨d, result⟩ | _ | _
  case host.abort | notice => exact hr.elim
  case host.sleep | host.pause => exact ⟨(), s, s.now, le_rfl, rfl⟩
  case takeNonce | enter =>
    refine ⟨_, _, Option.ite_none_left_eq_some.mpr ⟨?_, rfl⟩⟩
    simp [show _ = none from hr]
  case leftover =>
    cases h : s.channel with
    | nil => exact ⟨none, s, by simp [Reply, answer?, h]⟩
    | cons r rs => exact ⟨some r, _, by simp only [Reply, answer?, h]; rfl⟩
  all_goals exact ⟨_, _, rfl⟩

/-- The locks of a place stay as they are while others are asked for. -/
theorem Reply.desk (h : Reply w s x s') (hx : x.request.place? ≠ some k) : s'.desk k = s.desk k := by
  by_cases aside : Aside x.request
  · unfold Stage.desk
    rw [(h.same aside).desks]
  obtain ⟨r, a⟩ := x
  rcases r with (_ | d | d | _ | u | fault) | ⟨k', q⟩ | ⟨k', q⟩ | k' | ⟨k', next⟩ | k' | k' | r | r | ⟨d, result⟩ | _ | _
  case host.stopping | source | destination | store =>
    cases h
    rfl
  case giveNonce | leave =>
    cases h
    exact desk_setDesk_of_ne fun same => hx (congrArg some same.symm)
  case takeNonce | enter =>
    obtain ⟨-, h⟩ := Option.ite_none_left_eq_some.mp h
    cases h
    exact desk_setDesk_of_ne fun same => hx (congrArg some same.symm)
  all_goals exact absurd trivial aside

/-- A request for which nobody has to wait. -/
theorem leads_request {r : RelayRequest} (hr : s.Ready r) : ∃ a s', Reply w s ⟨r, a⟩ s' ∧
    (Program.ask r .done : Program RelayInterface r.Answer).Leads (world w) s (.done a) s' := by
  obtain ⟨a, s', reply⟩ := exists_reply (w := w) hr
  exact ⟨a, s', reply, .ask rfl reply⟩

/-- One worker writes to a place, and may have its account. All others are nowhere. -/
structure Solo (k : Nat) (taken : Bool) (s : Stage) : Prop where
  others (k' : Nat) : k' ≠ k → s.Vacant k'
  account : taken = false → (s.desk k).signing = none

theorem Vacant.of_desk (h : s.Vacant k) (same : s'.desk k = s.desk k) : s'.Vacant k := by
  unfold Vacant
  rwa [same]

/-- After a request that may change the locks of the place the others are still nowhere. -/
theorem Solo.reply_at {taken : Bool} (h : Solo k taken s) (reply : Reply w s x s') (at_place : x.request.place? = some k)
    {k' : Nat} (hk : k' ≠ k) : s'.Vacant k' := by
  refine (h.others k' hk).of_desk (reply.desk ?_)
  rw [at_place]
  exact fun same => hk (Option.some.inj same).symm

theorem Solo.reply_aside {taken : Bool} (h : Solo k taken s) (reply : Reply w s x s') (aside : x.request.place? = none) :
    Solo k taken s' := by
  have same (k' : Nat) : s'.desk k' = s.desk k' := reply.desk (by rw [aside]; exact nofun)
  exact ⟨fun k' hk => (h.others k' hk).of_desk (same k'), fun free => by rw [same]; exact h.account free⟩

end Stage

open Stage

variable {sites : List Site} {w : Worker} {c : Site} {s s' : Stage} {m : Message}

theorem guarded_refl (s : Stage) : (guarded sites w).drift s s := fun hs => ⟨hs, .refl ..⟩

/-- On its way alone a worker keeps to what it keeps to among the others. -/
theorem keeps_of_leads {α : Type} {q q' : Program RelayInterface α} {Q : α → Stage → Prop}
    (h : q.Keeps (guarded sites w) Q s) (way : q.Leads (Stage.world w) s q' s') : q'.Keeps (guarded sites w) Q s' :=
  h.leads guarded_refl (fun _ _ _ => id) way

/-- Meanwhile it changes nothing on which another worker relies. -/
theorem kept_of_leads {α : Type} {u : Worker} {q q' : Program RelayInterface α} {Q : α → Stage → Prop}
    (wired : Wired sites) (h : q.Keeps (guarded sites w) Q s) (hs : Ordered sites s)
    (way : q.Leads (Stage.world w) s q' s') (other : u ≠ w) : Ordered sites s' ∧ Kept sites u s.view s'.view := by
  obtain ⟨t, runs, along⟩ := way
  have alone : q.Keeps { guarded sites w with drift := Eq } Q s := by
    refine h.world ?_ (fun _ _ => id) fun _ _ _ => id
    rintro s _ rfl
    exact guarded_refl s
  refine alone.inv_of_runs runs (along.world (fun _ _ => id) fun _ _ _ => id) ⟨hs, .refl ..⟩
    (fun s₁ _ (h : Ordered sites s₁ ∧ Kept sites u s.view s₁.view) same => same ▸ h) ?_
  rintro s₁ x s₂ ⟨ordered, kept⟩ permitted reply
  exact ⟨ordered.reply wired permitted reply,
    kept.trans ((ordered.step permitted reply).kept permitted wired ordered.sound other)⟩

/-! ## Writes -/

section Writes

variable {k : Nat} {v₀ : View} {l : Ledger} {data : Bytes} {taken : Bool}

/-- A request of a writer that is alone is answered at once. -/
theorem leads_writer_request {r : WriterRequest} (placed : k < s.desks.length) (inner : r.IsInner)
    (abort : ∀ fault, r ≠ .host (.abort fault)) (permitted : r = .takeNonce → taken = false) (solo : Solo k taken s) :
    ∃ a s', (Writer.relayed k r).Leads (Stage.world w) s (.done a) s' ∧ Solo k (hasAccount taken ⟨r, a⟩) s' := by
  have aside {r : RelayRequest} (ready : s.Ready r) (away : r.place? = none) :
      ∃ a s', (Program.ask r .done : Program RelayInterface r.Answer).Leads (Stage.world w) s (.done a) s' ∧ Solo k taken s' := by
    obtain ⟨a, s', reply, way⟩ := leads_request (w := w) ready
    exact ⟨a, s', way, solo.reply_aside reply away⟩
  cases r with
  | chain q => exact aside (r := .destination k q) trivial rfl
  | host r =>
      cases r with
      | abort fault => exact absurd rfl (abort fault)
      | _ => exact aside (r := .host _) trivial rfl
  | takeNonce =>
      obtain ⟨a, s', reply, way⟩ := leads_request (w := w) (r := .takeNonce k) (solo.account (permitted rfl))
      exact ⟨a, s', way, fun k' => solo.reply_at reply rfl, nofun⟩
  | giveNonce next =>
      obtain ⟨a, s', reply, way⟩ := leads_request (s := s) (w := w) (r := .giveNonce k next) trivial
      refine ⟨a, s', way, fun k' => solo.reply_at reply rfl, ?_⟩
      cases reply
      rw [desk_setDesk placed, update_self]
      exact fun _ => rfl
  | enter | leave => exact inner.elim

/-- While a worker writes to a place and all others are nowhere, each of its requests is answered at once. -/
theorem Writing.leads_relayed (h : Writing sites w k v₀ l s) (solo : Solo k taken s) (wired : Wired sites)
    (hk : sites[k]? = some c) {r : WriterRequest} (inner : r.IsInner) (permitted : r = .takeNonce → taken = false)
    (answered : ∃ a l', (Ledger.world c.node.account.sender).reply l ⟨r, a⟩ l') :
    ∃ a l' s', Ledger.Reply c.node.account.sender l ⟨r, a⟩ l' ∧
      (Writing sites w k v₀ l' s' ∧ Solo k (hasAccount taken ⟨r, a⟩) s') ∧
      (Writer.relayed k r).Leads (Stage.world w) s (.done a) s' := by
  have placed : k < s.desks.length := h.ordered.sized.desks.symm ▸ (List.getElem?_eq_some_iff.mp hk).1
  have abort (fault : Duration.Fault) : r ≠ .host (.abort fault) := by
    rintro rfl
    exact answered.choose.elim
  obtain ⟨a, s', way, solo'⟩ := leads_writer_request (w := w) placed inner abort permitted solo
  obtain ⟨l', reply, writing⟩ := keeps_done.mp (keeps_of_leads (h.keeps_relayed wired hk inner) way)
  exact ⟨a, l', s', reply, ⟨writing, solo'⟩, way⟩

/-- A delivery ends. -/
theorem Writing.leads_deliver {ps : List Proposal} (h : Writing sites w k v₀ l s) (solo : Solo k false s)
    (wired : Wired sites) (hk : sites[k]? = some c) (hd : Payload.encode m.transferType m.payload = .ok data)
    (hr : m.resource = sampleResource) (tidy : Ledger.Tidy (Due sites c.domain) ps l) :
    ∃ a s', (Writer.place k (c.chain.writer.deliver m)).Leads (Stage.world w) s (.done a) s' ∧ Ordered sites s' ∧
      Solo k false s' := by
  have ends := ends_deliver (wired.wired c (List.mem_of_getElem? hk)) hd hr rfl tidy
  have turns := Writer.returns_deliver.and_asks (Writer.asks_deliver (w := c.chain.writer) (m := m))
  obtain ⟨a, _, _, s', -, rfl, ⟨h, solo⟩, way⟩ := ends.leads (fun _ => rfl) (fun _ => rfl)
    (fun l taken s r (h : Writing sites w k v₀ l s ∧ Solo k taken s) permitted answered => by
      obtain ⟨a, l', s', reply, after, way⟩ := h.1.leads_relayed h.2 wired hk permitted.2 permitted.1 answered
      exact ⟨a, l', _, s', reply, rfl, after, way⟩) turns ⟨h, solo⟩
  exact ⟨a, s', way, h.ordered, solo⟩

/-- A write ends, and then nobody writes anywhere. -/
theorem Away.leads_write (h : Away sites w v₀ s) (vacant : ∀ k, s.Vacant k) (wired : Wired sites) (hw : w < sites.length)
    (hk : sites[k]? = some c) (hd : Payload.encode m.transferType m.payload = .ok data) (hr : m.resource = sampleResource) :
    ∃ a s', (Writer.place k (c.chain.writer.write m)).Leads (Stage.world w) s (.done a) s' ∧ ∀ k, s'.Vacant k := by
  have placed {s : Stage} (h : Ordered sites s) : k < s.desks.length :=
    h.sized.desks.symm ▸ (List.getElem?_eq_some_iff.mp hk).1
  -- nobody else writes, so the worker can begin
  obtain ⟨a, s₁, reply, enters⟩ := leads_request (w := w) (r := .enter k) (vacant k).2
  obtain ⟨ps, l, tidy, writing⟩ := keeps_done.mp (keeps_of_leads (h.keeps_enter wired hw hk) enters)
  have solo : Solo k false s₁ := by
    refine ⟨fun k' hk => (vacant k').of_desk (reply.desk fun same => hk (Option.some.inj same).symm), fun _ => ?_⟩
    obtain ⟨-, reply⟩ := Option.ite_none_left_eq_some.mp reply
    cases reply
    rw [desk_setDesk (placed h.ordered), update_self]
    exact (vacant k).1
  -- nobody stops it
  obtain ⟨stopped, s₂, reply, asks⟩ := leads_request (s := s₁) (w := w) (r := .host .stopping) trivial
  obtain ⟨rfl, writing⟩ := keeps_done.mp (keeps_of_leads (writing.keeps_stopping wired) asks)
  obtain ⟨outcome, s₃, delivers, ordered, solo⟩ :=
    writing.leads_deliver (solo.reply_aside reply rfl) wired hk hd hr tidy
  obtain ⟨b, s₄, reply, leaves⟩ := leads_request (s := s₃) (w := w) (r := .leave k) trivial
  refine ⟨outcome, s₄, ?_, fun k' => ?_⟩
  · have writes := (delivers.bind fun a => Writer.place k (Destination.leave >>= fun _ => pure a)).trans
      (leaves.bind fun _ => Writer.place k (pure outcome))
    rw [← place_bind] at writes
    exact (enters.bind _).trans ((asks.bind _).trans writes)
  · by_cases hk : k' = k
    · subst hk
      cases reply
      unfold Vacant
      rw [desk_setDesk (placed ordered), update_self]
      exact ⟨solo.account rfl, rfl⟩
    · exact solo.reply_at reply rfl hk

end Writes

/-! ## Listeners -/

open Listener

variable {j : Journal}

/-- A message reaches the writer of its destination, if there is one, and its write ends. -/
theorem Agrees.leads_route {log : DepositLog} (h : Agrees sites w c j s) (vacant : ∀ k, s.Vacant k) (wired : Wired sites)
    (hw : sites[w]? = some c) (confirmed : c.chain.listener.Confirmed c.node.source log)
    (carried : c.chain.listener.Carries (still c.node.source) log m) :
    ∃ a s', (Relay.route (relay sites).routes m.destination m).Leads (Stage.world w) s (.done a) s' ∧ ∀ k, s'.Vacant k := by
  unfold Relay.route
  by_cases routed : ∃ (k : Nat) (c' : Site), sites[k]? = some c' ∧ c'.domain = m.destination
  · obtain ⟨k, c', hk, dest⟩ := routed
    obtain ⟨deposit, payload, hd, resource, hp, rfl, written⟩ :=
      (wired.wired c (List.mem_of_getElem? hw)).message confirmed.1 carried
    rw [← dest, wired.find?_routes hk]
    obtain ⟨a, s', writes, vacant⟩ :=
      h.away.leads_write vacant wired (List.getElem?_eq_some_iff.mp hw).1 hk written resource
    cases a with
    | ok outcome => exact ⟨.ok outcome, s', writes.bind _, vacant⟩
    | error e => exact ⟨.error (.delivery e), s', writes.bind _, vacant⟩
  · rw [wired.find?_routes_none fun k c' hk dest => routed ⟨k, c', hk, dest⟩]
    exact ⟨_, s, .refl, vacant⟩

/-- While all places are free a listener is answered at once. -/
theorem Agrees.leads_relayed (h : Agrees sites w c j s) (vacant : ∀ k, s.Vacant k) (wired : Wired sites)
    (hw : sites[w]? = some c) {r : ListenerRequest} (permitted : (c.chain.listener.stillWorld c.node.source).permits j r)
    (answered : ∃ a j', (c.chain.listener.stillWorld c.node.source).reply j ⟨r, a⟩ j') :
    ∃ a j' s', (c.chain.listener.stillWorld c.node.source).reply j ⟨r, a⟩ j' ∧
      (Agrees sites w c j' s' ∧ ∀ k, s'.Vacant k) ∧
      (Listener.relayed w (Relay.route (relay sites).routes) r).Leads (Stage.world w) s (.done a) s' := by
  have aside {r : RelayRequest} (ready : s.Ready r) (away : r.place? = none) : ∃ a s',
      (Program.ask r .done : Program RelayInterface r.Answer).Leads (Stage.world w) s (.done a) s' ∧ ∀ k, s'.Vacant k := by
    obtain ⟨a, s', reply, way⟩ := leads_request (w := w) ready
    exact ⟨a, s', way, fun k => (vacant k).of_desk (reply.desk (by rw [away]; exact nofun))⟩
  have leads : ∃ a s', (Listener.relayed w (Relay.route (relay sites).routes) r).Leads (Stage.world w) s (.done a) s' ∧
      ∀ k, s'.Vacant k := by
    rcases r with q | (_ | _ | _ | _ | _ | fault) | r | ⟨d, m⟩ | r
    case route =>
      obtain ⟨rfl, log, confirmed, carried⟩ := permitted
      exact h.leads_route vacant wired hw confirmed carried
    case host.abort => exact answered.choose.elim
    case chain => exact aside (r := .source w q) trivial rfl
    case store => exact aside (r := .store r) trivial rfl
    case report => exact aside (r := .report r) trivial rfl
    all_goals exact aside (r := .host _) trivial rfl
  obtain ⟨a, s', way, vacant⟩ := leads
  obtain ⟨j', reply, agrees⟩ := keeps_done.mp (keeps_of_leads (h.keeps_relayed wired hw permitted) way)
  exact ⟨a, j', s', reply, ⟨agrees, vacant⟩, way⟩

/-- Waits before its listener looks at the chain again. -/
def Pauses (q : Program RelayInterface Unit) : Prop := ∃ d next, q.head = .ask (.host (.pause d)) next

/-- The worker of a listener that has stored nothing yet comes to rest while all others wait. -/
theorem Agrees.leads_rest (h : Agrees sites w c j s) (vacant : ∀ k, s.Vacant k) (wired : Wired sites)
    (hw : sites[w]? = some c) (empty : j.held c.key = none) : ∃ q s',
      ((relay sites).listenerWorker w c.chain).Leads (Stage.world w) s q s' ∧ Pauses q ∧ ∀ k, s'.Vacant k := by
  have hc := wired.wired c (List.mem_of_getElem? hw)
  have carried (log : DepositLog) (hl : log ∈ c.node.source.logs) := hc.exists_carried hl
  have rests := attains_rest hc.freshStart hc.latestBlock carried empty
  have keeps := keeps_run_still hc.freshStart hc.latestBlock carried empty
  obtain ⟨q, _, _, s', ⟨⟨d, next, hq⟩, -⟩, -, ⟨-, -, vacant⟩, way⟩ := rests.leads (fun _ => rfl) (fun _ => rfl)
    (fun j j' s r (h : j = j' ∧ Agrees sites w c j s ∧ ∀ k, s.Vacant k) permitted answered => by
      obtain ⟨rfl, agrees, vacant⟩ := h
      obtain ⟨a, j', s', reply, after, way⟩ := agrees.leads_relayed vacant wired hw permitted answered
      exact ⟨a, j', j', s', reply, reply, ⟨rfl, after⟩, way⟩) keeps ⟨rfl, h, vacant⟩
  refine ⟨_, s', way.bind _, ?_, vacant⟩
  cases q with
  | ask =>
    cases hq
    exact ⟨d, _, rfl⟩
  | _ => cases hq

end Simulation

end BridgeRelay
