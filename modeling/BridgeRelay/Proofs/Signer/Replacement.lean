import BridgeRelay.Devnet.Sample
import BridgeRelay.Proofs.Signer.Attempts
import Mathlib.Data.List.Induction

/-!
# Replaced transactions

A transaction that is not mined in time is replaced at its nonce, until the node reports a conflict of nonces. After
such a report the call is broadcast again at a nonce of the chain, whether or not the transaction that was to be
replaced can still be mined.
-/

namespace BridgeRelay.Signer

open Program Destination

/-! ## What a submission has -/

/-- What a submission has on the chain. -/
inductive Hold where
  /-- nothing that it knows of -/
  | free
  /-- an accepted transaction, of which no receipt was seen -/
  | pinned (nonce : UInt64)
  /-- a mined transaction -/
  | mined

/-- What a submission has after a failed question: it gives its transaction up after a conflict of nonces. -/
def Hold.error : Hold → ChainError → Hold
  | .pinned nonce, e => if ErrorClass.ofError e = .nonceConflict then .free else .pinned nonce
  | h, _ => h

/-- What a submission has after an exchange. -/
def Hold.after (h : Hold) : Exchange WriterInterface → Hold
  | ⟨.chain (.send _ o), .ok _⟩ => .pinned o.nonce
  | ⟨.chain (.send ..), .error e⟩ => h.error e
  | ⟨.chain .pendingNonce, .error e⟩ => h.error e
  | ⟨.chain .gasPrice, .error e⟩ => h.error e
  | ⟨.chain .baseFee, .error e⟩ => h.error e
  | ⟨.chain .priorityFee, .error e⟩ => h.error e
  | ⟨.chain (.receipt _), .ok (some _)⟩ => .mined
  | _ => h

/-- A submission broadcasts at the nonce to which it is pinned, and nothing once a transaction is mined. -/
def Hold.Permits (h : Hold) : WriterRequest → Prop
  | .chain (.send _ o) => match h with
      | .free => True
      | .pinned nonce => o.nonce = nonce
      | .mined => False
  | _ => True

/-- What a submission has is what the next attempt is to replace. -/
def Hold.Fits (h : Hold) (stuck : Option UInt64) : Prop := h = .free ∨ ∃ nonce, h = .pinned nonce ∧ stuck = some nonce

/-- The world that watches what a submission has. -/
abbrev holding : World WriterInterface Hold := .watch Hold.Permits Hold.after

variable {s : Signer} {call : BridgeCall} {r : RetryRecord} {p : Pending} {h h' : Hold} {stuck next : Option UInt64}

/-! ## Choosing -/

/-- What a submission has after a part that broadcasts nothing. -/
def Hold.Kept {α : Type} (h : Hold) : Except ChainError α → Hold → Prop
  | .ok _, h' => h' = h
  | .error e, h' => h' = h.error e

theorem keeps_legacyQuote {g : GasSettings} : g.legacyQuote.Keeps holding h.Kept h := by
  refine keeps_do.mpr (keeps_ask_watch.mpr ⟨trivial, fun price => ?_⟩)
  cases price <;> rfl

theorem keeps_quote {g : GasSettings} {m : GasPricing} : (g.quote m).Keeps holding h.Kept h := by
  cases m with
  | static => exact keeps_legacyQuote
  | london =>
      refine keeps_do.mpr (keeps_ask_watch.mpr ⟨trivial, fun baseFee => ?_⟩)
      rcases baseFee with e | _ | baseFee
      · rfl
      · exact keeps_legacyQuote
      · refine keeps_do.mpr (keeps_ask_watch.mpr ⟨trivial, fun tip => ?_⟩)
        cases tip <;> rfl

theorem keeps_choose {bumps : Nat} : (s.choose bumps stuck next).Keeps holding (fun x h' => h.Kept x h' ∧
    ∀ o nonce, x = .ok o → stuck = some nonce → o.nonce = nonce) h := by
  have chosen : (chooseNonce stuck next).Keeps holding (fun x h' => h.Kept x h' ∧
      ∀ n nonce, x = .ok n → stuck = some nonce → n = nonce) h := by
    unfold chooseNonce
    rcases stuck with _ | nonce
    · rcases next with _ | nonce
      · refine keeps_ask_watch.mpr ⟨trivial, fun answer => ?_⟩
        cases answer <;> exact ⟨rfl, nofun⟩
      · exact ⟨rfl, nofun⟩
    · refine ⟨rfl, fun n nonce' hn hs => ?_⟩
      cases hn
      exact Option.some.inj hs
  refine keeps_do.mpr (chosen.mono ?_)
  rintro (e | n) h' ⟨hk, hn⟩
  · exact ⟨hk, nofun⟩
  · cases hk
    refine keeps_do.mpr (keeps_quote.mono ?_)
    rintro (e | price) h' hk
    · exact ⟨hk, nofun⟩
    · exact ⟨hk, fun o nonce ho => Except.ok.inj ho ▸ hn n nonce rfl⟩

/-! ## Submitting -/

theorem keeps_broadcast {bumps : Nat} (hf : h.Fits stuck) : (s.broadcast call bumps stuck).Keeps holding (fun
    | .ok (_, nonce), h' => h' = .pinned nonce
    | .error e, h' => h' = h.error e) h := by
  refine keeps_do.mpr (keeps_ask_watch.mpr ⟨trivial, fun next => keeps_do.mpr (keeps_choose.mono ?_)⟩)
  rintro (e | o) h' ⟨hk, ho⟩
  · exact keeps_do.mpr (keeps_ask_watch.mpr ⟨trivial, fun _ => hk⟩)
  · cases hk
    refine keeps_do.mpr (keeps_ask_watch.mpr ⟨?_, fun answer => ?_⟩)
    · rcases hf with rfl | ⟨nonce, rfl, hs⟩
      · trivial
      · exact ho o nonce rfl hs
    · cases answer <;> exact keeps_do.mpr (keeps_ask_watch.mpr ⟨trivial, fun _ => rfl⟩)

theorem keeps_awaitReceipt {c : Confirmation} {tx : Hash} {nonce : UInt64} :
    (awaitReceipt c tx).Keeps holding (fun
      | .ok _, _ => True
      | .error e, h' => h' = .pinned nonce ∧ ErrorClass.ofError e = .transient) (.pinned nonce) := by
  refine keeps_do.mpr (keeps_ask_watch.mpr ⟨trivial, fun start => ?_⟩)
  refine Keeps.iterate (fun _ h => h = .pinned nonce) rfl fun _ h hp => ?_
  refine keeps_do.mpr (keeps_ask_watch.mpr ⟨trivial, fun receipt => ?_⟩)
  rcases receipt with e | _ | success
  case ok.some => trivial
  all_goals
    refine keeps_do.mpr (keeps_ask_watch.mpr ⟨trivial, fun now => keeps_done.mpr ?_⟩)
    split
    · exact ⟨hp, rfl⟩
    · exact keeps_do.mpr (keeps_ask_watch.mpr ⟨trivial, fun _ => hp⟩)

/-- Where a submission stands after a failed attempt. -/
structure Standing (e : ChainError) (stuck : Option UInt64) (h : Hold) : Prop where
  fits : h.Fits stuck
  freed : ErrorClass.ofError e = .nonceConflict → h = .free

theorem keeps_attempt (hf : h.Fits p.stuck) : (s.attempt call p).Keeps holding
    (fun x h' => ∀ e, x.1 = .error e → ¬ IsFinal e → Standing e x.2.stuck h') h := by
  refine keeps_do.mpr ((keeps_broadcast hf).mono ?_)
  rintro (e | ⟨tx, nonce⟩) h' hk
  · rintro _ ⟨⟩ -
    cases hk
    rcases hf with rfl | ⟨nonce, rfl, hs⟩
    · exact ⟨.inl rfl, fun _ => rfl⟩
    · by_cases hc : ErrorClass.ofError e = .nonceConflict
      · exact ⟨.inl (if_pos hc), fun _ => if_pos hc⟩
      · exact ⟨.inr ⟨nonce, if_neg hc, hs⟩, fun hc' => absurd hc' hc⟩
  · cases hk
    refine keeps_do.mpr (keeps_awaitReceipt.mono ?_)
    rintro (e | _ | _) h' hk
    · rintro _ ⟨⟩ -
      obtain ⟨rfl, hc⟩ := hk
      exact ⟨.inr ⟨nonce, rfl, rfl⟩, fun hc' => by simp [hc] at hc'⟩
    · rintro _ ⟨⟩ hfinal
      exact absurd (isFinal_reverted _) hfinal
    · exact nofun

theorem keeps_postpone {c : ErrorClass} {d : Duration} :
    (s.postpone c d).Keeps holding (fun _ h' => h' = h) h :=
  keeps_do.mpr (keeps_ask_watch.mpr ⟨trivial, fun _ => keeps_ask_watch.mpr ⟨trivial, fun _ => rfl⟩⟩)

theorem attempts (s : Signer) (call : BridgeCall) :
    Attempts holding s call (fun stuck h => h.Fits stuck) (fun e stuck h => ¬ IsFinal e → Standing e stuck h)
      fun _ => True where
  attempt _ _ hf := (keeps_attempt hf).mono fun
    | (.ok _, _), _, _ => trivial
    | (.error e, _), _, hs => hs e rfl
  give_up _ _ _ _ := trivial
  abort _ _ _ _ _ := keeps_ask_watch.mpr ⟨trivial, fun e : Empty => nomatch e⟩
  again _ _ _ hfinal hs := (hs hfinal).fits
  forget e _ _ hc hs := by
    have hfinal : ¬ IsFinal e := by simp [IsFinal, hc]
    refine keeps_do.mpr (keeps_ask_watch.mpr ⟨trivial, fun next => keeps_ask_watch.mpr ⟨trivial, fun _ => ?_⟩⟩)
    exact .inl ((hs hfinal).freed hc)
  postpone _ _ _ h hf := keeps_postpone.mono fun _ h' hk => hk ▸ hf

theorem keeps_submit : (s.submit call).Keeps holding (fun _ _ => True) .free :=
  (attempts s call).keeps_submitFrom (.inl rfl)

/-! ## Traces -/

variable {t before between after : List (Exchange WriterInterface)} {x y z : Exchange WriterInterface}
  {tx tx' : Hash} {nonce nonce' : UInt64}

/-- A broadcast at a nonce, whatever becomes of it. -/
def Broadcasts (x : Exchange WriterInterface) (nonce : UInt64) : Prop :=
  ∃ call o, x.request = .chain (.send call o) ∧ o.nonce = nonce

/-- A broadcast that the node accepts. -/
def Accepts (x : Exchange WriterInterface) (tx : Hash) (nonce : UInt64) : Prop :=
  ∃ call o, x = ⟨.chain (.send call o), .ok tx⟩ ∧ o.nonce = nonce

/-- The node reports a conflict of nonces in answer to a broadcast, or to a question before it. -/
def ReportsConflict : Exchange WriterInterface → Prop
  | ⟨.chain (.send ..), .error e⟩ => ErrorClass.ofError e = .nonceConflict
  | ⟨.chain .pendingNonce, .error e⟩ => ErrorClass.ofError e = .nonceConflict
  | ⟨.chain .gasPrice, .error e⟩ => ErrorClass.ofError e = .nonceConflict
  | ⟨.chain .baseFee, .error e⟩ => ErrorClass.ofError e = .nonceConflict
  | ⟨.chain .priorityFee, .error e⟩ => ErrorClass.ofError e = .nonceConflict
  | _ => False

theorem Accepts.broadcasts (h : Accepts x tx nonce) : Broadcasts x nonce := by
  obtain ⟨call, o, rfl, hn⟩ := h
  exact ⟨call, o, rfl, hn⟩

def SeesReceipt : Exchange WriterInterface → Prop
  | ⟨.chain (.receipt _), .ok (some _)⟩ => True
  | _ => False

theorem Hold.error_eq {e : ChainError} (hc : ErrorClass.ofError e ≠ .nonceConflict) : h.error e = h := by
  cases h with
  | free => rfl
  | pinned nonce => exact if_neg hc
  | mined => rfl

theorem Hold.after_accepts (hx : Accepts x tx nonce) : h.after x = .pinned nonce := by
  obtain ⟨call, o, rfl, rfl⟩ := hx
  rfl

theorem Hold.after_mined (x : Exchange WriterInterface) :
    Hold.mined.after x = .mined ∨ ∃ call o, x.request = .chain (.send call o) := by
  unfold Hold.after
  split
  · exact .inr ⟨_, _, rfl⟩
  all_goals exact .inl rfl

theorem Hold.after_cases (hx : ¬ ReportsConflict x) :
    h.after x = h ∨ h.after x = .mined ∨ ∃ tx nonce, Accepts x tx nonce := by
  obtain ⟨r, answer⟩ := x
  rcases r with (_ | _ | _ | _ | _ | _ | _ | ⟨call, o⟩ | _) | _ | _ | _ | _ | _
  case chain.send =>
    cases answer with
    | error e => exact .inl (Hold.error_eq hx)
    | ok tx => exact .inr (.inr ⟨tx, o.nonce, call, o, rfl, rfl⟩)
  case chain.receipt =>
    rcases answer with e | _ | success
    · exact .inl rfl
    · exact .inl rfl
    · exact .inr (.inl rfl)
  case chain.pendingNonce | chain.gasPrice | chain.baseFee | chain.priorityFee =>
    cases answer with
    | error e => exact .inl (Hold.error_eq hx)
    | ok _ => exact .inl rfl
  all_goals exact .inl rfl

/-- What holds of a submission from an exchange on, as its requests are in order, holds at the next broadcast. -/
theorem hold_of_runs {P : Hold → Prop} {q : Program WriterInterface (Except TransactionError Submission)}
    (hr : (s.submit call).Runs (before ++ x :: (between ++ y :: after)) q) (hx : ∀ h : Hold, P (h.after x))
    (hz : ∀ z ∈ between, ∀ h : Hold, P h → h.Permits z.request → P (h.after z)) :
    ∃ h : Hold, P h ∧ h.Permits y.request := by
  have permitted (u : List (Exchange WriterInterface)) (z : Exchange WriterInterface)
      (v : List (Exchange WriterInterface)) (huv : before ++ x :: (between ++ y :: after) = u ++ z :: v) :
      (u.foldl Hold.after .free).Permits z.request :=
    keeps_submit.permits_of_runs (huv ▸ hr) (along_watch _ _) rfl
  -- by induction on how much of the exchanges between is behind
  have reached (u v : List (Exchange WriterInterface)) (huv : between = u ++ v) :
      P ((before ++ x :: u).foldl Hold.after .free) := by
    induction u using List.reverseRecOn generalizing v with
    | nil =>
        rw [List.foldl_append]
        exact hx _
    | append_singleton u z ih =>
        have hp := permitted (before ++ x :: u) z (v ++ y :: after) (by simp [huv])
        have := hz z (by simp [huv]) _ (ih (z :: v) (by simp [huv])) hp
        simpa using this
  exact ⟨_, reached between [] (by simp), permitted (before ++ x :: between) y after (by simp)⟩

variable {q : Program WriterInterface (Except TransactionError Submission)}

theorem not_broadcasts_of_seesReceipt (hr : (s.submit call).Runs (before ++ x :: (between ++ y :: after)) q)
    (hx : SeesReceipt x) : ¬ Broadcasts y nonce := by
  have seen (h : Hold) : h.after x = .mined := by
    obtain ⟨r, answer⟩ := x
    rcases r with (_ | _ | _ | _ | _ | _ | _ | _ | tx) | _ | _ | _ | _ | _
    case chain.receipt => rcases answer with e | _ | success <;> first | rfl | cases hx
    all_goals cases hx
  have stays (z : Exchange WriterInterface) (_ : z ∈ between) (h : Hold) (hm : h = .mined)
      (hp : h.Permits z.request) : h.after z = .mined := by
    subst hm
    rcases Hold.after_mined z with hz | ⟨call, o, hz⟩
    · exact hz
    · rw [hz] at hp
      cases hp
  obtain ⟨_, rfl, permitted⟩ := hold_of_runs hr seen stays
  rintro ⟨call, o, hy, -⟩
  rw [hy] at permitted
  exact permitted

theorem not_seesReceipt_of_broadcasts (hr : (s.submit call).Runs (before ++ y :: after) q) (hy : Broadcasts y nonce) :
    ∀ z ∈ before, ¬ SeesReceipt z := by
  intro z hz hs
  obtain ⟨u, v, rfl⟩ := List.append_of_mem hz
  rw [List.append_assoc, List.cons_append] at hr
  exact not_broadcasts_of_seesReceipt hr hs hy

theorem broadcasts_at_accepted (hr : (s.submit call).Runs (before ++ x :: (between ++ y :: after)) q)
    (hx : Accepts x tx nonce) (hy : Broadcasts y nonce') (hc : ∀ z ∈ between, ¬ ReportsConflict z) :
    nonce' = nonce := by
  have stays (z : Exchange WriterInterface) (hz : z ∈ between) (h : Hold) (hp : h = .pinned nonce ∨ h = .mined)
      (permitted : h.Permits z.request) : h.after z = .pinned nonce ∨ h.after z = .mined := by
    rcases Hold.after_cases (h := h) (hc z hz) with hs | hm | ⟨tx', nonce', ha⟩
    · rw [hs]
      exact hp
    · exact .inr hm
    · rw [Hold.after_accepts ha]
      obtain ⟨call, o, rfl, rfl⟩ := ha
      rcases hp with rfl | rfl
      · cases permitted
        exact .inl rfl
      · cases permitted
  obtain ⟨h, hp, permitted⟩ := hold_of_runs hr (fun _ => .inl (Hold.after_accepts hx)) stays
  obtain ⟨call, o, hy, rfl⟩ := hy
  rw [hy] at permitted
  rcases hp with rfl | rfl
  · exact permitted
  · cases permitted

theorem nonce_eq_of_accepts (hr : (s.submit call).Runs t q) (hc : ∀ z ∈ t, ¬ ReportsConflict z) (hx : x ∈ t)
    (hy : y ∈ t) (hax : Accepts x tx nonce) (hay : Accepts y tx' nonce') : nonce = nonce' := by
  obtain ⟨u, v, rfl⟩ := List.append_of_mem hx
  rcases List.mem_append.mp hy with hy | hy
  · obtain ⟨u₁, u₂, rfl⟩ := List.append_of_mem hy
    rw [List.append_assoc, List.cons_append] at hr
    exact broadcasts_at_accepted hr hay hax.broadcasts fun z hz => hc z (by simp [hz])
  · rcases List.mem_cons.mp hy with rfl | hy
    · obtain ⟨_, o, rfl, rfl⟩ := hax
      obtain ⟨_, o', hy, rfl⟩ := hay
      cases hy
      rfl
    · obtain ⟨v₁, v₂, rfl⟩ := List.append_of_mem hy
      exact (broadcasts_at_accepted hr hax hay.broadcasts fun z hz => hc z (by simp [hz])).symm

/-! ## Submissions with two transactions -/

theorem not_reportsConflict_of_waiting (hx : x.request.IsWaiting) : ¬ ReportsConflict x := by
  obtain ⟨r, answer⟩ := x
  rcases r with (_ | _ | _ | _ | _ | _ | _ | _ | _) | _ | _ | _ | _ | _
  case chain.receipt | host => exact id
  all_goals cases hx

theorem not_reportsConflict_of_asked (hx : Asked nonce x) : ¬ ReportsConflict x := by
  rcases hx with rfl | rfl | rfl <;> exact id

theorem runs_replaced {d : Duration} (call : BridgeCall) (hm : 1 < s.retry.maxAttempts)
    (hd : s.retry.backoff 0 = .ok d) (tx tx' : Hash) (nonce : UInt64) : ∃ before x between y after q,
      (s.submit call).Runs (before ++ x :: (between ++ y :: after)) q ∧ Accepts x tx nonce ∧ Accepts y tx' nonce ∧
        ∀ z ∈ before ++ x :: (between ++ y :: after), ¬ ReportsConflict z := by
  obtain ⟨u, o, rfl, asked, h⟩ := s.runs_accepted call 0 none none nonce tx
  obtain ⟨v, h, waits⟩ := runs_attempt_late (p := {}) h
  obtain ⟨w, h, waits'⟩ := runs_retryAfter (r := { policy := s.retry }) (next_timeout _ hm hd) h
  obtain ⟨u', o', ho, asked', h'⟩ :=
    s.runs_accepted call 1 (some o.nonce) (some (nextNonce none o.nonce)) o.nonce tx'
  obtain ⟨q, h'⟩ := runs_submitFrom_broadcast (p := ⟨1, some o.nonce⟩) h'
  have hr : (s.submit call).Runs _ q := h.trans h'
  refine ⟨⟨.takeNonce, none⟩ :: u, ⟨.chain (.send call o), .ok tx⟩,
    ⟨.giveNonce (some (nextNonce none o.nonce)), ()⟩ ::
      (v ++ (w ++ ⟨.takeNonce, some (nextNonce none o.nonce)⟩ :: u')),
    ⟨.chain (.send call o'), .ok tx'⟩, _, q, by simpa using hr, ⟨call, o, rfl, rfl⟩, ⟨call, o', rfl, ho⟩, ?_⟩
  have hu := fun z hz => not_reportsConflict_of_asked (asked z hz)
  have hu' := fun z hz => not_reportsConflict_of_asked (asked' z hz)
  have hv := fun z hz => not_reportsConflict_of_waiting (waits z hz)
  have hw := fun z hz => not_reportsConflict_of_waiting (waits' z hz)
  simp only [List.forall_mem_append, List.forall_mem_cons]
  exact ⟨⟨id, hu⟩, id, ⟨id, hv, hw, id, hu'⟩, id, id, List.forall_mem_nil _⟩

theorem ofError_alreadyKnown : ErrorClass.ofError (.rpc "already known") = .nonceConflict := by decide +kernel

theorem next_conflict {e : ChainError} {d : Duration} (he : ErrorClass.ofError e = .nonceConflict)
    (h : r.attempt + 1 < r.policy.maxAttempts) (hd : r.policy.backoff 0 = .ok d) :
    (r.fail e).next = .ok (.refreshNonce d) := by
  simp [RetryRecord.next, RetryRecord.fail, RetryPolicy.allows, he, h, hd, Except.map]

/-- Once the replacement of a transaction is answered with a conflict of nonces, the call is broadcast at the pending
nonce of the chain, without a look at the receipt. -/
theorem runs_duplicate {d : Duration} {e : ChainError} (call : BridgeCall) (hm : 2 < s.retry.maxAttempts)
    (hd : s.retry.backoff 0 = .ok d) (he : ErrorClass.ofError e = .nonceConflict) (tx tx' : Hash)
    (nonce pending : UInt64) : ∃ before x between y after q,
      (s.submit call).Runs (before ++ x :: (between ++ y :: after)) q ∧
        Accepts x tx nonce ∧ Accepts y tx' pending := by
  let r₁ : RetryRecord := RetryRecord.fail { policy := s.retry } (.timeout (Confirmation.lateText s.confirmation tx))
  -- accepted at the first nonce and not mined in time
  obtain ⟨u₁, o₁, rfl, -, h₁⟩ := s.runs_accepted call 0 none none nonce tx
  obtain ⟨v₁, h₁, -⟩ := runs_attempt_late (p := {}) h₁
  obtain ⟨w₁, h₁, -⟩ := runs_retryAfter (r := { policy := s.retry }) (next_timeout _ (Nat.lt_of_succ_lt hm) hd) h₁
  obtain ⟨t₁, h₁, hx⟩ : ∃ t, (s.submit call).Runs t (s.submitFrom call r₁ ⟨1, some o₁.nonce⟩) ∧
      ⟨.chain (.send call o₁), .ok tx⟩ ∈ t := ⟨_, h₁, by simp⟩
  -- the replacement meets the conflict
  obtain ⟨u₂, o₂, -, -, h₂⟩ := s.runs_refused call 1 (some o₁.nonce) (some (nextNonce none o₁.nonce)) pending e
  obtain ⟨w₂, h₂, -⟩ := runs_refreshNonce (p := ⟨1, some o₁.nonce⟩) (r := r₁) none
    (next_conflict he hm hd) (runs_attempt_refused h₂)
  -- accepted at the pending nonce
  obtain ⟨u₃, o₃, rfl, -, h₃⟩ := s.runs_accepted call 1 none none pending tx'
  obtain ⟨q, h₃⟩ := runs_submitFrom_broadcast (r := r₁.fail e) (p := ⟨1, none⟩) h₃
  obtain ⟨t₂, h₂, hy⟩ : ∃ t, (s.submitFrom call r₁ ⟨1, some o₁.nonce⟩).Runs t q ∧
      ⟨.chain (.send call o₃), .ok tx'⟩ ∈ t := ⟨_, h₂.trans h₃, by simp⟩
  obtain ⟨before, u, rfl⟩ := List.append_of_mem hx
  obtain ⟨v, after, rfl⟩ := List.append_of_mem hy
  exact ⟨before, _, u ++ v, _, after, q, by simpa using h₁.trans h₂, ⟨call, o₁, rfl, rfl⟩, call, o₃, rfl, rfl⟩

/-! ## Main statement -/

/-- Once a transaction of a submission was accepted, every broadcast of the submission is at its nonce until the node
reports a conflict of nonces, and none follows a receipt. Without such a report a chain that mines one transaction at
each nonce mines one of the submission. After such a report in place of a replacement the call can be accepted at any
nonce. -/
theorem replaces_until_conflict (s : Signer) (call : BridgeCall) :
    (∀ before x between y after q tx nonce nonce',
      (s.submit call).Runs (before ++ x :: (between ++ y :: after)) q → Accepts x tx nonce → Broadcasts y nonce' →
      (∀ z ∈ between, ¬ ReportsConflict z) → nonce' = nonce ∧ ∀ z ∈ before ++ x :: between, ¬ SeesReceipt z) ∧
    (∀ t q, (s.submit call).Runs t q → (∀ z ∈ t, ¬ ReportsConflict z) → ∀ mined : Hash → Prop,
      (∀ x ∈ t, ∀ y ∈ t, ∀ tx tx' nonce, Accepts x tx nonce → Accepts y tx' nonce → mined tx → mined tx' → tx = tx') →
      ∀ x ∈ t, ∀ y ∈ t, ∀ tx tx' nonce nonce',
        Accepts x tx nonce → Accepts y tx' nonce' → mined tx → mined tx' → tx = tx') ∧
    (∀ d e, 2 < s.retry.maxAttempts → s.retry.backoff 0 = .ok d → ErrorClass.ofError e = .nonceConflict →
      ∀ tx tx' nonce pending, ∃ before x between y after q,
        (s.submit call).Runs (before ++ x :: (between ++ y :: after)) q ∧
          Accepts x tx nonce ∧ Accepts y tx' pending) := by
  refine ⟨?_, ?_, fun d e hm hd he => runs_duplicate call hm hd he⟩
  · intro before x between y after q tx nonce nonce' hr hx hy hc
    refine ⟨broadcasts_at_accepted hr hx hy hc, ?_⟩
    rw [← List.cons_append, ← List.append_assoc] at hr
    exact not_seesReceipt_of_broadcasts hr hy
  · intro t q hr hc mined single x hx y hy tx tx' nonce nonce' hax hay
    cases nonce_eq_of_accepts hr hc hx hy hax hay
    exact single x hx y hy tx tx' nonce hax hay

def sampleVote : BridgeCall := .vote (Devnet.sampleProposal 7)

theorem sample_replaces_until_conflict :
    (∃ before x between y after q, (sample.submit sampleVote).Runs (before ++ x :: (between ++ y :: after)) q ∧
      Accepts x (.ofNat 32 1) 0 ∧ Accepts y (.ofNat 32 2) 0 ∧ (∀ z ∈ before ++ x :: between, ¬ SeesReceipt z) ∧
      ∀ mined : Hash → Prop, (∀ z ∈ before ++ x :: (between ++ y :: after),
        ∀ z' ∈ before ++ x :: (between ++ y :: after), ∀ tx tx' nonce, Accepts z tx nonce → Accepts z' tx' nonce → mined tx → mined tx' → tx = tx') →
        ¬ (mined (.ofNat 32 1) ∧ mined (.ofNat 32 2))) ∧
    ∃ before x between y after q, (sample.submit sampleVote).Runs (before ++ x :: (between ++ y :: after)) q ∧
      Accepts x (.ofNat 32 1) 0 ∧ Accepts y (.ofNat 32 2) 1 := by
  obtain ⟨d, hd⟩ := backoff_sample
  obtain ⟨holds, single, fails⟩ := replaces_until_conflict sample sampleVote
  refine ⟨?_, fails d _ (by decide) hd ofError_alreadyKnown _ _ _ _⟩
  obtain ⟨before, x, between, y, after, q, hr, hx, hy, hc⟩ :=
    runs_replaced sampleVote (by decide) hd (.ofNat 32 1) (.ofNat 32 2) 0
  refine ⟨before, x, between, y, after, q, hr, hx, hy, ?_, fun mined one hm => ?_⟩
  · exact (holds _ _ _ _ _ _ _ _ _ hr hx hy.broadcasts fun z hz => hc z (by simp [hz])).2
  · have := single _ _ hr hc mined one x (by simp) y (by simp) _ _ 0 0 hx hy hm.1 hm.2
    exact absurd this (by decide +kernel)

/-- A vote that a node holds already is accepted a second time, at another nonce, and no receipt is seen before. -/
theorem sample_vote_at_two_nonces : ∃ before x between y after q,
    (sample.submit sampleVote).Runs (before ++ x :: (between ++ y :: after)) q ∧
      Accepts x (.ofNat 32 1) 0 ∧ Accepts y (.ofNat 32 2) 1 ∧ ∀ z ∈ before ++ x :: between, ¬ SeesReceipt z := by
  obtain ⟨d, hd⟩ := backoff_sample
  obtain ⟨before, x, between, y, after, q, hr, hx, hy⟩ :=
    runs_duplicate sampleVote (by decide) hd ofError_alreadyKnown (.ofNat 32 1) (.ofNat 32 2) 0 1
  refine ⟨before, x, between, y, after, q, hr, hx, hy, ?_⟩
  rw [← List.cons_append, ← List.append_assoc] at hr
  exact not_seesReceipt_of_broadcasts hr hy.broadcasts

end BridgeRelay.Signer
