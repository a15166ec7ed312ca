import BridgeRelay.Devnet.Sample
import BridgeRelay.Proofs.Signer.Turns

/-!
# Nonces of concurrent submissions

Transactions of different submissions carry different nonces as long as the account is never free with a next nonce
that was accepted before. Once it is, the next submission may be accepted at a nonce of another.
-/

namespace BridgeRelay.Account

open Program Signer Destination

variable {ι : Type} {i j : ι} {a a' : Account ι} {first : UInt64} {x : Exchange WriterInterface}

/-- Transactions of two submissions were accepted at one nonce. -/
def Shared (a : Account ι) : Prop := ∃ i j nonce, i ≠ j ∧ (i, nonce) ∈ a.accepted ∧ (j, nonce) ∈ a.accepted

/-- The account is free, and the nonce that is to come next was passed before. -/
def Behind (a : Account ι) : Prop := a.holder = none ∧ ∃ nonce, a.next = some nonce ∧ nonce < a.pending

/-! ## Moves -/

/-- What one request of a submission does to the account. -/
inductive Move (i : ι) (a : Account ι) : Account ι → Prop where
  | stay : Move i a a
  | take (free : a.holder = none) : Move i a { a with holder := some i, sent := none }
  | accept {nonce : UInt64} (room : nonce < nonce + 1) (held : a.holder = some i) (unsent : a.sent = none)
      (chosen : (i, nonce) ∈ a.accepted ∨ nonce = a.next.getD a.pending) : Move i a (a.accept i nonce)
  | keep {next : Option UInt64} (held : a.holder = some i) (unsent : a.sent = none)
      (known : next = none ∨ next = a.next) : Move i a { a with holder := none, next := next }
  | pass {nonce : UInt64} (held : a.holder = some i) (sent : a.sent = some nonce) :
      Move i a { a with holder := none, next := some (nextNonce a.next nonce) }

theorem move_of_reply (hp : Permits i a x.request) (hr : Reply i a x a') : Move i a a' := by
  have stay : a' = a → Move i a a' := by
    rintro rfl
    exact .stay
  obtain ⟨r, answer⟩ := x
  rcases r with (_ | _ | _ | _ | _ | _ | _ | ⟨call, o⟩ | _) | _ | _ | next | _ | _
  case takeNonce =>
    obtain ⟨free, -, rfl⟩ := hr
    exact .take free
  case giveNonce =>
    cases hr
    obtain ⟨held, known⟩ := hp
    rcases a.sent.eq_none_or_eq_some with hs | ⟨nonce, hs⟩ <;> simp only [hs] at known
    · exact .keep held hs known
    · exact known ▸ .pass held hs
  case chain.send =>
    cases answer with
    | error e => exact stay hr
    | ok tx =>
        obtain ⟨room, rfl⟩ := hr
        exact .accept room hp.1 hp.2.1 hp.2.2
  case chain.pendingNonce =>
    cases answer with
    | error e => exact stay hr
    | ok nonce => exact stay hr.2
  all_goals exact stay hr

/-! ## Where nonces lie -/

theorem max_eq (p q : UInt64) : max p q = if p ≤ q then q else p := rfl

/-- All nonces from the first to the pending one were accepted, and the account knows none beyond. -/
structure Dense (first : UInt64) (a : Account ι) : Prop where
  first_le : first ≤ a.pending
  accepted (nonce : UInt64) : (∃ i, (i, nonce) ∈ a.accepted) ↔ first ≤ nonce ∧ nonce < a.pending
  next (nonce : UInt64) : a.next = some nonce → first ≤ nonce ∧ nonce ≤ a.pending
  sent (i : ι) (nonce : UInt64) : a.holder = some i → a.sent = some nonce →
    nonce < nonce + 1 ∧ (i, nonce) ∈ a.accepted

theorem Dense.move (h : a.Dense first) (hm : Move i a a') : a'.Dense first := by
  cases hm with
  | stay => exact h
  | take free => exact ⟨h.first_le, h.accepted, h.next, nofun⟩
  | keep held unsent known =>
      refine ⟨h.first_le, h.accepted, ?_, nofun⟩
      rcases known with rfl | rfl
      · exact nofun
      · exact h.next
  | pass held sent =>
      refine ⟨h.first_le, h.accepted, ?_, nofun⟩
      rintro _ ⟨⟩
      obtain ⟨room, hn⟩ := h.sent _ _ held sent
      have hn := (h.accepted _).mp ⟨_, hn⟩
      cases hx : a.next with
      | none => simp only [nextNonce, Option.getD_none, max_eq]; grind
      | some next =>
          have := h.next next hx
          simp only [nextNonce, Option.getD_some, max_eq]
          grind
  | @accept nonce room held unsent chosen =>
      have hc : first ≤ nonce ∧ nonce ≤ a.pending := by
        rcases chosen with hn | rfl
        · have := (h.accepted _).mp ⟨_, hn⟩
          grind
        · cases hx : a.next with
          | none => exact ⟨h.first_le, UInt64.le_refl _⟩
          | some next => exact h.next next hx
      have hf := h.first_le
      refine ⟨?_, fun n => ?_, fun n hn => ?_, ?_⟩
      · simp only [Account.accept, max_eq]; grind
      · have := h.accepted n
        simp only [Account.accept, max_eq, List.mem_cons, Prod.mk.injEq, exists_or]
        simp [this]
        grind
      · have := h.next n hn
        simp only [Account.accept, max_eq]; grind
      · rintro j n hj hn
        cases held.symm.trans hj
        cases hn
        exact ⟨room, List.mem_cons_self⟩

/-! ## Nonces apart -/

/-- No nonce is shared, and a next nonce that is known is the pending one, but for what was just accepted. -/
structure Orderly (a : Account ι) : Prop where
  apart : ¬ a.Shared
  settled (nonce : UInt64) : a.holder = none ∨ a.sent = none → a.next = some nonce → nonce = a.pending
  sent (i : ι) (nonce next : UInt64) : a.holder = some i → a.sent = some nonce → a.next = some next →
    a.pending = max next (nonce + 1)

theorem Orderly.not_behind (h : a.Orderly) : ¬ a.Behind := by
  rintro ⟨free, n, hn, hlt⟩
  cases h.settled n (.inl free) hn
  exact UInt64.lt_irrefl _ hlt

theorem Orderly.move (h : a.Orderly) (hd : a.Dense first) (hm : Move i a a') (hb : ¬ a'.Behind) : a'.Orderly := by
  cases hm with
  | stay => exact h
  | take free => exact ⟨h.apart, fun n _ => h.settled n (.inl free), nofun⟩
  | keep held unsent known =>
      refine ⟨h.apart, fun n _ hn => ?_, nofun⟩
      rcases known with rfl | rfl
      · cases hn
      · exact h.settled n (.inr unsent) hn
  | pass held sent =>
      refine ⟨h.apart, fun n _ hn => ?_, nofun⟩
      have hle := ((hd.move (.pass held sent)).next n hn).2
      have hlt : ¬ n < a.pending := fun hlt => hb ⟨rfl, n, hn, hlt⟩
      exact UInt64.le_antisymm hle (UInt64.not_lt.mp hlt)
  | @accept nonce room held unsent chosen =>
      have fresh : (i, nonce) ∈ a.accepted ∨ nonce = a.pending := by
        rcases chosen with hn | hn
        · exact .inl hn
        · cases hx : a.next with
          | none => exact .inr (by simpa [hx] using hn)
          | some next => exact .inr (by simpa [hx, h.settled next (.inr unsent) hx] using hn)
      refine ⟨?_, ?_, fun _ n next _ hn hx => ?_⟩
      · -- a nonce of the submission's own is shared with no other, and the pending one is new
        have alone (j : ι) (hj : (j, nonce) ∈ a.accepted) : j = i := by
          rcases fresh with hn | rfl
          · by_contra hji
            exact h.apart ⟨j, i, nonce, hji, hj, hn⟩
          · exact absurd ((hd.accepted _).mp ⟨j, hj⟩).2 (UInt64.lt_irrefl _)
        rintro ⟨j, k, n, hjk, hj, hk⟩
        rcases List.mem_cons.mp hj with hj | hj <;> rcases List.mem_cons.mp hk with hk | hk
        · cases hj
          cases hk
          exact hjk rfl
        · cases hj
          exact hjk (alone k hk).symm
        · cases hk
          exact hjk (alone j hj)
        · exact h.apart ⟨j, k, n, hjk, hj, hk⟩
      · rintro n (hn | hn) <;> simp [Account.accept, held] at hn
      · cases hn
        have := h.settled next (.inr unsent) hx
        simp [Account.accept, this]

/-- The account falls behind when a transaction was accepted while the next nonce was not known and later nonces
had been accepted. -/
theorem Orderly.behind_of_move (h : a.Orderly) (hm : Move i a a') (hb' : a'.Behind) :
    ∃ nonce, a.sent = some nonce ∧ a.next = none ∧ nonce + 1 < a.pending := by
  obtain ⟨free, n, hn, hlt⟩ := id hb'
  cases hm with
  | stay => exact absurd hb' h.not_behind
  | take => cases free
  | accept room held => exact absurd (held.symm.trans free) (by simp)
  | keep held unsent known =>
      rcases known with rfl | rfl
      · cases hn
      · exact absurd hlt (h.settled n (.inr unsent) hn ▸ UInt64.lt_irrefl _)
  | @pass nonce held sent =>
      refine ⟨nonce, sent, ?_⟩
      cases hn
      cases hx : a.next with
      | none => exact ⟨rfl, by simpa [nextNonce, hx, max_eq] using hlt⟩
      | some next =>
          have hp := h.sent _ _ _ held sent hx
          refine absurd hlt ?_
          simp only [nextNonce, hx, Option.getD_some, hp]
          exact UInt64.lt_irrefl _

/-! ## Submissions of many calls -/

variable {s : Signer} {call : ι → BridgeCall}

/-- One submission for each call, before the first request. -/
def submissions (s : Signer) (call : ι → BridgeCall) (first : UInt64) :
    Pool ι WriterInterface (Except TransactionError Submission) (Account ι) :=
  ⟨fun i => s.submit (call i), { pending := first }⟩

theorem keeps_submissions : (submissions s call first).Keeps world := fun _ => keeps_submit nofun

theorem dense_start : Dense first ({ pending := first } : Account ι) where
  first_le := UInt64.le_refl _
  accepted _ := ⟨nofun, fun h => absurd (UInt64.lt_of_le_of_lt h.1 h.2) (UInt64.lt_irrefl _)⟩
  next := nofun
  sent := nofun

theorem orderly_start : Orderly ({ pending := first } : Account ι) := ⟨nofun, nofun, nofun⟩

variable [DecidableEq ι] {P P' : Pool ι WriterInterface (Except TransactionError Submission) (Account ι)}

theorem dense_of_reaches (h : Pool.Reaches world (submissions s call first) P) : P.state.Dense first :=
  (keeps_submissions.reaches fair dense_start (fun _ _ _ _ hp hr h => h.move (move_of_reply hp hr)) h).2

/-- The pools that are reached while the account does not fall behind. -/
abbrev Reached (s : Signer) (call : ι → BridgeCall) (first : UInt64) :
    Pool ι WriterInterface (Except TransactionError Submission) (Account ι) → Prop :=
  Relation.ReflTransGen (fun P P' => Pool.Step world P P' ∧ ¬ P'.state.Behind) (submissions s call first)

theorem orderly_of_reached (h : Reached s call first P) :
    P.Keeps world ∧ P.state.Dense first ∧ P.state.Orderly := by
  induction h with
  | refl => exact ⟨keeps_submissions, dense_start, orderly_start⟩
  | tail _ hs ih =>
      obtain ⟨hk, hd, ho⟩ := ih
      obtain ⟨hk', hstate | ⟨i, x, hp, hr⟩⟩ := hk.step fair hs.1
      · rw [hstate]
        exact ⟨hk', hd, ho⟩
      · have hm := move_of_reply hp hr
        exact ⟨hk', hd.move hm, ho.move hd hm hs.2⟩

theorem reached_or_behind (h : Pool.Reaches world (submissions s call first) P) :
    Reached s call first P ∨ ∃ Q Q', Reached s call first Q ∧ Pool.Step world Q Q' ∧ Q'.state.Behind := by
  induction h with
  | refl => exact .inl .refl
  | @tail Q Q' _ hs ih =>
      rcases ih with hr | hb
      · by_cases hb : Q'.state.Behind
        · exact .inr ⟨Q, Q', hr, hs, hb⟩
        · exact .inl (hr.tail ⟨hs, hb⟩)
      · exact .inr hb

/-- Once the account is behind, a submission that has not begun can be accepted at a nonce of another. -/
theorem reaches_shared {k : ι} (h : Pool.Reaches world (submissions s call first) P) (hb : P.state.Behind)
    (hk : P.programs k = s.submit (call k)) (hn : ∀ nonce, (k, nonce) ∉ P.state.accepted) :
    ∃ P', Pool.Reaches world P P' ∧ P'.state.Shared := by
  have hd := dense_of_reaches h
  obtain ⟨free, n, hx, hlt⟩ := hb
  obtain ⟨j, hj⟩ := (hd.accepted n).mpr ⟨(hd.next n hx).1, hlt⟩
  have room : n < n + 1 := by grind
  obtain ⟨P', hr, -, hs⟩ := reaches_accepted n hk free room (by simp [hx])
  refine ⟨P', hr, k, j, n, ?_, hs ▸ List.mem_cons_self, hs ▸ List.mem_cons_of_mem _ hj⟩
  rintro rfl
  exact hn n hj

/-! ## An account that falls behind -/

/-- The first submission is accepted at nonce 0 and not mined, the second at 1; the third is refused, so that the
next nonce is not known; then the first is replaced at 0. -/
theorem reaches_behind {s : Signer} {d : Duration} (call : Fin 4 → BridgeCall) (h : 1 < s.retry.maxAttempts)
    (hd : s.retry.backoff 0 = .ok d) :
    ∃ P, Pool.Reaches world (submissions s call 0) P ∧ P.state.Behind ∧
      P.programs 3 = s.submit (call 3) ∧ ∀ nonce, (3, nonce) ∉ P.state.accepted := by
  have hn : (RetryRecord.fail { policy := s.retry } (.timeout _)).next = .ok (.retryAfter d) :=
    next_timeout (Confirmation.lateText s.confirmation (.ofNat 32 0)) h hd
  obtain ⟨P₁, h₁, o₁, p₁, s₁⟩ :=
    reaches_stuck (P := submissions s call 0) (i := 0) 0 hn rfl rfl (by decide) rfl
  obtain ⟨P₂, h₂, o₂, s₂⟩ := reaches_accepted (P := P₁) (i := 1) 1 (o₁ 1 (by decide))
    (by rw [s₁]) (by decide) (by rw [s₁]; rfl)
  obtain ⟨P₃, h₃, o₃, s₃⟩ := reaches_refused (P := P₂) (i := 2) ((o₂ 2 (by decide)).trans (o₁ 2 (by decide)))
    (by rw [s₂]) (.rpc "transaction underpriced")
  obtain ⟨P₄, h₄, o₄, s₄⟩ := reaches_accepted (P := P₃) (i := 0) 0
    ((o₃ 0 (by decide)).trans ((o₂ 0 (by decide)).trans p₁)) (by rw [s₃]) (by decide) rfl
  have others : P₄.programs 3 = (submissions s call 0).programs 3 := by
    rw [o₄ 3 (by decide), o₃ 3 (by decide), o₂ 3 (by decide), o₁ 3 (by decide)]
  refine ⟨P₄, ((h₁.trans h₂).trans h₃).trans h₄, ?_, others, ?_⟩
  · rw [s₄, s₃, s₂, s₁]
    exact ⟨rfl, 1, rfl, (by decide : (1 : UInt64) < 2)⟩
  · rw [s₄, s₃, s₂, s₁]
    intro nonce
    simp [Account.accept, submissions]

/-! ## Main statement -/

/-- Accepted transactions of different submissions carry different nonces while the account does not fall behind;
it falls behind only when a transaction was accepted while the next nonce was not known and later nonces had been
accepted; and once it has, a submission that has not begun can be accepted at a nonce of another. -/
theorem nonces_differ_unless_behind (s : Signer) (call : ι → BridgeCall) (first : UInt64) :
    (∀ P, Reached s call first P → ¬ P.state.Shared) ∧
    (∀ P P', Reached s call first P → Pool.Step world P P' → P'.state.Behind →
      ∃ nonce, P.state.sent = some nonce ∧ P.state.next = none ∧ nonce + 1 < P.state.pending) ∧
    (∀ P k, Pool.Reaches world (submissions s call first) P → P.state.Behind →
      P.programs k = s.submit (call k) → (∀ nonce, (k, nonce) ∉ P.state.accepted) →
      ∃ P', Pool.Reaches world P P' ∧ P'.state.Shared) := by
  refine ⟨fun P h => (orderly_of_reached h).2.2.apart, fun P P' h hs hb => ?_, fun P k => reaches_shared⟩
  obtain ⟨hk, -, ho⟩ := orderly_of_reached h
  obtain ⟨-, hstate | ⟨i, x, hp, hr⟩⟩ := hk.step fair hs
  · exact absurd (hstate ▸ hb) ho.not_behind
  · exact ho.behind_of_move (move_of_reply hp hr) hb

def sampleVotes (_ : Fin 4) : BridgeCall := .vote (Devnet.sampleProposal 7)

theorem sample_reaches_behind :
    ∃ P, Pool.Reaches world (submissions sample sampleVotes 0) P ∧ P.state.Behind ∧
      P.programs 3 = sample.submit (sampleVotes 3) ∧ ∀ nonce, (3, nonce) ∉ P.state.accepted := by
  obtain ⟨d, hd⟩ := backoff_sample
  exact reaches_behind sampleVotes (by decide) hd

theorem sample_nonces_differ_unless_behind :
    (∃ P Q Q', Reached sample sampleVotes 0 P ∧ ¬ P.state.Shared ∧ Reached sample sampleVotes 0 Q ∧
      Pool.Step world Q Q' ∧ Q'.state.Behind ∧ Q.state.next = none) ∧
    ∃ P P', Pool.Reaches world (submissions sample sampleVotes 0) P ∧ P.state.Behind ∧
      Pool.Reaches world P P' ∧ P'.state.Shared := by
  obtain ⟨apart, falls, shares⟩ := nonces_differ_unless_behind sample sampleVotes 0
  obtain ⟨P, h, hb, h₃, fresh⟩ := sample_reaches_behind
  obtain ⟨P', h', hs⟩ := shares P 3 h hb h₃ fresh
  refine ⟨?_, P, P', h, hb, h', hs⟩
  rcases reached_or_behind h with hr | ⟨Q, Q', hr, hQ, hb'⟩
  · exact absurd hb (orderly_of_reached hr).2.2.not_behind
  · obtain ⟨nonce, -, hn, -⟩ := falls Q Q' hr hQ hb'
    exact ⟨Q, Q, Q', hr, apart Q hr, hr, hQ, hb', hn⟩

/-- Two of four votes are accepted at one nonce. -/
theorem two_votes_share_a_nonce :
    ∃ P, Pool.Reaches world (submissions sample sampleVotes 0) P ∧ P.state.Shared := by
  obtain ⟨P, h, hb, h₃, fresh⟩ := sample_reaches_behind
  obtain ⟨P', h', hs⟩ := reaches_shared h hb h₃ fresh
  exact ⟨P', h.trans h', hs⟩

end BridgeRelay.Account
