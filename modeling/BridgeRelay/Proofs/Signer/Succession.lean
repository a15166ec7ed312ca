import BridgeRelay.Proofs.Signer.Nonces

/-!
# Nonces of submissions in succession

Submissions that are made one after another, each when the one before has given the account back. What may be replaced
is then the transaction that was accepted last. Main statement: the nonces that are accepted fill an interval without a
gap, and each submission has only nonces above those of the submissions before it.
-/

namespace BridgeRelay.Account

open Program Signer Destination

variable {s : Signer} {call : BridgeCall} {first : UInt64} {i k : Nat} {a a' : Account Nat}
  {x : Exchange WriterInterface} {t : List (Exchange WriterInterface)}

/-- Submissions of any calls, numbered from zero, one after another. Each may run to its end or break off at any
request, and the next begins when the account is free. -/
inductive Succession (s : Signer) (first : UInt64) : Nat → Account Nat → Prop where
  | start : Succession s first 0 { pending := first }
  | submit {k : Nat} {a a' : Account Nat} {call : BridgeCall} {t : List (Exchange WriterInterface)}
      {q : Program WriterInterface (Except TransactionError Submission)} (before : Succession s first k a)
      (free : a.holder = none) (run : (s.submit call).Runs t q) (along : (world k).alone.Along a t a') :
      Succession s first (k + 1) a'

/-! ## A submission alone -/

/-- The latest transaction that was accepted. -/
def Newest (i : Nat) (nonce : UInt64) (accepted : List (Nat × UInt64)) : Prop := accepted.head? = some (i, nonce)

/-- The account as a submission sees it while no other acts: only its newest nonce may be used again. -/
abbrev solo (i : Nat) : World WriterInterface (Account Nat) := view Eq (Newest i) i

theorem terms_solo : Terms Eq (Newest i) i where
  held _ _ same _ := same.symm
  free _ _ same free := same ▸ free
  stays _ _ _ same own := same ▸ own
  accepted _ _ := rfl

theorem along_solo (h : (world i).alone.Along a t a') : (solo i).Along a t a' :=
  h.world (fun _ _ same => same) fun _ _ _ reply => reply

theorem Newest.mem {nonce : UInt64} {accepted : List (Nat × UInt64)} (h : Newest i nonce accepted) :
    (i, nonce) ∈ accepted := List.mem_of_head? h

theorem permits_of_solo {r : WriterRequest} (h : (solo i).permits a r) : Permits i a r := by
  rcases r with (_ | _ | _ | _ | _ | _ | _ | _ | _) | _ | _ | _ | _ | _
  case chain.send => exact ⟨h.1, h.2.1, h.2.2.imp_left Newest.mem⟩
  all_goals exact h

/-- What a request does to what was accepted: nothing, or one transaction more, at the newest nonce or the one that
comes next. -/
theorem accepts_of_reply (hp : (solo i).permits a x.request) (hr : Reply i a x a') :
    (a'.accepted = a.accepted ∧ a'.pending = a.pending ∧ (a'.sent = a.sent ∨ a'.sent = none)) ∨
    ∃ nonce, nonce < nonce + 1 ∧ a.sent = none ∧ a' = a.accept i nonce ∧
      (Newest i nonce a.accepted ∨ nonce = a.next.getD a.pending) := by
  have stay : a' = a → a'.accepted = a.accepted ∧ a'.pending = a.pending ∧ (a'.sent = a.sent ∨ a'.sent = none) := by
    rintro rfl
    exact ⟨rfl, rfl, .inl rfl⟩
  obtain ⟨r, answer⟩ := x
  rcases r with (_ | _ | _ | _ | _ | _ | _ | ⟨call, o⟩ | _) | _ | _ | next | _ | _
  case takeNonce =>
    obtain ⟨-, -, rfl⟩ := hr
    exact .inl ⟨rfl, rfl, .inr rfl⟩
  case giveNonce =>
    cases hr
    exact .inl ⟨rfl, rfl, .inl rfl⟩
  case chain.send =>
    cases answer with
    | error e => exact .inl (stay hr)
    | ok tx => exact .inr ⟨o.nonce, hr.1, hp.2.1, hr.2, hp.2.2⟩
  case chain.pendingNonce =>
    cases answer with
    | error e => exact .inl (stay hr)
    | ok nonce => exact .inl (stay hr.2)
  all_goals exact .inl (stay hr)

/-! ## What submissions keep -/

/-- The newest nonce is the last before the pending one, and each submission up to `k` has nonces above those before. -/
structure Advancing (first : UInt64) (k : Nat) (a : Account Nat) : Prop where
  dense : a.Dense first
  orderly : a.Orderly
  newest (i : Nat) (nonce : UInt64) : Newest i nonce a.accepted → nonce + 1 = a.pending
  sent (nonce : UInt64) : a.sent = some nonce → nonce + 1 = a.pending
  begun (i : Nat) (nonce : UInt64) : (i, nonce) ∈ a.accepted → i ≤ k
  ascending (i j : Nat) (n m : UInt64) : i < j → (i, n) ∈ a.accepted → (j, m) ∈ a.accepted → n < m

theorem advancing_start : Advancing first 0 { pending := first } where
  dense := dense_start
  orderly := orderly_start
  newest := nofun
  sent := nofun
  begun := nofun
  ascending := nofun

theorem Advancing.next (h : Advancing first k a) : Advancing first (k + 1) a where
  dense := h.dense
  orderly := h.orderly
  newest := h.newest
  sent := h.sent
  begun i n hn := Nat.le_succ_of_le (h.begun i n hn)
  ascending := h.ascending

/-- The account does not fall behind, as no nonce but the newest is used again. -/
theorem Advancing.not_behind (h : Advancing first k a) (hm : Move k a a') : ¬ a'.Behind := by
  intro behind
  obtain ⟨nonce, sent, -, lt⟩ := h.orderly.behind_of_move hm behind
  rw [h.sent nonce sent] at lt
  exact UInt64.lt_irrefl _ lt

theorem Advancing.reply (h : Advancing first k a) (hp : (solo k).permits a x.request) (hr : Reply k a x a') :
    Advancing first k a' := by
  have hm := move_of_reply (permits_of_solo hp) hr
  have dense := h.dense.move hm
  have orderly := h.orderly.move h.dense hm (h.not_behind hm)
  rcases accepts_of_reply hp hr with ⟨accepted, pending, sent⟩ | ⟨nonce, room, unsent, rfl, chosen⟩
  · refine ⟨dense, orderly, ?_, ?_, ?_, ?_⟩
    · rw [accepted, pending]
      exact h.newest
    · rw [pending]
      rcases sent with sent | sent <;> rw [sent]
      · exact h.sent
      · exact nofun
    · rw [accepted]
      exact h.begun
    · rw [accepted]
      exact h.ascending
  · -- the nonce is that of the last transaction, or the pending one
    have chosen : Newest k nonce a.accepted ∨ nonce = a.pending := by
      refine chosen.imp_right fun hn => ?_
      cases known : a.next with
      | none => simpa [known] using hn
      | some next => simpa [known, h.orderly.settled next (.inr unsent) known] using hn
    have last : nonce + 1 = a.pending ∨ nonce = a.pending := chosen.imp_left (h.newest k nonce)
    have tip : nonce + 1 = max a.pending (nonce + 1) := by
      rw [max_eq]
      grind
    have above (i : Nat) (n : UInt64) (lt : i < k) (hn : (i, n) ∈ a.accepted) : n < nonce := by
      rcases chosen with newest | rfl
      · exact h.ascending i k n nonce lt hn newest.mem
      · exact ((h.dense.accepted n).mp ⟨i, hn⟩).2
    refine ⟨dense, orderly, ?_, ?_, ?_, ?_⟩
    · rintro i n ⟨⟩
      exact tip
    · rintro n ⟨⟩
      exact tip
    · intro i n hn
      rcases List.mem_cons.mp hn with same | hn
      · cases same
        exact Nat.le_refl _
      · exact h.begun i n hn
    · intro i j n m lt hn hm
      rcases List.mem_cons.mp hn with same | hn
      · -- no later submission has begun
        cases same
        rcases List.mem_cons.mp hm with same | hm
        · cases same
          exact absurd lt (Nat.lt_irrefl _)
        · exact absurd (h.begun j m hm) (Nat.not_le.mpr lt)
      · rcases List.mem_cons.mp hm with same | hm
        · cases same
          exact above i n lt hn
        · exact h.ascending i j n m lt hn hm

/-! ## Runs -/

theorem keeps_submit_solo (free : a.holder = none) :
    (s.submit call).Keeps (solo k) (fun _ a' => a'.holder ≠ some k) a :=
  keeps_submit_view terms_solo (by simp [free])

/-- No other submission has taken the account. -/
def Alone (k : Nat) (a : Account Nat) : Prop := a.holder = none ∨ a.holder = some k

theorem Move.alone (hm : Move k a a') (h : Alone k a) : Alone k a' := by
  cases hm with
  | stay => exact h
  | take => exact .inr rfl
  | accept => exact h
  | keep | pass => exact .inl rfl

section Run

variable {q : Program WriterInterface (Except TransactionError Submission)}

theorem Advancing.run (h : Advancing first k a) (free : a.holder = none) (run : (s.submit call).Runs t q)
    (along : (world k).alone.Along a t a') : Advancing first k a' := by
  refine (keeps_submit_solo free).inv_of_runs run (along_solo along) h ?_ fun _ _ _ h => h.reply
  rintro a _ h rfl
  exact h

/-- What holds before submission `k` is left to it by those before. -/
theorem advancing_of_succession (h : Succession s first k a) : Advancing first k a := by
  induction h with
  | start => exact advancing_start
  | submit before free run along ih => exact (ih.run free run along).next

/-- A submission that has come to its end has given the account back. -/
theorem free_of_done {r : Except TransactionError Submission} (free : a.holder = none)
    (run : (s.submit call).Runs t (done r)) (along : (world k).alone.Along a t a') : a'.holder = none := by
  have kept : (s.submit call).Keeps (solo k) _ a := keeps_submit_solo free
  have returned : a'.holder ≠ some k := kept.runs run (along_solo along)
  have alone : Alone k a' := by
    refine kept.inv_of_runs run (along_solo along) (.inl free : Alone k a) ?_ ?_
    · rintro a _ h rfl
      exact h
    · exact fun _ _ _ h hp hr => (move_of_reply (permits_of_solo hp) hr).alone h
  exact alone.resolve_right returned

end Run

/-! ## Main statement -/

/-- However the submissions go, each nonce that a later one had accepted is above all that an earlier one had accepted,
and at every moment the accepted nonces are those from the first pending nonce up to the present one. A submission that
has come to its end leaves the account free, so any sequence of submissions is such a succession. -/
theorem nonces_advance (s : Signer) (first : UInt64) :
    (∀ k a, Succession s first k a →
      (∀ i j n m, i < j → (i, n) ∈ a.accepted → (j, m) ∈ a.accepted → n < m) ∧
      first ≤ a.pending ∧ ∀ n, (∃ i, (i, n) ∈ a.accepted) ↔ first ≤ n ∧ n < a.pending) ∧
    (∀ k a call t r a', Succession s first k a → a.holder = none → (s.submit call).Runs t (done r) →
      (world k).alone.Along a t a' → a'.holder = none) := by
  refine ⟨fun k a h => ?_, fun k a call t r a' _ free run along => free_of_done free run along⟩
  have advancing := advancing_of_succession h
  exact ⟨advancing.ascending, advancing.dense.first_le, advancing.dense.accepted⟩

def sampleVote : BridgeCall := .vote (Devnet.sampleProposal 7)

/-- The account after a transaction at 5 that was replaced, and was not mined either. -/
def sampleReplaced : Account Nat := { next := some 6, sent := some 5, pending := 6, accepted := [(0, 5), (0, 5)] }

/-- The account after one more transaction. -/
def sampleMined : Account Nat := { next := some 7, sent := some 6, pending := 7, accepted := [(1, 6), (0, 5), (0, 5)] }

theorem succession_sampleReplaced : Succession sample 5 1 sampleReplaced := by
  obtain ⟨d, hd⟩ := backoff_sample
  have again : (RetryRecord.fail { policy := sample.retry } (.timeout _)).next = .ok (.retryAfter d) :=
    next_timeout (Confirmation.lateText sample.confirmation (.ofNat 32 0)) (by decide) hd
  obtain ⟨t, sent, along⟩ : ∃ t, (sample.broadcast sampleVote 0 none).Runs t (done (.ok (.ofNat 32 0, 5))) ∧
      (world 0).alone.Along { pending := 5 } t
        ({ next := some 6, sent := some 5, pending := 6, accepted := [(0, 5)] } : Account Nat) :=
    turn_accepted sample sampleVote 0 (.ofNat 32 0) rfl (by decide) rfl
  obtain ⟨u, late, waits⟩ := runs_attempt_late (p := {}) sent
  obtain ⟨v, retried, waits'⟩ := runs_retryAfter again late
  obtain ⟨t', sent', along'⟩ : ∃ t, (sample.broadcast sampleVote 1 (some 5)).Runs t (done (.ok (.ofNat 32 1, 5))) ∧
      (world 0).alone.Along { next := some 6, sent := some 5, pending := 6, accepted := [(0, 5)] } t sampleReplaced :=
    turn_accepted sample sampleVote 1 (.ofNat 32 1) rfl (by decide) rfl
  obtain ⟨q, replaced⟩ := runs_submitFrom_broadcast (p := ⟨1, some 5⟩) sent'
  exact .submit .start rfl (retried.trans replaced)
    (((along.append (along_waiting waits)).append (along_waiting waits')).append along')

theorem runs_sampleMined : ∃ t r, (sample.submit sampleVote).Runs t (done r) ∧
    (world 1).alone.Along sampleReplaced t sampleMined := by
  obtain ⟨t, sent, along⟩ : ∃ t, (sample.broadcast sampleVote 0 none).Runs t (done (.ok (.ofNat 32 2, 6))) ∧
      (world 1).alone.Along sampleReplaced t sampleMined :=
    turn_accepted sample sampleVote 0 (.ofNat 32 2) rfl (by decide) rfl
  refine ⟨_, _, runs_submitFrom_mined (runs_attempt_mined (p := {}) sent), along.append (along_waiting ?_)⟩
  simp [WriterRequest.IsWaiting]

theorem sample_nonces_advance : Succession sample 5 2 sampleMined ∧ sampleMined.holder = none ∧
    (∀ n, (∃ i, (i, n) ∈ sampleMined.accepted) ↔ 5 ≤ n ∧ n < 7) ∧
    (0, 5) ∈ sampleMined.accepted ∧ (1, 6) ∈ sampleMined.accepted ∧ (5 : UInt64) < 6 := by
  obtain ⟨advance, ends⟩ := nonces_advance sample 5
  obtain ⟨t, r, run, along⟩ := runs_sampleMined
  have mined : Succession sample 5 2 sampleMined := .submit succession_sampleReplaced rfl run along
  obtain ⟨ascending, -, filled⟩ := advance 2 sampleMined mined
  have first : (0, 5) ∈ sampleMined.accepted := by decide
  have second : (1, 6) ∈ sampleMined.accepted := by decide
  exact ⟨mined, ends 1 sampleReplaced sampleVote t r sampleMined succession_sampleReplaced rfl run along, filled, first,
    second, ascending 0 1 5 6 (by decide) first second⟩

end BridgeRelay.Account
