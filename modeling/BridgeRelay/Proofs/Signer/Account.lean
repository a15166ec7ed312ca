import BridgeRelay.Proofs.Program.Pool
import BridgeRelay.Proofs.Signer.Attempts

/-!
# The shared account

One signing account and its chain, as the submissions of many calls share them. No one else signs with the account,
so the chain says that the next nonce is one past the highest that it accepted.
-/

namespace BridgeRelay

/-- The account, and what its chain accepted of the submissions. -/
structure Account (ι : Type) where
  /-- the submission that has taken the account -/
  holder : Option ι := none
  /-- the nonce that comes next, if it is known -/
  next : Option UInt64 := none
  /-- the nonce of the transaction that was accepted since the account was taken -/
  sent : Option UInt64 := none
  /-- the next nonce that the chain tells -/
  pending : UInt64
  /-- the nonces of accepted transactions, the latest first -/
  accepted : List (ι × UInt64) := []

namespace Account

open Program Signer Destination

variable {ι : Type} {i j : ι} {a a' : Account ι} {stuck : Option UInt64}

/-! ## Submissions -/

/-- What the others may do meanwhile. -/
structure Drift (i : ι) (a a' : Account ι) : Prop where
  accepted (x : ι × UInt64) : x ∈ a.accepted → x ∈ a'.accepted
  held : a.holder = some i → a' = a
  free : a.holder ≠ some i → a'.holder ≠ some i

/-- The account once a transaction is accepted. -/
def accept (a : Account ι) (i : ι) (nonce : UInt64) : Account ι :=
  { a with sent := some nonce, pending := max a.pending (nonce + 1), accepted := (i, nonce) :: a.accepted }

/-- What a submission may ask: the account only if it has not taken it, and a broadcast only if it has, at a nonce of
its own or at the one that comes next. It gives the account back with what it knows of the next nonce. -/
def Permits (i : ι) (a : Account ι) : WriterRequest → Prop
  | .takeNonce => a.holder ≠ some i
  | .giveNonce next => a.holder = some i ∧ match a.sent with
      | none => next = none ∨ next = a.next
      | some nonce => next = some (nextNonce a.next nonce)
  | .chain (.send _ o) => a.holder = some i ∧ a.sent = none ∧
      ((i, o.nonce) ∈ a.accepted ∨ o.nonce = a.next.getD a.pending)
  | _ => True

/-- How a submission is answered: the account once it is free, the pending nonce as it is, all else in any way. The
largest number is not accepted as a nonce, for then there would be none past it. -/
def Reply (i : ι) (a : Account ι) : Exchange WriterInterface → Account ι → Prop
  | ⟨.takeNonce, next⟩, a' => a.holder = none ∧ next = a.next ∧ a' = { a with holder := some i, sent := none }
  | ⟨.giveNonce next, _⟩, a' => a' = { a with holder := none, next := next }
  | ⟨.chain .pendingNonce, .ok nonce⟩, a' => nonce = a.pending ∧ a' = a
  | ⟨.chain (.send _ o), .ok _⟩, a' => o.nonce < o.nonce + 1 ∧ a' = a.accept i o.nonce
  | _, a' => a' = a

/-- The account as a submission sees it. -/
def world (i : ι) : World WriterInterface (Account ι) where
  drift := Drift i
  permits := Permits i
  reply := Reply i

theorem fair : Pool.Fair (world (ι := ι)) where
  refl _ _ := ⟨fun _ => id, fun _ => rfl, id⟩
  trans := by
    rintro i a b c ⟨ha, hh, hf⟩ ⟨ha', hh', hf'⟩
    refine ⟨fun x hx => ha' x (ha x hx), fun h => ?_, fun h => hf' (hf h)⟩
    cases hh h
    exact hh' h
  drift := by
    rintro i j a a' ⟨r, answer⟩ hij permitted reply
    have same : a' = a → Drift i a a' := by
      rintro rfl
      exact ⟨fun _ => id, fun _ => rfl, id⟩
    rcases r with (_ | _ | _ | _ | _ | _ | _ | ⟨call, o⟩ | _) | _ | _ | next | _ | _
    case takeNonce =>
      obtain ⟨free, -, rfl⟩ := reply
      exact ⟨fun _ => id, fun h => by simp [free] at h, fun _ h => hij (Option.some.inj h).symm⟩
    case giveNonce =>
      obtain ⟨held, -⟩ := permitted
      cases reply
      exact ⟨fun _ => id, fun h => absurd (held.symm.trans h) (by simpa using hij.symm), fun _ => by simp⟩
    case chain.send =>
      obtain ⟨held, -⟩ := permitted
      cases answer with
      | error e => exact same reply
      | ok tx =>
          obtain ⟨-, rfl⟩ := reply
          exact ⟨fun _ => List.mem_cons_of_mem _, fun h => absurd (held.symm.trans h) (by simpa using hij.symm), id⟩
    case chain.pendingNonce =>
      cases answer with
      | error e => exact same reply
      | ok nonce => exact same reply.2
    all_goals exact same reply

/-- Prices, receipts and the host have nothing to do with the account. -/
theorem indifferent {r : WriterRequest} (h : r.IsPricing ∨ r.IsWaiting) :
    Permits i a r ∧ ∀ answer a', Reply i a ⟨r, answer⟩ a' ↔ a' = a := by
  rcases r with q | _ | _ | _ | _ | _
  case chain =>
    cases q <;>
      first | exact ⟨trivial, fun _ _ => .rfl⟩ | simp [WriterRequest.IsPricing, WriterRequest.IsWaiting] at h
  case host => exact ⟨trivial, fun _ _ => .rfl⟩
  all_goals simp [WriterRequest.IsPricing, WriterRequest.IsWaiting] at h

/-! ## Views -/

/-- What a submission may ask where only some of its nonces may be used again. -/
def PermitsOwn (own : UInt64 → List (ι × UInt64) → Prop) (i : ι) (a : Account ι) : WriterRequest → Prop
  | .chain (.send _ o) => a.holder = some i ∧ a.sent = none ∧
      (own o.nonce a.accepted ∨ o.nonce = a.next.getD a.pending)
  | r => Permits i a r

/-- The account as a submission sees it that uses such nonces again, while the others act in some way. -/
def view (drift : Account ι → Account ι → Prop) (own : UInt64 → List (ι × UInt64) → Prop) (i : ι) :
    World WriterInterface (Account ι) where
  drift
  permits := PermitsOwn own i
  reply := Reply i

/-- What a submission goes by: nobody touches the account while it has taken it, or takes it in its name, and a nonce
at which it had a transaction accepted may be used again, whatever the others do. -/
structure Terms (drift : Account ι → Account ι → Prop) (own : UInt64 → List (ι × UInt64) → Prop) (i : ι) : Prop where
  held (a a' : Account ι) : drift a a' → a.holder = some i → a' = a
  free (a a' : Account ι) : drift a a' → a.holder ≠ some i → a'.holder ≠ some i
  stays (a a' : Account ι) (nonce : UInt64) : drift a a' → own nonce a.accepted → own nonce a'.accepted
  accepted (nonce : UInt64) (earlier : List (ι × UInt64)) : own nonce ((i, nonce) :: earlier)

theorem permitsOwn_of_indifferent {own : UInt64 → List (ι × UInt64) → Prop} {r : WriterRequest}
    (h : r.IsPricing ∨ r.IsWaiting) : PermitsOwn own i a r := by
  have permitted : Permits i a r := (indifferent h).1
  rcases r with (_ | _ | _ | _ | _ | _ | _ | _ | _) | _ | _ | _ | _ | _
  case chain.send => simp [WriterRequest.IsPricing, WriterRequest.IsWaiting] at h
  all_goals exact permitted

section View

variable {drift : Account ι → Account ι → Prop} {own : UInt64 → List (ι × UInt64) → Prop}

/-! ## Requests -/

theorem keeps_ask_held {α : Type} {Q : α → Account ι → Prop} {r : WriterRequest}
    {next : r.Answer → Program WriterInterface α} (terms : Terms drift own i) (h : a.holder = some i)
    (hp : PermitsOwn own i a r)
    (hQ : ∀ answer a', Reply i a ⟨r, answer⟩ a' → (next answer).Keeps (view drift own i) Q a') :
    (Program.ask r next).Keeps (view drift own i) Q a := by
  refine keeps_ask.mpr fun a' drifted => ?_
  cases terms.held a a' drifted h
  exact ⟨hp, hQ⟩

theorem keeps_take {Q : Option UInt64 → Account ι → Prop} (terms : Terms drift own i) (h : a.holder ≠ some i)
    (hQ : ∀ a', drift a a' → Q a'.next { a' with holder := some i, sent := none }) :
    takeNonce.Keeps (view drift own i) Q a := by
  refine keeps_ask.mpr fun a' drifted => ⟨terms.free a a' drifted h, ?_⟩
  rintro next a'' ⟨-, rfl, rfl⟩
  exact hQ a' drifted

theorem keeps_give {Q : Unit → Account ι → Prop} {next : Option UInt64} (terms : Terms drift own i)
    (h : Permits i a (.giveNonce next)) (hQ : Q () { a with holder := none, next := next }) :
    (giveNonce next).Keeps (view drift own i) Q a := by
  refine keeps_ask_held terms h.1 h fun _ a' reply => ?_
  cases reply
  exact hQ

theorem keeps_quote {s : GasSettings} {m : GasPricing} (terms : Terms drift own i) (h : a.holder = some i) :
    (s.quote m).Keeps (view drift own i) (fun _ a' => a' = a) a := by
  refine GasSettings.asks_quote.keeps rfl ?_ ?_ ?_
  · rintro _ a' rfl drifted
    exact terms.held _ a' drifted h
  · exact fun _ _ ok _ => permitsOwn_of_indifferent (.inl ok)
  · rintro _ x a' ok rfl reply
    exact ((indifferent (.inl ok)).2 x.answer a').mp reply

/-! ## A submission -/

/-- A submission has not taken the account, and what it is to replace is a nonce of its own. -/
structure Idle (own : UInt64 → List (ι × UInt64) → Prop) (i : ι) (stuck : Option UInt64) (a : Account ι) : Prop where
  free : a.holder ≠ some i
  stuck (nonce : UInt64) : stuck = some nonce → own nonce a.accepted

theorem Idle.drifted (terms : Terms drift own i) (h : Idle own i stuck a) (hd : drift a a') : Idle own i stuck a' :=
  ⟨terms.free a a' hd h.free, fun nonce hs => terms.stays a a' nonce hd (h.stuck nonce hs)⟩

theorem Idle.fresh (h : Idle own i stuck a) : Idle own i none a := ⟨h.free, nofun⟩

theorem Idle.waits {α : Type} {p : Program WriterInterface α} (terms : Terms drift own i) (h : Idle own i stuck a)
    (hp : p.Asks WriterRequest.IsWaiting) : p.Keeps (view drift own i) (fun _ a' => Idle own i stuck a') a := by
  refine hp.keeps h (fun _ _ => Idle.drifted terms) ?_ ?_
  · exact fun _ _ ok _ => permitsOwn_of_indifferent (.inr ok)
  · rintro a x a' ok h reply
    exact ((indifferent (.inr ok)).2 x.answer a').mp reply ▸ h

variable {s : Signer} {call : BridgeCall}

theorem keeps_choose {bumps : Nat} (terms : Terms drift own i) (h : a.holder = some i)
    (hs : ∀ nonce, stuck = some nonce → own nonce a.accepted) :
    (s.choose bumps stuck a.next).Keeps (view drift own i) (fun r a' => a' = a ∧
      ∀ o, r = .ok o → own o.nonce a.accepted ∨ o.nonce = a.next.getD a.pending) a := by
  have chosen : (chooseNonce stuck a.next).Keeps (view drift own i) (fun r a' => a' = a ∧
      ∀ nonce, r = .ok nonce → own nonce a.accepted ∨ nonce = a.next.getD a.pending) a := by
    unfold chooseNonce
    rcases stuck with _ | nonce
    · cases hn : a.next with
      | some nonce => simp
      | none =>
          refine keeps_ask_held terms h trivial fun answer a' reply => ?_
          cases answer with
          | error e => exact ⟨reply, nofun⟩
          | ok nonce =>
              obtain ⟨rfl, rfl⟩ := reply
              simp
    · exact ⟨rfl, fun _ hr => .inl (Except.ok.inj hr ▸ hs nonce rfl)⟩
  refine keeps_do.mpr (chosen.mono ?_)
  rintro (e | nonce) a' ⟨rfl, hn⟩
  · exact ⟨rfl, nofun⟩
  · refine keeps_do.mpr ((keeps_quote terms h).mono ?_)
    rintro (e | price) a' rfl
    · exact ⟨rfl, nofun⟩
    · refine ⟨rfl, fun o ho => ?_⟩
      cases ho
      exact hn nonce rfl

theorem keeps_broadcast {bumps : Nat} (terms : Terms drift own i) (h : Idle own i stuck a) :
    (s.broadcast call bumps stuck).Keeps (view drift own i) (fun r a' => match r with
      | .error _ => Idle own i stuck a'
      | .ok (_, nonce) => Idle own i (some nonce) a') a := by
  refine keeps_do.mpr (keeps_take terms h.free fun a' drifted => ?_)
  have hs := (h.drifted terms drifted).stuck
  refine keeps_do.mpr ((keeps_choose (a := { a' with holder := some i, sent := none }) terms rfl hs).mono ?_)
  rintro (e | o) _ ⟨rfl, ho⟩
  · exact keeps_do.mpr (keeps_give terms ⟨rfl, .inr rfl⟩ ⟨nofun, hs⟩)
  · refine keeps_do.mpr (keeps_ask_held terms rfl ⟨rfl, rfl, ho o rfl⟩ fun answer b reply => ?_)
    cases answer with
    | error e =>
        cases reply
        exact keeps_do.mpr (keeps_give terms ⟨rfl, .inl rfl⟩ ⟨nofun, hs⟩)
    | ok tx =>
        obtain ⟨-, rfl⟩ := reply
        refine keeps_do.mpr (keeps_give terms ⟨rfl, rfl⟩ ⟨nofun, ?_⟩)
        rintro _ ⟨⟩
        exact terms.accepted o.nonce _

theorem keeps_forgetNonce (terms : Terms drift own i) (h : Idle own i stuck a) :
    forgetNonce.Keeps (view drift own i) (fun _ a' => Idle own i none a') a :=
  keeps_do.mpr (keeps_take terms h.free fun _ _ => keeps_give terms ⟨rfl, .inl rfl⟩ ⟨nofun, nofun⟩)

theorem keeps_attempt {p : Pending} (terms : Terms drift own i) (h : Idle own i p.stuck a) :
    (s.attempt call p).Keeps (view drift own i)
      (Attempted (fun _ stuck a => Idle own i stuck a) fun a => a.holder ≠ some i) a := by
  refine keeps_do.mpr ((keeps_broadcast terms h).mono ?_)
  rintro (e | ⟨tx, nonce⟩) a' h
  · exact h
  · refine keeps_do.mpr ((h.waits terms asks_awaitReceipt).mono ?_)
    rintro (e | _ | _) a'' h'
    · exact h'
    · exact h'.fresh
    · exact h'.free

theorem attempts (terms : Terms drift own i) (s : Signer) (call : BridgeCall) :
    Attempts (view drift own i) s call (Idle own i) (fun _ stuck a => Idle own i stuck a)
      fun a => a.holder ≠ some i where
  attempt _ _ h := keeps_attempt terms h
  give_up _ _ _ h := h.free
  abort _ _ _ _ h := (h.waits terms asks_require).mono fun _ _ h => h.free
  again _ _ _ _ h := h
  forget _ _ _ _ h := keeps_forgetNonce terms h
  postpone _ _ _ _ h := h.waits terms asks_postpone

/-- A submission that is over has given the account back. -/
theorem keeps_submit_view (terms : Terms drift own i) (h : a.holder ≠ some i) :
    (s.submit call).Keeps (view drift own i) (fun _ a' => a'.holder ≠ some i) a :=
  (attempts terms s call).keeps_submitFrom ⟨h, nofun⟩

end View

/-! ## The shared view -/

/-- While others have transactions accepted, any nonce of a submission may be used again. -/
theorem terms_shared : Terms (Drift i) (fun nonce accepted => (i, nonce) ∈ accepted) i where
  held _ _ drift := drift.held
  free _ _ drift := drift.free
  stays _ _ nonce drift := drift.accepted (i, nonce)
  accepted _ _ := List.mem_cons_self

theorem keeps_submit {s : Signer} {call : BridgeCall} (h : a.holder ≠ some i) :
    (s.submit call).Keeps (world i) (fun _ _ => True) a := by
  have kept := (keeps_submit_view terms_shared h : (s.submit call).Keeps (view (Drift i) _ i) _ a)
  refine (kept.mono fun _ _ _ => trivial).world (fun _ _ drift => drift) ?_ fun _ _ _ reply => reply
  intro a r permitted
  rcases r with (_ | _ | _ | _ | _ | _ | _ | _ | _) | _ | _ | _ | _ | _ <;> exact permitted

end Account

end BridgeRelay
