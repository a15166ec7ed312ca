import BridgeRelay.Proofs.Signer.Attempts
import BridgeRelay.Proofs.Writer.Requests

/-!
# Custody of the account

A writer takes the signing account only when it does not have it, and has given it back whenever it is done with a part
of a message. So a writer that has an account for itself never waits for it.
-/

namespace BridgeRelay

open Program Destination

/-- Whether a writer has the account after an exchange, if it is known whether it had it before. -/
def hasAccount (taken : Bool) : Exchange WriterInterface → Bool
  | ⟨.takeNonce, _⟩ => true
  | ⟨.giveNonce _, _⟩ => false
  | _ => taken

/-- The world that watches whether a writer has the account, which it takes only when it does not. -/
abbrev custody : World WriterInterface Bool := .watch (fun taken r => r = .takeNonce → taken = false) hasAccount

/-- Neither takes the account nor gives it back. -/
def WriterRequest.LeavesAccount : WriterRequest → Prop
  | .takeNonce | .giveNonce _ => False
  | _ => True

section

variable {α : Type} {p : Program WriterInterface α} {taken : Bool}

theorem hasAccount_of_leaves {x : Exchange WriterInterface} (h : x.request.LeavesAccount) : hasAccount taken x = taken := by
  obtain ⟨r, a⟩ := x
  cases r with
  | takeNonce | giveNonce => exact h.elim
  | _ => rfl

theorem keeps_leaving (h : p.Asks WriterRequest.LeavesAccount) : p.Keeps custody (fun _ after => after = taken) taken := by
  refine h.keeps rfl ?_ ?_ ?_
  · rintro _ _ rfl rfl
    rfl
  · rintro _ _ leaves - rfl
    exact leaves.elim
  · rintro _ x _ leaves rfl rfl
    exact hasAccount_of_leaves leaves

/-- The parts of a message do so that the account is free before and after. -/
abbrev Returns (p : Program WriterInterface α) : Prop := p.Keeps custody (fun _ taken => taken = false) false

theorem returns_of_asks (h : p.Asks WriterRequest.LeavesAccount) : Returns p := keeps_leaving h

theorem returns_host {r : HostRequest} : Returns (Hosted.host r : Program WriterInterface r.Answer) :=
  returns_of_asks ⟨trivial, fun _ => trivial⟩

theorem Returns.bind {β : Type} {f : α → Program WriterInterface β} (h : Returns p) (hf : ∀ a, Returns (f a)) :
    Returns (p.bind f) := by
  refine keeps_bind.mpr (h.mono ?_)
  rintro a _ rfl
  exact hf a

end

theorem leaves_of_choosing {r : WriterRequest} (h : r.IsChoosing) : r.LeavesAccount := by
  rcases r with (_ | _ | _ | _ | _ | _ | _ | _ | _) | _ | _ | _ | _ | _ <;> first | exact h.elim | trivial

theorem leaves_of_waiting {r : WriterRequest} (h : r.IsWaiting) : r.LeavesAccount := by
  rcases r with (_ | _ | _ | _ | _ | _ | _ | _ | _) | _ | _ | _ | _ | _ <;> first | exact h.elim | trivial

/-! ## Submissions -/

namespace Signer

variable {s : Signer} {call : BridgeCall} {stuck next : Option UInt64} {bumps : Nat} {p : Pending}

theorem returns_broadcast : Returns (s.broadcast call bumps stuck) := by
  refine keeps_do.mpr (keeps_ask_watch.mpr ⟨fun _ => rfl, fun next => ?_⟩)
  refine keeps_do.mpr ((keeps_leaving (asks_choose.mono fun _ => leaves_of_choosing)).mono ?_)
  rintro (e | o) _ rfl
  · exact keeps_ask_watch.mpr ⟨nofun, fun _ => rfl⟩
  · refine keeps_do.mpr (keeps_ask_watch.mpr ⟨nofun, fun answer => ?_⟩)
    cases answer <;> exact keeps_ask_watch.mpr ⟨nofun, fun _ => rfl⟩

theorem returns_attempt : Returns (s.attempt call p) := by
  refine returns_broadcast.bind ?_
  rintro (e | ⟨tx, nonce⟩)
  · rfl
  · refine (returns_of_asks (asks_awaitReceipt.mono fun _ => leaves_of_waiting)).bind ?_
    rintro (e | _ | _) <;> rfl

theorem attempts_custody (s : Signer) (call : BridgeCall) :
    Attempts custody s call (fun _ taken => taken = false) (fun _ _ taken => taken = false) fun taken => taken = false where
  attempt _ _ free := by
    cases free
    refine returns_attempt.mono ?_
    rintro ⟨_ | _, _⟩ _ free <;> exact free
  give_up _ _ _ free := free
  abort _ _ _ _ free := by
    cases free
    exact returns_of_asks (asks_require.mono fun _ => leaves_of_waiting)
  again _ _ _ _ free := free
  forget _ _ _ _ free := keeps_ask_watch.mpr ⟨fun _ => free, fun _ => keeps_ask_watch.mpr ⟨nofun, fun _ => rfl⟩⟩
  postpone _ _ _ _ free := by
    cases free
    exact returns_of_asks (asks_postpone.mono fun _ => leaves_of_waiting)

theorem returns_submit : Returns (s.submit call) := (attempts_custody s call).keeps_submitFrom rfl

end Signer

/-! ## Messages -/

namespace Writer

variable {w : Writer} {m : Message} {p : Proposal}

theorem leaves_of_inspects {r : WriterRequest} (h : Inspects p r) : r.LeavesAccount := by
  cases r with
  | takeNonce | giveNonce => exact h.elim
  | _ => trivial

theorem returns_of_inspects {α : Type} {q : Program WriterInterface α} (h : q.Asks (Inspects p)) : Returns q :=
  returns_of_asks (h.mono fun _ => leaves_of_inspects)

theorem returns_execute : Returns (w.execute p) := by
  refine Signer.returns_submit.bind ?_
  rintro (e | tx | _)
  · exact returns_of_inspects asks_settle
  · exact Returns.bind returns_host fun _ => rfl
  · exact returns_of_inspects asks_settle

theorem returns_watch {left : Nat} : Returns (w.watch p left) := by
  induction left with
  | zero => rfl
  | succ left ih =>
      refine Returns.bind returns_host ?_
      rintro (_ | _)
      · refine (returns_of_inspects asks_readState).bind ?_
        rintro (e | ⟨_ | _ | _ | _ | _, votes, block⟩)
        case ok.passed => exact returns_execute
        case ok.inactive | ok.active => exact Returns.bind returns_host fun _ => ih
        all_goals rfl
      · rfl

theorem returns_ensureVote : Returns (w.ensureVote p) := by
  refine (returns_of_inspects asks_readVote).bind ?_
  rintro (e | _ | _)
  · rfl
  · refine Signer.returns_submit.bind ?_
    rintro (e | tx | _)
    · exact returns_of_inspects asks_afterFailedVote
    · exact Returns.bind returns_host fun _ => rfl
    · rfl
  · rfl

theorem returns_advance : Returns (w.advance p) := by
  refine (returns_of_inspects asks_readState).bind ?_
  rintro (e | ⟨_ | _ | _ | _ | _, votes, block⟩)
  case ok.passed => exact returns_execute
  case ok.inactive | ok.active =>
    refine returns_ensureVote.bind ?_
    rintro (e | _ | outcome)
    · rfl
    · exact returns_watch
    · rfl
  all_goals rfl

/-- Whatever a delivery is answered, it takes the account only when it does not have it, and gives it back. -/
theorem returns_deliver : Returns (w.deliver m) := by
  unfold deliver
  split
  · rfl
  · have reads : (w.read (query (.handler m.resource))).Asks WriterRequest.LeavesAccount :=
      asks_read (fun _ => trivial) ⟨trivial, fun _ => trivial⟩
    refine (returns_of_asks reads).bind ?_
    rintro (e | handler)
    · rfl
    · dsimp only
      split
      · rfl
      · exact returns_advance

end Writer

end BridgeRelay
