import BridgeRelay.Proofs.Program.Endings
import BridgeRelay.Proofs.Signer.Requests
import BridgeRelay.Writer

/-!
# Writers at a chain that answers

A chain serves a writer if it answers what does not concern the bridge without an error, has the receipts at once, and
refuses calls for good. At such a chain a submission ends after one attempt, whatever else goes on.
-/

namespace BridgeRelay

open Program Destination

variable {S α : Type} {W : World WriterInterface S} {R : S → S → Prop} {s s' s'' : S} {call : BridgeCall}

/-- Leaves the bridge alone: neither reads from it nor sends a call. -/
def WriterRequest.IsAside : WriterRequest → Prop
  | .chain (.handler _) | .chain (.proposal ..) | .chain (.hasVoted ..) | .chain (.send ..) | .host (.abort _) => False
  | _ => True

/-- A question to the node is answered without an error, and a receipt is there. -/
def Smooth : Exchange WriterInterface → Prop
  | ⟨.chain .pendingNonce, a⟩ => ∃ nonce, a = .ok nonce
  | ⟨.chain .gasPrice, a⟩ => ∃ price, a = .ok price
  | ⟨.chain .baseFee, a⟩ => ∃ fee, a = .ok fee
  | ⟨.chain .priorityFee, a⟩ => ∃ tip, a = .ok tip
  | ⟨.chain (.receipt _), a⟩ => a = .ok (some true)
  | _ => True

theorem exists_smooth {r : WriterRequest} (hr : r.IsAside) : ∃ a, Smooth ⟨r, a⟩ := by
  rcases r with (_ | _ | _ | _ | _ | _ | _ | _ | _) | (_ | _ | _ | _ | _ | _) | _ | _ | _ | _
  all_goals first
    | exact hr.elim
    | exact ⟨.ok (some true), rfl⟩
    | exact ⟨.ok 0, 0, rfl⟩
    | exact ⟨.ok none, none, rfl⟩
    | exact ⟨(), trivial⟩
    | exact ⟨false, trivial⟩
    | exact ⟨(0 : Nat), trivial⟩
    | exact ⟨none, trivial⟩

/-- The world of a writer at a chain without troubles, where a state is followed by those that `R` relates to it as
long as no call of the writer is accepted. -/
structure Serves (W : World WriterInterface S) (R : S → S → Prop) : Prop where
  refl (s : S) : R s s
  trans {s s' s'' : S} : R s s' → R s' s'' → R s s''
  drift {s s' : S} : W.drift s s' → R s s'
  answers {r : WriterRequest} (hr : r.IsAside) (s : S) : ∃ a s', W.reply s ⟨r, a⟩ s'
  smooth {s s' : S} {x : Exchange WriterInterface} (hx : x.request.IsAside) (h : W.reply s x s') : Smooth x ∧ R s s'
  tries (s : S) (call : BridgeCall) (o : TransactionOptions) : ∃ a s', W.reply s ⟨.chain (.send call o), a⟩ s'
  refuses {s s' : S} {call : BridgeCall} {o : TransactionOptions} {e : ChainError}
    (h : W.reply s ⟨.chain (.send call o), .error e⟩ s') : Signer.IsFinal e

/-- A call was sent some time ago and answered so. -/
inductive Sent (W : World WriterInterface S) (R : S → S → Prop) (call : BridgeCall) (s : S)
    (a : Except ChainError Hash) (s' : S) : Prop where
  | intro {s₁ s₂ : S} {o : TransactionOptions} (before : R s s₁) (reply : W.reply s₁ ⟨.chain (.send call o), a⟩ s₂)
      (after : R s₂ s')

theorem Sent.later {a : Except ChainError Hash} (hW : Serves W R) (h : Sent W R call s a s') (hs : R s' s'') :
    Sent W R call s a s'' := by
  obtain ⟨before, reply, after⟩ := h
  exact ⟨before, reply, hW.trans after hs⟩

/-- A request that leaves the bridge alone. -/
theorem Serves.ends_ask {Q : α → S → Prop} {r : WriterRequest} {next : WriterInterface.Answer r → Program WriterInterface α}
    (hW : Serves W R) (hr : r.IsAside) (h : ∀ a s', Smooth ⟨r, a⟩ → R s s' → (next a).Ends W Q s') :
    (ask r next).Ends W Q s := by
  refine .ask rfl (fun s₁ _ => hW.answers hr s₁) fun s₁ a s₂ hd hx => ?_
  obtain ⟨smooth, hs⟩ := hW.smooth hr hx
  exact h a s₂ smooth (hW.trans (hW.drift hd) hs)

/-! ## Prices -/

theorem GasSettings.ends_legacyQuote {g : GasSettings} (hW : Serves W R) :
    g.legacyQuote.Ends W (fun a s' => (∃ price, a = .ok price) ∧ R s s') s := by
  refine .bind (hW.ends_ask trivial ?_)
  rintro _ s' ⟨price, rfl⟩ hs
  exact .done (.done ⟨⟨_, rfl⟩, hs⟩)

theorem GasSettings.ends_quote {g : GasSettings} {m : GasPricing} (hW : Serves W R) :
    (g.quote m).Ends W (fun a s' => (∃ price, a = .ok price) ∧ R s s') s := by
  cases m with
  | static => exact ends_legacyQuote hW
  | london =>
      refine .bind (hW.ends_ask trivial ?_)
      rintro _ s' ⟨_ | fee, rfl⟩ hs
      · refine .done ((ends_legacyQuote hW).mono ?_)
        exact fun _ _ h => ⟨h.1, hW.trans hs h.2⟩
      · refine .done (.bind (hW.ends_ask trivial ?_))
        rintro _ s'' ⟨tip, rfl⟩ hs'
        exact .done (.done ⟨⟨_, rfl⟩, hW.trans hs hs'⟩)

/-! ## Submissions -/

namespace Signer

variable {g : Signer}

theorem ends_chooseNonce {stuck next : Option UInt64} (hW : Serves W R) :
    (chooseNonce stuck next).Ends W (fun a s' => (∃ nonce, a = .ok nonce) ∧ R s s') s := by
  unfold chooseNonce
  split
  · exact .done ⟨⟨_, rfl⟩, hW.refl s⟩
  · refine hW.ends_ask trivial ?_
    exact fun _ s' smooth hs => .done ⟨smooth, hs⟩

theorem ends_choose {bumps : Nat} {stuck next : Option UInt64} (hW : Serves W R) :
    (g.choose bumps stuck next).Ends W (fun a s' => (∃ o, a = .ok o) ∧ R s s') s := by
  refine .bind ((ends_chooseNonce hW).mono ?_)
  rintro _ s₁ ⟨⟨nonce, rfl⟩, hs⟩
  refine .bind ((GasSettings.ends_quote hW).mono ?_)
  rintro _ s₂ ⟨⟨price, rfl⟩, hs'⟩
  exact .done ⟨⟨_, rfl⟩, hW.trans hs hs'⟩

theorem ends_broadcast {bumps : Nat} {stuck : Option UInt64} (hW : Serves W R) :
    (g.broadcast call bumps stuck).Ends W (fun a s' => Sent W R call s (a.map Prod.fst) s') s := by
  refine .bind (hW.ends_ask trivial fun next s₁ _ hs => .done (.bind ((ends_choose hW).mono ?_)))
  rintro _ s₂ ⟨⟨o, rfl⟩, hs'⟩
  refine .bind (.ask rfl (fun s₃ _ => hW.tries s₃ call o) fun s₃ a s₄ hd hx => .done ?_)
  have before : R s s₃ := hW.trans (hW.trans hs hs') (hW.drift hd)
  cases a with
  | error e => exact .bind (hW.ends_ask trivial fun _ _ _ after => .done (.done ⟨before, hx, after⟩))
  | ok tx => exact .bind (hW.ends_ask trivial fun _ _ _ after => .done (.done ⟨before, hx, after⟩))

/-- The first look finds the receipt. -/
theorem ends_awaitReceipt {c : Confirmation} {tx : Hash} (hW : Serves W R) :
    (awaitReceipt c tx).Ends W (fun a s' => a = .ok true ∧ R s s') s := by
  refine .bind (hW.ends_ask trivial fun start s₁ _ hs => .done (.iterate (.bind (hW.ends_ask trivial ?_))))
  rintro _ s₂ rfl hs'
  exact .done (.done ⟨rfl, hW.trans hs hs'⟩)

theorem ends_attempt {pending : Pending} (hW : Serves W R) :
    (g.attempt call pending).Ends W (fun a s' => Sent W R call s a.1 s') s := by
  refine .bind ((ends_broadcast hW).mono ?_)
  rintro (e | ⟨tx, nonce⟩) s₁ h
  · exact .done h
  · refine .bind ((ends_awaitReceipt hW).mono ?_)
    rintro _ s₂ ⟨rfl, hs⟩
    exact .done (h.later hW hs)

/-- A call is accepted and confirmed, or refused, and then not tried again. -/
theorem ends_submit (hW : Serves W R) : (g.submit call).Ends W
    (fun
      | .ok (.confirmed tx), s' => Sent W R call s (.ok tx) s'
      | .ok .alreadyProcessed, s' => ∃ e, Sent W R call s (.error e) s'
      | .error _, s' => ∃ e, Sent W R call s (.error e) s' ∧ ErrorClass.ofError e ≠ .alreadyProcessed) s := by
  unfold submit
  rw [submitFrom]
  refine .bind ((ends_attempt hW).mono ?_)
  rintro ⟨e | tx, pending⟩ s₁ h
  · have refused : IsFinal e := by
      obtain ⟨-, reply, -⟩ := h
      exact hW.refuses reply
    dsimp only
    rcases refused with hc | hc
    · have hn : (RetryRecord.fail { policy := g.retry } e).next = .ok .giveUp := by
        simp [RetryRecord.next, RetryRecord.fail, hc]
      split <;> simp_all
      exact .done ⟨e, h, by simp [hc]⟩
    · have hn : (RetryRecord.fail { policy := g.retry } e).next = .ok .alreadyProcessed := by
        simp [RetryRecord.next, RetryRecord.fail, hc]
      split <;> simp_all
      exact .done ⟨e, h⟩
  · exact .done h

end Signer

/-! ## Reads -/

/-- A read that succeeds is made once. -/
theorem Writer.ends_read {w : Writer} {q : Program WriterInterface (Except ChainError α)} {P : α → S → Prop}
    (hq : q.Ends W (fun a s' => ∃ x, a = .ok x ∧ P x s') s) :
    (w.read q).Ends W (fun a s' => ∃ x, a = .ok x ∧ P x s') s := by
  have first (left : Nat) : (w.readRetry.readFrom q 0 left).Ends W (fun a s' => ∃ x, a = .ok x ∧ P x s') s := by
    cases left with
    | zero => exact hq
    | succ left =>
        refine .bind (hq.mono ?_)
        rintro _ s' ⟨x, rfl, hx⟩
        exact .done ⟨x, rfl, hx⟩
  refine .bind ((first _).mono ?_)
  rintro _ s' ⟨x, rfl, hx⟩
  exact .done ⟨x, rfl, hx⟩

end BridgeRelay
