import BridgeRelay.Proofs.Signer.Requests

/-!
# What a submission shows

A submission ends as its last attempt does, and the trace of the attempt shows why: a confirmed call was accepted and
its receipt seen, and each failure is what the chain answered to a question or to the broadcast, or what the signer makes
of a receipt that tells of failure or does not come. The failures that the signer makes up itself never count as done.
-/

namespace BridgeRelay

open Program Destination

/-- Broadcasts a call. -/
def WriterRequest.isSend : WriterRequest → Bool
  | .chain (.send ..) => true
  | _ => false

/-! ## Classes of texts -/

theorem Text.mem_of_occurs {part cs : List Char} {c : Char} (h : occurs part cs = true) (hc : c ∈ part) : c ∈ cs := by
  induction cs with
  | nil =>
      rw [List.isEmpty_iff.mp h] at hc
      cases hc
  | cons d cs ih =>
      simp only [occurs, Bool.or_eq_true] at h
      rcases h with h | h
      · exact (List.isPrefixOf_iff_prefix.mp h).subset hc
      · exact List.mem_cons_of_mem d (ih h)

theorem ErrorClass.exists_phrase {s : String} {c : ErrorClass} (h : ofText s = c) (hc : c ≠ .unknown) :
    ∃ entry ∈ phrases, entry.1 = c ∧ ∃ phrase ∈ entry.2, Text.occurs phrase.toList (Text.fold s.toList) = true := by
  unfold ofText at h
  dsimp only at h
  split at h
  case h_1 c' texts found =>
    have occurs := List.find?_some found
    exact ⟨_, List.mem_of_find?_eq_some found, h, List.any_eq_true.mp occurs⟩
  case h_2 => exact absurd h.symm hc

namespace Signer

theorem not_mem_lower_digit {n : Nat} (h : n < 16) : 'l' ∉ Text.lower (Hex.digit n) := by
  have : ∀ n : Fin 16, 'l' ∉ Text.lower (Hex.digit n) := by decide +kernel
  exact this ⟨n, h⟩

theorem not_mem_revertedText (tx : Hash) : 'l' ∉ Text.fold (revertedText tx).toList := by
  have text : (revertedText tx).toList =
      "transaction 0x".toList ++ (Hex.digits tx.toList ++ " reverted".toList) := by
    simp [revertedText, Hex.encode, toString]
  have before : 'l' ∉ Text.fold "transaction 0x".toList := by decide +kernel
  have behind : 'l' ∉ Text.fold " reverted".toList := by decide +kernel
  have digits (bytes : Bytes) : 'l' ∉ Text.fold (Hex.digits bytes) := by
    simp only [Text.fold, Hex.digits, List.mem_flatMap]
    rintro ⟨c, ⟨b, -, hc⟩, hl⟩
    simp only [List.mem_cons, List.not_mem_nil, or_false] at hc
    rcases hc with rfl | rfl
    · exact not_mem_lower_digit (by have := b.toNat_lt; omega) hl
    · exact not_mem_lower_digit (Nat.mod_lt _ (by decide)) hl
  rw [text]
  simp only [Text.fold, List.flatMap_append, List.mem_append] at before behind digits ⊢
  rintro (h | h | h)
  · exact before h
  · exact digits _ h
  · exact behind h

theorem ofError_revertedText (tx : Hash) : ErrorClass.ofError (.reverted (revertedText tx)) = .permanent := by
  refine if_neg fun h => ?_
  obtain ⟨entry, hentry, hc, phrase, hphrase, occurs⟩ := ErrorClass.exists_phrase h nofun
  have : ∀ entry ∈ ErrorClass.phrases, entry.1 = .alreadyProcessed → ∀ phrase ∈ entry.2, 'l' ∈ phrase.toList := by
    decide +kernel
  exact not_mem_revertedText tx (Text.mem_of_occurs occurs (this _ hentry hc _ hphrase))

/-! ## Attempts -/

variable {s : Signer} {call : BridgeCall} {r : RetryRecord} {p p' : Pending} {e : ChainError} {tx : Hash}
  {t u : List (Exchange WriterInterface)}

/-- With what failure the chain answers a broadcast, or a question before it. -/
def refusal? : Exchange WriterInterface → Option ChainError
  | ⟨.chain (.send ..), .error e⟩ => some e
  | ⟨.chain .pendingNonce, .error e⟩ => some e
  | ⟨.chain .gasPrice, .error e⟩ => some e
  | ⟨.chain .baseFee, .error e⟩ => some e
  | ⟨.chain .priorityFee, .error e⟩ => some e
  | _ => none

/-- The chain answered with the failure. -/
def Refused (e : ChainError) (t : List (Exchange WriterInterface)) : Prop := ∃ x ∈ t, refusal? x = some e

/-- A transaction of the call was accepted, and then its receipt told of success. -/
def Mined (call : BridgeCall) (tx : Hash) (t : List (Exchange WriterInterface)) : Prop :=
  ∃ u o v, t = u ++ ⟨.chain (.send call o), .ok tx⟩ :: v ∧ ⟨.chain (.receipt tx), .ok (some true)⟩ ∈ v

/-- No look found a receipt, and the clock showed the deadline or more after the last one. -/
structure Late (c : Confirmation) (tx : Hash) (t : List (Exchange WriterInterface)) : Prop where
  missed : ∀ success, ⟨.chain (.receipt tx), .ok (some success)⟩ ∉ t
  due : ∃ start u found now, t = ⟨.host .now, start⟩ :: (u ++ [⟨.chain (.receipt tx), found⟩, ⟨.host .now, now⟩]) ∧
    start + c.timeout.nanos ≤ now

/-- Why an attempt failed, as its trace shows, and what it leaves to the next one. -/
inductive Failure (s : Signer) (call : BridgeCall) (p : Pending) :
    List (Exchange WriterInterface) → ChainError → Pending → Prop where
  /-- the chain told no nonce, and nothing was broadcast -/
  | nonce {t : List (Exchange WriterInterface)} {e : ChainError} (told : ⟨.chain .pendingNonce, .error e⟩ ∈ t)
      (unsent : ∀ x ∈ t, x.request.isSend = false) : Failure s call p t e p
  /-- the chain told no price, and nothing was broadcast -/
  | price {t : List (Exchange WriterInterface)} {e : ChainError} {x : Exchange WriterInterface} (asked : x ∈ t)
      (pricing : x.request.IsPricing) (told : refusal? x = some e) (unsent : ∀ x ∈ t, x.request.isSend = false) :
      Failure s call p t e p
  /-- the chain refused the transaction -/
  | refused {t : List (Exchange WriterInterface)} {e : ChainError} {o : TransactionOptions}
      (told : ⟨.chain (.send call o), .error e⟩ ∈ t) : Failure s call p t e p
  /-- the transaction was mined and failed -/
  | reverted {u v : List (Exchange WriterInterface)} {o : TransactionOptions} {tx : Hash} {next : Option UInt64}
      (told : ⟨.chain (.receipt tx), .ok (some false)⟩ ∈ v) :
      Failure s call p (u ++ ⟨.chain (.send call o), .ok tx⟩ :: ⟨.giveNonce next, ()⟩ :: v) (.reverted (revertedText tx))
        { p with stuck := none }
  /-- the transaction was not mined in time, as far as the chain told -/
  | late {u v : List (Exchange WriterInterface)} {o : TransactionOptions} {tx : Hash} {next : Option UInt64}
      (late : Late s.confirmation tx v) :
      Failure s call p (u ++ ⟨.chain (.send call o), .ok tx⟩ :: ⟨.giveNonce next, ()⟩ :: v)
        (.timeout (Confirmation.lateText s.confirmation tx)) ⟨p.bumps + 1, some o.nonce⟩

theorem refused_append : Refused e (t ++ u) ↔ Refused e t ∨ Refused e u := by
  simp [Refused, or_and_right, exists_or]

theorem Mined.after (h : Mined call tx t) (u : List (Exchange WriterInterface)) : Mined call tx (u ++ t) := by
  obtain ⟨v, o, v', rfl, hm⟩ := h
  exact ⟨u ++ v, o, v', by simp, hm⟩

theorem Mined.append (h : Mined call tx t) (u : List (Exchange WriterInterface)) : Mined call tx (t ++ u) := by
  obtain ⟨v, o, v', rfl, hm⟩ := h
  exact ⟨v, o, v' ++ u, by simp, List.mem_append_left u hm⟩

/-- The failures that the signer makes up never count as done. -/
theorem Failure.refused_of_alreadyProcessed (h : Failure s call p t e p')
    (he : ErrorClass.ofError e = .alreadyProcessed) : Refused e t := by
  cases h with
  | nonce told => exact ⟨_, told, rfl⟩
  | price asked _ told => exact ⟨_, asked, told⟩
  | refused told => exact ⟨_, told, rfl⟩
  | reverted => exact absurd (he.symm.trans (ofError_revertedText _)) nofun
  | late => cases he

theorem unsent_of_choosing {r : WriterRequest} (h : r.IsChoosing) : r.isSend = false := by
  rcases r with (_ | _ | _ | _ | _ | _ | _ | _ | _) | _ | _ | _ | _ <;> first | exact h.elim | rfl

/-- The world that keeps the trace of a submission, whatever is asked. -/
abbrev recording : World WriterInterface (List (Exchange WriterInterface)) := .traced fun _ _ => True

theorem refused_last {x : Exchange WriterInterface} (h : refusal? x = some e) : Refused e (t ++ [x]) :=
  ⟨x, List.mem_append_right t List.mem_cons_self, h⟩

/-- A price that is not told is one that the chain refused to tell. -/
def Priced : Except ChainError GasPrice → List (Exchange WriterInterface) → Prop
  | .ok _, _ => True
  | .error e, t => Refused e t

theorem priced_legacyQuote {g : GasSettings} : g.legacyQuote.Keeps recording Priced t := by
  refine keeps_do.mpr (keeps_ask_traced.mpr ⟨trivial, fun price => ?_⟩)
  cases price with
  | error e => exact refused_last rfl
  | ok price => trivial

theorem priced_quote {g : GasSettings} {m : GasPricing} : (g.quote m).Keeps recording Priced t := by
  cases m with
  | static => exact priced_legacyQuote
  | london =>
      refine keeps_do.mpr (keeps_ask_traced.mpr ⟨trivial, fun baseFee => ?_⟩)
      rcases baseFee with e | _ | baseFee
      · exact refused_last rfl
      · exact priced_legacyQuote
      · refine keeps_do.mpr (keeps_ask_traced.mpr ⟨trivial, fun tip => ?_⟩)
        cases tip with
        | error e => exact refused_last rfl
        | ok tip => trivial

theorem told_of_chooseNonce {stuck next : Option UInt64} (hr : (chooseNonce stuck next).Runs t (done (.error e))) :
    ⟨.chain .pendingNonce, .error e⟩ ∈ t := by
  unfold chooseNonce at hr
  split at hr
  · obtain ⟨-, made⟩ := hr.of_done
    cases made
  · rw [hr.of_request]
    exact List.mem_singleton.mpr rfl

/-- Nonce and price are missing only if the chain does not tell them. -/
theorem told_of_choose {bumps : Nat} {stuck next : Option UInt64}
    (hr : (s.choose bumps stuck next).Runs t (done (.error e))) :
    ⟨.chain .pendingNonce, .error e⟩ ∈ t ∨ ∃ x ∈ t, x.request.IsPricing ∧ refusal? x = some e := by
  obtain ⟨e' | nonce, u, v, rfl, chosen, hv⟩ := hr.of_bind_done
  · obtain ⟨-, made⟩ := hv.of_done
    cases made
    exact .inl (List.mem_append_left v (told_of_chooseNonce chosen))
  · obtain ⟨e' | price, v, w, rfl, quoted, hw⟩ := hv.of_bind_done
    · obtain ⟨-, made⟩ := hw.of_done
      cases made
      obtain ⟨x, hx, told⟩ : Refused e v := priced_quote.done_traced quoted
      exact .inr ⟨x, by simp [hx], GasSettings.asks_quote.runs quoted x hx, told⟩
    · obtain ⟨-, made⟩ := hw.of_done
      cases made

theorem failure_of_broadcast (hr : (s.broadcast call p.bumps p.stuck).Runs t (done (.error e))) :
    Failure s call p t e p := by
  obtain ⟨next, _, u, rfl, taken, hu⟩ := hr.of_bind_done
  obtain ⟨e' | o, v, w, rfl, chosen, hw⟩ := hu.of_bind_done
  · obtain ⟨_, _, _, rfl, given, hd⟩ := hw.of_bind_done
    obtain ⟨rfl, made⟩ := hd.of_done
    cases made
    rw [taken.of_request, given.of_request]
    have unsent (x : Exchange WriterInterface)
        (hx : x ∈ [⟨.takeNonce, next⟩] ++ (v ++ ([⟨.giveNonce next, ()⟩] ++ []))) :
        x.request.isSend = false := by
      simp only [List.mem_append, List.mem_singleton, List.not_mem_nil, or_false] at hx
      rcases hx with rfl | hx | rfl
      · rfl
      · exact unsent_of_choosing (asks_choose.runs chosen x hx)
      · rfl
    rcases told_of_choose chosen with told | ⟨x, asked, pricing, told⟩
    · exact .nonce (by simp [told]) unsent
    · exact .price (x := x) (by simp [asked]) pricing told unsent
  · obtain ⟨e' | tx, _, w, rfl, sent, hd⟩ := hw.of_bind_done
    all_goals
      obtain ⟨_, _, _, rfl, -, hd⟩ := hd.of_bind_done
      obtain ⟨rfl, made⟩ := hd.of_done
      cases made
    rw [sent.of_request]
    exact .refused (o := o) (by simp)

theorem accepted_of_broadcast {bumps : Nat} {stuck : Option UInt64} {nonce : UInt64}
    (hr : (s.broadcast call bumps stuck).Runs t (done (.ok (tx, nonce)))) :
    ∃ u o next, t = u ++ [⟨.chain (.send call o), .ok tx⟩, ⟨.giveNonce next, ()⟩] ∧ o.nonce = nonce := by
  obtain ⟨next, taking, u, rfl, -, hu⟩ := hr.of_bind_done
  obtain ⟨e | o, v, w, rfl, -, hw⟩ := hu.of_bind_done
  · obtain ⟨_, _, _, rfl, -, hd⟩ := hw.of_bind_done
    obtain ⟨-, made⟩ := hd.of_done
    cases made
  · obtain ⟨e | tx, _, w, rfl, sent, hd⟩ := hw.of_bind_done
    all_goals
      obtain ⟨⟨⟩, _, _, rfl, given, hd⟩ := hd.of_bind_done
      obtain ⟨rfl, made⟩ := hd.of_done
      cases made
    rw [sent.of_request, given.of_request]
    exact ⟨taking ++ v, o, some (nextNonce next o.nonce), by simp, rfl⟩

/-- How the wait for a receipt ends, as its trace shows. -/
def Awaited (c : Confirmation) (tx : Hash) : Except ChainError Bool → List (Exchange WriterInterface) → Prop
  | .ok success, t => ⟨.chain (.receipt tx), .ok (some success)⟩ ∈ t
  | .error e, t => Late c tx t ∧ e = .timeout (Confirmation.lateText c tx)

theorem shows_awaitReceipt {c : Confirmation} : (awaitReceipt c tx).Keeps recording (Awaited c tx) [] := by
  refine keeps_do.mpr (keeps_ask_traced.mpr ⟨trivial, fun start => ?_⟩)
  -- the looks before a round found no receipt
  refine Keeps.iterate (fun _ t => (∃ u, t = ⟨.host .now, start⟩ :: u) ∧
    ∀ success, ⟨.chain (.receipt tx), .ok (some success)⟩ ∉ t) ⟨⟨[], rfl⟩, by simp⟩ ?_
  rintro _ _ ⟨⟨u, rfl⟩, missed⟩
  refine keeps_do.mpr (keeps_ask_traced.mpr ⟨trivial, fun receipt => ?_⟩)
  rcases receipt with e | _ | success
  case ok.some => exact List.mem_append_right _ (List.mem_singleton.mpr rfl)
  all_goals
    refine keeps_do.mpr (keeps_ask_traced.mpr ⟨trivial, fun now => keeps_done.mpr ?_⟩)
    split
    · next due =>
        refine ⟨⟨fun success => by simpa using missed success, start, u, _, now, by simp; rfl, due⟩, rfl⟩
    · refine keeps_do.mpr (keeps_ask_traced.mpr ⟨trivial, fun _ => ⟨⟨_, by simp; rfl⟩, fun success => ?_⟩⟩)
      simpa using missed success

/-- An attempt that succeeds gives back the hash of a mined transaction. -/
theorem mined_of_attempt (hr : (s.attempt call p).Runs t (done (.ok tx, p'))) : Mined call tx t := by
  obtain ⟨e | ⟨tx', nonce⟩, u, v, rfl, sent, hv⟩ := hr.of_bind_done
  · obtain ⟨-, made⟩ := hv.of_done
    cases made
  · obtain ⟨e | _ | _, v, w, rfl, awaited, hw⟩ := hv.of_bind_done
    all_goals
      obtain ⟨rfl, made⟩ := hw.of_done
      cases made
    have told : ⟨.chain (.receipt tx), .ok (some true)⟩ ∈ v := shows_awaitReceipt.done_traced awaited
    obtain ⟨u, o, next, rfl, -⟩ := accepted_of_broadcast sent
    exact ⟨u, o, ⟨.giveNonce next, ()⟩ :: v, by simp, List.mem_cons_of_mem _ told⟩

/-- An attempt that fails does so for a reason that its trace shows. -/
theorem failure_of_attempt (hr : (s.attempt call p).Runs t (done (.error e, p'))) : Failure s call p t e p' := by
  obtain ⟨e' | ⟨tx, nonce⟩, u, v, rfl, sent, hv⟩ := hr.of_bind_done
  · obtain ⟨rfl, made⟩ := hv.of_done
    cases made
    exact (List.append_nil u).symm ▸ failure_of_broadcast sent
  · obtain ⟨u, o, next, rfl, rfl⟩ := accepted_of_broadcast sent
    obtain ⟨x, v, w, rfl, awaited, hw⟩ := hv.of_bind_done
    have shown : Awaited s.confirmation tx x v := shows_awaitReceipt.done_traced awaited
    rcases x with e | _ | _
    case ok.true =>
      obtain ⟨-, made⟩ := hw.of_done
      cases made
    all_goals
      obtain ⟨rfl, made⟩ := hw.of_done
      cases made
      rw [List.append_nil, List.append_assoc]
    · obtain ⟨late, rfl⟩ := shown
      exact .late late
    · exact .reverted shown

/-! ## Submissions -/

theorem alreadyProcessed_of_next (h : (r.fail e).next = .ok .alreadyProcessed) :
    ErrorClass.ofError e = .alreadyProcessed := by
  cases ha : r.policy.allows (r.attempt + 1) <;> cases hd : r.policy.backoff r.attempt <;>
    cases hb : r.policy.backoff 0 <;> cases hc : ErrorClass.ofError e <;>
    simp_all [RetryRecord.next, RetryRecord.fail, Except.map]

/-- What a submission makes of its last attempt. -/
inductive Concludes : Except ChainError Hash → Except TransactionError Submission → Prop where
  | confirmed (tx : Hash) : Concludes (.ok tx) (.ok (.confirmed tx))
  | processed {e : ChainError} (h : ErrorClass.ofError e = .alreadyProcessed) :
      Concludes (.error e) (.ok .alreadyProcessed)
  | surrendered (e : ChainError) (failure : TransactionError) : Concludes (.error e) (.error failure)

/-- The trace of a submission ends with an attempt that decides it. -/
def Decided (s : Signer) (call : BridgeCall) (a : Except TransactionError Submission)
    (t : List (Exchange WriterInterface)) : Prop :=
  ∃ p x u v, t = u ++ v ∧ (s.attempt call p).Runs v (done x) ∧ Concludes x.1 a

theorem Decided.after {a : Except TransactionError Submission} (h : s.Decided call a t)
    (u : List (Exchange WriterInterface)) : s.Decided call a (u ++ t) := by
  obtain ⟨p, x, v, w, rfl, attempted, hc⟩ := h
  exact ⟨p, x, u ++ v, w, by simp, attempted, hc⟩

theorem decided_submitFrom {r : RetryRecord} {p : Pending} {t : List (Exchange WriterInterface)}
    {a : Except TransactionError Submission} (hr : (s.submitFrom call r p).Runs t (done a)) :
    s.Decided call a t := by
  rw [submitFrom] at hr
  obtain ⟨⟨e | tx, p'⟩, u, v, rfl, attempted, hv⟩ := hr.of_bind_done
  · have last {a' : Except TransactionError Submission} (hv : (done a').Runs v (done a))
        (hc : Concludes (.error e) a') : s.Decided call a (u ++ v) := by
      obtain ⟨rfl, ha⟩ := hv.of_done
      cases ha
      exact ⟨p, _, [], u, by simp, attempted, hc⟩
    dsimp only at hv
    split at hv
    case h_1 =>
      obtain ⟨absurd, -⟩ := hv.of_bind_done
      exact nomatch absurd
    case h_2 hn => exact last hv (.processed (alreadyProcessed_of_next hn))
    case h_3 => exact last hv (.surrendered e _)
    case h_4 =>
      obtain ⟨_, v, v', rfl, -, hv⟩ := hv.of_bind_done
      exact ((decided_submitFrom hv).after v).after u
    case h_5 =>
      obtain ⟨_, v, v', rfl, -, hv⟩ := hv.of_bind_done
      obtain ⟨_, v', v'', rfl, -, hv⟩ := hv.of_bind_done
      exact (((decided_submitFrom hv).after v').after v).after u
    case h_6 =>
      obtain ⟨_, v, v', rfl, -, hv⟩ := hv.of_bind_done
      exact ((decided_submitFrom hv).after v).after u
  · obtain ⟨rfl, ha⟩ := hv.of_done
    cases ha
    exact ⟨p, _, [], u, by simp, attempted, .confirmed tx⟩
termination_by r.policy.maxAttempts - r.attempt
decreasing_by all_goals exact RetryRecord.left_fail_lt (by assumption) rfl

/-- A confirmed call was mined with success. -/
theorem mined_of_confirmed (hr : (s.submit call).Runs t (done (.ok (.confirmed tx)))) : Mined call tx t := by
  obtain ⟨p, ⟨_, p'⟩, u, v, rfl, attempted, hc⟩ := decided_submitFrom hr
  cases hc
  exact (mined_of_attempt attempted).after u

/-- What counts as done already was answered so by the chain. -/
theorem refused_of_alreadyProcessed (hr : (s.submit call).Runs t (done (.ok .alreadyProcessed))) :
    ∃ e, Refused e t ∧ ErrorClass.ofError e = .alreadyProcessed := by
  obtain ⟨p, ⟨_, p'⟩, u, v, rfl, attempted, hc⟩ := decided_submitFrom hr
  obtain _ | @⟨e, he⟩ := hc
  exact ⟨e, refused_append.mpr (.inr ((failure_of_attempt attempted).refused_of_alreadyProcessed he)), he⟩

end Signer

end BridgeRelay
