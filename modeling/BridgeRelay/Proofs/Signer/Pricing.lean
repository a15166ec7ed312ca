import BridgeRelay.Connection
import BridgeRelay.Devnet.Sample
import BridgeRelay.Proofs.Program.Pool
import BridgeRelay.Proofs.Signer.Attempts
import BridgeRelay.Proofs.Steps

/-!
# Prices below a ceiling

Suggested prices and their bumps are cut at one ceiling. So no transaction offers more, whatever the node suggests, the
multiplier makes of it and the retries add to it.
-/

namespace BridgeRelay

open Program Destination

variable {m : Wei}

/-! ## Prices -/

@[simp] theorem Wei.clamp_le (a : Wei) : (a.clamp (some m)).toNat ≤ m.toNat := by
  simp only [Wei.clamp, Wei.toNat_least]
  omega

namespace GasPrice

/-- The price is at most the ceiling. A tip is at most the whole fee. -/
def Within (m : Wei) : GasPrice → Prop
  | .legacy price => price.toNat ≤ m.toNat
  | .feePair maxFee tip => maxFee.toNat ≤ m.toNat ∧ tip.toNat ≤ maxFee.toNat

instance (m : Wei) : DecidablePred (Within m)
  | .legacy price => inferInstanceAs (Decidable (price.toNat ≤ m.toNat))
  | .feePair maxFee tip => inferInstanceAs (Decidable (maxFee.toNat ≤ m.toNat ∧ tip.toNat ≤ maxFee.toNat))

theorem within_bumped (p : GasPrice) (percent : Nat) : (p.bumped percent (some m)).Within m := by
  cases p with
  | legacy price => exact Wei.clamp_le _
  | feePair maxFee tip => exact ⟨Wei.clamp_le _, by simp only [Wei.toNat_least]; omega⟩

theorem Within.bumpedTimes {p : GasPrice} (h : p.Within m) (times percent : Nat) :
    (p.bumpedTimes times percent (some m)).Within m := by
  induction times with
  | zero => exact h
  | succ times _ => exact within_bumped _ percent

end GasPrice

namespace GasSettings

variable {s : GasSettings}

theorem apply_le (h : s.ceiling = some m) (price : Wei) : (s.apply price).toNat ≤ m.toNat := by
  simp only [apply, h, Wei.clamp_le]

theorem within_feePair (h : s.ceiling = some m) (baseFee tip : Wei) : (s.feePair baseFee tip).Within m := by
  simp only [feePair, h]
  exact ⟨Wei.clamp_le _, by simp only [Wei.toNat_least]; omega⟩

theorem gives_legacyQuote (h : s.ceiling = some m) :
    s.legacyQuote.Gives fun quoted => ∀ price, quoted = .ok price → price.Within m := by
  refine keeps_ask_watch.mpr ⟨trivial, ?_⟩
  rintro (e | suggested)
  · exact nofun
  · rintro _ ⟨⟩
    exact apply_le h suggested

theorem gives_quote (h : s.ceiling = some m) (pricing : GasPricing) :
    (s.quote pricing).Gives fun quoted => ∀ price, quoted = .ok price → price.Within m := by
  cases pricing with
  | static => exact gives_legacyQuote h
  | london =>
      refine keeps_ask_watch.mpr ⟨trivial, ?_⟩
      rintro (e | _ | baseFee)
      · exact nofun
      · exact gives_legacyQuote h
      · refine keeps_ask_watch.mpr ⟨trivial, ?_⟩
        rintro (e | tip)
        · exact nofun
        · rintro _ ⟨⟩
          exact within_feePair h baseFee tip

end GasSettings

namespace Signer

variable {s : Signer} {call : BridgeCall}

/-- Suggested prices and bumps have one ceiling. -/
structure Capped (s : Signer) (m : Wei) : Prop where
  quoted : s.gas.ceiling = some m
  bumped : s.ceiling = some m

/-! ## Offers -/

/-- The options of the transactions that were offered so far, the latest first. -/
abbrev Offers := List TransactionOptions

/-- The offers after an exchange. -/
def noted (offers : Offers) (x : Exchange WriterInterface) : Offers :=
  match x.request with
  | .chain (.send _ o) => o :: offers
  | _ => offers

/-- The world that notes each offer and lets every answer pass. -/
def market : World WriterInterface Offers := .watch (fun _ _ => True) noted

/-- The same world while others make offers too. No offer is to exceed the ceiling. -/
def capped (m : Wei) : World WriterInterface Offers where
  drift _ _ := True
  permits _
    | .chain (.send _ o) => o.price.Within m
    | _ => True
  reply := market.reply

variable {offers : Offers}

theorem fair_capped {ι : Type} : Pool.Fair fun _ : ι => capped m where
  refl _ _ := trivial
  trans _ _ _ _ _ _ := trivial
  drift _ _ _ _ _ _ _ _ := trivial

theorem permits_capped {r : WriterRequest} (h : r.IsPricing ∨ r.IsWaiting) : (capped m).permits offers r := by
  rcases r with (_ | _ | _ | _ | _ | _ | _ | _ | _) | _ | _ | _ | _ | _
  case chain.send => simp [WriterRequest.IsPricing, WriterRequest.IsWaiting] at h
  all_goals trivial

theorem keeps_offerless {α : Type} {p : Program WriterInterface α}
    (h : p.Asks fun r : WriterRequest => r.IsPricing ∨ r.IsWaiting) : p.Keeps (capped m) (fun _ _ => True) offers :=
  h.keeps trivial (fun _ _ _ _ => trivial) (fun _ _ ok _ => permits_capped ok) fun _ _ _ _ _ _ => trivial

namespace Capped

theorem keeps_choose (h : s.Capped m) (bumps : Nat) (stuck next : Option UInt64) :
    (s.choose bumps stuck next).Keeps (capped m) (fun chosen _ => ∀ o, chosen = .ok o → o.price.Within m) offers := by
  have nonce : (chooseNonce stuck next).Keeps (capped m) (fun _ _ => True) offers := by
    unfold chooseNonce
    cases stuck.or next with
    | some nonce => trivial
    | none => exact fun _ _ => ⟨trivial, fun _ _ _ => trivial⟩
  refine keeps_do.mpr (nonce.mono ?_)
  rintro (e | nonce) offers _
  · exact nofun
  · have asked : (s.gas.quote s.pricing).Keeps (capped m) (fun _ _ => True) offers :=
      keeps_offerless (GasSettings.asks_quote.mono fun _ => .inl)
    refine keeps_do.mpr ((asked.and_gives (GasSettings.gives_quote h.quoted s.pricing)).mono ?_)
    rintro (e | price) _ ⟨-, within⟩
    · exact nofun
    · rintro _ ⟨⟩
      rw [h.bumped]
      exact (within price rfl).bumpedTimes ..

theorem keeps_broadcast (h : s.Capped m) (bumps : Nat) (stuck : Option UInt64) :
    (s.broadcast call bumps stuck).Keeps (capped m) (fun _ _ => True) offers := by
  refine keeps_do.mpr fun _ _ => ⟨trivial, fun next offers _ => ?_⟩
  refine keeps_do.mpr ((h.keeps_choose bumps stuck next).mono ?_)
  rintro (e | o) offers within
  · exact fun _ _ => ⟨trivial, fun _ _ _ => trivial⟩
  · refine fun _ _ => ⟨within o rfl, fun answer _ _ => ?_⟩
    cases answer <;> exact fun _ _ => ⟨trivial, fun _ _ _ => trivial⟩

/-- Whatever the retries add, an attempt offers no more than the ceiling. -/
theorem attempts (h : s.Capped m) (call : BridgeCall) :
    Attempts (capped m) s call (fun _ _ => True) (fun _ _ _ => True) fun _ => True where
  attempt p offers _ := by
    refine keeps_do.mpr ((h.keeps_broadcast p.bumps p.stuck).mono ?_)
    rintro (_ | ⟨tx, nonce⟩) offers _
    · trivial
    · refine keeps_do.mpr ((keeps_offerless (asks_awaitReceipt.mono fun _ => .inr)).mono ?_)
      rintro (e | _ | _) _ _ <;> trivial
  give_up _ _ _ _ := trivial
  abort _ _ _ _ _ := keeps_offerless (asks_require.mono fun _ => .inr)
  again _ _ _ _ _ := trivial
  forget _ _ _ _ _ := fun _ _ => ⟨trivial, fun _ _ _ _ _ => ⟨trivial, fun _ _ _ => trivial⟩⟩
  postpone _ _ _ _ _ := keeps_offerless (asks_postpone.mono fun _ => .inr)

/-- A submission offers no more than the ceiling. -/
theorem keeps_submit (h : s.Capped m) (call : BridgeCall) :
    (s.submit call).Keeps (capped m) (fun _ _ => True) offers := (h.attempts call).keeps_submitFrom trivial

end Capped

/-- One submission for each call, before the first offer. -/
def submitting {ι : Type} (s : Signer) (call : ι → BridgeCall) :
    Pool ι WriterInterface (Except TransactionError Submission) Offers := ⟨fun i => s.submit (call i), []⟩

end Signer

/-! ## Connected relays -/

/-- The signer of a chain. -/
def ChainConfig.signer (c : ChainConfig) (retry : RetryPolicy) : Signer :=
  { domain := c.domain, pricing := c.gasPricing, gas := c.gasSettings, gasLimit := c.gasLimit
    ceiling := some c.maxGasPrice, retry }

theorem ChainConfig.capped_signer (c : ChainConfig) (retry : RetryPolicy) : (c.signer retry).Capped c.maxGasPrice :=
  ⟨rfl, rfl⟩

namespace Config

theorem signer_of_connectChain {net : Network} {retry : RetryPolicy} {relayer : Address} {c : ChainConfig}
    {r : RelayChain} (h : connectChain net retry relayer c = .ok r) : r.writer.signer = c.signer retry := by
  unfold connectChain at h
  split at h
  · cases h
  · split at h
    · cases h
    · obtain ⟨l, -, rfl⟩ := Except.map_eq_ok.mp (Except.mapError_eq_ok.mp h)
      rfl

/-- Connecting gives each chain its signer. -/
theorem signers_of_connect {c : Config} {net : Network} {relayer : Address} {r : Relay}
    (h : c.connect net relayer = .ok r) :
    List.Forall₂ (fun chain place => place.writer.signer = chain.signer c.retryPolicy) c.chains r.chains := by
  unfold connect at h
  dsimp only at h
  split at h
  · obtain ⟨_, ⟨⟩, _⟩ := Except.bind_eq_ok.mp h
  · split at h
    · cases h
    · obtain ⟨places, hp, hr⟩ := Except.bind_eq_ok.mp h
      cases hr
      exact (Except.forall₂_of_mapM hp).imp fun _ _ => signer_of_connectChain

end Config

/-! ## Main statement -/

namespace Signer

variable {ι : Type} [DecidableEq ι]

theorem reaches_capped {P P' : Pool ι WriterInterface (Except TransactionError Submission) Offers}
    (h : Pool.Reaches (fun _ => market) P P') : Pool.Reaches (fun _ => capped m) P P' := by
  refine Relation.ReflTransGen.mono ?_ _ _ h
  intro _ _ step
  cases step with
  | silent i hp => exact .silent i hp
  | ask i hp reply => exact .ask i hp reply

theorem Capped.within_of_reaches {s : Signer} (h : s.Capped m) {call : ι → BridgeCall}
    {P : Pool ι WriterInterface (Except TransactionError Submission) Offers}
    (reached : Pool.Reaches (fun _ => market) (submitting s call) P) : ∀ o ∈ P.state, o.price.Within m := by
  have keeps : (submitting s call).Keeps fun _ => capped m := fun i => h.keeps_submit (call i)
  let inv (offers : Offers) : Prop := ∀ o ∈ offers, o.price.Within m
  have initial : inv (submitting s call).state := List.forall_mem_nil _
  refine (keeps.reaches fair_capped initial ?_ (reaches_capped reached)).2
  rintro _ offers ⟨r, answer⟩ _ permitted rfl within
  rcases r with (_ | _ | _ | _ | _ | _ | _ | _ | _) | _ | _ | _ | _ | _
  case chain.send => exact List.forall_mem_cons.mpr ⟨permitted, within⟩
  all_goals exact within

end Signer

/-- Each signer of a connected relay has one ceiling, that of its chain's settings. With one ceiling no submission ever
offers more, whatever the node answers and however submissions take turns. -/
theorem offers_stay_within :
    (∀ (c : Config) (net : Network) (relayer : Address) (r : Relay), c.connect net relayer = .ok r →
      List.Forall₂ (fun chain place => place.writer.signer.Capped chain.maxGasPrice) c.chains r.chains) ∧
    ∀ (s : Signer) (m : Wei), s.Capped m → ∀ (ι : Type) [DecidableEq ι] (call : ι → BridgeCall)
      (P : Pool ι WriterInterface (Except TransactionError Submission) Signer.Offers),
      Pool.Reaches (fun _ => Signer.market) (Signer.submitting s call) P → ∀ o ∈ P.state, o.price.Within m :=
  ⟨fun _ _ _ _ h => (Config.signers_of_connect h).imp fun _ _ hs => hs ▸ ChainConfig.capped_signer ..,
    fun _ _ h _ _ _ _ => h.within_of_reaches⟩

/-! ## A sample -/

/-- Settings of one chain with base fees and a low ceiling. -/
def Config.sample : Config where
  chains := [{ name := "goerli", domain := 1, rpcUrl := "http://localhost:8545"
               bridgeAddress := "0x62877dDCd49aD22f5eDfc6ac108e9a4b5D2bD88B", maxGasPrice := 120, gasPricing := .london }]
  privateKey := "0x1111111111111111111111111111111111111111111111111111111111111111"

/-- A network on which each node serves chain 1. -/
def Network.sample : Network := ⟨fun _ => .ok 1, fun _ => .ok ()⟩

/-- The signer of the one chain. -/
def Signer.sampleLondon : Signer := Config.sample.chains[0].signer Config.sample.retryPolicy

/-- Nonce and price of a transaction at a base fee of 100 with a suggested tip of 50. -/
def Signer.sampleOptions (bumps : Nat) : TransactionOptions :=
  ⟨0, 6721975, (sampleLondon.gas.feePair 100 50).bumpedTimes bumps sampleLondon.retry.bumpPercent sampleLondon.ceiling⟩

theorem Signer.runs_sampleLondon (call : BridgeCall) (bumps : Nat) {stuck : Option UInt64} (tx : Hash)
    (h : stuck.or (some 0) = some 0) : (sampleLondon.broadcast call bumps stuck).Runs
      [⟨.takeNonce, some 0⟩, ⟨.chain .baseFee, .ok (some 100)⟩, ⟨.chain .priorityFee, .ok 50⟩,
       ⟨.chain (.send call (sampleOptions bumps)), .ok tx⟩, ⟨.giveNonce (some 1), ()⟩] (done (.ok (tx, 0))) := by
  refine .ask rfl ?_
  simp only [done_bind, choose, chooseNonce, h]
  exact .ask rfl (.ask rfl (.ask rfl (.ask rfl .stay)))

theorem Signer.foldl_noted_waiting {t : List (Exchange WriterInterface)} (offers : Offers)
    (h : ∀ x ∈ t, x.request.IsWaiting) : t.foldl noted offers = offers := by
  induction t with
  | nil => rfl
  | cons x t ih =>
      obtain ⟨hx, ht⟩ := List.forall_mem_cons.mp h
      obtain ⟨r, answer⟩ := x
      rcases r with (_ | _ | _ | _ | _ | _ | _ | _ | _) | _ | _ | _ | _ | _
      case chain.send => exact hx.elim
      all_goals exact ih ht

/-- A transaction is not mined in time and is replaced at a higher price. -/
theorem Signer.runs_sampleReplaced (call : BridgeCall) : ∃ t q, (sampleLondon.submit call).Runs t q ∧
    t.foldl noted [] = [sampleOptions 1, sampleOptions 0] := by
  obtain ⟨d, hd⟩ := backoff_sample
  obtain ⟨u, late, waits⟩ := runs_attempt_late (p := {}) (runs_sampleLondon call 0 (.ofNat 32 1) rfl)
  obtain ⟨v, tried, waits'⟩ := runs_retryAfter (r := { policy := sampleLondon.retry }) (next_timeout _ (by decide) hd) late
  obtain ⟨q, again⟩ := runs_submitFrom_broadcast (p := ⟨1, some 0⟩) (runs_sampleLondon call 1 (.ofNat 32 2) rfl)
  refine ⟨_, q, tried.trans again, ?_⟩
  simp only [List.foldl_append, foldl_noted_waiting _ waits, foldl_noted_waiting _ waits']
  rfl

/-- In the sample the tip rises with the replacement, and the fee stays at the ceiling. -/
theorem sample_offers_stay_within : ∃ (r : Relay)
    (P : Pool Unit WriterInterface (Except TransactionError Submission) Signer.Offers),
    Config.sample.connect .sample (.ofNat 20 0) = .ok r ∧
    List.Forall₂ (fun chain place => place.writer.signer.Capped chain.maxGasPrice) Config.sample.chains r.chains ∧
    Pool.Reaches (fun _ => Signer.market) (Signer.submitting Signer.sampleLondon fun _ => .vote (Devnet.sampleProposal 7)) P ∧
    P.state.map (·.price) = [.feePair 120 24, .feePair 120 20] ∧ ∀ o ∈ P.state, o.price.Within 120 := by
  have connected : (Config.sample.connect .sample (.ofNat 20 0)).toOption.isSome = true := by decide +kernel
  have prices : [Signer.sampleOptions 1, Signer.sampleOptions 0].map (·.price) =
      [.feePair 120 24, .feePair 120 20] := by decide +kernel
  obtain ⟨r, hr⟩ := Option.isSome_iff_exists.mp connected
  obtain ⟨t, q, replaced, noted⟩ := Signer.runs_sampleReplaced (.vote (Devnet.sampleProposal 7))
  have along : Signer.market.alone.Along [] t (t.foldl Signer.noted []) := along_watch [] t
  have reached : Pool.Reaches (fun _ => Signer.market) _ _ := Pool.Reaches.of_runs (i := ())
    (P := Signer.submitting Signer.sampleLondon fun _ => .vote (Devnet.sampleProposal 7)) replaced rfl rfl along
  refine ⟨r, _, Except.toOption_eq_some.mp hr, ?_, reached, ?_, ?_⟩
  · exact offers_stay_within.1 _ _ _ _ (Except.toOption_eq_some.mp hr)
  · exact (congrArg (List.map (·.price)) noted).trans prices
  · exact offers_stay_within.2 Signer.sampleLondon 120 ⟨rfl, rfl⟩ _ _ _ reached

end BridgeRelay
