import BridgeRelay.Connection
import BridgeRelay.Proofs.Config.Validation
import BridgeRelay.Proofs.Entries
import BridgeRelay.Proofs.Hex
import BridgeRelay.Proofs.Steps
import BridgeRelay.Proofs.Text.Encoding

/-!
# Addresses of accepted settings

Validation looks at the bytes of an address text, and the relay reads the text later. Both know the same texts: `0x` and
the digits of 20 bytes, each in either case. So an accepted text is read, and as the address that it spells.
-/

namespace BridgeRelay

variable {a b : Address} {text : String} {c : Config} {chain : ChainConfig} {known : Handlers} {t : TransferType}

/-! ## Texts of addresses -/

namespace Address

/-- After `0x` a text has the digits of the address, each in either case. -/
def SpelledBy (a : Address) (text : String) : Prop :=
  ∃ digits : List Char, text = "0x" ++ String.ofList digits ∧ digits.map Char.toLower = Hex.digits a.toList

theorem SpelledBy.toList_toUTF8 (h : a.SpelledBy text) :
    ∃ cs : List Char, text.toUTF8.toList = 48 :: 120 :: cs.map Char.toUInt8 ∧ cs.map Char.toLower = Hex.digits a.toList := by
  obtain ⟨cs, rfl, spells⟩ := h
  have mark : ("0x" ++ String.ofList cs).toList = '0' :: 'x' :: cs := by simp
  have ascii : ∀ c ∈ ("0x" ++ String.ofList cs).toList, c.toNat < 128 := by
    rw [mark]
    intro c hc
    rcases List.mem_cons.mp hc with rfl | hc
    · decide
    rcases List.mem_cons.mp hc with rfl | hc
    · decide
    obtain ⟨v, low, digit⟩ := Hex.exists_digit_of_toLower spells hc
    exact Hex.ascii_of_toLower low digit
  refine ⟨cs, ?_, spells⟩
  rw [Text.toList_toUTF8_ascii ascii, mark]
  rfl

/-- A text that spells an address is read as that address. -/
theorem SpelledBy.ofText (h : a.SpelledBy text) : ofText text = .ok a := by
  obtain ⟨cs, bytes, spells⟩ := h.toList_toUTF8
  rw [Address.ofText, Hex.withoutAnyMark, bytes]
  exact Hex.decodeFixed_of_toLower spells

/-- A text spells at most one address. -/
theorem SpelledBy.unique (ha : a.SpelledBy text) (hb : b.SpelledBy text) : a = b :=
  Except.ok.inj (ha.ofText.symm.trans hb.ofText)

end Address

namespace Config

/-- Validation accepts exactly the texts that spell an address. -/
theorem isHexAddress_iff : isHexAddress text ↔ ∃ a : Address, a.SpelledBy text := by
  constructor
  · intro h
    unfold isHexAddress at h
    split at h
    · rename_i ds bytes
      obtain ⟨length, digits⟩ : ds.length = 40 ∧ ∀ b ∈ ds, (Hex.value? b).isSome := by simpa using h
      obtain ⟨bs, half, spells⟩ := Hex.exists_of_values (by omega) digits
      have ascii : ∀ b ∈ (48 :: 120 :: ds : Bytes), b.toNat < 128 := by
        simp only [List.forall_mem_cons]
        refine ⟨by decide, by decide, fun b hb => ?_⟩
        obtain ⟨v, hv⟩ := Option.isSome_iff_exists.mp (digits b hb)
        exact (Hex.value?_lt hv).2
      refine ⟨⟨bs, by omega⟩, ds.map fun b => Char.ofNat b.toNat, ?_, by rw [List.map_map]; exact spells⟩
      rw [(Text.toList_toUTF8_eq_iff ascii).mp bytes, Text.ofAscii, ← String.toList_inj]
      simp
    · contradiction
  · rintro ⟨a, spelled⟩
    obtain ⟨cs, bytes, spells⟩ := spelled.toList_toUTF8
    have length := Hex.length_of_toLower spells
    rw [a.length_eq] at length
    rw [isHexAddress, bytes]
    simp only [List.length_map, length, List.all_map, Bool.and_eq_true, decide_true, true_and, List.all_eq_true,
      Function.comp_apply]
    intro c hc
    obtain ⟨v, low, digit⟩ := Hex.exists_digit_of_toLower spells hc
    rw [Hex.value?_of_toLower low digit]
    rfl

end Config

/-! ## Handlers -/

theorem Handlers.find?_insert : (known.insert a t).find? b = if b = a then some t else known.find? b := by
  rw [Handlers.insert, Handlers.find?, List.lookup_append]
  split
  · next same =>
      subst same
      have gone : (known.entries.filter fun entry => entry.1 ≠ b).lookup b = none := by
        rw [List.lookup_eq_none_iff]
        intro entry kept
        exact bne_iff_ne.mpr (Ne.symm (of_decide_eq_true (List.mem_filter.mp kept).2))
      rw [gone, Option.none_or, List.lookup_cons_self]
  · next other =>
      rw [lookup_filter_ne other, List.lookup_cons, beq_eq_false_iff_ne.mpr other]
      exact Option.or_none

namespace ChainConfig

variable {entries : List (TransferType × String)}

/-- The text of the handler for a kind of transfer, if it is set. -/
def handlerText? (c : ChainConfig) : TransferType → Option String
  | .fungible => c.fungibleHandler
  | .nonFungible => c.nonFungibleHandler
  | .generic => c.genericHandler

theorem mem_handlerTexts : (t, text) ∈ chain.handlerTexts ↔ chain.handlerText? t = some text := by
  cases t <;> simp [handlerTexts, handlerText?]

/-- Of the texts that spell an address, the last one is that of a kind of transfer. -/
def LastSpells (entries : List (TransferType × String)) (a : Address) (t : TransferType) : Prop :=
  ∃ before text after, entries = before ++ (t, text) :: after ∧ a.SpelledBy text ∧
    ∀ entry ∈ after, ¬a.SpelledBy entry.2

theorem LastSpells.concat {entry : TransferType × String} :
    LastSpells (entries ++ [entry]) a t ↔
      a.SpelledBy entry.2 ∧ entry.1 = t ∨ ¬a.SpelledBy entry.2 ∧ LastSpells entries a t := by
  constructor
  · rintro ⟨before, text, after, split, spelled, last⟩
    rcases List.eq_nil_or_concat after with rfl | ⟨after, entry', rfl⟩
    · obtain ⟨-, same⟩ := List.append_inj' split rfl
      cases same
      exact .inl ⟨spelled, rfl⟩
    · rw [List.concat_eq_append, ← List.cons_append, ← List.append_assoc] at split
      obtain ⟨rfl, same⟩ := List.append_inj' split rfl
      cases same
      refine .inr ⟨last entry (by simp), before, text, after, rfl, spelled, fun e he => last e (by simp [he])⟩
  · rintro (⟨spelled, rfl⟩ | ⟨other, before, text, after, rfl, spelled, last⟩)
    · exact ⟨entries, entry.2, [], rfl, spelled, nofun⟩
    · refine ⟨before, text, after ++ [entry], by simp, spelled, ?_⟩
      simpa [or_imp, forall_and] using ⟨fun t text he => last (t, text) he, other⟩

theorem exists_lastSpells : (∃ t, LastSpells entries a t) ↔ ∃ t text, (t, text) ∈ entries ∧ a.SpelledBy text := by
  induction entries using List.reverseRecOn with
  | nil => simp [LastSpells]
  | append_singleton entries entry ih =>
      simp only [LastSpells.concat, exists_or, exists_and_left, ih, exists_eq', and_true, List.mem_append,
        List.mem_singleton]
      grind

/-- Texts that all spell addresses are read, and of two with one address the later one counts. -/
theorem exists_foldlM_addHandler (spelled : ∀ entry ∈ entries, ∃ a : Address, a.SpelledBy entry.2) :
    ∃ hs, entries.foldlM chain.addHandler {} = .ok hs ∧ ∀ a t, hs.find? a = some t ↔ LastSpells entries a t := by
  induction entries using List.reverseRecOn with
  | nil => exact ⟨{}, rfl, fun a t => by simp [Handlers.find?, LastSpells]⟩
  | append_singleton entries entry ih =>
      obtain ⟨before, folded, found⟩ := ih fun e he => spelled e (by simp [he])
      obtain ⟨a, here⟩ := spelled entry (by simp)
      refine ⟨before.insert a entry.1, ?_, fun b t => ?_⟩
      · simp [List.foldlM_append, folded, addHandler, here.ofText, bind, Except.bind, pure, Except.pure]
      · rw [Handlers.find?_insert, LastSpells.concat]
        split
        · next same => simp [same, here]
        · next other =>
            have elsewhere : ¬b.SpelledBy entry.2 := fun there => other (there.unique here)
            simp [elsewhere, found]

end ChainConfig

/-! ## Accepted settings -/

namespace Config

theorem Sound.bridge_spelled (sound : Sound chain) :
    ∃ a, chain.bridge = .ok a ∧ a.SpelledBy chain.bridgeAddress := by
  obtain ⟨a, spelled⟩ := isHexAddress_iff.mp sound.bridge
  exact ⟨a, by rw [ChainConfig.bridge, spelled.ofText]; rfl, spelled⟩

theorem Sound.exists_handler (sound : Sound chain) {entry : TransferType × String} (h : entry ∈ chain.handlerTexts) :
    ∃ a : Address, a.SpelledBy entry.2 :=
  isHexAddress_iff.mp (sound.handlers entry h)

theorem Sound.pollInterval_pos (sound : Sound chain) : 0 < chain.pollInterval.nanos := by
  have polls := sound.polls
  simp only [ne_eq, ← UInt64.toNat_inj] at polls
  simp only [ChainConfig.pollInterval, Duration.ofMillis]
  exact Nat.mul_pos (Nat.pos_of_ne_zero polls) (by decide)

theorem Sound.handlers_spelled (sound : Sound chain) :
    ∃ hs, chain.handlers = .ok hs ∧ ∀ a t, hs.find? a = some t ↔ ChainConfig.LastSpells chain.handlerTexts a t :=
  ChainConfig.exists_foldlM_addHandler fun _ => sound.exists_handler

/-- What is accepted is read later, each address text as the address that it spells, whatever the case of its digits. Each
chain has a domain of its own and looks at its node at intervals, and each operation has an attempt. -/
theorem accepted_is_read (accepted : c.validate = .ok ()) :
    (∀ chain ∈ c.chains,
      (∃ a, chain.bridge = .ok a ∧ a.SpelledBy chain.bridgeAddress) ∧
      (∃ hs, chain.handlers = .ok hs ∧
        (∀ a, (hs.find? a).isSome ↔ ∃ t text, chain.handlerText? t = some text ∧ a.SpelledBy text) ∧
        (∀ t text, chain.handlerText? t = some text → ∃ a : Address, a.SpelledBy text) ∧
        ∀ backoff, ∃ l, chain.listener backoff = .ok l ∧ l.handlers = hs ∧ l.domain = chain.domain ∧
          l.pollInterval = chain.pollInterval) ∧
      0 < chain.pollInterval.nanos) ∧
    (c.chains.map (·.domain)).Nodup ∧ 1 ≤ c.retryAttempts := by
  obtain ⟨sound, distinct, -, attempts⟩ := validate_eq_ok_iff.mp accepted
  refine ⟨fun chain among => ⟨(sound chain among).bridge_spelled, ?_, (sound chain among).pollInterval_pos⟩, distinct, ?_⟩
  · obtain ⟨hs, read, found⟩ := (sound chain among).handlers_spelled
    refine ⟨hs, read, fun a => ?_, fun t text set => ?_, fun backoff => ?_⟩
    · simp only [Option.isSome_iff_exists, found]
      simp only [ChainConfig.exists_lastSpells, ChainConfig.mem_handlerTexts]
    · exact (sound chain among).exists_handler (ChainConfig.mem_handlerTexts.mpr set)
    · rw [ChainConfig.listener, read]
      exact ⟨_, rfl, rfl, rfl, rfl⟩
  · rw [UInt32.le_iff_toNat_le]
    exact Nat.one_le_iff_ne_zero.mpr fun none => attempts (UInt32.toNat_inj.mp none)

/-- A chain whose addresses are in digits of either case. -/
def goerli : ChainConfig where
  name := "goerli"
  domain := 1
  rpcUrl := "http://localhost:8545"
  bridgeAddress := "0x62877dDCd49aD22f5eDfc6ac108e9a4b5D2bD88B"
  fungibleHandler := some "0x3167776db165D8eA0f51790CA2bbf44Db5105ADF"
  genericHandler := some "0xE1588E2C6A002AE93AEd325A910Ed30961874109"

/-- Settings of two chains that name one bridge in different case. -/
def mixedCase : Config where
  chains :=
    [goerli, { goerli with name := "sepolia", domain := 2, bridgeAddress := "0x62877ddcd49ad22f5edfc6ac108e9a4b5d2bd88b" }]
  privateKey := "0x0000000000000000000000000000000000000000000000000000000000000001"

theorem mixedCase_is_read : mixedCase.validate = .ok () ∧ ∀ chain ∈ mixedCase.chains,
    ∃ a, chain.bridge = .ok a ∧ a.SpelledBy chain.bridgeAddress := by
  have accepted : mixedCase.validate = .ok () := validate_eq_ok.mpr (by decide +kernel)
  exact ⟨accepted, fun chain among => ((accepted_is_read accepted).1 chain among).1⟩

/-- Once settings are accepted, no connection fails at an address. -/
theorem connect_ne_address (accepted : c.validate = .ok ()) (net : Network) (relayer : Address) (f : AddressFault) :
    c.connect net relayer ≠ .error (.address f) := by
  intro failed
  have each : ∀ chain ∈ c.chains, connectChain net c.retryPolicy relayer chain ≠ .error (.address f) := by
    intro chain among
    have sound := (validate_eq_ok_iff.mp accepted).1 chain among
    obtain ⟨a, bridge, -⟩ := sound.bridge_spelled
    obtain ⟨hs, handlers, -⟩ := sound.handlers_spelled
    rw [connectChain, bridge]
    cases net.connect chain.domain chain.rpcUrl with
    | error e => simp
    | ok id => simp [ChainConfig.relayChain, ChainConfig.listener, handlers, Except.map, Except.mapError]
  cases key : isSigningKey c.privateKey with
  | false => simp [connect, key, bind, Except.bind] at failed
  | true =>
      cases database : c.databaseUrl.mapM net.database with
      | error causes => simp [connect, key, database] at failed
      | ok _ =>
          cases walk : c.chains.mapM (connectChain net c.retryPolicy relayer) with
          | ok relay => simp [connect, key, database, walk, bind, Except.bind, pure, Except.pure] at failed
          | error e =>
              have same : e = .address f := by
                simpa [connect, key, database, walk, bind, Except.bind, pure, Except.pure] using failed
              obtain ⟨chain, among, failed⟩ := Except.exists_of_mapM_error walk
              exact each chain among (failed.trans (congrArg Except.error same))

end Config

end BridgeRelay
