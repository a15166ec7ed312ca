import BridgeRelay.Proofs.Config.Addresses
import BridgeRelay.Proofs.Listener.Handovers
import Mathlib.Data.List.Dedup

/-!
# Kinds of configured handlers

Handlers are known by their addresses. A handler whose address is spelled by the texts of several kinds, in whatever case,
has only the last of these kinds, and the listener reads its deposits under that one.
-/

namespace BridgeRelay

open Program

variable {a : Address} {text : String} {c : Config} {chain : ChainConfig} {hs : Handlers} {t : TransferType}

/-! ## Addresses of handlers -/

namespace Handlers

/-- The handlers that are known. -/
def addresses (hs : Handlers) : List Address := hs.entries.map Prod.fst

theorem nodup_insert (h : hs.addresses.Nodup) : (hs.insert a t).addresses.Nodup := by
  have kept : ((hs.entries.filter fun entry => entry.1 ≠ a).map Prod.fst).Nodup :=
    h.sublist (List.filter_sublist.map Prod.fst)
  rw [addresses, insert, List.map_append, List.nodup_append']
  refine ⟨kept, List.nodup_singleton a, List.disjoint_singleton.mpr fun among => ?_⟩
  obtain ⟨entry, among, same⟩ := List.mem_map.mp among
  exact of_decide_eq_true (List.mem_filter.mp among).2 same

theorem mem_addresses : a ∈ hs.addresses ↔ (hs.find? a).isSome := by
  rw [← not_iff_not, Bool.not_eq_true, Option.isSome_eq_false_iff, Option.isNone_iff_eq_none, find?,
    List.lookup_eq_none_iff]
  simp only [addresses, List.mem_map, not_exists, not_and, bne_iff_ne]
  exact forall₂_congr fun _ _ => ne_comm

end Handlers

namespace ChainConfig

theorem nodup_addresses_foldlM {entries : List (TransferType × String)} {known : Handlers}
    (distinct : known.addresses.Nodup) (h : entries.foldlM chain.addHandler known = .ok hs) : hs.addresses.Nodup := by
  induction entries generalizing known with
  | nil =>
      cases h
      exact distinct
  | cons entry entries ih =>
      rw [List.foldlM_cons] at h
      obtain ⟨next, added, rest⟩ := Except.bind_eq_ok.mp h
      unfold addHandler at added
      split at added
      · cases added
        exact ih (Handlers.nodup_insert distinct) rest
      · cases added

/-! ## Handlers apart -/

/-- No two texts of handlers that are set spell one address. -/
def HandlersApart (c : ChainConfig) : Prop :=
  ∀ t t' text text' a, c.handlerText? t = some text → c.handlerText? t' = some text' →
    Address.SpelledBy a text → Address.SpelledBy a text' → t = t'

/-- Each text of a handler that is set gives its own kind of transfer to the address that it spells. -/
def KeepsKinds (c : ChainConfig) (hs : Handlers) : Prop :=
  ∀ t text a, c.handlerText? t = some text → Address.SpelledBy a text → hs.find? a = some t

theorem LastSpells.mem {entries : List (TransferType × String)} (h : LastSpells entries a t) :
    ∃ text, (t, text) ∈ entries ∧ a.SpelledBy text := by
  obtain ⟨before, text, after, rfl, spelled, -⟩ := h
  exact ⟨text, by simp, spelled⟩

theorem keepsKinds_iff (found : ∀ a t, hs.find? a = some t ↔ LastSpells chain.handlerTexts a t) :
    chain.KeepsKinds hs ↔ chain.HandlersApart := by
  constructor
  · intro keeps t t' text text' a set set' spelled spelled'
    exact Option.some.inj ((keeps t text a set spelled).symm.trans (keeps t' text' a set' spelled'))
  · intro apart t text a set spelled
    obtain ⟨t', last⟩ := exists_lastSpells.mpr ⟨t, text, mem_handlerTexts.mpr set, spelled⟩
    obtain ⟨text', among, spelled'⟩ := last.mem
    rw [found, apart t t' text text' a set (mem_handlerTexts.mp among) spelled spelled']
    exact last

theorem nodup_handlerTexts : chain.handlerTexts.Nodup := by
  have kinds : (chain.handlerTexts.map Prod.fst).Nodup := by
    unfold handlerTexts
    cases chain.fungibleHandler <;> cases chain.nonFungibleHandler <;> cases chain.genericHandler <;> simp
  exact kinds.of_map

/-- A list without repetition that has the values of a map is as long as its domain if the map is injective there. -/
theorem length_eq_iff {entries : List (TransferType × String)} {f : TransferType × String → Address}
    (distinct : hs.addresses.Nodup) (same : ∀ a, a ∈ hs.addresses ↔ a ∈ entries.map f) :
    hs.entries.length = entries.length ↔ (entries.map f).Nodup := by
  have perm : hs.addresses.Perm (entries.map f).dedup :=
    (List.perm_ext_iff_of_nodup distinct (List.nodup_dedup _)).mpr fun a => by rw [same, List.mem_dedup]
  have length : hs.entries.length = (entries.map f).dedup.length := by
    rw [← perm.length_eq, Handlers.addresses, List.length_map]
  rw [length, ← List.length_map f, ← List.dedup_eq_self]
  exact ⟨fun full => (List.dedup_sublist _).eq_of_length full, fun whole => by rw [whole]⟩

/-- There are as many handlers as texts if no two of these spell one address. -/
theorem length_entries_iff (sound : Config.Sound chain) (distinct : hs.addresses.Nodup)
    (found : ∀ a t, hs.find? a = some t ↔ LastSpells chain.handlerTexts a t) :
    hs.entries.length = chain.handlerTexts.length ↔ chain.HandlersApart := by
  choose! address spelled using fun entry (h : entry ∈ chain.handlerTexts) => sound.exists_handler h
  have same : ∀ a, a ∈ hs.addresses ↔ a ∈ chain.handlerTexts.map address := by
    intro a
    simp only [Handlers.mem_addresses, Option.isSome_iff_exists, found, exists_lastSpells, List.mem_map]
    constructor
    · rintro ⟨t, text, among, spells⟩
      exact ⟨(t, text), among, (spelled _ among).unique spells⟩
    · rintro ⟨⟨t, text⟩, among, rfl⟩
      exact ⟨t, text, among, spelled _ among⟩
  rw [length_eq_iff distinct same]
  constructor
  · intro nodup t t' text text' a set set' spells spells'
    have first := mem_handlerTexts.mpr set
    have second := mem_handlerTexts.mpr set'
    have one : address (t, text) = address (t', text') :=
      ((spelled _ first).unique spells).trans ((spelled _ second).unique spells').symm
    exact congrArg Prod.fst (List.inj_on_of_nodup_map nodup first second one)
  · intro apart
    refine nodup_handlerTexts.map_on fun ⟨t, text⟩ first ⟨t', text'⟩ second one => ?_
    have set := mem_handlerTexts.mp first
    have set' := mem_handlerTexts.mp second
    cases apart t t' text text' _ set set' (spelled _ first) (one ▸ spelled _ second)
    rw [Option.some.inj (set.symm.trans set')]

/-! ## Deposits -/

/-- A message carries the data of a deposit that the chain told, read as the last text says that spells the address of the
deposit's handler. If no two texts spell one address, no other text spells it. -/
def ReadAsLastSpelled (c : ChainConfig) (l : Listener) (t : Listener.Trace) (m : Message) : Prop :=
  ∃ log d handler kind p, Listener.Told log t ∧ Deposit.ofLog log = .ok d ∧
    ⟨.chain (.handler d.resource), .ok handler⟩ ∈ t ∧ LastSpells c.handlerTexts handler kind ∧
    (c.HandlersApart → ∀ kind' text, c.handlerText? kind' = some text → handler.SpelledBy text → kind' = kind) ∧
    Payload.decode kind d.data = .ok p ∧ m = l.message log d p

theorem readAsLastSpelled {l : Listener} {m : Message} {t : Listener.Trace} {destination : DomainId}
    (found : ∀ a t, l.handlers.find? a = some t ↔ LastSpells chain.handlerTexts a t) (owed : l.Owed t destination m) :
    chain.ReadAsLastSpelled l t m := by
  obtain ⟨told, deposit, looked, configured, read⟩ := owed
  have last := (found _ _).mp configured
  refine ⟨_, _, _, _, _, told, deposit, looked, last, fun apart kind' text set spelled => ?_, read, rfl⟩
  obtain ⟨text', among, spelled'⟩ := last.mem
  exact apart _ _ _ _ _ set (mem_handlerTexts.mp among) spelled spelled'

end ChainConfig

namespace Config

open ChainConfig

/-- The handlers of an accepted chain have the kinds of the last texts that spell their addresses. So each text keeps its
own kind, and there are as many handlers as texts, exactly if no two texts spell one address; and the listener hands over
each deposit as the last text says that spells its handler. -/
theorem handlers_keep_kinds_iff_apart (accepted : c.validate = .ok ()) (among : chain ∈ c.chains) :
    ∃ hs, chain.handlers = .ok hs ∧ (∀ a t, hs.find? a = some t ↔ LastSpells chain.handlerTexts a t) ∧
      (chain.KeepsKinds hs ↔ chain.HandlersApart) ∧
      (hs.entries.length = chain.handlerTexts.length ↔ chain.HandlersApart) ∧
      ∀ backoff l, chain.listener backoff = .ok l → ∀ t x u q destination m,
        l.run.Runs (t ++ x :: u) q → x.request = .route destination m → chain.ReadAsLastSpelled l t m := by
  have sound := (validate_eq_ok_iff.mp accepted).1 chain among
  obtain ⟨hs, read, found⟩ := sound.handlers_spelled
  have none : ({} : Handlers).addresses.Nodup := List.nodup_nil
  have distinct := nodup_addresses_foldlM none read
  refine ⟨hs, read, found, keepsKinds_iff found, length_entries_iff sound distinct found, ?_⟩
  intro backoff l listens t x u q destination m run handed
  rw [listener, read] at listens
  cases listens
  exact readAsLastSpelled found (Listener.owed_of_runs run handed)

theorem goerli_keeps_kinds : mixedCase.validate = .ok () ∧ goerli ∈ mixedCase.chains ∧
    ∃ hs, goerli.handlers = .ok hs ∧ hs.entries.length = goerli.handlerTexts.length ∧ goerli.KeepsKinds hs := by
  have accepted : mixedCase.validate = .ok () := validate_eq_ok.mpr (by decide +kernel)
  have among : goerli ∈ mixedCase.chains := List.mem_cons_self
  obtain ⟨hs, read, -, keeps, length, -⟩ := handlers_keep_kinds_iff_apart accepted among
  have full : goerli.handlers.toOption.map (·.entries.length) = some goerli.handlerTexts.length := by decide +kernel
  rw [read] at full
  have full : hs.entries.length = goerli.handlerTexts.length := Option.some.inj full
  exact ⟨accepted, among, hs, read, full, keeps.mpr (length.mp full)⟩

/-- A chain whose handler for fungible transfers is also its handler for single tokens, in other case. -/
def sharedHandler : ChainConfig where
  name := "c"
  domain := 1
  rpcUrl := "http://x"
  bridgeAddress := "0x62877dDCd49aD22f5eDfc6ac108e9a4b5D2bD88B"
  fungibleHandler := some "0x3167776db165D8eA0f51790CA2bbf44Db5105ADF"
  nonFungibleHandler := some "0x3167776db165d8ea0f51790ca2bbf44db5105adf"

/-- Its settings are accepted, the handler loses the first of its kinds, and what it emits for a fungible transfer is read
as a single token. -/
theorem sharedHandler_loses_kind :
    validate { chains := [sharedHandler]
               privateKey := "0x1111111111111111111111111111111111111111111111111111111111111111" } = .ok () ∧
    ∃ hs text a, sharedHandler.handlers = .ok hs ∧ sharedHandler.handlerText? .fungible = some text ∧
      Address.SpelledBy a text ∧ hs.find? a = some .nonFungible ∧
      hs.entries.length = 1 ∧ sharedHandler.handlerTexts.length = 2 ∧
      Payload.decode .nonFungible (Payload.fungible 1000 [7]).layout = .ok (.nonFungible 1000 [7] []) := by
  have read : sharedHandler.handlers.toOption =
      some ⟨[(.ofNat 20 0x3167776db165D8eA0f51790CA2bbf44Db5105ADF, .nonFungible)]⟩ := by decide +kernel
  have spelled : Address.SpelledBy (.ofNat 20 0x3167776db165D8eA0f51790CA2bbf44Db5105ADF)
      "0x3167776db165D8eA0f51790CA2bbf44Db5105ADF" :=
    ⟨"3167776db165D8eA0f51790CA2bbf44Db5105ADF".toList, by decide +kernel, by decide +kernel⟩
  exact ⟨validate_eq_ok.mpr (by decide +kernel), _, _, _, Except.toOption_eq_some.mp read, rfl, spelled,
    List.lookup_cons_self, rfl, rfl, rfl⟩

end Config

end BridgeRelay
