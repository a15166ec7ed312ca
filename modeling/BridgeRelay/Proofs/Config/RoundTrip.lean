import BridgeRelay.Proofs.Config.Names
import BridgeRelay.Proofs.Config.Validation
import BridgeRelay.Proofs.Steps

/-!
# Settings from their own variables

Each reader takes the text that a value of its type is written as. So a source of variables that agrees with the table of
settings gives them back, chain by chain.
-/

namespace BridgeRelay

open Text

theorem Wei.ofNat_toNat (a : Wei) : Wei.ofNat a.toNat = a := Wei.ext (Nat.min_eq_left a.le_bound)

namespace Config

variable {c : Config} {chain : ChainConfig} {chains : List ChainConfig} {vars : Lookup} {key text : String} {i : Nat}

/-! ## Values -/

namespace Reader

variable {α : Type} {reader : Reader α} {a : α}

/-- The reader gives a value for its text. -/
def Takes (reader : Reader α) (text : String) (a : α) : Prop := reader (trim text.toList) = .ok a

theorem takes_nat {n bound : Nat} (h : n ≤ bound) : (nat bound).Takes (toString n) n := by
  rw [Takes, (solid_toString n).trim_eq, nat, readNat_toString h]
  rfl

/-- A number of a bounded type is read back if the type gives it back. -/
theorem takes_map {n bound : Nat} {f : Nat → α} (h : n ≤ bound) (same : f n = a) :
    Takes (fun cs => (nat bound cs).map f) (toString n) a := by
  have number : nat bound (trim (toString n).toList) = .ok n := takes_nat h
  rw [Takes, number, ← same]
  rfl

theorem takes_uint8 (n : UInt8) : uint8.Takes (toString n.toNat) n :=
  takes_map (Nat.le_pred_of_lt n.toNat_lt) UInt8.ofNat_toNat

theorem takes_uint16 (n : UInt16) : uint16.Takes (toString n.toNat) n :=
  takes_map (Nat.le_pred_of_lt n.toNat_lt) UInt16.ofNat_toNat

theorem takes_uint32 (n : UInt32) : uint32.Takes (toString n.toNat) n :=
  takes_map (Nat.le_pred_of_lt n.toNat_lt) UInt32.ofNat_toNat

theorem takes_uint64 (n : UInt64) : uint64.Takes (toString n.toNat) n :=
  takes_map (Nat.le_pred_of_lt n.toNat_lt) UInt64.ofNat_toNat

theorem takes_wei (n : Wei) : wei.Takes (toString n.toNat) n := takes_map n.le_bound n.ofNat_toNat

theorem takes_binary64 {x : Binary64} (h : Binary64.ofText x.text.toList = .ok x) : binary64.Takes x.text x := by
  rw [Takes, x.solid_text.trim_eq, binary64, h]
  rfl

theorem takes_bool (b : Bool) : bool.Takes (flagWord b) b := by
  cases b <;> rfl

theorem takes_gasPricing (g : GasPricing) : gasPricing.Takes (pricingWord g) g := by
  cases g <;> rfl

end Reader

/-! ## Variables -/

section

variable {α : Type} {reader : Reader α} {a d : α}

theorem get_eq_ok (h : vars key = some text) : get vars key = .ok text := by
  rw [get, h]

theorem read?_of_none (h : vars key = none) : read? vars reader key = .ok none := by
  rw [read?, h]

theorem read?_of_some (h : vars key = some text) (takes : reader.Takes text a) :
    read? vars reader key = .ok (some a) := by
  rw [Reader.Takes] at takes
  simp only [read?, h, takes]

theorem readD_eq_ok (h : vars key = some text) (takes : reader.Takes text a) : readD vars reader key d = .ok a := by
  rw [readD, read?_of_some h takes]
  rfl

end

theorem filter_eq_self {α : Type} {o : Option α} {p : α → Bool} (h : ∀ a, o = some a → p a = true) : o.filter p = o := by
  cases o with
  | none => rfl
  | some a => exact Option.filter_some_pos (h a rfl)

/-! ## Chains -/

/-- What makes a chain's settings come back: no range of zero, which is read as no range, and a multiplier whose text
reads back. -/
structure Readable (chain : ChainConfig) : Prop where
  range : chain.maxRange ≠ some 0
  multiplier : Binary64.ofText chain.gasMultiplier.text.toList = .ok chain.gasMultiplier

theorem loadChain_of_describes (readable : Readable chain) (h : Describes vars (chainTable i chain)) :
    loadChain vars i = .ok chain := by
  simp only [Describes, chainTable, chainSettings, List.map_cons, List.map_nil, List.forall_mem_cons] at h
  obtain ⟨name, domain, rpcUrl, bridge, fungible, nonFungible, generic, startBlock, confirmations, maxGasPrice,
    gasMultiplier, gasLimit, pollMillis, gasPricing, freshStart, latestBlock, maxRange, watchLimit, -⟩ := h
  have range : read? vars .uint64 (chainKey i "MAX_BLOCK_RANGE") = .ok chain.maxRange := by
    cases set : chain.maxRange with
    | none => exact read?_of_none (maxRange.trans (by rw [set]; rfl))
    | some r => exact read?_of_some (maxRange.trans (by rw [set]; rfl)) (Reader.takes_uint64 r)
  have kept : chain.maxRange.filter (fun r => 0 < r) = chain.maxRange :=
    filter_eq_self fun r set => decide_eq_true <| UInt64.pos_iff_ne_zero.mpr fun zero =>
      readable.range (set.trans (congrArg some zero))
  simp only [loadChain, read?_of_some domain (Reader.takes_uint8 _), get_eq_ok rpcUrl, get_eq_ok bridge,
    readD_eq_ok startBlock (Reader.takes_uint64 _), readD_eq_ok confirmations (Reader.takes_uint64 _),
    readD_eq_ok maxGasPrice (Reader.takes_wei _), readD_eq_ok gasMultiplier (Reader.takes_binary64 readable.multiplier),
    readD_eq_ok gasLimit (Reader.takes_uint64 _), readD_eq_ok pollMillis (Reader.takes_uint64 _),
    readD_eq_ok gasPricing (Reader.takes_gasPricing _), readD_eq_ok freshStart (Reader.takes_bool _),
    readD_eq_ok latestBlock (Reader.takes_bool _), range, readD_eq_ok watchLimit (Reader.takes_uint32 _)]
  simp [bind, Except.bind, pure, Except.pure, name, fungible, nonFungible, generic, kept]

theorem loadChains_of_describes (readable : ∀ chain ∈ chains, Readable chain) (h : Describes vars (chainsTable i chains)) :
    loadChains vars i chains.length = .ok chains := by
  induction chains generalizing i with
  | nil => rfl
  | cons chain chains ih =>
      rw [List.forall_mem_cons] at readable
      obtain ⟨first, rest⟩ := List.forall_mem_append.mp h
      rw [List.length_cons, loadChains, loadChain_of_describes readable.1 first]
      simp only [ih readable.2 rest]
      rfl

/-! ## All settings -/

theorem load_of_describes (accepted : c.validate = .ok ()) (nonempty : c.chains ≠ [])
    (readable : ∀ chain ∈ c.chains, Readable chain) (url : c.databaseUrl ≠ some "") (h : Describes vars c.table) :
    load vars = .ok c := by
  obtain ⟨count, h⟩ := List.forall_mem_cons.mp h
  obtain ⟨ofChains, common⟩ := List.forall_mem_append.mp h
  simp only [commonTable, List.forall_mem_cons] at common
  obtain ⟨privateKey, databaseUrl, apiPort, retryAttempts, -⟩ := common
  -- The number of chains is read up to a bound, which it keeps as each chain has a domain of its own.
  have fits : c.chains.length ≤ UInt64.size - 1 := Nat.le_trans (length_chains_le accepted) (by decide)
  have some_chain : c.chains.length ≠ 0 := mt List.length_eq_zero_iff.mp nonempty
  have kept : c.databaseUrl.filter (fun s => !s.isEmpty) = c.databaseUrl :=
    filter_eq_self fun s set => by
      have visible : s ≠ "" := fun blank => url (set.trans (congrArg some blank))
      simpa using visible
  simp only [load, readD_eq_ok count (Reader.takes_nat fits), get_eq_ok privateKey,
    readD_eq_ok apiPort (Reader.takes_uint16 _), readD_eq_ok retryAttempts (Reader.takes_uint32 _), databaseUrl, kept]
  simp [bind, Except.bind, pure, Except.pure, some_chain, loadChains_of_describes readable ofChains, accepted]

/-- Settings that are accepted come back from their own variables, and these name each variable once. Ranges of zero and
an empty place for checkpoints are read as unset, so settings have none; multipliers are taken to read back from their
text. -/
theorem load_toVariables (accepted : c.validate = .ok ()) (nonempty : c.chains ≠ [])
    (ranges : ∀ chain ∈ c.chains, chain.maxRange ≠ some 0) (url : c.databaseUrl ≠ some "")
    (multipliers : ∀ chain ∈ c.chains, Binary64.ofText chain.gasMultiplier.text.toList = .ok chain.gasMultiplier) :
    (c.toVariables.map Prod.fst).Nodup ∧ load c.toVariables.get? = .ok c :=
  have readable := fun chain h => ⟨ranges chain h, multipliers chain h⟩
  ⟨c.nodup_toVariables, load_of_describes accepted nonempty readable url c.describes_table⟩

/-- Settings of eleven chains, so that one number begins as another does, with hardly anything as it is by default. -/
def elevenChains : Config where
  chains := (List.range 11).map fun n =>
    { name := s!"net {n}", domain := UInt8.ofNat (n + 1), rpcUrl := s!"http://node-{n}"
      bridgeAddress := "0x000000000000000000000000000000000000b41d"
      fungibleHandler := if n % 2 = 0 then some "0x00000000000000000000000000000000000000E2" else none
      nonFungibleHandler := some "0x0000000000000000000000000000000000000721", genericHandler := none
      startBlock := UInt64.ofNat (1000 * n), confirmations := 3, maxGasPrice := 7, gasMultiplier := 5 / 4
      gasLimit := 90000, pollMillis := 250, gasPricing := .london, freshStart := true, latestBlock := n % 3 = 0
      maxRange := if n % 2 = 1 then some 500 else none, watchLimit := 9 }
  privateKey := "0x0000000000000000000000000000000000000000000000000000000000000001"
  databaseUrl := some "postgres://relay"
  apiPort := 8080
  retryAttempts := 2

theorem load_elevenChains : (elevenChains.toVariables.map Prod.fst).Nodup ∧
    load elevenChains.toVariables.get? = .ok elevenChains := by
  have multiplier : Binary64.ofText (5 / 4 : Binary64).text.toList = .ok (5 / 4) :=
    Except.toOption_eq_some.mp (by decide +kernel)
  have accepted : elevenChains.fault? = none := by decide +kernel
  exact load_toVariables (validate_eq_ok.mpr accepted) (by decide +kernel) (by decide +kernel) (by decide)
    (List.forall_mem_map.mpr fun _ _ => multiplier)

end Config

end BridgeRelay
