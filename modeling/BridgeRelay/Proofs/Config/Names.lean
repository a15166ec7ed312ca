import BridgeRelay.Config.Variables
import BridgeRelay.Proofs.Text.Numeral
import Mathlib.Data.List.Nodup

/-!
# Names of variables

Settings written as a table of all their names, with nothing for a name that stays unset. No name stands twice: the
number of a chain ends at the first underscore behind it, and no other name begins as those of chains do. So each name
has in the variables the value that the table gives it.
-/

namespace BridgeRelay.Config

variable {c : Config} {chain : ChainConfig} {chains : List ChainConfig} {i j : Nat} {s t key : String}

/-! ## Tables -/

/-- Names with the values they are set to. -/
abbrev Table := List (String × Option String)

namespace Table

variable {table : Table} {value : Option String}

def names (table : Table) : List String := table.map Prod.fst

/-- The names that are set, with their values. -/
def entries (table : Table) : Variables := table.flatMap fun e => optional e.1 e.2

@[simp] theorem names_append (table table' : Table) : names (table ++ table') = table.names ++ table'.names :=
  List.map_append

theorem entries_append (table table' : Table) : entries (table ++ table') = table.entries ++ table'.entries :=
  List.flatMap_append

theorem names_entries (table : Table) : (table.entries.map Prod.fst).Sublist table.names := by
  induction table with
  | nil => exact .slnil
  | cons e table ih =>
      obtain ⟨key, value⟩ := e
      cases value with
      | none => exact ih.cons key
      | some text => exact ih.cons_cons key

theorem get?_entries_of_not_mem (h : key ∉ table.names) : table.entries.get? key = none := by
  refine List.lookup_eq_none_iff.mpr fun e he => bne_iff_ne.mpr ?_
  rintro rfl
  exact h ((names_entries table).subset (List.mem_map_of_mem he))

/-- Where no name stands twice, each name has the value that stands beside it. -/
theorem get?_entries (once : table.names.Nodup) (h : (key, value) ∈ table) : table.entries.get? key = value := by
  induction table with
  | nil => cases h
  | cons e table ih =>
      obtain ⟨new, once⟩ := List.nodup_cons.mp once
      have split : entries (e :: table) = optional e.1 e.2 ++ entries table := rfl
      rw [Variables.get?, split, List.lookup_append]
      rcases List.mem_cons.mp h with rfl | later
      · have rest := get?_entries_of_not_mem new
        rw [Variables.get?] at rest
        cases value <;> simp [optional, rest]
      · have other : key ≠ e.1 := fun same => new (same ▸ List.mem_map_of_mem later)
        have first : (optional e.1 e.2).lookup key = none := by
          cases e.2 <;> simp [optional, other]
        rw [first, Option.none_or]
        exact ih once later

end Table

/-! ## Names of chains -/

theorem toList_chainKey (i : Nat) (s : String) :
    (chainKey i s).toList = "CHAIN_".toList ++ (Nat.toDigits 10 i ++ '_' :: s.toList) := by
  simp [chainKey, Nat.toList_repr, toString]

theorem takeWhile_number (i : Nat) (cs : List Char) :
    (Nat.toDigits 10 i ++ '_' :: cs).takeWhile Char.isDigit = Nat.toDigits 10 i := by
  rw [List.takeWhile_append_of_pos Text.isDigit_of_mem_toDigits]
  simp

/-- The number and the last part of a name can be read off. -/
theorem chainKey_inj : chainKey i s = chainKey j t ↔ i = j ∧ s = t := by
  constructor
  · intro h
    -- The digits of the number end at the underscore, so they can be told from what follows.
    have tails := congrArg String.toList h
    rw [toList_chainKey, toList_chainKey, List.append_cancel_left_eq] at tails
    have digits := congrArg (List.takeWhile Char.isDigit) tails
    rw [takeWhile_number, takeWhile_number] at digits
    rw [digits, List.append_cancel_left_eq, List.cons.injEq] at tails
    exact ⟨Text.toDigits_inj.mp digits, String.toList_inj.mp tails.2⟩
  · rintro ⟨rfl, rfl⟩
    rfl

/-- No name that begins otherwise belongs to a chain. -/
theorem chainKey_ne (h : ¬ "CHAIN_".toList <+: key.toList) : chainKey i s ≠ key := by
  rintro rfl
  exact h (toList_chainKey i s ▸ List.prefix_append _ _)

/-! ## The table of all settings -/

/-- The settings of a chain, by the last parts of their names. -/
def chainSettings (c : ChainConfig) : Table :=
  [("NAME", some c.name), ("DOMAIN_ID", some (toString c.domain.toNat)), ("RPC_URL", some c.rpcUrl),
   ("BRIDGE_ADDRESS", some c.bridgeAddress), ("ERC20_HANDLER", c.fungibleHandler),
   ("ERC721_HANDLER", c.nonFungibleHandler), ("GENERIC_HANDLER", c.genericHandler),
   ("START_BLOCK", some (toString c.startBlock.toNat)),
   ("BLOCK_CONFIRMATIONS", some (toString c.confirmations.toNat)),
   ("MAX_GAS_PRICE", some (toString c.maxGasPrice.toNat)), ("GAS_MULTIPLIER", some c.gasMultiplier.text),
   ("GAS_LIMIT", some (toString c.gasLimit.toNat)), ("POLL_INTERVAL_MS", some (toString c.pollMillis.toNat)),
   ("GAS_PRICING", some (pricingWord c.gasPricing)), ("FRESH_START", some (flagWord c.freshStart)),
   ("LATEST_BLOCK", some (flagWord c.latestBlock)), ("MAX_BLOCK_RANGE", c.maxRange.map fun r => toString r.toNat),
   ("EXECUTE_WATCH_LIMIT", some (toString c.watchLimit.toNat))]

/-- The settings of chain number `i`. -/
def chainTable (i : Nat) (c : ChainConfig) : Table := (chainSettings c).map fun e => (chainKey i e.1, e.2)

/-- The settings of chains from number `i` on. -/
def chainsTable (i : Nat) : List ChainConfig → Table
  | [] => []
  | c :: cs => chainTable i c ++ chainsTable (i + 1) cs

/-- The settings that belong to no chain, the number of chains apart. -/
def commonTable (c : Config) : Table :=
  [("RELAYER_PRIVATE_KEY", some c.privateKey), ("DATABASE_URL", c.databaseUrl),
   ("API_PORT", some (toString c.apiPort.toNat)), ("RETRY_ATTEMPTS", some (toString c.retryAttempts.toNat))]

/-- All settings, in the order of their variables. -/
def table (c : Config) : Table :=
  ("CHAINS_COUNT", some (toString c.chains.length)) :: (chainsTable 1 c.chains ++ c.commonTable)

/-! ## Variables of a table -/

theorem chainVariables_eq (i : Nat) (chain : ChainConfig) :
    chainVariables i chain = (chainTable i chain).entries := by
  simp [chainVariables, chainTable, chainSettings, Table.entries, optional]

theorem chainsVariables_eq (i : Nat) (chains : List ChainConfig) :
    chainsVariables i chains = (chainsTable i chains).entries := by
  induction chains generalizing i with
  | nil => rfl
  | cons chain chains ih => rw [chainsVariables, chainVariables_eq, ih, chainsTable, Table.entries_append]

theorem toVariables_eq (c : Config) : c.toVariables = c.table.entries := by
  simp [toVariables, chainsVariables_eq, table, commonTable, Table.entries, optional]

/-! ## No name stands twice -/

theorem names_chainTable : (chainTable i chain).names = (chainSettings chain).names.map (chainKey i) := by
  simp [chainTable, Table.names, Function.comp_def]

theorem nodup_chainSettings : (chainSettings chain).names.Nodup := by
  simp [chainSettings, Table.names]

theorem nodup_chainTable : (chainTable i chain).names.Nodup :=
  names_chainTable ▸ nodup_chainSettings.map fun _ _ h => (chainKey_inj.mp h).2

theorem eq_chainKey_of_mem (h : key ∈ (chainsTable i chains).names) : ∃ j s, i ≤ j ∧ key = chainKey j s := by
  induction chains generalizing i with
  | nil => cases h
  | cons chain chains ih =>
      rw [chainsTable, Table.names_append, List.mem_append, names_chainTable] at h
      rcases h with first | later
      · obtain ⟨s, -, rfl⟩ := List.mem_map.mp first
        exact ⟨i, s, Nat.le_refl i, rfl⟩
      · obtain ⟨j, s, after, rfl⟩ := ih later
        exact ⟨j, s, Nat.le_of_succ_le after, rfl⟩

theorem nodup_chainsTable : (chainsTable i chains).names.Nodup := by
  induction chains generalizing i with
  | nil => exact .nil
  | cons chain chains ih =>
      rw [chainsTable, Table.names_append]
      refine nodup_chainTable.append ih fun key first later => ?_
      rw [names_chainTable] at first
      obtain ⟨s, -, rfl⟩ := List.mem_map.mp first
      obtain ⟨j, t, after, same⟩ := eq_chainKey_of_mem later
      exact absurd (chainKey_inj.mp same).1 (Nat.ne_of_lt after)

/-- The names that belong to no chain. -/
def commonNames : List String := ["CHAINS_COUNT", "RELAYER_PRIVATE_KEY", "DATABASE_URL", "API_PORT", "RETRY_ATTEMPTS"]

theorem nodup_commonNames : commonNames.Nodup := by decide +kernel

theorem not_prefix_of_mem_commonNames : ∀ key ∈ commonNames, ¬ "CHAIN_".toList <+: key.toList := by decide +kernel

theorem names_table (c : Config) : c.table.names.Perm ((chainsTable 1 c.chains).names ++ commonNames) := by
  have names : c.table.names = "CHAINS_COUNT" :: ((chainsTable 1 c.chains).names ++ commonNames.tail) := by
    simp [table, commonTable, commonNames, Table.names]
  rw [names]
  exact List.perm_middle.symm

theorem nodup_table (c : Config) : c.table.names.Nodup := by
  refine c.names_table.nodup_iff.mpr (nodup_chainsTable.append nodup_commonNames fun key ofChain common => ?_)
  obtain ⟨j, s, -, rfl⟩ := eq_chainKey_of_mem ofChain
  exact chainKey_ne (not_prefix_of_mem_commonNames _ common) rfl

/-- The variables of settings name each variable once. -/
theorem nodup_toVariables (c : Config) : (c.toVariables.map Prod.fst).Nodup := by
  rw [toVariables_eq]
  exact c.nodup_table.sublist (Table.names_entries _)

/-- A source of variables agrees with a table: each name has its value, and a name without one is unset. -/
def Describes (vars : Lookup) (table : Table) : Prop := ∀ e ∈ table, vars e.1 = e.2

theorem describes_table (c : Config) : Describes c.toVariables.get? c.table := fun _ he =>
  toVariables_eq c ▸ Table.get?_entries c.nodup_table he

end BridgeRelay.Config
