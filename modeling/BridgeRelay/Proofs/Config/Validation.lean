import BridgeRelay.Config
import Mathlib.Data.Fintype.Card
import Mathlib.Data.List.Nodup

/-!
# Accepted settings

Settings are accepted if those of each chain are sound, the chains have distinct domains, and the rest is in order. So
there are at most as many chains as domains.
-/

namespace BridgeRelay.Config

variable {c : Config} {chain : ChainConfig} {chains : List ChainConfig} {taken : List DomainId}

/-- What is asked of the settings of a chain by themselves. -/
structure Sound (chain : ChainConfig) : Prop where
  url : chain.rpcUrl.isEmpty = false
  bridge : isHexAddress chain.bridgeAddress
  handlers : ∀ entry ∈ chain.handlerTexts, isHexAddress entry.2
  polls : chain.pollMillis ≠ 0
  multiplier : chain.gasMultiplier.isPositive

theorem validate_eq_ok : c.validate = .ok () ↔ c.fault? = none := by
  unfold validate
  cases c.fault? <;> simp

theorem chainFault?_eq_none : chainFault? taken chain = none ↔ Sound chain ∧ chain.domain ∉ taken := by
  constructor
  · intro faultless
    unfold chainFault? at faultless
    repeat' split at faultless
    all_goals try contradiction
    rename_i url bridge _ handlers polls multiplier free
    simp only [Bool.not_eq_true, Bool.not_eq_eq_eq_not, Bool.not_true, Bool.not_eq_false] at url bridge multiplier
    exact ⟨⟨url, bridge, by simpa using handlers, polls, multiplier⟩, free⟩
  · rintro ⟨sound, free⟩
    have handlers : chain.handlerTexts.find? (fun h => !isHexAddress h.2) = none := by simpa using sound.handlers
    simp [chainFault?, handlers, sound.url, sound.bridge, sound.polls, sound.multiplier, free]

/-- The domains that are taken stay distinct from chain to chain. -/
theorem chainsFault?_eq_none : chainsFault? taken chains = none ↔
    (∀ chain ∈ chains, Sound chain ∧ chain.domain ∉ taken) ∧ (chains.map (·.domain)).Nodup := by
  induction chains generalizing taken with
  | nil => simp [chainsFault?]
  | cons chain chains ih =>
      rw [chainsFault?, Option.or_eq_none_iff, chainFault?_eq_none, ih]
      simp only [List.mem_cons, not_or, List.map_cons, List.nodup_cons, List.mem_map]
      grind

theorem validate_eq_ok_iff : c.validate = .ok () ↔
    (∀ chain ∈ c.chains, Sound chain) ∧ (c.chains.map (·.domain)).Nodup ∧ isKeyShaped c.privateKey ∧
      c.retryAttempts ≠ 0 := by
  have chains : chainsFault? [] c.chains = none ↔
      (∀ chain ∈ c.chains, Sound chain) ∧ (c.chains.map (·.domain)).Nodup := by simp [chainsFault?_eq_none]
  rw [validate_eq_ok, fault?, ← and_assoc, ← chains]
  cases chainsFault? [] c.chains with
  | some f => simp
  | none => cases isKeyShaped c.privateKey <;> simp

theorem nodup_domains (accepted : c.validate = .ok ()) : (c.chains.map (·.domain)).Nodup :=
  (validate_eq_ok_iff.mp accepted).2.1

theorem length_chains_le (accepted : c.validate = .ok ()) : c.chains.length ≤ UInt8.size := by
  have distinct := (nodup_domains accepted).map fun _ _ => UInt8.toFin_inj.mp
  simpa using distinct.length_le_card

end BridgeRelay.Config
