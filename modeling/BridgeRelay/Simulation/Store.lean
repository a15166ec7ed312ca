import BridgeRelay.Checkpoint

/-!
# A store that fails on request
-/

namespace BridgeRelay.Simulation

/-- A store in memory with the failures of the next loads and saves. An entry without a failure lets the store
answer. -/
structure FaultyStore where
  memory : MemoryStore := {}
  loads : List (Option StoreError) := []
  saves : List (Option StoreError) := []

namespace FaultyStore

/-- The store, closed. -/
def close (s : FaultyStore) : FaultyStore := { s with memory := { s.memory with closed := true } }

/-- The answer to a request. -/
def answer (s : FaultyStore) : (r : StoreRequest) → r.Answer × FaultyStore
  | .load key =>
      let after := { s with loads := s.loads.tail }
      match s.loads.head?.join with
      | some e => (.error e, after)
      | none =>
          let (a, memory) := s.memory.answer (.load key)
          (a, { after with memory })
  | .save key value =>
      let after := { s with saves := s.saves.tail }
      match s.saves.head?.join with
      | some e => (.error e, after)
      | none =>
          let (a, memory) := s.memory.answer (.save key value)
          (a, { after with memory })

/-- Runs a program that asks nothing but the store. Its loops may go round `fuel` times. -/
def run {α : Type} : (fuel : Nat) → FaultyStore → Program StoreInterface α → Option α × FaultyStore
  | 0, s, _ => (none, s)
  | fuel + 1, s, p => match p.head with
    | .done a => (some a, s)
    | .silent p => run fuel s p
    | .ask r next =>
        let (a, s) := s.answer r
        run fuel s (next a)

end FaultyStore

end BridgeRelay.Simulation
