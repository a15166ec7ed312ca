import BridgeRelay.Proofs.Program.World
import BridgeRelay.Simulation.Stage
import Mathlib.Logic.Function.Basic

/-!
# Workers on the stage

How the stage answers a worker of a relay, and what that does to the part of the stage on which deliveries depend: the
nodes, the locks of the writers, the store and the stop flag.
-/

namespace BridgeRelay.Simulation

open Devnet (Node)
open Function

namespace Stage

/-- How a worker of a relay is answered. It may sleep for any time. -/
def Reply (w : Worker) (s : Stage) : Exchange RelayInterface → Stage → Prop
  | ⟨.host (.sleep _), _⟩, s' | ⟨.host (.pause _), _⟩, s' => ∃ now, s.now ≤ now ∧ s' = { s with now }
  | ⟨r, a⟩, s' => s.answer? w (.relay r) = some (a, s')

/-- The stage as one of the workers finds it. -/
def world (w : Worker) : World RelayInterface Stage where
  permits _ _ := True
  reply := Reply w

end Stage

/-- What deliveries depend on. -/
structure View where
  node : Nat → Node
  /-- who writes to a destination -/
  writing : Nat → Option Worker
  store : FaultyStore
  stopping : Bool

/-- What is seen of a stage. -/
def Stage.view (s : Stage) : View := ⟨s.node, fun k => (s.desk k).writing, s.store, s.stopping⟩

namespace View

variable {w : Worker} {s s' : Stage} {v v' : View} {k : Nat} {x : Exchange RelayInterface}

/-- What an answer does to a view. -/
def Step (w : Worker) (v : View) : Exchange RelayInterface → View → Prop
  | ⟨.source k q, a⟩, v' => a = ((v.node k).answerSource q).1 ∧
      v' = { v with node := update v.node k ((v.node k).answerSource q).2 }
  | ⟨.destination k q, a⟩, v' => a = ((v.node k).answerDestination q).1 ∧
      v' = { v with node := update v.node k ((v.node k).answerDestination q).2 }
  | ⟨.enter k, _⟩, v' => v.writing k = none ∧ v' = { v with writing := update v.writing k (some w) }
  | ⟨.leave k, _⟩, v' => v' = { v with writing := update v.writing k none }
  | ⟨.store r, a⟩, v' => a = (v.store.answer r).1 ∧ v' = { v with store := (v.store.answer r).2 }
  | ⟨.host .stopping, a⟩, v' => a = v.stopping ∧ v' = v
  | _, v' => v' = v

/-- Has nothing to do with a view. -/
def Quiet : RelayRequest → Prop
  | .source .. | .destination .. | .enter _ | .leave _ | .store _ | .host .stopping => False
  | _ => True

theorem Step.quiet (h : Step w v x v') (hx : Quiet x.request) : v' = v := by
  obtain ⟨r, a⟩ := x
  rcases r with (_ | _ | _ | _ | _ | _) | _ | _ | _ | _ | _ | _ | _ | _ | _ | _ | _
  case host.stopping | source | destination | enter | leave | store => exact hx.elim
  all_goals exact h

end View

namespace Stage

variable {w : Worker} {s s' : Stage} {k n : Nat} {x : Exchange RelayInterface}

/-- There are so many nodes and so many desks. -/
structure Sized (n : Nat) (s : Stage) : Prop where
  nodes : s.nodes.length = n
  desks : s.desks.length = n

/-- Belongs to one of so many chains, as far as it matters to a view. -/
def Placed (n : Nat) : RelayRequest → Prop
  | .source k _ | .destination k _ | .enter k | .leave k => k < n
  | _ => True

theorem node_set {m : Node} (h : k < s.nodes.length) :
    node { s with nodes := s.nodes.set k m } = update s.node k m := by
  funext k'
  by_cases hk : k' = k
  · subst hk
    simp [node, h]
  · simp [node, hk, Ne.symm hk]

theorem desk_setDesk_of_ne {d : Desk} {k' : Nat} (h : k' ≠ k) : (s.setDesk k d).desk k' = s.desk k' := by
  simp [desk, setDesk, Ne.symm h]

theorem desk_setDesk {d : Desk} (h : k < s.desks.length) : (s.setDesk k d).desk = update s.desk k d := by
  funext k'
  by_cases hk : k' = k
  · subst hk
    simp [desk, setDesk, h]
  · rw [desk_setDesk_of_ne hk, update_of_ne hk]

/-- A desk that is changed and not given to another writer looks the same. -/
theorem writing_setDesk {d : Desk} (h : d.writing = (s.desk k).writing) :
    (fun k' => ((s.setDesk k d).desk k').writing) = fun k' => (s.desk k').writing := by
  funext k'
  by_cases hk : k' = k
  · subst hk
    by_cases hl : k' < s.desks.length
    · rw [desk_setDesk hl, update_self, h]
    · rw [setDesk, List.set_eq_of_length_le (Nat.le_of_not_lt hl)]
  · rw [desk_setDesk_of_ne hk]

/-- Two stages that differ neither in what deliveries depend on nor in the rest of the desks. -/
structure Same (s s' : Stage) : Prop where
  nodes : s'.nodes = s.nodes
  desks : s'.desks = s.desks
  store : s'.store = s.store
  stopping : s'.stopping = s.stopping

theorem Same.sized (h : Same s s') (hs : s.Sized n) : s'.Sized n := ⟨h.nodes ▸ hs.nodes, h.desks ▸ hs.desks⟩

theorem Same.view (h : Same s s') : s'.view = s.view := by
  obtain ⟨nodes, desks, store, stopping⟩ := h
  unfold Stage.view node desk
  rw [nodes, desks, store, stopping]

/-- Concerns only the clock, the counters and the supervisor. -/
def Aside : RelayRequest → Prop
  | .host .stopping | .source .. | .destination .. | .takeNonce _ | .giveNonce .. | .enter _ | .leave _ | .store _ => False
  | _ => True

theorem Reply.same (h : Reply w s x s') (hx : Aside x.request) : Same s s' := by
  obtain ⟨r, a⟩ := x
  rcases r with (_ | d | d | _ | u | fault) | ⟨k, q⟩ | ⟨k, q⟩ | k | ⟨k, next⟩ | k | k | r | r | ⟨d, result⟩ | _ | _
  case host.sleep | host.pause =>
    obtain ⟨now, -, rfl⟩ := h
    exact ⟨rfl, rfl, rfl, rfl⟩
  case host.abort => exact a.elim
  case notice =>
    simp only [Reply, answer?, notice?] at h
    split at h
    · cases h
      exact ⟨rfl, rfl, rfl, rfl⟩
    · cases h
      exact ⟨rfl, rfl, rfl, rfl⟩
    · obtain ⟨-, h⟩ := Option.ite_none_right_eq_some.mp h
      cases h
      exact ⟨rfl, rfl, rfl, rfl⟩
  case leftover =>
    simp only [Reply, answer?] at h
    split at h <;> cases h <;> exact ⟨rfl, rfl, rfl, rfl⟩
  case host.now | host.record | report | exit =>
    cases h
    exact ⟨rfl, rfl, rfl, rfl⟩
  all_goals exact hx.elim

theorem Reply.sized (h : Reply w s x s') (hs : s.Sized n) : s'.Sized n := by
  by_cases hx : Aside x.request
  · exact (h.same hx).sized hs
  obtain ⟨nodes, desks⟩ := hs
  obtain ⟨r, a⟩ := x
  rcases r with (_ | d | d | _ | u | fault) | ⟨k, q⟩ | ⟨k, q⟩ | k | ⟨k, next⟩ | k | k | r | r | ⟨d, result⟩ | _ | _
  case host.stopping =>
    cases h
    exact ⟨nodes, desks⟩
  case source | destination =>
    cases h
    exact ⟨by simpa [saw] using nodes, desks⟩
  case giveNonce | leave =>
    cases h
    exact ⟨nodes, by simpa [setDesk] using desks⟩
  case takeNonce | enter =>
    obtain ⟨-, h⟩ := Option.ite_none_left_eq_some.mp h
    cases h
    exact ⟨nodes, by simpa [setDesk] using desks⟩
  case store =>
    cases h
    exact ⟨nodes, desks⟩
  all_goals exact absurd trivial hx

/-- The view after a change of a desk. -/
theorem view_setDesk {d : Desk} (h : k < s.desks.length) :
    (s.setDesk k d).view = { s.view with writing := update s.view.writing k d.writing } := by
  unfold view
  rw [desk_setDesk h]
  congr 1
  funext k'
  exact apply_update (fun _ d => Desk.writing d) ..

theorem Reply.step (h : Reply w s x s') (hs : s.Sized n) (hx : Placed n x.request) : View.Step w s.view x s'.view := by
  obtain ⟨nodes, desks⟩ := hs
  have placed {k : Nat} {m : Node} (h : k < n) :
      view { s with nodes := s.nodes.set k m } = { s.view with node := update s.view.node k m } := by
    unfold view
    rw [node_set (nodes ▸ h)]
    rfl
  obtain ⟨r, a⟩ := x
  rcases r with (_ | d | d | _ | u | fault) | ⟨k, q⟩ | ⟨k, q⟩ | k | ⟨k, next⟩ | k | k | r | r | ⟨d, result⟩ | _ | _
  case host.stopping =>
    cases h
    exact ⟨rfl, rfl⟩
  case source =>
    cases h
    exact ⟨rfl, placed hx⟩
  case destination =>
    cases h
    exact ⟨rfl, placed hx⟩
  case giveNonce =>
    cases h
    exact congrArg (View.mk _ · _ _) (writing_setDesk rfl)
  case takeNonce =>
    obtain ⟨-, h⟩ := Option.ite_none_left_eq_some.mp h
    cases h
    exact congrArg (View.mk _ · _ _) (writing_setDesk rfl)
  case enter =>
    obtain ⟨free, h⟩ := Option.ite_none_left_eq_some.mp h
    cases h
    exact ⟨by simpa [view] using free, view_setDesk (desks ▸ hx)⟩
  case leave =>
    cases h
    exact view_setDesk (desks ▸ hx)
  case store =>
    cases h
    exact ⟨rfl, rfl⟩
  all_goals exact (h.same trivial).view

end Stage

end BridgeRelay.Simulation
