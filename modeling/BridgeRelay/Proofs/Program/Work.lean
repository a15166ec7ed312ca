import BridgeRelay.Proofs.Program.World
import Mathlib.Algebra.GroupWithZero.Nat

/-!
# Work of programs

What the requests of a program weigh in all. A bound holds of every run, whether or not the run comes to an end, and the
bounds of programs in a row add up.
-/

namespace BridgeRelay.Program

variable {I : Interface} {α β : Type} {weight : I.Request → Nat} {p : Program I α} {limit limit' : Nat}

/-- What the requests of a trace weigh in all. -/
def work (weight : I.Request → Nat) (t : List (Exchange I)) : Nat := (t.map fun x => weight x.request).sum

/-- Whatever the answers are, the requests of the program weigh no more. -/
def Costs (weight : I.Request → Nat) (p : Program I α) (limit : Nat) : Prop :=
  ∀ t q, p.Runs t q → work weight t ≤ limit

@[simp] theorem work_nil : work weight [] = 0 := rfl

@[simp] theorem work_cons (x : Exchange I) (t : List (Exchange I)) :
    work weight (x :: t) = weight x.request + work weight t := rfl

@[simp] theorem work_append (t u : List (Exchange I)) : work weight (t ++ u) = work weight t + work weight u := by
  simp [work]

/-- If a request weighs one or nothing, the work is the number of requests that weigh something. -/
theorem work_eq_countP {kind : I.Request → Bool} (h : ∀ r, weight r = (kind r).toNat) (t : List (Exchange I)) :
    work weight t = t.countP fun x => kind x.request := by
  induction t with
  | nil => rfl
  | cons x t ih =>
      rw [work_cons, ih, h, List.countP_cons]
      cases kind x.request <;> simp [Nat.add_comm]

theorem work_eq_mul {weight' : I.Request → Nat} {c : Nat} {t : List (Exchange I)}
    (h : ∀ x ∈ t, weight x.request = c * weight' x.request) : work weight t = c * work weight' t := by
  induction t with
  | nil => rfl
  | cons x t ih =>
      obtain ⟨first, rest⟩ := List.forall_mem_cons.mp h
      rw [work_cons, work_cons, first, ih rest, Nat.mul_add]

theorem Costs.mono (h : p.Costs weight limit) (hl : limit ≤ limit') : p.Costs weight limit' :=
  fun t q hr => Nat.le_trans (h t q hr) hl

theorem Costs.done (a : α) : (done a : Program I α).Costs weight limit := by
  intro t q hr
  rw [hr.of_done.1]
  exact Nat.zero_le limit

theorem Costs.bind {f : α → Program I β} (hp : p.Costs weight limit) (hf : ∀ a, (f a).Costs weight limit') :
    (p.bind f).Costs weight (limit + limit') := by
  intro t q hr
  rcases hr.of_bind with ⟨p', hr, -⟩ | ⟨a, u, v, hu, hv, rfl⟩
  · exact Nat.le_add_right_of_le (hp t p' hr)
  · rw [work_append]
    exact Nat.add_le_add (hp u _ hu) (hf a v q hv)

/-- What follows weighs nothing. -/
theorem Costs.bind_free {f : α → Program I β} (hp : p.Costs weight limit) (hf : ∀ a, (f a).Costs weight 0) :
    (p.bind f).Costs weight limit := Costs.bind hp hf

/-- Requests that weigh nothing are no work. -/
theorem Asks.costs (h : p.Asks fun r => weight r = 0) : p.Costs weight limit := by
  intro t q hr
  have none : work weight t = 0 := by
    rw [work, List.sum_eq_zero_iff_forall_eq_nat]
    simpa using h.runs hr
  omega

/-- What comes before weighs nothing. -/
theorem Asks.costs_bind {f : α → Program I β} (hp : p.Asks fun r => weight r = 0) (hf : ∀ a, (f a).Costs weight limit) :
    (p.bind f).Costs weight limit :=
  (Costs.bind hp.costs hf).mono (Nat.le_of_eq (Nat.zero_add limit))

theorem costs_ask (r : I.Request) : (ask r .done : Program I (I.Answer r)).Costs weight (weight r) := by
  intro t q hr
  cases hr with
  | stay => exact Nat.zero_le _
  | ask hp rest =>
      cases hp
      rw [work_cons, rest.of_done.1]
      exact Nat.le_refl _
  | silent hp _ => cases hp

end BridgeRelay.Program
