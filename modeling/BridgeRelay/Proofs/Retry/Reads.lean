import BridgeRelay.Destination
import BridgeRelay.Proofs.Program.Progress
import BridgeRelay.Proofs.Retry.Delays
import BridgeRelay.Proofs.Steps
import BridgeRelay.Retry.Read
import Mathlib.Data.Nat.Find

/-!
# Calls of a repeated read

A repeated read is a row of calls with one delay between each and the next, and nothing else. The first call that settles
it is the last one: one that succeeds, one whose failure will not pass, or the last that the policy allows. What that call
gives back the read gives back.
-/

namespace BridgeRelay.RetryPolicy

open Program

variable {I : Interface} [Hosted I] {α : Type} {p : RetryPolicy} {op : Program I (Except ChainError α)}
  {t : List (Exchange I)} {x : Except ChainError α} {results : List (Except ChainError α)} {n : Nat}

/-! ## What settles -/

/-- No call follows call number `i`, counted from one, if it ends so. -/
def Settles (p : RetryPolicy) (i : Nat) : Except ChainError α → Prop
  | .ok _ => True
  | .error e => ErrorClass.ofError e ∉ [.transient, .unknown] ∨ p.maxAttempts ≤ i

/-- Of some results, the first of which is that of call number `n + 1`, the last one settles and no other does. -/
def SettledBy (p : RetryPolicy) (n : Nat) (results : List (Except ChainError α)) : Prop :=
  ∀ i x, results[i]? = some x → (p.Settles (n + i + 1) x ↔ i + 1 = results.length)

theorem settles_error {e : ChainError} {i : Nat} : p.Settles i (.error e : Except ChainError α) ↔
    (ErrorClass.ofError e).isPassing = false ∨ p.maxAttempts ≤ i := by
  cases h : ErrorClass.ofError e <;> simp [Settles, ErrorClass.isPassing, h]

theorem settledBy_singleton : p.SettledBy n [x] ↔ p.Settles (n + 1) x := by
  constructor
  · intro h
    exact (h 0 x rfl).mpr rfl
  · rintro h (_ | i) y hy
    · cases hy
      simpa using h
    · cases hy

theorem settledBy_cons (more : results ≠ []) :
    p.SettledBy n (x :: results) ↔ ¬ p.Settles (n + 1) x ∧ p.SettledBy (n + 1) results := by
  constructor
  · intro h
    refine ⟨fun settles => ?_, fun i y hy => ?_⟩
    · have : results = [] := by simpa using (h 0 x rfl).mp settles
      exact more this
    · have := h (i + 1) y hy
      rw [List.length_cons, Nat.succ_inj] at this
      rwa [Nat.add_right_comm n 1 i]
  · rintro ⟨unsettled, rest⟩ (_ | i) y hy
    · cases hy
      simpa [unsettled] using more
    · rw [List.length_cons, Nat.succ_inj, ← Nat.add_assoc n i 1, ← Nat.add_right_comm n 1 i]
      exact rest i y hy

/-- Of the results of ever more calls there is a first one that settles. -/
theorem exists_settledBy (p : RetryPolicy) (results : Nat → Except ChainError α) :
    ∃ k < max 1 p.maxAttempts, p.SettledBy 0 ((List.range (k + 1)).map results) := by
  classical
  have last : p.Settles (max 1 p.maxAttempts - 1 + 1) (results (max 1 p.maxAttempts - 1)) := by
    cases results (max 1 p.maxAttempts - 1) with
    | ok a => trivial
    | error e => exact .inr (by omega)
  have settling : ∃ k, p.Settles (k + 1) (results k) := ⟨_, last⟩
  have least := Nat.find_min' settling last
  refine ⟨Nat.find settling, by omega, fun i x hx => ?_⟩
  rw [List.getElem?_map, Option.map_eq_some_iff] at hx
  obtain ⟨j, hj, rfl⟩ := hx
  obtain ⟨hi, rfl⟩ := List.getElem?_eq_some_iff.mp hj
  simp only [List.length_range, List.getElem_range, List.length_map, Nat.zero_add, Nat.add_right_cancel_iff] at hi ⊢
  constructor
  · intro settles
    exact Nat.le_antisymm (Nat.lt_succ_iff.mp hi) (Nat.find_min' settling settles)
  · rintro rfl
    exact Nat.find_spec settling

/-! ## Calls -/

/-- The exchanges of some calls, of which `n` calls were made before, and of the delays between them. -/
inductive Calls (p : RetryPolicy) (op : Program I (Except ChainError α)) :
    Nat → List (Exchange I) → List (Except ChainError α) → Prop where
  | last {n : Nat} {t : List (Exchange I)} {x : Except ChainError α} (called : op.Runs t (done x)) :
      Calls p op n t [x]
  | more {n : Nat} {t s u : List (Exchange I)} {x : Except ChainError α} {d : Duration}
      {results : List (Except ChainError α)} (called : op.Runs t (done x)) (delay : p.backoff n = .ok d)
      (slept : (Host.sleep d : Program I Unit).Runs s (done ())) (rest : Calls p op (n + 1) u results) :
      Calls p op n (t ++ (s ++ u)) (x :: results)

theorem Calls.ne_nil (h : p.Calls op n t results) : results ≠ [] := by cases h <;> exact nofun

theorem sleep_of_backoff {d : Duration} (delay : p.backoff n = .ok d) : (p.sleep n : Program I Unit) = Host.sleep d := by
  change (Host.require (p.backoff n) : Program I Duration).bind Host.sleep = Host.sleep d
  rw [delay]
  rfl

theorem sleep_of_fault {fault : Duration.Fault} (undelayed : p.backoff n = .error fault) :
    (p.sleep n : Program I Unit) = (Hosted.host (.abort fault) : Program I Empty).bind fun e => nomatch e := by
  change (Host.require (p.backoff n) : Program I Duration).bind Host.sleep = _
  rw [undelayed]
  exact (bind_assoc _ _ _).trans (congrArg _ (funext fun e : Empty => nomatch e))

theorem backoff_of_runs (h : (p.sleep n : Program I Unit).Runs t (done ())) :
    ∃ d, p.backoff n = .ok d ∧ (Host.sleep d : Program I Unit).Runs t (done ()) := by
  cases delay : p.backoff n with
  | ok d =>
      rw [sleep_of_backoff delay] at h
      exact ⟨d, rfl, h⟩
  | error fault =>
      rw [sleep_of_fault delay] at h
      obtain ⟨absurd, -⟩ := h.of_bind_done
      exact nomatch absurd

/-- What runs to its end is a row of calls that the last one settles. -/
theorem calls_of_runs {left : Nat} (hl : left = p.maxAttempts - (n + 1))
    (h : (p.readFrom op n left).Runs t (done x)) :
    ∃ results, p.Calls op n t results ∧ results.getLast? = some x ∧ p.SettledBy n results := by
  induction left generalizing n t with
  | zero =>
      refine ⟨[x], .last h, rfl, settledBy_singleton.mpr ?_⟩
      cases x with
      | ok a => trivial
      | error e => exact .inr (by omega)
  | succ left ih =>
      obtain ⟨y, t, u, rfl, called, hu⟩ := h.of_bind_done
      have last (settles : p.Settles (n + 1) y) (hu : (done y).Runs u (done x)) :
          ∃ results, p.Calls op n (t ++ u) results ∧ results.getLast? = some x ∧ p.SettledBy n results := by
        obtain ⟨rfl, hx⟩ := hu.of_done
        cases hx
        exact ⟨[x], (List.append_nil t).symm ▸ .last called, rfl, settledBy_singleton.mpr settles⟩
      cases y with
      | ok a => exact last trivial hu
      | error e =>
          dsimp only at hu
          split at hu
          · rename_i passing
            obtain ⟨_, s, v, rfl, sleeps, hv⟩ := hu.of_bind_done
            obtain ⟨d, delay, slept⟩ := backoff_of_runs sleeps
            obtain ⟨results, rest, last, settled⟩ := ih (by omega) hv
            have unsettled : ¬ p.Settles (n + 1) (.error e : Except ChainError α) := by
              rw [settles_error]
              simp [passing]
              omega
            refine ⟨_ :: results, .more called delay slept rest, ?_, (settledBy_cons rest.ne_nil).mpr ⟨unsettled, settled⟩⟩
            rwa [List.getLast?_cons_of_ne_nil rest.ne_nil]
          · rename_i final
            exact last (settles_error.mpr (.inl (eq_false_of_ne_true final))) hu

theorem Calls.runs {left : Nat} (h : p.Calls op n t results) (hl : left = p.maxAttempts - (n + 1))
    (last : results.getLast? = some x) (settled : p.SettledBy n results) :
    (p.readFrom op n left).Runs t (done x) := by
  induction h generalizing left with
  | @last n t y called =>
      obtain rfl := Option.some.inj last
      have settles := settledBy_singleton.mp settled
      cases left with
      | zero => exact called
      | succ left =>
          refine List.append_nil t ▸ (called.bind _).trans ?_
          cases y with
          | ok a => exact .stay
          | error e =>
              have final : (ErrorClass.ofError e).isPassing = false :=
                (settles_error.mp settles).resolve_right (by omega)
              simp only [done_bind, final]
              exact .stay
  | @more n t s u y d results called delay slept rest ih =>
      obtain ⟨unsettled, behind⟩ := (settledBy_cons rest.ne_nil).mp settled
      rw [List.getLast?_cons_of_ne_nil rest.ne_nil] at last
      cases y with
      | ok a => exact absurd trivial unsettled
      | error e =>
          obtain ⟨passing, left'⟩ := not_or.mp (mt settles_error.mpr unsettled)
          obtain ⟨left, rfl⟩ : ∃ m, left = m + 1 := ⟨left - 1, by omega⟩
          refine (called.bind _).trans ?_
          simp only [done_bind, eq_true_of_ne_false passing, if_true]
          rw [sleep_of_backoff delay]
          exact (slept.bind _).trans (ih (by omega) last behind)

/-! ## Endings -/

/-- A world in which every call of the operation comes to a result, and every sleep to its end. -/
structure Answered {S : Type} (W : World I S) (op : Program I (Except ChainError α)) (inv : S → Prop) : Prop where
  call (s : S) : inv s → op.Ends W (fun _ s => inv s) s
  sleep (d : Duration) (s : S) : inv s → (Host.sleep d : Program I Unit).Ends W (fun _ s => inv s) s

/-- The program is at its end, or there is no delay to sleep after one of the calls, which ends the worker. -/
inductive Over (p : RetryPolicy) : Program I α → Prop where
  | done (a : α) : Over p (done a)
  | abort {n : Nat} {fault : Duration.Fault} (left : n + 1 < p.maxAttempts) (undelayed : p.backoff n = .error fault)
      (rest : Empty → Program I α) : Over p ((Hosted.host (.abort fault)).bind rest)

/-- A policy with delays has them all, so that the program is at its end. -/
theorem Over.exists_done {q : Program I α} (h : p.Over q) (delays : p.HasDelays) : ∃ a, q = .done a := by
  obtain a | ⟨left, undelayed, -⟩ := h
  · exact ⟨a, rfl⟩
  · obtain ⟨d, delay⟩ := backoff_ok delays (Nat.lt_of_succ_lt left)
    cases undelayed.symm.trans delay

variable {S : Type} {W : World I S} {inv : S → Prop} {s : S}

theorem Answered.attains_readFrom {left : Nat} (h : Answered W op inv) (hl : left = p.maxAttempts - (n + 1))
    (hi : inv s) : (p.readFrom op n left).Attains W (fun q s => p.Over q ∧ inv s) s := by
  induction left generalizing n s with
  | zero =>
      rw [readFrom, ← bind_done op]
      exact Ends.attains_bind ((h.call s hi).mono fun x s hi => .reached ⟨.done x, hi⟩)
  | succ left ih =>
      refine Ends.attains_bind ((h.call s hi).mono fun x s hi => ?_)
      cases x with
      | ok a => exact .reached ⟨.done _, hi⟩
      | error e =>
          dsimp only
          split
          · cases delay : p.backoff n with
            | error fault =>
                rw [sleep_of_fault delay]
                refine .reached ⟨?_, hi⟩
                change p.Over (Program.bind (Program.bind _ _) _)
                rw [bind_assoc]
                exact .abort (by omega) delay _
            | ok d =>
                rw [sleep_of_backoff delay]
                exact Ends.attains_bind ((h.sleep d s hi).mono fun _ s hi => ih (by omega) hi)
          · exact .reached ⟨.done _, hi⟩

/-- A policy with delays lets the read come to its end. -/
theorem Answered.ends_read (h : Answered W op inv) (delays : p.HasDelays) (hi : inv s) :
    (p.read op).Ends W (fun _ s => inv s) s := by
  refine (h.attains_readFrom (by omega) hi).ends ?_
  rintro _ s ⟨ended, hi⟩
  obtain ⟨a, rfl⟩ := ended.exists_done delays
  exact .done hi

/-! ## Main statement -/

/-- What a repeated read runs to its end are calls with the policy's delays between them, the last of which is the first
that settles, and it gives back what this one does. Among the results of ever more calls there is such a first one. The
read comes to its end whenever each call does, but for delays that are none. A policy that has delays has them all, and
with a multiplier that is not below zero only one whose own delay cannot be represented, such as a longest one of about
`2 ^ 64` seconds, has none. -/
theorem reads_until_settled (p : RetryPolicy) (op : Program I (Except ChainError α)) :
    (∀ t x, (p.read op).Runs t (done x) ↔
      ∃ results, p.Calls op 0 t results ∧ results.getLast? = some x ∧ p.SettledBy 0 results) ∧
    (∀ results : Nat → Except ChainError α,
      ∃ k < max 1 p.maxAttempts, p.SettledBy 0 ((List.range (k + 1)).map results)) ∧
    ∀ (S : Type) (W : World I S) (inv : S → Prop) (s : S), Answered W op inv → inv s →
      (p.read op).Attains W (fun q s => p.Over q ∧ inv s) s ∧
        (p.HasDelays → (p.read op).Ends W (fun _ s => inv s) s) := by
  refine ⟨fun t x => ⟨calls_of_runs (by omega), ?_⟩, p.exists_settledBy, fun S W inv s h hi => ?_⟩
  · rintro ⟨results, calls, last, settled⟩
    exact calls.runs (by omega) last settled
  · exact ⟨h.attains_readFrom (by omega) hi, fun delays => h.ends_read delays hi⟩

/-! ## A sample -/

/-- A node is out of reach, then answers with a failure of no known class, and then as it should. -/
def sampleResults : List (Except ChainError UInt64) :=
  [.error (.rpc "connection reset"), .error (.rpc "odd answer"), .ok 7]

/-- The nonce is asked for three times, with the first two delays of the usual policy between. -/
def sampleTrace : List (Exchange WriterInterface) :=
  [⟨.chain .pendingNonce, .error (.rpc "connection reset")⟩, ⟨.host (.sleep (.ofSeconds 2)), ()⟩,
   ⟨.chain .pendingNonce, .error (.rpc "odd answer")⟩, ⟨.host (.sleep (.ofSeconds 4)), ()⟩,
   ⟨.chain .pendingNonce, .ok (7 : UInt64)⟩]

theorem calls_sample : Calls {} (Destination.query .pendingNonce) 0 sampleTrace sampleResults := by
  have first : RetryPolicy.backoff {} 0 = .ok (.ofSeconds 2) := Except.toOption_eq_some.mp (by decide +kernel)
  have second : RetryPolicy.backoff {} 1 = .ok (.ofSeconds 4) := Except.toOption_eq_some.mp (by decide +kernel)
  have asked (a : Except ChainError UInt64) :
      (Destination.query .pendingNonce).Runs [⟨.chain .pendingNonce, a⟩] (done a) := .ask rfl .stay
  have slept (d : Duration) :
      (Host.sleep d : Program WriterInterface Unit).Runs [⟨.host (.sleep d), ()⟩] (done ()) := .ask rfl .stay
  exact .more (asked _) first (slept _) (.more (asked _) second (slept _) (.last (asked _)))

theorem settledBy_sample : SettledBy {} 0 sampleResults := by
  have unsettled (text : String) (i : Nat) (passing : (ErrorClass.ofText text).isPassing = true) (left : i < 5) :
      ¬ Settles {} i (.error (.rpc text) : Except ChainError UInt64) := by
    rw [settles_error]
    rintro (final | spent)
    · exact absurd (final.symm.trans passing) nofun
    · exact absurd spent (Nat.not_le.mpr left)
  refine (settledBy_cons (List.cons_ne_nil _ _)).mpr ⟨unsettled _ _ (by decide +kernel) (by decide), ?_⟩
  refine (settledBy_cons (List.cons_ne_nil _ _)).mpr ⟨unsettled _ _ (by decide +kernel) (by decide), ?_⟩
  exact settledBy_singleton.mpr trivial

theorem hasDelays_default : HasDelays {} where
  multiplier := .inl (Binary64.unsigned_ofNat 2)
  maximum := Duration.exists_ofBinary64_toSeconds (by decide)

/-- A world in which everything is answered. -/
abbrev sampleWorld : World WriterInterface Unit := .watch (fun _ _ => True) fun _ _ => ()

theorem answered_sample : Answered sampleWorld (Destination.query .pendingNonce) fun _ => True where
  call _ _ := .ask rfl (fun _ _ => ⟨.ok 0, _, rfl⟩) fun _ _ _ _ _ => .done trivial
  sleep _ _ _ := .ask rfl (fun _ _ => ⟨(), _, rfl⟩) fun _ _ _ _ _ => .done trivial

theorem sample_reads_until_settled :
    (RetryPolicy.read {} (Destination.query .pendingNonce)).Runs sampleTrace (done (.ok 7)) ∧
    HasDelays {} ∧ Answered sampleWorld (Destination.query .pendingNonce) (fun _ => True) ∧
    (RetryPolicy.read {} (Destination.query .pendingNonce)).Ends sampleWorld (fun _ _ => True) () := by
  obtain ⟨runs, -, ends⟩ := reads_until_settled {} (Destination.query .pendingNonce)
  exact ⟨(runs sampleTrace (.ok 7)).mpr ⟨sampleResults, calls_sample, rfl, settledBy_sample⟩, hasDelays_default,
    answered_sample, (ends _ _ _ _ answered_sample trivial).2 hasDelays_default⟩

end BridgeRelay.RetryPolicy
