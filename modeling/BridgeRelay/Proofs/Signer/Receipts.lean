import BridgeRelay.Proofs.Program.Endings
import BridgeRelay.Signer
import Mathlib.Algebra.Order.Floor.Div

/-!
# Awaited receipts

A receipt is looked for once in each interval, until a look finds it or the time for it is over. So the looks are few, the
first receipt that is found decides, and a transaction counts as late only after a look at the deadline or behind it. A
receipt that is there by the deadline is not missed.
-/

namespace BridgeRelay.Signer

open Program Destination

/-- What a look for a receipt finds. -/
abbrev Finding : Type := Except ChainError (Option Bool)

/-- No receipt was found. -/
def Finding.Nothing (found : Finding) : Prop := ∀ success, found ≠ .ok (some success)

/-- A look for a receipt, at the time to which its answer refers. -/
structure Look where
  time : Time
  found : Finding

/-- What the clock shows, and the looks so far, the latest first. -/
structure Vigil where
  time : Time
  looks : List Look := []

/-- The world of one that awaits a receipt: `shown` is what the chain shows of the transaction at each time. A sleep takes
its time or longer. A look takes any time, but its answer refers to a moment not longer than `lag` before it is known. -/
def vigil (tx : Hash) (shown : Time → Finding) (lag : Nat) : World WriterInterface Vigil where
  permits _ _ := True
  reply v x v' :=
    match x with
    | ⟨.host .now, time⟩ => time = v.time ∧ v' = v
    | ⟨.host (.sleep d), _⟩ => v.time + d.nanos ≤ v'.time ∧ v'.looks = v.looks
    | ⟨.chain (.receipt tx'), found⟩ =>
        tx' = tx ∧ ∃ time, v.time ≤ time ∧ time ≤ v'.time ∧ v'.time ≤ time + lag ∧ found = shown time ∧
          v'.looks = ⟨time, found⟩ :: v.looks
    | _ => False

/-- The chain shows a receipt from a time on, if not before, and never another one. -/
def ShowsFrom (shown : Time → Finding) (success : Bool) (T : Time) : Prop :=
  ∀ time, shown time = .ok (some success) ∨ time < T ∧ (shown time).Nothing

/-- How the wait for a receipt ends after some looks. -/
inductive Concluded (c : Confirmation) (tx : Hash) (lag : Nat) (start : Time) :
    Except ChainError Bool → List Look → Prop where
  /-- the first look that finds a receipt is the last one -/
  | mined {time : Time} {success : Bool} {earlier : List Look} (missed : ∀ look ∈ earlier, look.found.Nothing) :
      Concluded c tx lag start (.ok success) (⟨time, .ok (some success)⟩ :: earlier)
  /-- no look finds one, and the last is at the deadline or behind it, but for the lag -/
  | late {time : Time} {found : Finding} {earlier : List Look}
      (missed : ∀ look ∈ ⟨time, found⟩ :: earlier, look.found.Nothing)
      (due : start + c.timeout.nanos ≤ time + lag) :
      Concluded c tx lag start (.error (.timeout (Confirmation.lateText c tx))) (⟨time, found⟩ :: earlier)

variable {c : Confirmation} {tx : Hash} {shown : Time → Finding} {lag : Nat} {start T : Time} {v : Vigil} {success : Bool}
  {x : Except ChainError Bool} {looks : List Look}

/-- A receipt that is shown by the deadline is what the wait ends with. -/
theorem Concluded.eq_ok (h : Concluded c tx lag start x looks) (seen : ∀ look ∈ looks, look.found = shown look.time)
    (shows : ShowsFrom shown success T) (inTime : T + lag ≤ start + c.timeout.nanos) : x = .ok success := by
  cases h with
  | @mined time _ _ missed =>
      have found := seen _ List.mem_cons_self
      rcases shows time with hs | ⟨-, nothing⟩
      · cases found.trans hs
        rfl
      · exact absurd found.symm (nothing _)
  | @late time _ _ missed due =>
      have found := seen _ List.mem_cons_self
      rcases shows time with hs | ⟨before, -⟩
      · exact absurd (found.trans hs) (missed _ List.mem_cons_self _)
      · exact absurd before (Nat.not_lt.mpr (Nat.le_of_add_le_add_right (inTime.trans due)))

/-- What ends without a receipt ends with a look that finds none, at the deadline or behind it but for the lag. -/
theorem Concluded.late_look {e : ChainError} (h : Concluded c tx lag start (.error e) looks) :
    ∃ look ∈ looks, start + c.timeout.nanos ≤ look.time + lag ∧ look.found.Nothing := by
  obtain _ | ⟨missed, due⟩ := h
  exact ⟨_, List.mem_cons_self, due, missed _ List.mem_cons_self⟩

/-! ## Rounds -/

/-- What follows a look that finds no receipt: the end, or a sleep if there is time left. -/
def goOn (c : Confirmation) (tx : Hash) (deadline : Time) :
    Program WriterInterface (Unit ⊕ Except ChainError Bool) := do
  if deadline ≤ (← Host.now) then return .inr (.error (.timeout (Confirmation.lateText c tx)))
  else
    Host.sleep c.pollInterval
    return .inl ()

/-- One round of the wait. -/
def lookUp (c : Confirmation) (tx : Hash) (deadline : Time) :
    Program WriterInterface (Unit ⊕ Except ChainError Bool) := do
  match ← query (.receipt tx) with
  | .ok (some success) => return .inr (.ok success)
  | _ => goOn c tx deadline

theorem awaitReceipt_eq : awaitReceipt c tx =
    Host.now.bind fun start => iterate () fun _ => lookUp c tx (start + c.timeout.nanos) := rfl

/-- Before a round: no look has found a receipt, and an interval has passed since each of them, the last of which came
before the deadline. -/
structure Waiting (c : Confirmation) (shown : Time → Finding) (start : Time) (v : Vigil) : Prop where
  missed : ∀ look ∈ v.looks, look.found.Nothing
  seen : ∀ look ∈ v.looks, look.found = shown look.time
  spaced : start + v.looks.length * c.pollInterval.nanos ≤ v.time
  few : v.looks.length ≤ c.timeout.nanos ⌈/⌉ c.pollInterval.nanos

/-- Behind the last round. -/
structure Over (c : Confirmation) (tx : Hash) (shown : Time → Finding) (lag : Nat) (start : Time)
    (x : Except ChainError Bool) (v : Vigil) : Prop where
  few : v.looks.length ≤ c.timeout.nanos ⌈/⌉ c.pollInterval.nanos + 1
  seen : ∀ look ∈ v.looks, look.found = shown look.time
  concluded : Concluded c tx lag start x v.looks

/-- Behind a round that began after `n` looks: it was the last one, or there is one look more. -/
def Round (c : Confirmation) (tx : Hash) (shown : Time → Finding) (lag : Nat) (start : Time) (n : Nat) :
    Unit ⊕ Except ChainError Bool → Vigil → Prop
  | .inl _, v => Waiting c shown start v ∧ v.looks.length = n + 1
  | .inr x, v => Over c tx shown lag start x v

theorem Waiting.ends_goOn {v' : Vigil} {look : Look} (h : Waiting c shown start v) (poll : 0 < c.pollInterval.nanos)
    (nothing : look.found.Nothing) (seen : look.found = shown look.time) (looks : v'.looks = look :: v.looks)
    (after : v.time ≤ v'.time) (known : v'.time ≤ look.time + lag) :
    (goOn c tx (start + c.timeout.nanos)).Ends (vigil tx shown lag) (Round c tx shown lag start v.looks.length) v' := by
  obtain ⟨time, _⟩ := v'
  obtain rfl := looks
  have missed : ∀ l ∈ look :: v.looks, l.found.Nothing := List.forall_mem_cons.mpr ⟨nothing, h.missed⟩
  have seen : ∀ l ∈ look :: v.looks, l.found = shown l.time := List.forall_mem_cons.mpr ⟨seen, h.seen⟩
  refine .bind (.ask_still rfl ⟨time, _, rfl, rfl⟩ ?_)
  rintro _ _ ⟨rfl, rfl⟩
  refine .done ?_
  split
  · rename_i due
    exact .done ⟨Nat.succ_le_succ h.few, seen, .late missed (due.trans known)⟩
  · rename_i left
    refine .ask_still rfl ⟨(), ⟨_, _⟩, le_rfl, rfl⟩ ?_
    rintro _ ⟨awake, _⟩ ⟨slept, rfl⟩
    refine .done ⟨⟨missed, seen, ?_, ?_⟩, rfl⟩
    · rw [List.length_cons, Nat.succ_mul, ← Nat.add_assoc]
      exact (Nat.add_le_add_right (h.spaced.trans after) _).trans slept
    · refine (lt_iff_lt_of_le_iff_le (ceilDiv_le_iff_le_mul poll)).mpr ?_
      rw [Nat.mul_comm]
      exact Nat.lt_of_add_lt_add_left ((h.spaced.trans after).trans_lt (Nat.not_le.mp left))

/-- A round is the last one, or adds a look. -/
theorem Waiting.ends_lookUp (h : Waiting c shown start v) (poll : 0 < c.pollInterval.nanos) :
    (lookUp c tx (start + c.timeout.nanos)).Ends (vigil tx shown lag) (Round c tx shown lag start v.looks.length) v := by
  refine .bind (.ask_still rfl
    ⟨shown v.time, ⟨v.time, _ :: v.looks⟩, rfl, v.time, le_rfl, le_rfl, Nat.le_add_right _ _, rfl, rfl⟩ ?_)
  rintro found v' ⟨-, time, after, before, known, seen, looks⟩
  refine .done ?_
  split
  · rename_i success
    refine .done ⟨?_, ?_, ?_⟩ <;> rw [looks]
    · exact Nat.succ_le_succ h.few
    · exact List.forall_mem_cons.mpr ⟨seen, h.seen⟩
    · exact .mined h.missed
  · rename_i nothing
    exact h.ends_goOn poll (fun success => nothing success) seen looks (after.trans before) known

/-- Rounds follow one another until one is the last. -/
theorem Waiting.ends_rounds (h : Waiting c shown start v) (poll : 0 < c.pollInterval.nanos) :
    (iterate () fun _ => lookUp c tx (start + c.timeout.nanos)).Ends (vigil tx shown lag) (Over c tx shown lag start) v := by
  generalize left : c.timeout.nanos ⌈/⌉ c.pollInterval.nanos - v.looks.length = n
  induction n using Nat.strong_induction_on generalizing v with
  | h n ih =>
    refine .iterate ((h.ends_lookUp poll).mono ?_)
    rintro (_ | x) v' hr
    · obtain ⟨waiting, more⟩ := hr
      have := waiting.few
      exact ih _ (by omega) waiting rfl
    · exact hr

theorem over_awaitReceipt (c : Confirmation) (poll : 0 < c.pollInterval.nanos) (tx : Hash) (shown : Time → Finding)
    (lag : Nat) (start : Time) :
    (awaitReceipt c tx).Ends (vigil tx shown lag) (Over c tx shown lag start) ⟨start, []⟩ := by
  have waiting : Waiting c shown start ⟨start, []⟩ := ⟨nofun, nofun, by simp, Nat.zero_le _⟩
  rw [awaitReceipt_eq]
  refine .bind (.ask_still rfl ⟨start, _, rfl, rfl⟩ ?_)
  rintro _ _ ⟨rfl, rfl⟩
  exact .done (waiting.ends_rounds poll)

/-! ## Main statement -/

/-- A wait for a receipt ends after few looks, whatever they find. It gives back what the first receipt says that is found,
or that the transaction is late, and then no look found a receipt, not even one at the deadline or behind it. So a receipt
that is there by the deadline is found. If an answer is known only some time after the moment to which it refers, this
holds of a deadline that is earlier by as much. -/
theorem receipt_in_time_found (c : Confirmation) (poll : 0 < c.pollInterval.nanos) (tx : Hash) (shown : Time → Finding)
    (lag : Nat) (start : Time) : (awaitReceipt c tx).Ends (vigil tx shown lag) (fun x v =>
      v.looks.length ≤ c.timeout.nanos ⌈/⌉ c.pollInterval.nanos + 1 ∧
      (∀ look ∈ v.looks, look.found = shown look.time) ∧
      Concluded c tx lag start x v.looks ∧
      ∀ success T, ShowsFrom shown success T → T + lag ≤ start + c.timeout.nanos → x = .ok success) ⟨start, []⟩ := by
  refine (over_awaitReceipt c poll tx shown lag start).mono fun x v finished => ?_
  exact ⟨finished.few, finished.seen, finished.concluded,
    fun _ _ shows inTime => finished.concluded.eq_ok finished.seen shows inTime⟩

/-! ## A sample -/

/-- A node is out of reach for a minute, and the receipt is there a second before the deadline. -/
def sampleShown (time : Time) : Finding :=
  if time < 60000000000 then .error (.rpc "connection refused")
  else if time < 119000000000 then .ok none
  else .ok (some true)

theorem showsFrom_sample : ShowsFrom sampleShown true 119000000000 := by
  intro time
  unfold sampleShown
  split
  · rename_i early
    exact .inr ⟨Nat.lt_trans early (by decide), nofun⟩
  · split
    · rename_i before
      exact .inr ⟨before, nofun⟩
    · exact .inl rfl

/-- With the usual settings it is found, after at most 61 looks. -/
theorem sample_receipt_in_time_found : 0 < (Confirmation.pollInterval {}).nanos ∧
    ShowsFrom sampleShown true 119000000000 ∧
    (awaitReceipt {} (.replicate 32 0)).Ends (vigil (.replicate 32 0) sampleShown 0)
      (fun x v => x = .ok true ∧ v.looks.length ≤ 61) ⟨0, []⟩ := by
  have poll : 0 < (Confirmation.pollInterval {}).nanos := by decide
  refine ⟨poll, showsFrom_sample, (receipt_in_time_found {} poll (.replicate 32 0) sampleShown 0 0).mono ?_⟩
  rintro x v ⟨few, -, -, found⟩
  exact ⟨found true _ showsFrom_sample (by decide), few⟩

/-! ## Answers without a lag -/

/-- If each answer refers to the moment at which it is known, a receipt that is there by the deadline is found, and what is
late was not found at the deadline or behind it. -/
theorem receipt_by_deadline_found (c : Confirmation) (poll : 0 < c.pollInterval.nanos) (tx : Hash)
    (shown : Time → Finding) (start : Time) : (awaitReceipt c tx).Ends (vigil tx shown 0) (fun x v =>
      (∀ success T, ShowsFrom shown success T → T ≤ start + c.timeout.nanos → x = .ok success) ∧
      ∀ e, x = .error e → ∃ look ∈ v.looks, start + c.timeout.nanos ≤ look.time ∧ look.found.Nothing) ⟨start, []⟩ := by
  refine (over_awaitReceipt c poll tx shown 0 start).mono fun x v finished => ⟨?_, ?_⟩
  · exact fun _ _ shows inTime => finished.concluded.eq_ok finished.seen shows inTime
  · rintro e rfl
    exact finished.concluded.late_look

end BridgeRelay.Signer
