import BridgeRelay.Proofs.Checkpoint
import Mathlib.Logic.Function.Basic
import Mathlib.Logic.Relation

/-!
# Operations on checkpoints

Reads and writes of checkpoints over one store, which may fail at any request. The requests of different operations
interleave, but of two writes of one checkpoint the second begins when the first is over. Main statement: a checkpoint
is the greatest height that was written, and only a write that succeeds changes what is stored.
-/

namespace BridgeRelay.Checkpoint

open Program Function

/-! ## Operations -/

/-- A read or a write of the checkpoint of a chain. -/
inductive Operation where
  | get (d : DomainId)
  | put (d : DomainId) (h : Height)

namespace Operation

/-- What an operation ends with unless it fails. -/
abbrev Value : Operation → Type
  | get _ => Height
  | put .. => Unit

def program : (op : Operation) → Program StoreInterface (Except StoreError op.Value)
  | get d => Checkpoint.get d
  | put d h => Checkpoint.put d h

/-- The chain whose checkpoint an operation may move. -/
def target? : Operation → Option DomainId
  | get _ => none
  | put d _ => some d

end Operation

/-- An operation that is over: how it ended, and whether the store refused it a request. -/
structure Entry where
  op : Operation
  result : Except StoreError op.Value
  refused : Bool

/-- An operation that is under way: what is left of it, and whether the store refused it a request. -/
structure Call where
  op : Operation
  rest : Program StoreInterface (Except StoreError op.Value)
  refused : Bool

def Call.of (op : Operation) : Call := ⟨op, op.program, false⟩

/-! ## Heights that were written -/

/-- A height was written as the checkpoint of a chain. -/
def Recorded (log : List Entry) (d : DomainId) (h : Height) : Prop := ∃ refused, ⟨.put d h, .ok (), refused⟩ ∈ log

/-- The greatest height that was written, or zero if there is none. -/
structure Latest (log : List Entry) (d : DomainId) (v : Height) : Prop where
  recorded : v = 0 ∨ Recorded log d v
  greatest : ∀ h, Recorded log d h → h ≤ v

/-- A read that succeeds gives the greatest height that was written before it, and it fails only if the store refuses.
A write succeeds if and only if the store refuses nothing and the height is not below the greatest one. -/
def Lawful (before : List Entry) : Entry → Prop
  | ⟨.get d, result, refused⟩ => (∀ v, result = .ok v → Latest before d v) ∧ (refused = false → ∃ v, result = .ok v)
  | ⟨.put d h, result, refused⟩ => ∃ v, Latest before d v ∧ (result = .ok () ↔ refused = false ∧ v ≤ h)

section History

variable {log before after : List Entry} {x y : Entry} {d : DomainId} {h v w : Height}

theorem recorded_snoc :
    Recorded (log ++ [x]) d h ↔ Recorded log d h ∨ ∃ refused, x = ⟨.put d h, .ok (), refused⟩ := by
  simp only [Recorded, List.mem_append, List.mem_singleton, exists_or, eq_comm]

theorem Recorded.append (r : Recorded log d h) (more : List Entry) : Recorded (log ++ more) d h := by
  obtain ⟨refused, mem⟩ := r
  exact ⟨refused, List.mem_append_left more mem⟩

theorem latest_nil : Latest [] d 0 := ⟨.inl rfl, fun _ ⟨_, mem⟩ => nomatch mem⟩

theorem Latest.le (l : Latest log d v) (l' : Latest (log ++ before) d w) : v ≤ w := by
  rcases l.recorded with rfl | r
  · exact UInt64.zero_le
  · exact l'.greatest v (r.append before)

theorem Latest.skip (l : Latest log d v) (other : ∀ h refused, x ≠ ⟨.put d h, .ok (), refused⟩) :
    Latest (log ++ [x]) d v where
  recorded := l.recorded.imp_right fun r => r.append [x]
  greatest h r := by
    rcases recorded_snoc.mp r with r | ⟨refused, same⟩
    · exact l.greatest h r
    · exact absurd same (other h refused)

theorem Latest.put (l : Latest log d v) (le : v ≤ w) : Latest (log ++ [⟨.put d w, .ok (), false⟩]) d w where
  recorded := .inr (recorded_snoc.mpr (.inr ⟨false, rfl⟩))
  greatest h r := by
    rcases recorded_snoc.mp r with r | ⟨refused, same⟩
    · exact UInt64.le_trans (l.greatest h r) le
    · cases same
      exact UInt64.le_refl _

/-- An entry of a longer log is the last one or one of those before. -/
theorem lawful_snoc (lawful : ∀ before y after, log = before ++ y :: after → Lawful before y) (last : Lawful log x)
    (eq : log ++ [x] = before ++ y :: after) : Lawful before y := by
  rcases after.eq_nil_or_concat with rfl | ⟨after, z, rfl⟩
  · obtain ⟨rfl, same⟩ := List.append_inj' eq rfl
    cases same
    exact last
  · rw [List.concat_eq_append, ← List.cons_append, ← List.append_assoc] at eq
    exact lawful before y after (List.append_inj' eq rfl).1

end History

/-! ## The store -/

def refusal (e : StoreError) : (r : StoreRequest) → r.Answer
  | .load _ => .error e
  | .save .. => .error e

def isRefusal : (r : StoreRequest) → r.Answer → Bool
  | .load _, .error _ | .save .., .error _ => true
  | _, _ => false

/-- A store answers a request, or refuses it without effect. -/
def Serves (s : MemoryStore) (r : StoreRequest) (a : r.Answer) (s' : MemoryStore) : Prop :=
  (a, s') = s.answer r ∨ s' = s ∧ ∃ e, a = refusal e r

section Serves

variable {s s' : MemoryStore} {k value : Bytes}

theorem Serves.load {a : Except StoreError (Option Bytes)} (h : Serves s (.load k) a s') :
    s' = s ∧ (a = .ok (s.find? k) ∨ ∃ e, a = .error e) := by
  rcases h with h | ⟨rfl, e, rfl⟩
  · simp only [MemoryStore.answer, Prod.mk.injEq] at h
    obtain ⟨rfl, rfl⟩ := h
    refine ⟨rfl, ?_⟩
    split
    · exact .inr ⟨_, rfl⟩
    · exact .inl rfl
  · exact ⟨rfl, .inr ⟨e, rfl⟩⟩

theorem Serves.save {a : Except StoreError Unit} (h : Serves s (.save k value) a s') :
    a = .ok () ∧ s' = s.insert k value ∨ s' = s ∧ ∃ e, a = .error e := by
  rcases h with h | ⟨rfl, e, rfl⟩
  · simp only [MemoryStore.answer] at h
    split at h
    · cases h
      exact .inr ⟨rfl, _, rfl⟩
    · cases h
      exact .inl ⟨rfl, rfl⟩
  · exact .inr ⟨rfl, e, rfl⟩

end Serves

/-! ## Interleavings -/

/-- Operations over one store: which are under way, and which are over, in order. -/
structure Interleaving (ι : Type) where
  store : MemoryStore := {}
  calls : ι → Option Call := fun _ => none
  log : List Entry := []

namespace Interleaving

variable {ι : Type} [DecidableEq ι] {s s' : Interleaving ι} {i j : ι} {c : Call} {d e : DomainId} {h v : Height}

/-- What is stored for a chain. -/
def stored (s : Interleaving ι) (d : DomainId) : Option Bytes := s.store.find? (key d)

def finish (s : Interleaving ι) (i : ι) (x : Entry) : Interleaving ι :=
  { s with calls := update s.calls i none, log := s.log ++ [x] }

/-- An operation goes on, or ends as nothing is left of it. -/
def goOn (s : Interleaving ι) (i : ι) (c : Call) : Interleaving ι :=
  match c.rest.head with
  | .done result => s.finish i ⟨c.op, result, c.refused⟩
  | _ => { s with calls := update s.calls i (some c) }

/-- An operation begins, has a request answered, or is given up; or the store is closed. -/
inductive Step (s : Interleaving ι) : Interleaving ι → Prop where
  | start (i : ι) (op : Operation) (free : s.calls i = none)
      (alone : ∀ j c d, s.calls j = some c → op.target? = some d → c.op.target? ≠ some d) :
      Step s { s with calls := update s.calls i (some (.of op)) }
  | answer (i : ι) {c : Call} {r : StoreRequest} {a : r.Answer} {store : MemoryStore}
      {next : r.Answer → Program StoreInterface (Except StoreError c.op.Value)} (running : s.calls i = some c) (asks : c.rest.head = .ask r next)
      (served : Serves s.store r a store) :
      Step s ({ s with store }.goOn i ⟨c.op, next a, c.refused || isRefusal r a⟩)
  | abandon (i : ι) : Step s { s with calls := update s.calls i none }
  | shut : Step s { s with store := { s.store with closed := true } }

abbrev Reaches : Interleaving ι → Interleaving ι → Prop := Relation.ReflTransGen Step

/-! ## Steps -/

/-- A write that has read the checkpoint and not yet written. -/
def writing (d : DomainId) (h : Height) : Call :=
  ⟨.put d h, Stored.store (.save (key d) (encode h)), false⟩

/-- All that is left of a call. -/
inductive Proper : Call → Prop where
  | begun (op : Operation) : Proper (.of op)
  | writing (d : DomainId) (h : Height) : Proper (writing d h)

/-- What a step does. -/
inductive Move (s : Interleaving ι) : Interleaving ι → Prop where
  | start (i : ι) (op : Operation)
      (alone : ∀ j c d, s.calls j = some c → op.target? = some d → c.op.target? ≠ some d) :
      Move s { s with calls := update s.calls i (some (.of op)) }
  | refused (i : ι) (op : Operation) (e : StoreError) : Move s (s.finish i ⟨op, .error e, true⟩)
  | read (i : ι) (d : DomainId) : Move s (s.finish i ⟨.get d, decode d (s.stored d), false⟩)
  | corrupt (i : ι) (d : DomainId) (h : Height) (e : StoreError) (found : decode d (s.stored d) = .error e) :
      Move s (s.finish i ⟨.put d h, .error e, false⟩)
  | below (i : ι) (d : DomainId) (h v : Height) (found : decode d (s.stored d) = .ok v) (lt : h < v) :
      Move s (s.finish i ⟨.put d h, .error (.regression d v h), false⟩)
  | compared (i : ι) (d : DomainId) (h v : Height) (running : s.calls i = some (.of (.put d h)))
      (found : decode d (s.stored d) = .ok v) (le : v ≤ h) :
      Move s { s with calls := update s.calls i (some (writing d h)) }
  | written (i : ι) (d : DomainId) (h : Height) (running : s.calls i = some (writing d h)) :
      Move s ({ s with store := s.store.insert (key d) (encode h) }.finish i ⟨.put d h, .ok (), false⟩)
  | abandon (i : ι) : Move s { s with calls := update s.calls i none }
  | shut : Move s { s with store := { s.store with closed := true } }

/-- What is left of a write that has read the checkpoint. -/
def comparing (d : DomainId) (h : Height) : Except StoreError Height → Program StoreInterface (Except StoreError Unit)
  | .error e => done (.error e)
  | .ok v => if h < v then done (.error (.regression d v h)) else Stored.store (.save (key d) (encode h))

theorem move_comparing (running : s.calls i = some (.of (.put d h))) :
    Move s (s.goOn i ⟨.put d h, comparing d h (decode d (s.stored d)), false⟩) := by
  cases found : decode d (s.stored d) with
  | error e => exact .corrupt i d h e found
  | ok v =>
      by_cases lt : h < v
      · simp only [comparing, lt, if_true]
        exact .below i d h v found lt
      · simp only [comparing, lt, if_false]
        exact .compared i d h v running found (UInt64.not_lt.mp lt)

theorem Step.move (step : Step s s') (proper : ∀ i c, s.calls i = some c → Proper c) : Move s s' := by
  cases step with
  | start i op free alone => exact .start i op alone
  | abandon i => exact .abandon i
  | shut => exact .shut
  | answer i running asks served =>
      cases proper i _ running with
      | begun op =>
          cases op with
          | get d =>
              cases asks
              obtain ⟨rfl, rfl | ⟨e, rfl⟩⟩ := served.load
              · exact .read i d
              · exact .refused i (.get d) e
          | put d h =>
              cases asks
              obtain ⟨rfl, rfl | ⟨e, rfl⟩⟩ := served.load
              · exact move_comparing running
              · exact .refused i (.put d h) e
      | writing d h =>
          cases asks
          obtain ⟨rfl, rfl⟩ | ⟨rfl, e, rfl⟩ := served.save
          · exact .written i d h running
          · exact .refused i (.put d h) e

/-! ## What steps keep -/

/-- No two writes of one checkpoint are under way. -/
def Apart (calls : ι → Option Call) : Prop :=
  ∀ i j c c' d, calls i = some c → calls j = some c' → c.op.target? = some d → c'.op.target? = some d → i = j

/-- What holds of operations over a store that was empty at first. -/
structure Sound (s : Interleaving ι) : Prop where
  proper : ∀ i c, s.calls i = some c → Proper c
  apart : Apart s.calls
  ready : ∀ i d h, s.calls i = some (writing d h) → ∃ v, decode d (s.stored d) = .ok v ∧ v ≤ h
  latest : ∀ d, ∃ v, decode d (s.stored d) = .ok v ∧ Latest s.log d v
  lawful : ∀ before x after, s.log = before ++ x :: after → Lawful before x

section Calls

variable {calls : ι → Option Call}

theorem running_of_set {c' : Call} (running : update calls i (some c') j = some c) :
    (j = i ∧ c = c') ∨ (j ≠ i ∧ calls j = some c) := by
  by_cases same : j = i
  · subst same
    rw [update_self, Option.some.injEq] at running
    exact .inl ⟨rfl, running.symm⟩
  · rw [update_of_ne same] at running
    exact .inr ⟨same, running⟩

theorem running_of_end (running : update calls i none j = some c) : j ≠ i ∧ calls j = some c := by
  by_cases same : j = i
  · subst same
    rw [update_self] at running
    cases running
  · rw [update_of_ne same] at running
    exact ⟨same, running⟩

end Calls

theorem Move.proper (m : Move s s') (proper : ∀ i c, s.calls i = some c → Proper c) (i : ι) (c : Call)
    (running : s'.calls i = some c) : Proper c := by
  cases m with
  | start j op =>
      obtain ⟨rfl, rfl⟩ | ⟨-, running⟩ := running_of_set running
      · exact .begun op
      · exact proper i c running
  | compared j d h =>
      obtain ⟨rfl, rfl⟩ | ⟨-, running⟩ := running_of_set running
      · exact .writing d h
      · exact proper i c running
  | shut => exact proper i c running
  | _ => exact proper i c (running_of_end running).2

theorem Move.apart (m : Move s s') (apart : Apart s.calls) : Apart s'.calls := by
  intro i j c c' d hi hj target target'
  cases m with
  | start k op alone =>
      rcases running_of_set hi with ⟨rfl, rfl⟩ | ⟨-, old⟩ <;> rcases running_of_set hj with ⟨rfl, rfl⟩ | ⟨-, old'⟩
      · rfl
      · exact absurd target' (alone j c' d old' target)
      · exact absurd target (alone i c d old target')
      · exact apart i j c c' d old old' target target'
  | compared k e h v running =>
      -- the write has the target that it had before
      rcases running_of_set hi with ⟨rfl, rfl⟩ | ⟨-, old⟩ <;> rcases running_of_set hj with ⟨rfl, rfl⟩ | ⟨-, old'⟩
      · rfl
      · exact apart i j _ c' d running old' target target'
      · exact apart i j c _ d old running target target'
      · exact apart i j c c' d old old' target target'
  | shut => exact apart i j c c' d hi hj target target'
  | _ => exact apart i j c c' d (running_of_end hi).2 (running_of_end hj).2 target target'

theorem writing_ne_of (op : Operation) : writing d h ≠ .of op := by
  intro same
  cases op with
  | get e => cases congrArg Call.op same
  | put e k =>
      cases congrArg Call.op same
      cases same

theorem Move.ready (m : Move s s') (sound : Sound s) (i : ι) (d : DomainId) (h : Height)
    (running : s'.calls i = some (writing d h)) : ∃ v, decode d (s'.stored d) = .ok v ∧ v ≤ h := by
  cases m with
  | start j op =>
      obtain ⟨rfl, same⟩ | ⟨-, running⟩ := running_of_set running
      · exact absurd same (writing_ne_of op)
      · exact sound.ready i d h running
  | compared j e k v _ found le =>
      obtain ⟨rfl, same⟩ | ⟨-, running⟩ := running_of_set running
      · cases same
        exact ⟨v, found, le⟩
      · exact sound.ready i d h running
  | written j e k before =>
      obtain ⟨other, running⟩ := running_of_end running
      -- no two writes of one checkpoint are under way
      have ne : d ≠ e := by
        rintro rfl
        exact other (sound.apart i j _ _ d running before rfl rfl)
      obtain ⟨v, found, le⟩ := sound.ready i d h running
      refine ⟨v, ?_, le⟩
      rw [← found]
      exact congrArg (decode d) (MemoryStore.find?_insert_of_ne (mt key_inj.mp ne))
  | shut => exact sound.ready i d h running
  | _ => exact sound.ready i d h (running_of_end running).2

theorem Move.latest (m : Move s s') (sound : Sound s) (d : DomainId) :
    ∃ v, decode d (s'.stored d) = .ok v ∧ Latest s'.log d v := by
  obtain ⟨v, found, latest⟩ := sound.latest d
  cases m with
  | written i e h running =>
      by_cases same : d = e
      · subst same
        obtain ⟨w, found', le⟩ := sound.ready i d h running
        rw [found, Except.ok.injEq] at found'
        subst found'
        refine ⟨h, ?_, latest.put le⟩
        exact (congrArg (decode d) MemoryStore.find?_insert_self).trans (decode_encode d h)
      · refine ⟨v, ?_, latest.skip fun _ _ => by rintro ⟨⟩; exact same rfl⟩
        rw [← found]
        exact congrArg (decode d) (MemoryStore.find?_insert_of_ne (mt key_inj.mp same))
  | start | compared | abandon | shut => exact ⟨v, found, latest⟩
  | refused i op e => exact ⟨v, found, latest.skip fun _ _ => nofun⟩
  | read => exact ⟨v, found, latest.skip fun _ _ => nofun⟩
  | corrupt => exact ⟨v, found, latest.skip fun _ _ => nofun⟩
  | below => exact ⟨v, found, latest.skip fun _ _ => nofun⟩

theorem Move.lawful (m : Move s s') (sound : Sound s) (before : List Entry) (x : Entry) (after : List Entry)
    (eq : s'.log = before ++ x :: after) : Lawful before x := by
  cases m with
  | refused i op e =>
      refine lawful_snoc sound.lawful ?_ eq
      cases op with
      | get d => exact ⟨nofun, nofun⟩
      | put d h =>
          obtain ⟨v, -, latest⟩ := sound.latest d
          exact ⟨v, latest, by simp⟩
  | read i d =>
      obtain ⟨v, found, latest⟩ := sound.latest d
      refine lawful_snoc sound.lawful ?_ eq
      rw [found]
      exact ⟨by rintro _ ⟨⟩; exact latest, fun _ => ⟨v, rfl⟩⟩
  | corrupt i d h e found =>
      -- what was written can be read
      obtain ⟨v, found', -⟩ := sound.latest d
      rw [found] at found'
      cases found'
  | below i d h v found lt =>
      obtain ⟨w, found', latest⟩ := sound.latest d
      rw [found, Except.ok.injEq] at found'
      subst found'
      refine lawful_snoc sound.lawful ?_ eq
      exact ⟨v, latest, by simpa using lt⟩
  | written i d h running =>
      obtain ⟨v, found, le⟩ := sound.ready i d h running
      obtain ⟨w, found', latest⟩ := sound.latest d
      rw [found, Except.ok.injEq] at found'
      subst found'
      refine lawful_snoc sound.lawful ?_ eq
      exact ⟨v, latest, by simpa using le⟩
  | start | compared | abandon | shut => exact sound.lawful before x after eq

theorem Move.sound (m : Move s s') (sound : Sound s) : Sound s' :=
  ⟨m.proper sound.proper, m.apart sound.apart, m.ready sound, m.latest sound, m.lawful sound⟩

theorem sound_of_reaches (reached : Reaches {} s) : Sound s := by
  induction reached with
  | refl => exact ⟨nofun, nofun, nofun, fun d => ⟨0, rfl, latest_nil⟩, by simp⟩
  | tail _ step ih => exact (step.move ih.proper).sound ih

theorem proper_of_reaches {store : MemoryStore} (reached : Reaches { store } s) (i : ι) (c : Call)
    (running : s.calls i = some c) : Proper c := by
  induction reached generalizing i c with
  | refl => cases running
  | tail _ step ih => exact (step.move ih).proper ih i c running

/-! ## What steps change -/

/-- A write that succeeds changes the checkpoint of its chain, and nothing else changes any. -/
def Changes (s s' : Interleaving ι) : Entry → Prop
  | ⟨.put d h, .ok (), _⟩ => s'.stored d = some (encode h) ∧ ∀ e, e ≠ d → s'.stored e = s.stored e
  | _ => ∀ e, s'.stored e = s.stored e

theorem Move.changes (m : Move s s') :
    (s'.log = s.log ∧ ∀ e, s'.stored e = s.stored e) ∨ ∃ x, s'.log = s.log ++ [x] ∧ Changes s s' x := by
  cases m with
  | start | compared | abandon | shut => exact .inl ⟨rfl, fun _ => rfl⟩
  | refused i op e =>
      refine .inr ⟨_, rfl, ?_⟩
      cases op <;> exact fun _ => rfl
  | read | corrupt | below => exact .inr ⟨_, rfl, fun _ => rfl⟩
  | written i d h =>
      refine .inr ⟨_, rfl, MemoryStore.find?_insert_self, fun e ne => ?_⟩
      exact MemoryStore.find?_insert_of_ne (mt key_inj.mp ne)

end Interleaving

/-! ## Main statement -/

open Interleaving in
/-- Whatever was stored at first, a step changes what is stored only as the end of a write that succeeds, and only for
the chain of that write. Over a store that was empty at first all operations that ended are lawful, and no read gives
less than an earlier read of the same checkpoint. -/
theorem checkpoint_laws {ι : Type} [DecidableEq ι] :
    (∀ (store : MemoryStore) (s s' : Interleaving ι), Reaches { store } s → Step s s' →
      (s'.log = s.log ∧ ∀ e, s'.stored e = s.stored e) ∨ ∃ x, s'.log = s.log ++ [x] ∧ Changes s s' x) ∧
    ∀ s : Interleaving ι, Reaches {} s →
      (∀ before x after, s.log = before ++ x :: after → Lawful before x) ∧
      (∀ before d v refused between w refused' after, s.log =
        before ++ ⟨.get d, .ok v, refused⟩ :: (between ++ ⟨.get d, .ok w, refused'⟩ :: after) → v ≤ w) ∧
      (∀ d, ∃ v, decode d (s.stored d) = .ok v ∧ Latest s.log d v) := by
  refine ⟨?_, ?_⟩
  · intro store s s' reached step
    exact (step.move (proper_of_reaches reached)).changes
  · intro s reached
    have sound := sound_of_reaches reached
    refine ⟨sound.lawful, ?_, sound.latest⟩
    intro before d v refused between w refused' after eq
    have first : Latest before d v := (sound.lawful _ _ _ eq).1 v rfl
    rw [← List.cons_append, ← List.append_assoc] at eq
    have second := (sound.lawful _ _ _ eq).1 w rfl
    exact first.le second

/-- Two writes of different checkpoints, then a read, a write that goes back, and one that the store refuses. -/
def sampleLog : List Entry :=
  [⟨.put 2 7, .ok (), false⟩, ⟨.put 1 95, .ok (), false⟩, ⟨.get 1, .ok 95, false⟩,
   ⟨.put 1 80, .error (.regression 1 95 80), false⟩, ⟨.put 1 200, .error (.backend "disk full"), true⟩]

theorem reaches_sampleLog : ∃ s : Interleaving Bool, Interleaving.Reaches {} s ∧ s.log = sampleLog := by
  have both : Interleaving.Reaches ({} : Interleaving Bool) _ :=
    .tail (.single (.start true (.put 1 95) rfl nofun))
      (.start false (.put 2 7) rfl (by rintro (_ | _) c d ⟨⟩ ⟨⟩; decide))
  have compared := (both.tail (.answer true rfl rfl (.inl rfl))).tail (.answer false rfl rfl (.inl rfl))
  have written := (compared.tail (.answer false rfl rfl (.inl rfl))).tail (.answer true rfl rfl (.inl rfl))
  have read := (written.tail (.start true (.get 1) rfl nofun)).tail (.answer true rfl rfl (.inl rfl))
  have below :=
    (read.tail (.start true (.put 1 80) rfl (by rintro (_ | _) c d ⟨⟩))).tail (.answer true rfl rfl (.inl rfl))
  have again :=
    (below.tail (.start true (.put 1 200) rfl (by rintro (_ | _) c d ⟨⟩))).tail (.answer true rfl rfl (.inl rfl))
  have failed := again.tail (.answer true rfl rfl (.inr ⟨rfl, .backend "disk full", rfl⟩))
  exact ⟨_, failed, rfl⟩

theorem sample_checkpoint_laws : ∃ s : Interleaving Bool, Interleaving.Reaches {} s ∧ s.log = sampleLog ∧
    Latest [⟨.put 2 7, .ok (), false⟩, ⟨.put 1 95, .ok (), false⟩] 1 95 ∧
    (∃ v, decode 1 (s.stored 1) = .ok v ∧ Latest sampleLog 1 v) ∧
    ∃ s' : Interleaving Bool, Interleaving.Step s s' ∧ ∀ e, s'.stored e = s.stored e := by
  obtain ⟨frame, laws⟩ := @checkpoint_laws Bool _
  obtain ⟨s, reached, log⟩ := reaches_sampleLog
  obtain ⟨lawful, -, latest⟩ := laws s reached
  rw [log] at lawful latest
  have read : Latest [⟨.put 2 7, .ok (), false⟩, ⟨.put 1 95, .ok (), false⟩] 1 95 :=
    (lawful [_, _] ⟨.get 1, .ok 95, false⟩ _ rfl).1 95 rfl
  refine ⟨s, reached, log, read, latest 1, _, .shut, ?_⟩
  rcases frame {} s _ reached .shut with ⟨-, same⟩ | ⟨x, longer, -⟩
  · exact same
  · simp at longer

end BridgeRelay.Checkpoint
