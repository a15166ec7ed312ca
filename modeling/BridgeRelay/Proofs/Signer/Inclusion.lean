import BridgeRelay.Proofs.Signer.Replacement
import BridgeRelay.Proofs.Signer.Verdict

/-!
# Transactions that are mined

A submission looks for the receipt of the transaction that was accepted last, and for no other. So if it fails, that one
was not mined with success when it looked for the last time, as far as it was told. Of a transaction that was replaced
it never learns whether it was mined after all.
-/

namespace BridgeRelay.Signer

open Program Destination

/-! ## The latest -/

section

variable {α β : Type} {f : α → Option β} {t u : List α} {b : β}

/-- The latest reading in a trace. -/
def latest (f : α → Option β) (t : List α) : Option β := t.reverse.findSome? f

theorem latest_append : latest f (t ++ u) = (latest f u).or (latest f t) := by
  simp [latest, List.findSome?_append]

theorem latest_concat {x : α} : latest f (t ++ [x]) = (f x).or (latest f t) := by
  cases h : f x <;> simp [latest, h]

theorem latest_eq_none : latest f t = none ↔ ∀ x ∈ t, f x = none := by
  simp [latest, List.findSome?_eq_none_iff]

theorem latest_eq_some : latest f t = some b ↔
    ∃ before x after, t = before ++ x :: after ∧ f x = some b ∧ ∀ y ∈ after, f y = none := by
  rw [latest, List.findSome?_eq_some_iff]
  constructor
  · rintro ⟨after, x, before, ht, hx, none⟩
    refine ⟨before.reverse, x, after.reverse, ?_, hx, by simpa using none⟩
    simpa using congrArg List.reverse ht
  · rintro ⟨before, x, after, rfl, hx, none⟩
    exact ⟨after.reverse, x, before.reverse, by simp, hx, by simpa using none⟩

end

/-- The transaction that is accepted. -/
def accepted? : Exchange WriterInterface → Option Hash
  | ⟨.chain (.send ..), .ok tx⟩ => some tx
  | _ => none

/-- The transaction whose receipt is looked for, and what is found. -/
def lookup? : Exchange WriterInterface → Option (Hash × Except ChainError (Option Bool))
  | ⟨.chain (.receipt tx), found⟩ => some (tx, found)
  | _ => none

/-- What a trace tells: the transaction that was accepted last, and the last look for a receipt. -/
structure Sight where
  accepted : Option Hash
  lookup : Option (Hash × Except ChainError (Option Bool))

def Sight.after (g : Sight) (x : Exchange WriterInterface) : Sight :=
  ⟨(accepted? x).or g.accepted, (lookup? x).or g.lookup⟩

def Sight.of (t : List (Exchange WriterInterface)) : Sight := ⟨latest accepted? t, latest lookup? t⟩

abbrev seeing : World WriterInterface Sight := .watch (fun _ _ => True) Sight.after

variable {s : Signer} {call : BridgeCall} {p : Pending} {t u waits : List (Exchange WriterInterface)} {g : Sight}

theorem Sight.foldl_after : t.foldl Sight.after (.of []) = .of t := by
  induction t using List.reverseRecOn with
  | nil => rfl
  | append_singleton t x ih =>
      rw [List.foldl_append, ih]
      simp [Sight.after, Sight.of, latest_concat]

/-- Neither broadcasts nor looks for a receipt. -/
def IsBlind : WriterRequest → Prop
  | .chain (.send ..) | .chain (.receipt _) => False
  | _ => True

theorem isBlind_of_choosing {r : WriterRequest} (h : r.IsChoosing) : IsBlind r := by
  rcases r with (_ | _ | _ | _ | _ | _ | _ | _ | _) | _ | _ | _ | _ <;> first | exact h.elim | trivial

theorem isBlind_of_apart {r : WriterRequest} (h : r.IsApart) : IsBlind r := by
  cases r with
  | chain q => exact h.elim
  | _ => trivial

theorem eq_of_lookup {x : Exchange WriterInterface} {tx : Hash} {found : Except ChainError (Option Bool)}
    (h : lookup? x = some (tx, found)) : x = ⟨.chain (.receipt tx), found⟩ := by
  unfold lookup? at h
  split at h
  · cases h
    rfl
  · cases h

theorem readings_of_blind {x : Exchange WriterInterface} (h : IsBlind x.request) :
    accepted? x = none ∧ lookup? x = none := by
  obtain ⟨r, answer⟩ := x
  rcases r with (_ | _ | _ | _ | _ | _ | _ | _ | _) | _ | _ | _ | _ <;> first | exact h.elim | exact ⟨rfl, rfl⟩

theorem sees_nothing {α : Type} {q : Program WriterInterface α} (h : q.Asks IsBlind) :
    q.Keeps seeing (fun _ g' => g' = g) g := by
  refine h.keeps rfl (fun _ _ hg hd => hd ▸ hg) (fun _ _ _ _ => trivial) ?_
  rintro _ x _ blind rfl rfl
  obtain ⟨ha, hl⟩ := readings_of_blind blind
  simp [Sight.after, ha, hl]

/-! ## Attempts -/

theorem sees_broadcast {bumps : Nat} {stuck : Option UInt64} : (s.broadcast call bumps stuck).Keeps seeing (fun
    | .ok (tx, _), g' => g' = ⟨some tx, g.lookup⟩
    | .error _, g' => g' = g) g := by
  refine keeps_do.mpr (keeps_ask_watch.mpr ⟨trivial, fun next => keeps_do.mpr ?_⟩)
  refine (sees_nothing (asks_choose.mono fun _ => isBlind_of_choosing)).mono ?_
  rintro (e | o) g rfl
  · exact keeps_do.mpr (keeps_ask_watch.mpr ⟨trivial, fun _ => rfl⟩)
  · refine keeps_do.mpr (keeps_ask_watch.mpr ⟨trivial, fun answer => ?_⟩)
    cases answer <;> exact keeps_do.mpr (keeps_ask_watch.mpr ⟨trivial, fun _ => rfl⟩)

theorem sees_awaitReceipt {c : Confirmation} {tx : Hash} : (awaitReceipt c tx).Keeps seeing (fun x g' =>
    ∃ found, g' = ⟨g.accepted, some (tx, found)⟩ ∧ (x = .ok true ∨ found ≠ .ok (some true))) g := by
  refine keeps_do.mpr (keeps_ask_watch.mpr ⟨trivial, fun start => ?_⟩)
  -- each look replaces the one before, and nothing is accepted while the receipt is awaited
  refine Keeps.iterate (fun _ g' => g'.accepted = g.accepted) rfl ?_
  rintro _ g' accepted
  refine keeps_do.mpr (keeps_ask_watch.mpr ⟨trivial, fun found => ?_⟩)
  have seen : g'.after ⟨.chain (.receipt tx), found⟩ = ⟨g.accepted, some (tx, found)⟩ := by
    rw [← accepted]
    rfl
  rw [seen]
  rcases found with e | _ | _ | _
  case ok.some.false => exact ⟨_, rfl, .inr nofun⟩
  case ok.some.true => exact ⟨_, rfl, .inl rfl⟩
  all_goals
    refine keeps_do.mpr (keeps_ask_watch.mpr ⟨trivial, fun now => keeps_done.mpr ?_⟩)
    split
    · exact ⟨_, rfl, .inr nofun⟩
    · exact keeps_do.mpr (keeps_ask_watch.mpr ⟨trivial, fun _ => rfl⟩)

/-- An attempt is over before its transaction is accepted, or it looks for the receipt of this transaction last. -/
theorem sees_attempt : (s.attempt call p).Keeps seeing (fun x g' => g' = g ∨ ∃ tx found,
    g' = ⟨some tx, some (tx, found)⟩ ∧ (x.1 = .ok tx ∨ found ≠ .ok (some true))) g := by
  refine keeps_do.mpr (sees_broadcast.mono ?_)
  rintro (e | ⟨tx, nonce⟩) g' hg
  · exact .inl hg
  · subst hg
    refine keeps_do.mpr (sees_awaitReceipt.mono ?_)
    rintro (e | _ | _) _ ⟨found, rfl, h⟩
    · exact .inr ⟨tx, found, rfl, .inr (h.resolve_left nofun)⟩
    · exact .inr ⟨tx, found, rfl, .inr (h.resolve_left nofun)⟩
    · exact .inr ⟨tx, found, rfl, .inl rfl⟩

/-! ## Submissions -/

/-- Nothing was accepted, or the last look was for what was accepted last. After a failure it did not find a success. -/
def Sight.Settled (failed : Prop) (g : Sight) : Prop :=
  g = ⟨none, none⟩ ∨ ∃ tx found, g = ⟨some tx, some (tx, found)⟩ ∧ (failed → found ≠ .ok (some true))

theorem Sight.of_append : Sight.of (t ++ u) =
    ⟨(Sight.of u).accepted.or (Sight.of t).accepted, (Sight.of u).lookup.or (Sight.of t).lookup⟩ := by
  simp [Sight.of, latest_append]

theorem Sight.of_blind (h : ∀ y ∈ waits, IsBlind y.request) : Sight.of waits = ⟨none, none⟩ := by
  have accepted : latest accepted? waits = none := latest_eq_none.mpr fun y hy => (readings_of_blind (h y hy)).1
  have lookup : latest lookup? waits = none := latest_eq_none.mpr fun y hy => (readings_of_blind (h y hy)).2
  rw [Sight.of, accepted, lookup]

theorem settled_attempt {x : Except ChainError Hash} {p' : Pending}
    (hr : (s.attempt call p).Runs t (done (x, p'))) : (Sight.of t).Settled (∃ e, x = .error e) := by
  have seen := (sees_attempt (g := .of [])).runs hr (along_watch _ _)
  rw [Sight.foldl_after] at seen
  refine seen.imp_right ?_
  rintro ⟨tx, found, hg, h⟩
  refine ⟨tx, found, hg, ?_⟩
  rintro ⟨e, rfl⟩
  exact h.resolve_left nofun

theorem Course.settled {i : Nat} {a : Except TransactionError Submission} (h : Course s call i p t a) :
    (Sight.of t).Settled (∃ failure, a = .error failure) := by
  induction h with
  | @ends i _ _ x _ attempted _ _ =>
      refine (settled_attempt attempted).imp_right ?_
      rintro ⟨tx, found, hg, h⟩
      refine ⟨tx, found, hg, ?_⟩
      rintro ⟨failure, hv⟩
      cases x with
      | error e => exact h ⟨e, rfl⟩
      | ok tx => cases hv
  | again attempted _ apart _ ih =>
      have nothing := Sight.of_blind fun y hy => isBlind_of_apart (apart y hy)
      rw [Sight.of_append, Sight.of_append, nothing]
      -- the attempts behind this one tell last, unless none of them had a transaction accepted
      rcases ih with none | ⟨tx, found, hg, h⟩
      · rw [none]
        refine (settled_attempt attempted).imp_right ?_
        rintro ⟨tx, found, hg, h⟩
        exact ⟨tx, found, by simp [hg], fun _ => h ⟨_, rfl⟩⟩
      · exact .inr ⟨tx, found, by simp [hg], h⟩

/-! ## Main statement -/

/-- What the chain has of each transaction when so many requests of a trace are answered: nothing, or whether it
succeeded. -/
abbrev History := Nat → Hash → Option Bool

/-- The receipts of a trace are those of a chain, which mines one transaction at each nonce and takes none back. -/
structure Consistent (h : History) (t : List (Exchange WriterInterface)) : Prop where
  answers (before after : List (Exchange WriterInterface)) (tx : Hash) (found : Option Bool) :
    t = before ++ ⟨.chain (.receipt tx), .ok found⟩ :: after → h before.length tx = found
  stays (i j : Nat) (tx : Hash) (success : Bool) : i ≤ j → h i tx = some success → h j tx = some success
  single (i : Nat) (x y : Exchange WriterInterface) (tx tx' : Hash) (nonce : UInt64) : x ∈ t → y ∈ t →
    Accepts x tx nonce → Accepts y tx' nonce → (h i tx).isSome → (h i tx').isSome → tx = tx'

/-- A failed submission looked last for the transaction that was accepted last. That one was not mined with success by
then, unless the look itself failed. -/
theorem failure_misses_only_replaced (s : Signer) (call : BridgeCall) (failure : TransactionError)
    (t before after : List (Exchange WriterInterface)) (o : TransactionOptions) (tx : Hash)
    (hr : (s.submit call).Runs t (done (.error failure)))
    (accepted : t = before ++ ⟨.chain (.send call o), .ok tx⟩ :: after) (last : ∀ y ∈ after, accepted? y = none) :
    ∃ earlier found later, t = earlier ++ ⟨.chain (.receipt tx), found⟩ :: later ∧ (∀ y ∈ later, lookup? y = none) ∧
        ∀ h, Consistent h t → h earlier.length tx ≠ some true ∨ ∃ e, found = .error e := by
  have settled := (course_submitFrom rfl hr).settled
  have accepts : (Sight.of t).accepted = some tx := latest_eq_some.mpr ⟨before, _, after, accepted, rfl, last⟩
  obtain none | ⟨tx', found, hg, unsuccessful⟩ := settled
  · cases accepts.symm.trans (congrArg Sight.accepted none)
  · cases accepts.symm.trans (congrArg Sight.accepted hg)
    obtain ⟨earlier, x, later, ht, hx, none⟩ := latest_eq_some.mp (congrArg Sight.lookup hg)
    cases eq_of_lookup hx
    refine ⟨earlier, found, later, ht, none, fun h consistent => ?_⟩
    cases found with
    | error e => exact .inr ⟨e, rfl⟩
    | ok found =>
        rw [consistent.answers earlier later tx found ht]
        exact .inl fun hf => unsuccessful ⟨failure, rfl⟩ (congrArg _ hf)

/-! ## A sample -/

theorem isBlind_of_asked {pending : UInt64} {x : Exchange WriterInterface} (h : Asked pending x) :
    IsBlind x.request := by
  rcases h with rfl | rfl | rfl <;> trivial

theorem isBlind_of_postponed {c : ErrorClass} {d : Duration} {x : Exchange WriterInterface} (h : x ∈ s.postponed c d) :
    IsBlind x.request := isBlind_of_apart (apart_postpone.runs (runs_postponed s c d) x h)

/-- What happens while a transaction is accepted at nonce zero and then not mined in time. -/
def acceptedUnmined (call : BridgeCall) (o : TransactionOptions) (tx : Hash) : List (Exchange WriterInterface) :=
  ⟨.chain (.send call o), .ok tx⟩ :: ⟨.giveNonce (some 1), ()⟩ :: unmined sampleTwice.confirmation tx

theorem runs_twice_unmined (call : BridgeCall) (tx tx' : Hash) : ∃ first o second o' failure,
    (∀ x ∈ first, IsBlind x.request) ∧ (∀ x ∈ second, IsBlind x.request) ∧ o.nonce = 0 ∧ o'.nonce = 0 ∧
      (sampleTwice.submit call).Runs
        (first ++ acceptedUnmined call o tx ++ (second ++ acceptedUnmined call o' tx')) (done (.error failure)) := by
  obtain ⟨d, hd⟩ : ∃ d, sampleTwice.retry.backoff 0 = .ok d := RetryPolicy.backoff_ok hasDelays_sampleTwice (by decide)
  let late (tx : Hash) : ChainError := .timeout (Confirmation.lateText sampleTwice.confirmation tx)
  let r : RetryRecord := { policy := sampleTwice.retry }
  obtain ⟨u, o, ho, asked, h⟩ := sampleTwice.runs_accepted call 0 none none 0 tx
  obtain ⟨v, o', ho', asked', h'⟩ := sampleTwice.runs_accepted call 1 (some 0) (some 1) 0 tx'
  replace ho : o.nonce = 0 := ho
  replace ho' : o'.nonce = 0 := ho'
  have first := runs_postponed_retry (r := r) (next_timeout _ (by decide) hd) (runs_attempt_unmined (p := {}) h)
  have second := runs_of_decides (r := r.fail (late tx)) (runs_attempt_unmined (p := ⟨1, some 0⟩) h')
    (.inr (Nat.le_refl 2))
  rw [ho, show nextNonce none 0 = 1 by decide] at first
  rw [ho', show nextNonce (some 1) 0 = 1 by decide] at second
  refine ⟨⟨.takeNonce, none⟩ :: u, o, sampleTwice.postponed (.ofError (late tx)) d ++ ⟨.takeNonce, some 1⟩ :: v, o',
    .exhausted call.kind 2 (late tx').message, ?_, ?_, ho, ho', ?_⟩
  · exact List.forall_mem_cons.mpr ⟨trivial, fun x hx => isBlind_of_asked (asked x hx)⟩
  · refine List.forall_mem_append.mpr ⟨fun x => isBlind_of_postponed, ?_⟩
    exact List.forall_mem_cons.mpr ⟨trivial, fun x hx => isBlind_of_asked (asked' x hx)⟩
  · have hr : (sampleTwice.submit call).Runs _ (done (.error (.exhausted call.kind 2 (late tx').message))) :=
      first.trans second
    simpa [acceptedUnmined] using hr

theorem eq_of_lookup_unmined {first : List (Exchange WriterInterface)} {o : TransactionOptions} {tx tx' : Hash}
    {found : Option Bool} (blind : ∀ x ∈ first, IsBlind x.request)
    (h : ⟨.chain (.receipt tx'), .ok found⟩ ∈ first ++ acceptedUnmined call o tx) : tx' = tx ∧ found = none := by
  rcases List.mem_append.mp h with h | h
  · cases blind _ h
  · simp only [acceptedUnmined, unmined, List.mem_cons, List.not_mem_nil, or_false] at h
    rcases h with h | h | h | h | h <;> cases h
    exact ⟨rfl, rfl⟩

theorem not_accepted_unmined {c : Confirmation} {tx : Hash} :
    ∀ y ∈ (⟨.giveNonce (some 1), ()⟩ :: unmined c tx : List (Exchange WriterInterface)), accepted? y = none := by
  simp [unmined, accepted?]

/-- A transaction is mined once so many requests were answered. -/
def minedFrom (n : Nat) (tx : Hash) : History := fun i tx' => if tx' = tx ∧ n ≤ i then some true else none

theorem minedFrom_of_ne {n i : Nat} {tx tx' : Hash} (h : tx' ≠ tx) : minedFrom n tx i tx' = none := by
  simp [minedFrom, h]

/-- The chain can have mined the first transaction as soon as it was given up for the second. -/
theorem consistent_minedFrom {first second : List (Exchange WriterInterface)} {o o' : TransactionOptions}
    {tx tx' : Hash} (blind : ∀ x ∈ first, IsBlind x.request) (blind' : ∀ x ∈ second, IsBlind x.request)
    (ne : tx' ≠ tx) :
    Consistent (minedFrom (first ++ acceptedUnmined call o tx).length tx)
      (first ++ acceptedUnmined call o tx ++ (second ++ acceptedUnmined call o' tx')) where
  answers before after tx'' found ht := by
    have behind (h : ⟨.chain (.receipt tx''), .ok found⟩ ∈ second ++ acceptedUnmined call o' tx') :
        minedFrom (first ++ acceptedUnmined call o tx).length tx before.length tx'' = found := by
      obtain ⟨rfl, rfl⟩ := eq_of_lookup_unmined blind' h
      exact minedFrom_of_ne ne
    -- the look is one of the second attempt, or of the first, when fewer requests were answered
    rcases List.append_eq_append_iff.mp ht with ⟨u, -, hu⟩ | ⟨_ | ⟨x, u⟩, hu, hx⟩
    · exact behind (hu ▸ by simp)
    · exact behind (hx ▸ by simp)
    · cases hx
      have ahead : ⟨.chain (.receipt tx''), .ok found⟩ ∈ first ++ acceptedUnmined call o tx := hu ▸ by simp
      obtain ⟨rfl, rfl⟩ := eq_of_lookup_unmined blind ahead
      simp [minedFrom, hu]
  stays i j tx'' success le hi := by
    simp only [minedFrom] at hi ⊢
    split at hi
    · rename_i h
      rw [if_pos ⟨h.1, Nat.le_trans h.2 le⟩]
      exact hi
    · cases hi
  single i x y tx₁ tx₂ nonce _ _ _ _ h₁ h₂ := by
    have only {tx'' : Hash} (h : (minedFrom (first ++ acceptedUnmined call o tx).length tx i tx'').isSome) :
        tx'' = tx := by
      by_contra hne
      rw [minedFrom_of_ne hne] at h
      cases h
    exact (only h₁).trans (only h₂).symm

theorem runs_replaced_mined (call : BridgeCall) {tx tx' : Hash} (ne : tx' ≠ tx) :
    ∃ t failure h, (sampleTwice.submit call).Runs t (done (.error failure)) ∧ Consistent h t ∧
      (∃ x ∈ t, Accepts x tx 0) ∧
      (∃ before o after, t = before ++ ⟨.chain (.send call o), .ok tx'⟩ :: after ∧ ∀ y ∈ after, accepted? y = none) ∧
      ∃ earlier later, t = earlier ++ ⟨.chain (.receipt tx'), .ok none⟩ :: later ∧ (∀ y ∈ later, lookup? y = none) ∧
        h earlier.length tx = some true := by
  obtain ⟨first, o, second, o', failure, blind, blind', ho, -, hr⟩ := runs_twice_unmined call tx tx'
  refine ⟨_, failure, _, hr, consistent_minedFrom blind blind' ne, ?_, ?_, ?_⟩
  · exact ⟨_, by simp [acceptedUnmined], call, o, rfl, ho⟩
  · exact ⟨first ++ acceptedUnmined call o tx ++ second, o', _, (List.append_assoc ..).symm, not_accepted_unmined⟩
  · refine ⟨first ++ acceptedUnmined call o tx ++ (second ++ [⟨.chain (.send call o'), .ok tx'⟩,
      ⟨.giveNonce (some 1), ()⟩, ⟨.host .now, (0 : Nat)⟩]),
      [⟨.host .now, (sampleTwice.confirmation.timeout.nanos : Nat)⟩], ?_, ?_, ?_⟩
    · simp [acceptedUnmined, unmined]
    · simp [lookup?]
    · simp [minedFrom]

theorem sample_failure_misses_replaced : ∃ t before o after failure h, ∃ earlier found later,
    (sampleTwice.submit sampleVote).Runs t (done (.error failure)) ∧ Consistent h t ∧
      t = before ++ ⟨.chain (.send sampleVote o), .ok (.ofNat 32 2)⟩ :: after ∧ (∀ y ∈ after, accepted? y = none) ∧
      t = earlier ++ ⟨.chain (.receipt (.ofNat 32 2)), found⟩ :: later ∧ (∀ y ∈ later, lookup? y = none) ∧
      (h earlier.length (.ofNat 32 2) ≠ some true ∨ ∃ e, found = .error e) := by
  have ne : (.ofNat 32 2 : Hash) ≠ .ofNat 32 1 := by decide +kernel
  obtain ⟨t, failure, h, hr, consistent, -, ⟨before, o, after, accepted, last⟩, -⟩ := runs_replaced_mined sampleVote ne
  obtain ⟨earlier, found, later, looked, none, missed⟩ :=
    failure_misses_only_replaced sampleTwice sampleVote failure t before after o _ hr accepted last
  exact ⟨t, before, o, after, failure, h, earlier, found, later, hr, consistent, accepted, last, looked, none,
    missed h consistent⟩

/-- The transaction that was replaced is mined after all, and the submission fails. -/
theorem sample_replaced_is_mined : ∃ t failure h earlier later,
    (sampleTwice.submit sampleVote).Runs t (done (.error failure)) ∧ Consistent h t ∧
      (∃ x ∈ t, Accepts x (.ofNat 32 1) 0) ∧ t = earlier ++ ⟨.chain (.receipt (.ofNat 32 2)), .ok none⟩ :: later ∧
      (∀ y ∈ later, lookup? y = none) ∧ h earlier.length (.ofNat 32 1) = some true := by
  have ne : (.ofNat 32 2 : Hash) ≠ .ofNat 32 1 := by decide +kernel
  obtain ⟨t, failure, h, hr, consistent, accepted, -, earlier, later, looked, none, mined⟩ :=
    runs_replaced_mined sampleVote ne
  exact ⟨t, failure, h, earlier, later, hr, consistent, accepted, looked, none, mined⟩

end BridgeRelay.Signer
