import BridgeRelay.Proofs.Listener.Commit

/-!
# What a listener hands over

A listener hands over only messages of deposits that its chain told, each with the payload that the deposit's data has
for the configured kind of the handler, and each to the destination that the deposit names.
-/

namespace BridgeRelay.Listener

open Program

variable {l : Listener} {log : DepositLog} {m : Message} {t : Trace}

/-! ## Messages of deposits -/

/-- The chain told a log. -/
def Told (log : DepositLog) (t : Trace) : Prop :=
  ∃ first last logs, ⟨.chain (.deposits first last), .ok logs⟩ ∈ t ∧ log ∈ logs

/-- The message of a deposit that the chain told, and where it goes. -/
inductive Owed (l : Listener) (t : Trace) : DomainId → Message → Prop where
  | intro {log : DepositLog} {d : Deposit} {handler : Address} {kind : TransferType} {p : Payload} (told : Told log t)
      (deposit : Deposit.ofLog log = .ok d) (looked : ⟨.chain (.handler d.resource), .ok handler⟩ ∈ t)
      (configured : l.handlers.find? handler = some kind) (read : Payload.decode kind d.data = .ok p) :
      Owed l t d.destination (l.message log d p)

/-- Only what is owed is handed over. -/
def HandsOwed (l : Listener) (t : Trace) : ListenerRequest → Prop
  | .route destination m => l.Owed t destination m
  | _ => True

theorem Told.append (h : Told log t) (u : Trace) : Told log (t ++ u) := by
  obtain ⟨first, last, logs, told, among⟩ := h
  exact ⟨first, last, logs, List.mem_append_left u told, among⟩

/-! ## Parts -/

theorem keeps_send_owed (h : l.Owed t m.destination m) :
    (l.send m).Keeps (.traced l.HandsOwed) (fun _ _ => True) t := by
  refine keeps_do.mpr (keeps_ask_traced.mpr ⟨h, fun answer => ?_⟩)
  rcases answer with (d | e) | outcome
  · simp [HandsOwed, complain]
  · refine keeps_done.mpr ?_
    dsimp only
    split <;> simp [HandsOwed]
  · cases outcome <;> simp [HandsOwed]

theorem keeps_insist_owed {r : ResourceId} (h : Told log t) :
    (l.insist (Source.query (.handler r))).Keeps (.traced l.HandsOwed)
      (fun a t => Told log t ∧ ∀ handler, a = .ok handler → ⟨.chain (.handler r), .ok handler⟩ ∈ t) t := by
  refine keeps_insist (Told log) h (fun _ _ _ => trivial) (fun t r a h => h.append _) ?_ ?_
  · intro t h
    refine keeps_ask_traced.mpr ⟨trivial, fun a => ⟨h.append _, fun handler ha => ⟨h.append _, ?_⟩⟩⟩
    simp [ha]
  · exact fun e t h => ⟨h, nofun⟩

theorem keeps_handle_owed (h : Told log t) : (l.handle log).Keeps (.traced l.HandsOwed) (fun _ _ => True) t := by
  unfold handle
  cases hd : Deposit.ofLog log with
  | error f => trivial
  | ok d =>
      simp only [keeps_do, keeps_record]
      refine ⟨trivial, fun _ => (keeps_insist_owed (h.append _)).mono ?_⟩
      rintro (e | handler) t ⟨told, looked⟩
      · trivial
      · cases hk : l.handlers.find? handler with
        | none => simp [hk, HandsOwed, complain]
        | some kind =>
            cases hp : Payload.decode kind d.data with
            | error f => simp [hk, hp]
            | ok p =>
                simp only [hk, hp]
                exact keeps_send_owed (.intro told hd (looked handler rfl) hk hp)

theorem keeps_handleAll_owed {logs : List DepositLog} (h : ∀ log ∈ logs, Told log t) :
    (l.handleAll logs).Keeps (.traced l.HandsOwed) (fun _ _ => True) t := by
  induction logs generalizing t with
  | nil => trivial
  | cons log logs ih =>
      obtain ⟨first, rest⟩ := List.forall_mem_cons.mp h
      refine keeps_do.mpr (keeps_ask_traced.mpr ⟨trivial, fun stopping => ?_⟩)
      cases stopping with
      | true => trivial
      | false =>
          -- the later logs stay told all the way through the first
          have handled : (l.handle log).Keeps (.traced l.HandsOwed) (fun _ t => True ∧ ∀ log ∈ logs, Told log t)
              (t ++ [⟨.host .stopping, false⟩]) := by
            refine (keeps_handle_owed (first.append _)).and (fun log hl => (rest log hl).append _) ?_ ?_
            · rintro t _ h rfl
              exact h
            · rintro t x _ h - rfl
              exact fun log hl => (h log hl).append _
          refine keeps_do.mpr (handled.mono ?_)
          rintro (e | (_ | _)) t ⟨-, later⟩
          · trivial
          · exact ih later
          · trivial

/-! ## The whole -/

theorem keeps_scan_owed {w : Window} : (l.scan w).Keeps (.traced l.HandsOwed) (fun _ _ => True) t := by
  refine keeps_do.mpr (keeps_ask_traced.mpr ⟨trivial, fun logs => ?_⟩)
  rcases logs with e | logs
  · trivial
  · refine keeps_done.mpr (keeps_do.mpr ((keeps_handleAll_owed ?_).mono ?_))
    · exact fun log hl => ⟨w.first, w.last, logs, by simp, hl⟩
    · rintro (e | (_ | _)) t -
      · trivial
      · have commits : (l.commit w.last).Asks fun r => ∀ t, l.HandsOwed t r :=
          asks_commit (fun _ _ => trivial) fun _ _ => trivial
        exact commits.keeps trivial (fun _ _ _ _ => trivial) (fun t _ hr _ => hr t) fun _ _ _ _ _ _ => trivial
      · trivial

theorem keeps_poll_owed {checkpoint : Height} :
    (l.poll checkpoint).Keeps (.traced l.HandsOwed) (fun _ _ => True) t := by
  refine keeps_do.mpr (keeps_ask_traced.mpr ⟨trivial, fun head => ?_⟩)
  rcases head with e | head
  · trivial
  · simp only [keeps_done, keeps_do, keeps_record]
    refine ⟨trivial, fun _ => ?_⟩
    split
    · trivial
    · exact keeps_scan_owed

theorem keeps_run_owed : l.run.Keeps (.traced l.HandsOwed) (fun _ _ => True) t := by
  have starts : l.start.Asks fun r => ∀ t, l.HandsOwed t r :=
    asks_start (fun _ _ _ => trivial) (fun _ => trivial) fun _ _ => trivial
  have rounds : Rounds l (.traced l.HandsOwed) (fun _ _ => True) (fun _ _ => True) (fun _ _ => True) :=
    { host := fun _ _ _ _ _ => keeps_ask_traced.mpr ⟨trivial, fun _ => trivial⟩
      stop := fun _ _ _ => keeps_ask_traced.mpr ⟨trivial, fun stopping => by cases stopping <;> trivial⟩
      poll := fun _ _ _ => keeps_poll_owed.mono fun _ _ _ => polled_true.looked
      halt := fun _ _ _ => keeps_ask_traced.mpr ⟨trivial, fun _ => trivial⟩ }
  refine rounds.keeps_run ((starts.keeps trivial (fun _ _ _ _ => trivial) (fun t _ hr _ => hr t) fun _ _ _ _ _ _ =>
    trivial).mono ?_)
  rintro (e | c) _ - <;> trivial

/-- Each message that a run hands over is owed when it is handed over. -/
theorem owed_of_runs {x : Exchange ListenerInterface} {u : Trace} {q : Program ListenerInterface (Result Unit)}
    {destination : DomainId} (h : l.run.Runs (t ++ x :: u) q) (hx : x.request = .route destination m) :
    l.Owed t destination m := by
  have owed := keeps_run_owed.permits_traced h
  rw [hx] at owed
  exact owed

end BridgeRelay.Listener
