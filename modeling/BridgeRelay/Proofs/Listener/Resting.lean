import BridgeRelay.Devnet.SourceChain
import BridgeRelay.Proofs.Listener.Deliveries
import BridgeRelay.Proofs.Window

/-!
# Listeners at rest

A listener watches a chain that stands still, and no answer of a writer holds it back. When it pauses it has handed over
the deposits of all confirmed blocks, and its checkpoint is the last of these blocks.
-/

namespace BridgeRelay.Listener

open Program Devnet

variable {l : Listener} {c : SourceChain} {j : Journal} {m : Message} {log : DepositLog} {α : Type}

/-! ## A chain that stands still -/

/-- What a chain answers as long as it stands still. -/
def still (c : SourceChain) : Surroundings := ⟨c.head, c.depositsIn, fun _ => c.handler⟩

/-- The log is of a block that the listener has to scan: not before its start, and deep enough. -/
def Confirmed (l : Listener) (c : SourceChain) (log : DepositLog) : Prop :=
  log ∈ c.logs ∧ ∃ block, log.blockNumber = some block ∧ max 1 l.startBlock.toNat ≤ block.toNat ∧
    block.toNat + l.confirmations.toNat ≤ c.head.toNat

/-- The last block that the listener has to scan, if there is one. -/
def lastConfirmed (l : Listener) (c : SourceChain) : Option Height :=
  if max 1 l.startBlock.toNat + l.confirmations.toNat ≤ c.head.toNat then some (c.head - l.confirmations) else none

/-- All has been done that the chain asks for: the checkpoint is at the last block, and the deposits are handed over. -/
structure AtRest (l : Listener) (c : SourceChain) (j : Journal) : Prop where
  held : j.held (Checkpoint.key l.domain) = (l.lastConfirmed c).map Checkpoint.encode
  sent (log : DepositLog) : l.Confirmed c log → ∃ m, l.Carries (still c) log m ∧ m ∈ j.sent.map Handover.message

/-- No answer of a writer holds the listener back. -/
def Passes : Exchange ListenerInterface → Prop
  | ⟨.route _ _, answer⟩ => ¬ HoldsBack answer
  | _ => True

/-- The world of a listener on a chain that stands still. It pauses only when it is at rest, uses only its own checkpoint,
and hands over only messages of confirmed deposits. -/
def stillWorld (l : Listener) (c : SourceChain) : World ListenerInterface Journal where
  permits j
    | .host (.pause _) => l.AtRest c j
    | .store (.load key) | .store (.save key _) => key = Checkpoint.key l.domain
    | .route d m => d = m.destination ∧ ∃ log, l.Confirmed c log ∧ l.Carries (still c) log m
    | _ => True
  reply j x j' := (still c).Answers j x ∧ Passes x ∧ j' = j.after x

section

variable {Q : α → Journal → Prop} {r : ListenerRequest} {next : ListenerInterface.Answer r → Program ListenerInterface α}

theorem keeps_ask_still (permitted : (l.stillWorld c).permits j r)
    (rest : ∀ a, (still c).Answers j ⟨r, a⟩ → Passes ⟨r, a⟩ → (next a).Keeps (l.stillWorld c) Q (j.after ⟨r, a⟩)) :
    (ask r next).Keeps (l.stillWorld c) Q j := by
  refine keeps_ask.mpr ?_
  rintro _ rfl
  refine ⟨permitted, ?_⟩
  rintro a _ ⟨answered, passes, rfl⟩
  exact rest a answered passes

end

/-! ## Deposits -/

theorem keeps_record_still {u : Metrics.Update} :
    (Host.record u : Program ListenerInterface Unit).Keeps (l.stillWorld c) (fun _ j' => j = j') j :=
  keeps_ask_still trivial fun _ _ _ => rfl

theorem keeps_report_still {r : Report} : (Source.report r).Keeps (l.stillWorld c) (fun _ j' => j = j') j :=
  keeps_ask_still trivial fun _ _ _ => rfl

theorem keeps_handler_still {r : ResourceId} : (l.insist (Source.query (.handler r))).Keeps (l.stillWorld c)
    (fun a j' => a = .ok c.handler ∧ j = j') j := by
  refine .iterate (fun _ j' => j = j') rfl ?_
  rintro failures _ rfl
  refine keeps_do.mpr (keeps_ask_still trivial ?_)
  rintro _ rfl -
  exact ⟨rfl, rfl⟩

/-- What is recorded and reported of a message changes nothing. -/
theorem keeps_noted {Q : α → Journal → Prop} {u : Metrics.Update} {r : Report} {a : α} (h : Q a j) :
    (Host.record u >>= fun _ => Source.report r >>= fun _ => (pure a : Program ListenerInterface α)).Keeps
      (l.stillWorld c) Q j := by
  refine keeps_do.mpr (keeps_record_still.mono ?_)
  rintro _ _ rfl
  refine keeps_do.mpr (keeps_report_still.mono ?_)
  rintro _ _ rfl
  exact h

/-- The message was handed over and not held back. -/
theorem keeps_send_still (confirmed : l.Confirmed c log) (carried : l.Carries (still c) log m) :
    (l.send m).Keeps (l.stillWorld c)
      (fun r j' => r = .ok .handled ∧ ∃ answer, j' = j.send [⟨m.destination, m, answer⟩]) j := by
  refine keeps_do.mpr (keeps_ask_still ⟨rfl, log, confirmed, carried⟩ fun answer _ passes => ?_)
  have handed : ∃ answer', j.after ⟨.route m.destination m, answer⟩ = j.send [⟨m.destination, m, answer'⟩] := ⟨answer, rfl⟩
  rcases answer with (d | e) | outcome
  · exact keeps_noted ⟨rfl, handed⟩
  · rcases e with e | r | (_ | _) | (text | text | _ | _)
    case read.rpc | read.timeout => exact absurd trivial passes
    all_goals exact keeps_noted ⟨rfl, handed⟩
  · cases outcome with
    | interrupted => exact absurd trivial passes
    | awaitingThreshold => exact keeps_noted ⟨rfl, handed⟩
    | executed | alreadyFinal =>
        refine keeps_do.mpr (keeps_record_still.mono ?_)
        rintro _ _ rfl
        exact ⟨rfl, handed⟩

theorem keeps_handle_still (confirmed : l.Confirmed c log) (carried : l.Carries (still c) log m) :
    (l.handle log).Keeps (l.stillWorld c)
      (fun r j' => r = .ok .handled ∧ ∃ answer, j' = j.send [⟨m.destination, m, answer⟩]) j := by
  obtain ⟨d, kind, p, hd, hk, hp, rfl⟩ := carried
  unfold handle
  rw [hd]
  refine keeps_do.mpr (keeps_record_still.mono ?_)
  rintro _ _ rfl
  refine keeps_do.mpr (keeps_handler_still.mono ?_)
  rintro _ _ ⟨rfl, rfl⟩
  have hk' : l.handlers.find? c.handler = some kind := hk
  simp only [hk', hp]
  exact keeps_send_still confirmed ⟨d, kind, p, hd, hk, hp, rfl⟩

/-- The messages of the logs are among those that were handed over. -/
def Handed (l : Listener) (c : SourceChain) (logs : List DepositLog) (sent : List Handover) : Prop :=
  ∀ log ∈ logs, ∃ m, l.Carries (still c) log m ∧ m ∈ sent.map Handover.message

theorem keeps_handleAll_still {logs : List DepositLog}
    (h : ∀ log ∈ logs, l.Confirmed c log ∧ ∃ m, l.Carries (still c) log m) :
    (l.handleAll logs).Keeps (l.stillWorld c)
      (fun r j' => r = .ok .handled ∧ ∃ sent, j' = j.send sent ∧ l.Handed c logs sent) j := by
  induction logs generalizing j with
  | nil => exact ⟨rfl, [], by simp, by simp [Handed]⟩
  | cons log logs ih =>
      obtain ⟨⟨confirmed, m, carried⟩, later⟩ := List.forall_mem_cons.mp h
      refine keeps_do.mpr (keeps_ask_still trivial ?_)
      rintro _ rfl -
      refine keeps_do.mpr ((keeps_handle_still confirmed carried).mono ?_)
      rintro _ _ ⟨rfl, answer, rfl⟩
      refine (ih later).mono ?_
      rintro _ _ ⟨rfl, sent, rfl, handed⟩
      refine ⟨rfl, _, Journal.send_send .., List.forall_mem_cons.mpr ⟨⟨m, carried, by simp⟩, fun log hl => ?_⟩⟩
      obtain ⟨m', carried', hm⟩ := handed log hl
      exact ⟨m', carried', by simpa using .inr (by simpa using hm)⟩

/-! ## Windows -/

/-- Where the listener begins: right before the first block that it scans. -/
abbrev origin (l : Listener) : Height := Window.subHeight l.startBlock 1

theorem toNat_origin (l : Listener) : l.origin.toNat + 1 = max 1 l.startBlock.toNat := by
  rw [Window.toNat_subHeight, UInt64.toNat_one]
  omega

/-- How far the listener has come when it looks at the chain. -/
structure Scanned (l : Listener) (c : SourceChain) (checkpoint : Height) (j : Journal) : Prop where
  held : checkpoint = l.origin ∧ j.held (Checkpoint.key l.domain) = none ∨
    l.origin.toNat < checkpoint.toNat ∧ checkpoint.toNat + l.confirmations.toNat ≤ c.head.toNat ∧
      j.held (Checkpoint.key l.domain) = some (Checkpoint.encode checkpoint)
  sent (log : DepositLog) (block : Height) : log ∈ c.logs → log.blockNumber = some block →
    l.origin.toNat < block.toNat → block.toNat ≤ checkpoint.toNat →
    ∃ m, l.Carries (still c) log m ∧ m ∈ j.sent.map Handover.message

variable {checkpoint : Height} {w : Window}

/-- When there is no window left, the listener is at rest. -/
theorem Scanned.atRest (h : l.Scanned c checkpoint j)
    (done : Window.next? c.head l.confirmations checkpoint l.maxRange = none) : l.AtRest c j := by
  have origin := l.toNat_origin
  have reached : c.head.toNat ≤ checkpoint.toNat + l.confirmations.toNat := by
    have ends := Window.map_ends_next? c.head l.confirmations checkpoint l.maxRange
    rw [done, Window.ideal?] at ends
    split at ends
    · omega
    · cases ends
  refine ⟨?_, ?_⟩
  · unfold lastConfirmed
    obtain ⟨rfl, held⟩ | ⟨begun, deep, held⟩ := h.held
    · rw [if_neg (by omega), held]
      rfl
    · have last : c.head - l.confirmations = checkpoint := by
        apply UInt64.toNat_inj.mp
        rw [UInt64.toNat_sub_of_le _ _ (UInt64.le_iff_toNat_le.mpr (by omega))]
        omega
      rw [if_pos (by omega), held, last]
      rfl
  · rintro log ⟨hl, block, hb, first, deep⟩
    exact h.sent log block hl hb (by omega) (by omega)

theorem Scanned.origin_le (h : l.Scanned c checkpoint j) : l.origin.toNat ≤ checkpoint.toNat := by
  obtain ⟨rfl, -⟩ | ⟨begun, -⟩ := h.held
  · exact le_rfl
  · exact begun.le

/-- The deposits of the next window are confirmed. -/
theorem Scanned.confirmed (h : l.Scanned c checkpoint j)
    (window : Window.next? c.head l.confirmations checkpoint l.maxRange = some w)
    (hl : log ∈ c.depositsIn w.first w.last) : l.Confirmed c log := by
  obtain ⟨among, within⟩ := List.mem_filter.mp hl
  obtain ⟨block, hb⟩ : ∃ block, log.blockNumber = some block := by
    cases hb : log.blockNumber with
    | none => simp [hb] at within
    | some block => exact ⟨block, rfl⟩
  simp only [hb, Option.any_some, Bool.and_eq_true, decide_eq_true_eq, UInt64.le_iff_toNat_le] at within
  have begun := (Window.next?_follows window).1
  have deep := Window.next?_confirmed window
  have origin := l.toNat_origin
  have := h.origin_le
  exact ⟨among, block, hb, by omega, by omega⟩

/-- A window that was handed over and whose end is stored belongs to what is scanned. -/
theorem Scanned.commit {sent : List Handover} (h : l.Scanned c checkpoint j)
    (window : Window.next? c.head l.confirmations checkpoint l.maxRange = some w)
    (handed : l.Handed c (c.depositsIn w.first w.last) sent) : l.Scanned c w.last
      ((j.send sent).after ⟨.store (.save (Checkpoint.key l.domain) (Checkpoint.encode w.last)), .ok ()⟩) := by
  obtain ⟨begun, some⟩ := Window.next?_follows window
  have span := UInt64.le_iff_toNat_le.mp some
  have := h.origin_le
  refine ⟨.inr ⟨by omega, Window.next?_confirmed window, ?_⟩, fun log block hl hb first last => ?_⟩
  · simp [Journal.after, Journal.send]
  · by_cases earlier : block.toNat ≤ checkpoint.toNat
    · obtain ⟨m, carried, hm⟩ := h.sent log block hl hb first earlier
      exact ⟨m, carried, by simpa [Journal.after, Journal.send] using .inl (by simpa using hm)⟩
    · have within : log ∈ c.depositsIn w.first w.last := by
        refine List.mem_filter.mpr ⟨hl, ?_⟩
        simp only [hb, Option.any_some, Bool.and_eq_true, decide_eq_true_eq, UInt64.le_iff_toNat_le]
        omega
      obtain ⟨m, carried, hm⟩ := handed log within
      exact ⟨m, carried, by simpa [Journal.after, Journal.send] using .inr (by simpa using hm)⟩

/-- With an empty store nothing is scanned before the origin. -/
theorem scanned_of_empty (empty : j.held (Checkpoint.key l.domain) = none) : l.Scanned c (max 0 l.origin) j := by
  have begun : max 0 l.origin = l.origin := by
    apply UInt64.toNat_inj.mp
    rw [UInt64.toNat_max, UInt64.toNat_zero]
    omega
  rw [begun]
  refine ⟨.inl ⟨rfl, empty⟩, fun _ _ _ _ first last => ?_⟩
  omega

/-- What is stored can be read, and is not ahead of what is scanned. -/
theorem Scanned.stored (h : l.Scanned c checkpoint j) :
    ∃ stored, Checkpoint.decode l.domain (j.held (Checkpoint.key l.domain)) = .ok stored ∧ stored ≤ checkpoint := by
  obtain ⟨-, held⟩ | ⟨-, -, held⟩ := h.held
  · exact ⟨0, by rw [held]; rfl, UInt64.zero_le⟩
  · exact ⟨checkpoint, by rw [held, Checkpoint.decode_encode], Std.le_refl _⟩

/-- What is stored is behind the next window. -/
theorem Scanned.ahead (h : l.Scanned c checkpoint j)
    (window : Window.next? c.head l.confirmations checkpoint l.maxRange = some w) :
    ∃ stored, Checkpoint.decode l.domain (j.held (Checkpoint.key l.domain)) = .ok stored ∧ stored ≤ w.last := by
  obtain ⟨stored, held, behind⟩ := h.stored
  exact ⟨stored, held, Std.le_trans behind (Std.le_of_lt (Window.next?_follows window).lt)⟩

theorem keeps_get_still : (Checkpoint.get l.domain : Program ListenerInterface (Except StoreError Height)).Keeps
    (l.stillWorld c) (fun a j' => a = Checkpoint.decode l.domain (j.held (Checkpoint.key l.domain)) ∧ j = j') j := by
  refine keeps_do.mpr (keeps_ask_still rfl ?_)
  rintro _ rfl -
  exact ⟨rfl, rfl⟩

theorem keeps_commit_still {last stored : Height}
    (held : Checkpoint.decode l.domain (j.held (Checkpoint.key l.domain)) = .ok stored) (ahead : stored ≤ last) :
    (l.commit last).Keeps (l.stillWorld c) (fun r j' => r = .ok (.advanced last) ∧
      j' = j.after ⟨.store (.save (Checkpoint.key l.domain) (Checkpoint.encode last)), .ok ()⟩) j := by
  refine keeps_do.mpr (keeps_do.mpr (keeps_get_still.mono ?_))
  rintro _ _ ⟨rfl, rfl⟩
  rw [held]
  dsimp only
  rw [if_neg (UInt64.not_lt.mpr ahead)]
  refine keeps_ask_still rfl ?_
  rintro _ rfl -
  refine keeps_do.mpr (keeps_record_still.mono ?_)
  rintro _ _ rfl
  exact ⟨rfl, rfl⟩

/-- A look at the chain moves the checkpoint, or finds that there is nothing left to do. -/
theorem keeps_poll_still (carried : ∀ log ∈ c.logs, ∃ m, l.Carries (still c) log m) (h : l.Scanned c checkpoint j) :
    (l.poll checkpoint).Keeps (l.stillWorld c) (fun r j' =>
      r = .ok .idle ∧ l.Scanned c checkpoint j' ∧ l.AtRest c j' ∨
        ∃ next, r = .ok (.advanced next) ∧ checkpoint < next ∧ l.Scanned c next j') j := by
  refine keeps_do.mpr (keeps_ask_still trivial ?_)
  rintro _ rfl -
  refine keeps_do.mpr (keeps_record_still.mono ?_)
  rintro _ _ rfl
  cases window : Window.next? c.head l.confirmations checkpoint l.maxRange with
  | none =>
      simp only [still, window]
      exact .inl ⟨rfl, h, h.atRest window⟩
  | some w =>
      simp only [still, window]
      refine keeps_do.mpr (keeps_ask_still trivial ?_)
      rintro _ rfl -
      have due : ∀ log ∈ c.depositsIn w.first w.last, l.Confirmed c log ∧ ∃ m, l.Carries (still c) log m :=
        fun log hl => ⟨h.confirmed window hl, carried log (List.mem_filter.mp hl).1⟩
      refine keeps_do.mpr ((keeps_handleAll_still due).mono ?_)
      rintro _ _ ⟨rfl, sent, rfl, handed⟩
      obtain ⟨stored, held, ahead⟩ := h.ahead window
      refine (keeps_commit_still (j := j.send sent) held ahead).mono ?_
      rintro _ _ ⟨rfl, rfl⟩
      exact .inr ⟨w.last, rfl, (Window.next?_follows window).lt, h.commit window handed⟩

/-! ## The whole -/

theorem keeps_round_still {p : Position} (carried : ∀ log ∈ c.logs, ∃ m, l.Carries (still c) log m)
    (h : l.Scanned c p.checkpoint j) : (l.round p).Keeps (l.stillWorld c)
      (fun x j => x.elim (fun p => l.Scanned c p.checkpoint j) fun _ => False) j := by
  refine keeps_do.mpr (keeps_ask_still trivial ?_)
  rintro _ rfl -
  refine keeps_do.mpr ((keeps_poll_still carried h).mono ?_)
  rintro _ j' (⟨rfl, scanned, rest⟩ | ⟨next, rfl, -, scanned⟩)
  · exact keeps_do.mpr (keeps_ask_still rest fun _ _ _ => scanned)
  · exact scanned

/-- From an empty store on, a listener keeps to the world of a chain that stands still: it pauses only at rest, and does
not end. -/
theorem keeps_run_still (fresh : l.freshStart = false) (latest : l.latestBlock = false)
    (carried : ∀ log ∈ c.logs, ∃ m, l.Carries (still c) log m) (empty : j.held (Checkpoint.key l.domain) = none) :
    l.run.Keeps (l.stillWorld c) (fun _ _ => False) j := by
  refine keeps_do.mpr ?_
  unfold start
  simp only [fresh, latest, Bool.false_eq_true, if_false]
  refine keeps_do.mpr (keeps_get_still.mono ?_)
  rintro _ _ ⟨rfl, rfl⟩
  rw [empty]
  exact keeps_pure.mpr (Keeps.iterate (fun p j => l.Scanned c p.checkpoint j) (scanned_of_empty empty) fun p j h =>
    keeps_round_still carried h)

end BridgeRelay.Listener
