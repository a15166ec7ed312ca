import BridgeRelay.Proofs.Listener.Failures

/-!
# Rounds of a listener

Between the start, where it settles on a checkpoint, and the looks at the chain that may move it, a listener makes
only requests that concern neither a window nor the stored checkpoint. So a world has to be met in the start and in a
single look at the chain. `Rounds` says what of these two makes up a run and its end.
-/

namespace BridgeRelay

open Program

/-- Neither asks for the deposits of a window nor saves a checkpoint. -/
def ListenerRequest.IsAside : ListenerRequest → Prop
  | .chain (.deposits ..) | .store (.save ..) => False
  | _ => True

/-- Reports no error at which a chain has to halt. -/
def ListenerRequest.IsCalm : ListenerRequest → Prop
  | .report r => r.error.isFatal = false
  | _ => True

/-- Is both of these. -/
def ListenerRequest.IsMild : ListenerRequest → Prop
  | .report r => r.error.isFatal = false
  | r => r.IsAside

theorem ListenerRequest.IsMild.aside {r : ListenerRequest} (h : r.IsMild) : r.IsAside := by
  cases r with
  | report r => trivial
  | _ => exact h

theorem ListenerRequest.IsMild.calm {r : ListenerRequest} (h : r.IsMild) : r.IsCalm := by
  cases r with
  | report r => exact h
  | _ => trivial

namespace Listener

variable {l : Listener} {α : Type} {ok : ListenerRequest → Prop}

/-! ## Parts that make no other requests -/

theorem asks_host {r : HostRequest} :
    (Hosted.host r : Program ListenerInterface r.Answer).Asks ListenerRequest.IsMild := ⟨trivial, fun _ => trivial⟩

theorem asks_query {q : SourceQuery} (h : (ListenerRequest.chain q).IsMild) :
    (Source.query q).Asks ListenerRequest.IsMild := ⟨h, fun _ => trivial⟩

theorem asks_delay {failures : Nat} (host : ∀ r : HostRequest, r.IsQuiet → ok (.host r)) : (l.delay failures).Asks ok := by
  unfold delay
  cases l.backoff.backoff failures with
  | ok d => trivial
  | error fault => exact ⟨host (.abort fault) trivial, fun e : Empty => nomatch e⟩

theorem asks_insist {q : Program ListenerInterface (Except ChainError α)}
    (host : ∀ r : HostRequest, r.IsQuiet → ok (.host r)) (h : q.Asks ok) : (l.insist q).Asks ok := by
  refine Asks.iterate fun failures => Asks.bind h fun answer => ?_
  rcases answer with e | a
  · dsimp only
    split
    · refine Asks.bind ⟨host .stopping trivial, fun _ => trivial⟩ fun stopping => ?_
      cases stopping with
      | true => trivial
      | false => exact Asks.bind (asks_delay host) fun d => ⟨host (.sleep d) trivial, fun _ => trivial⟩
    · trivial
  · trivial

theorem asks_send {m : Message} : (l.send m).Asks ListenerRequest.IsMild := by
  refine ⟨trivial, fun answer => ?_⟩
  rcases answer with (d | e) | outcome
  · exact ⟨trivial, fun _ => ⟨rfl, fun _ => trivial⟩⟩
  · have quiet := RelayError.isFatal_ofDelivery e
    dsimp only [done_bind]
    split
    · exact ⟨quiet, fun _ => trivial⟩
    · exact ⟨trivial, fun _ => ⟨quiet, fun _ => trivial⟩⟩
  · cases outcome with
    | interrupted => trivial
    | awaitingThreshold => exact ⟨trivial, fun _ => ⟨rfl, fun _ => trivial⟩⟩
    | _ => exact ⟨trivial, fun _ => trivial⟩

theorem asks_handle {log : DepositLog} : (l.handle log).Asks ListenerRequest.IsMild := by
  unfold handle
  cases Deposit.ofLog log with
  | error f => trivial
  | ok d =>
      refine Asks.bind asks_host fun _ => Asks.bind (asks_insist (fun _ _ => trivial) (asks_query trivial)) fun answer => ?_
      rcases answer with e | handler
      · trivial
      · dsimp only
        cases l.handlers.find? handler with
        | none => exact ⟨trivial, fun _ => ⟨rfl, fun _ => trivial⟩⟩
        | some kind =>
            dsimp only
            cases Payload.decode kind d.data with
            | error f => trivial
            | ok p => exact asks_send

theorem asks_handleAll {logs : List DepositLog} : (l.handleAll logs).Asks ListenerRequest.IsMild := by
  induction logs with
  | nil => trivial
  | cons log logs ih =>
      refine Asks.bind asks_host fun stopping => ?_
      cases stopping with
      | true => trivial
      | false =>
          refine Asks.bind asks_handle fun r => ?_
          rcases r with e | (_ | _)
          · trivial
          · exact ih
          · trivial

theorem asks_start (host : ∀ r : HostRequest, r.IsQuiet → ok (.host r)) (head : ok (.chain .head))
    (load : ∀ key, ok (.store (.load key))) : l.start.Asks ok := by
  unfold start
  split
  · refine Asks.bind (asks_insist host ⟨head, fun _ => trivial⟩) fun answer => ?_
    cases answer <;> trivial
  · split
    · trivial
    · refine Asks.bind ⟨load _, fun loaded => ?_⟩ fun answer => ?_
      · cases loaded <;> trivial
      · cases answer <;> trivial

theorem mild_start : l.start.Asks ListenerRequest.IsMild :=
  asks_start (fun _ _ => trivial) trivial fun _ => trivial

theorem asks_commit {last : Height} (store : ∀ r, ok (.store r))
    (host : ∀ r, ok (.host r)) : (l.commit last).Asks ok := by
  refine Asks.bind (Asks.bind ⟨store _, fun loaded => by cases loaded <;> trivial⟩ fun stored => ?_) fun saved => ?_
  · rcases stored with e | stored
    · trivial
    · dsimp only
      split
      · trivial
      · exact ⟨store _, fun _ => trivial⟩
  · cases saved with
    | error e => trivial
    | ok u => exact ⟨host _, fun _ => trivial⟩

/-- A look at the chain moves the checkpoint, but reports nothing at which the chain has to halt. -/
theorem asks_poll {checkpoint : Height} : (l.poll checkpoint).Asks ListenerRequest.IsCalm := by
  refine ⟨trivial, fun head => ?_⟩
  rcases head with e | head
  · trivial
  · refine ⟨trivial, fun _ => ?_⟩
    dsimp only [done_bind]
    split
    · trivial
    · refine ⟨trivial, fun logs => ?_⟩
      rcases logs with e | logs
      · trivial
      · dsimp only [done_bind]
        refine Asks.bind (asks_handleAll.mono fun _ => ListenerRequest.IsMild.calm) fun r => ?_
        rcases r with e | (_ | _)
        · trivial
        · exact asks_commit (fun _ => trivial) fun _ => trivial
        · trivial

theorem asks_halt {e : RelayError} : (l.halt e).Asks ListenerRequest.IsAside := ⟨trivial, fun _ => trivial⟩

/-! ## From a look at the chain to a run -/

section World

variable {S : Type} {W : World ListenerInterface S} {s : S} {reached : Height → S → Prop}
  {halting : RelayError → S → Prop} {Q : Result Unit → S → Prop}

/-- What holds after the start: of the checkpoint on which it settled, or of the error at which the listener halts. -/
def Started (reached : Height → S → Prop) (halting : RelayError → S → Prop) : Result Height → S → Prop
  | .ok checkpoint, s => reached checkpoint s
  | .error e, s => halting e s

/-- What holds after a look at the chain: of the checkpoint with which a listener goes on, or of the error at which it
halts. -/
def Looked (reached : Height → S → Prop) (halting : RelayError → S → Prop) (checkpoint : Height) :
    Result Poll → S → Prop
  | .ok (.advanced next), s => reached next s
  | .ok _, s => reached checkpoint s
  | .error e, s => if e.isRetryable then reached checkpoint s else halting e s

/-- What is kept up from one look at the chain to the next, and what holds in the end: the listener was to stop, or it
halted. -/
structure Rounds (l : Listener) (W : World ListenerInterface S) (reached : Height → S → Prop)
    (halting : RelayError → S → Prop) (Q : Result Unit → S → Prop) : Prop where
  host (c : Height) (s : S) (r : HostRequest) : r.IsQuiet → reached c s →
    (Hosted.host r : Program ListenerInterface r.Answer).Keeps W (fun _ s => reached c s) s
  stop (c : Height) (s : S) : reached c s → (Host.stopping : Program ListenerInterface Bool).Keeps W
    (fun stopping s => if stopping then Q (.ok ()) s else reached c s) s
  poll (c : Height) (s : S) : reached c s → (l.poll c).Keeps W (Looked reached halting c) s
  halt (e : RelayError) (s : S) : halting e s → (l.halt e).Keeps W Q s

namespace Rounds

variable (h : Rounds l W reached halting Q)
include h

theorem keeps_round {p : Position} (hs : reached p.checkpoint s) :
    (l.round p).Keeps W (fun x s => x.elim (fun p => reached p.checkpoint s) fun r => Q r s) s := by
  refine keeps_do.mpr ((h.stop _ _ hs).mono fun stopping s hs => ?_)
  cases stopping with
  | true => exact hs
  | false =>
      refine keeps_do.mpr ((h.poll _ _ hs).mono ?_)
      rintro (e | (_ | _ | _)) s hs
      · simp only [Looked] at hs
        dsimp only
        split
        · next retryable =>
            refine keeps_do.mpr ((keeps_delay_in (h.host _) ((if_pos retryable).mp hs)).mono fun d s hs => ?_)
            exact keeps_do.mpr (h.host _ _ (.pause d) trivial hs)
        · next final => exact keeps_do.mpr (h.halt _ _ ((if_neg final).mp hs))
      · exact hs
      · exact keeps_do.mpr (h.host _ _ (.pause l.pollInterval) trivial hs)
      · exact hs

/-- What the start settles on is kept up through the rounds. -/
theorem keeps_run (start : l.start.Keeps W (Started reached halting) s) : l.run.Keeps W Q s := by
  refine keeps_do.mpr (start.mono ?_)
  rintro (e | c) s hs
  · exact h.halt e s hs
  · exact Keeps.iterate (fun p s => reached p.checkpoint s) hs fun p s hs => h.keeps_round hs

end Rounds

/-- What holds of the checkpoint with which a listener goes on after a look at the chain. -/
def Polled (reached : Height → S → Prop) (checkpoint : Height) : Result Poll → S → Prop
  | .ok (.advanced next), s => reached next s
  | .ok _, s => reached checkpoint s
  | .error e, s => e.isRetryable → reached checkpoint s

theorem polled_true {c : Height} {r : Result Poll} : Polled (fun _ _ => True) c r s := by
  rcases r with e | (_ | _ | _)
  case error => exact fun _ => trivial
  all_goals trivial

theorem Polled.looked {c : Height} {r : Result Poll} (h : Polled reached c r s) :
    Looked reached (fun _ _ => True) c r s := by
  rcases r with e | (_ | _ | _)
  case error =>
    simp only [Looked]
    split
    · next retryable => exact h retryable
    · trivial
  all_goals exact h

/-- A world in which requests of other kinds are in order and do not disturb what holds of a checkpoint. -/
structure Steady (W : World ListenerInterface S) (reached : Height → S → Prop) : Prop where
  drift (c : Height) (s s' : S) : reached c s → W.drift s s' → reached c s'
  permits (s : S) (r : ListenerRequest) : r.IsAside → W.permits s r
  reply (c : Height) (s : S) (x : Exchange ListenerInterface) (s' : S) :
    x.request.IsAside → reached c s → W.reply s x s' → reached c s'

variable (h : Steady W reached)
include h

theorem Steady.keeps {p : Program ListenerInterface α} {c : Height} (hp : p.Asks ListenerRequest.IsMild)
    (hs : reached c s) : p.Keeps W (fun _ s => reached c s) s :=
  hp.keeps hs (h.drift c) (fun s r hr _ => h.permits s r hr.aside) fun s x s' hx => h.reply c s x s' hx.aside

/-- The rounds in such a world, where nothing is asked of a listener that was to stop. -/
theorem Steady.rounds (hQ : ∀ s, Q (.ok ()) s)
    (poll : ∀ c s, reached c s → (l.poll c).Keeps W (Looked reached halting c) s)
    (halt : ∀ e s, halting e s → (l.halt e).Keeps W Q s) : Rounds l W reached halting Q where
  host c s r _ hs := h.keeps asks_host hs
  stop c s hs := by
    refine (h.keeps asks_host hs).mono fun stopping s hs => ?_
    cases stopping with
    | true => exact hQ s
    | false => exact hs
  poll := poll
  halt := halt

/-- What the start settles on and each look at the chain keeps up, a run has throughout. -/
theorem Steady.keeps_run (start : l.start.Keeps W (fun r s => ∀ c, r = .ok c → reached c s) s)
    (poll : ∀ c s, reached c s → (l.poll c).Keeps W (Polled reached c) s) :
    l.run.Keeps W (fun _ _ => True) s := by
  have halts (e : RelayError) (s : S) : (l.halt e).Keeps W (fun _ _ => True) s :=
    asks_halt.keeps trivial (fun _ _ _ _ => trivial) (fun s r hr _ => h.permits s r hr) fun _ _ _ _ _ _ => trivial
  have rounds : Rounds l W reached (fun _ _ => True) fun _ _ => True :=
    h.rounds (fun _ => trivial) (fun c s hs => (poll c s hs).mono fun _ _ => Polled.looked) fun e s _ => halts e s
  refine rounds.keeps_run (start.mono ?_)
  rintro (e | c) s hs
  · trivial
  · exact hs c rfl

end World

end Listener

end BridgeRelay
