import BridgeRelay.Proofs.Program.World
import BridgeRelay.Writer

/-!
# Reads of a writer

Whatever a writer does but for its submissions, it broadcasts nothing. A read that succeeds ends with the answer that
it gives.
-/

namespace BridgeRelay

open Program Destination

/-- Broadcasts a transaction. -/
def WriterRequest.IsBroadcast : WriterRequest → Prop
  | .chain (.send ..) => True
  | _ => False

namespace Writer

/-- What a writer asked and was answered. -/
abbrev Trace : Type := List (Exchange WriterInterface)

variable {w : Writer} {p : Proposal} {α β : Type} {t u v : Trace}

/-- Nothing was broadcast. -/
def Quiet (t : Trace) : Prop := ∀ x ∈ t, ¬ x.request.IsBroadcast

@[simp] theorem quiet_nil : Quiet [] := List.forall_mem_nil _

@[simp] theorem quiet_append : Quiet (u ++ v) ↔ Quiet u ∧ Quiet v := List.forall_mem_append

/-- The world of a program that broadcasts nothing. -/
abbrev quietly : World WriterInterface Trace := .traced fun _ r => ¬ r.IsBroadcast

theorem quiet_of_runs {a : Program WriterInterface α} {q : Program WriterInterface α} {Q : α → Trace → Prop}
    (ha : a.Keeps quietly Q []) (hr : a.Runs t q) : Quiet t := by
  intro x hx
  obtain ⟨u, v, rfl⟩ := List.append_of_mem hx
  exact ha.permits_traced hr

/-- A run that begins with a part that broadcasts nothing. -/
theorem runs_after_quiet {a : Program WriterInterface α} {f : α → Program WriterInterface β}
    {q : Program WriterInterface β} {Q : α → Trace → Prop} (ha : a.Keeps quietly Q []) (hr : (a.bind f).Runs t q) :
    Quiet t ∨ ∃ b u v, t = u ++ v ∧ Quiet u ∧ Q b u ∧ (f b).Runs v q := by
  rcases hr.of_bind with ⟨a', hr, -⟩ | ⟨b, u, v, hu, hv, rfl⟩
  · exact .inl (quiet_of_runs ha hr)
  · exact .inr ⟨b, u, v, rfl, quiet_of_runs ha hu, ha.done_traced hu, hv⟩

theorem quiet_of_done {a : α} {q : Program WriterInterface α} (hr : (done a).Runs t q) : Quiet t :=
  hr.of_done.1 ▸ quiet_nil

theorem keeps_host {r : HostRequest} :
    (Hosted.host r : Program WriterInterface r.Answer).Keeps quietly (fun _ _ => True) t :=
  keeps_ask_watch.mpr ⟨id, fun _ => trivial⟩

/-! ## Repeated reads -/

theorem keeps_readFrom {r : RetryPolicy} {q : Program WriterInterface (Except ChainError α)} {P : α → Trace → Prop}
    (hq : ∀ t, q.Keeps quietly (fun b t' => ∀ a, b = .ok a → P a t') t) (attempt left : Nat) :
    (r.readFrom q attempt left).Keeps quietly (fun b t' => ∀ a, b = .ok a → P a t') t := by
  induction left generalizing attempt t with
  | zero => exact hq t
  | succ left ih =>
      refine keeps_do.mpr ((hq t).mono ?_)
      rintro (e | a) t' h
      · dsimp only
        split
        · refine keeps_do.mpr (keeps_do.mpr ?_)
          cases r.backoff attempt with
          | error fault => exact keeps_ask_watch.mpr ⟨id, fun e : Empty => nomatch e⟩
          | ok d => exact keeps_ask_watch.mpr ⟨id, fun _ => ih (attempt + 1)⟩
        · exact nofun
      · exact h

/-- The last exchange of a trace. -/
def EndsWith (x : Exchange WriterInterface) (t : Trace) : Prop := ∃ u, t = u ++ [x]

theorem keeps_read {q : Program WriterInterface (Except ChainError α)} {P : α → Trace → Prop}
    (hq : ∀ t, q.Keeps quietly (fun b t' => ∀ a, b = .ok a → P a t') t) :
    (w.read q).Keeps quietly (fun b t' => ∀ a, b = .ok a → P a t') t := by
  refine keeps_do.mpr ((keeps_readFrom hq 0 _).mono ?_)
  rintro (e | a) t' h
  · exact nofun
  · rintro _ ⟨⟩
    exact h a rfl

theorem keeps_readHandler {r : ResourceId} : (w.read (query (.handler r))).Keeps quietly
    (fun b t' => ∀ handler, b = .ok handler → EndsWith ⟨.chain (.handler r), .ok handler⟩ t') t :=
  keeps_read fun t => keeps_ask_watch.mpr ⟨id, fun _ _ h => ⟨t, by rw [h]⟩⟩

theorem keeps_readState : (w.readState p).Keeps quietly (fun b t' => ∀ state, b = .ok state →
    EndsWith ⟨.chain (.proposal p.origin p.nonce p.dataHash), .ok state⟩ t') t :=
  keeps_read fun t => keeps_ask_watch.mpr ⟨id, fun _ _ h => ⟨t, by rw [h]⟩⟩

theorem keeps_readVote : (w.readVote p).Keeps quietly (fun b t' => ∀ voted, b = .ok voted →
    EndsWith ⟨.chain (.hasVoted p w.relayer), .ok voted⟩ t') t :=
  keeps_read fun t => keeps_ask_watch.mpr ⟨id, fun _ _ h => ⟨t, by rw [h]⟩⟩

end Writer

end BridgeRelay
