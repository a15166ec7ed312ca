import BridgeRelay.Proofs.Listener.Handling
import BridgeRelay.Proofs.Listener.Reads
import BridgeRelay.Proofs.Listener.Rounds
import BridgeRelay.Proofs.Window

/-!
# Windows that are scanned

A listener asks for the deposits of a window only at once after it has read the head of the chain, and the window is
the next one at that head.
-/

namespace BridgeRelay.Listener

open Program

variable {l : Listener} {t : Trace}

/-- The trace ends with a look at the head of the chain, and at that head the window is the next. -/
def Due (l : Listener) (t : Trace) (w : Window) : Prop := ∃ before head checkpoint,
  t = before ++ [⟨.chain .head, .ok head⟩, ⟨.host (.record (.latestBlock l.domain head)), ()⟩] ∧
    Window.next? head l.confirmations checkpoint l.maxRange = some w

/-- Only windows that are due are scanned. -/
def ScansDue (l : Listener) (t : Trace) : ListenerRequest → Prop
  | .chain (.deposits first last) => l.Due t ⟨first, last⟩
  | _ => True

theorem scansDue_of_aside (t : Trace) (r : ListenerRequest) (h : r.IsAside) : l.ScansDue t r := by
  rcases r with (_ | ⟨first, last⟩ | _) | r | r | ⟨d, m⟩ | r
  case chain.deposits => exact h.elim
  all_goals trivial

theorem steady_scansDue : Steady (.traced l.ScansDue) fun _ _ => True where
  drift _ _ _ _ _ := trivial
  permits := scansDue_of_aside
  reply _ _ _ _ _ _ _ := trivial

theorem keeps_commit_scansDue {last : Height} : (l.commit last).Keeps (.traced l.ScansDue) (fun _ _ => True) t := by
  have asks : (l.commit last).Asks fun r => ∀ t, l.ScansDue t r :=
    asks_commit (fun _ _ => trivial) fun _ _ => trivial
  exact asks.keeps trivial (fun _ _ _ _ => trivial) (fun t _ hr _ => hr t) fun _ _ _ _ _ _ => trivial

theorem keeps_scan_scansDue {w : Window} (h : l.Due t w) :
    (l.scan w).Keeps (.traced l.ScansDue) (fun _ _ => True) t := by
  refine keeps_do.mpr (keeps_ask_traced.mpr ⟨h, fun logs => ?_⟩)
  rcases logs with e | logs
  · trivial
  · refine keeps_done.mpr (keeps_do.mpr ((steady_scansDue.keeps (c := 0) asks_handleAll trivial).mono ?_))
    rintro (e | (_ | _)) t' -
    · trivial
    · exact keeps_commit_scansDue
    · trivial

theorem keeps_poll_scansDue {checkpoint : Height} :
    (l.poll checkpoint).Keeps (.traced l.ScansDue) (fun _ _ => True) t := by
  refine keeps_do.mpr (keeps_ask_traced.mpr ⟨trivial, fun head => ?_⟩)
  rcases head with e | head
  · trivial
  · simp only [keeps_done, keeps_do, keeps_record]
    refine ⟨trivial, fun _ => ?_⟩
    cases hw : Window.next? head l.confirmations checkpoint l.maxRange with
    | none => trivial
    | some w => exact keeps_scan_scansDue ⟨t, head, checkpoint, List.append_assoc .., hw⟩

theorem due_of_runs {first last : Height} {answer : Except ChainError (List DepositLog)} {u : Trace}
    {q : Program ListenerInterface (Result Unit)}
    (h : l.run.Runs (t ++ ⟨.chain (.deposits first last), answer⟩ :: u) q) : l.Due t ⟨first, last⟩ := by
  have hk : l.run.Keeps (.traced l.ScansDue) (fun _ _ => True) [] :=
    steady_scansDue.keeps_run ((steady_scansDue.keeps (c := 0) mild_start trivial).mono fun _ _ _ _ _ => trivial)
      fun _ _ _ => keeps_poll_scansDue.mono fun _ _ _ => polled_true
  exact hk.permits_traced h

end BridgeRelay.Listener
