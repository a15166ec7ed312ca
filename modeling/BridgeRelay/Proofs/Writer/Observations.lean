import BridgeRelay.Devnet.Bridge
import BridgeRelay.Proofs.Signer.Requests
import BridgeRelay.Proofs.Writer.Reads

/-!
# What a writer saw

The records of proposals that a trace shows, and the one that was seen last. A submission reads no record, so what was
seen before it is what was seen last all the way through it.
-/

namespace BridgeRelay

open Program Destination
open Devnet (ProposalKey)

/-- Asks for the record of a proposal. -/
def WriterRequest.IsReading : WriterRequest → Prop
  | .chain (.proposal ..) => True
  | _ => False

namespace Writer

variable {m : Message} {p : Proposal} {k : ProposalKey} {t t' u v : Trace} {x : Exchange WriterInterface}

/-! ## Records -/

/-- The questions for the record of a proposal and their answers, in order. -/
def readings (t : Trace) : List (ProposalKey × Except ChainError ProposalState) := t.filterMap fun
  | ⟨.chain (.proposal origin nonce dataHash), answer⟩ => some (⟨origin, nonce, dataHash⟩, answer)
  | _ => none

/-- The record of a proposal as it was last told. -/
def lastSeen (k : ProposalKey) (t : Trace) : Option ProposalState :=
  ((readings t).filterMap fun reading => if reading.1 = k then reading.2.toOption else none).getLast?

@[simp] theorem readings_nil : readings [] = [] := rfl

@[simp] theorem readings_append : readings (u ++ v) = readings u ++ readings v := by
  simp [readings]

theorem readings_of_forall (h : ∀ x ∈ t, ¬ x.request.IsReading) : readings t = [] := by
  induction t with
  | nil => rfl
  | cons x t ih =>
      obtain ⟨hx, ht⟩ := List.forall_mem_cons.mp h
      obtain ⟨(_ | _ | _ | _ | _ | _ | _ | _ | _) | _ | _ | _ | _ | _, answer⟩ := x
      case chain.proposal => exact absurd trivial hx
      all_goals exact ih ht

/-- A trace that ends with the record of a proposal. -/
theorem readings_of_endsWith {state : ProposalState}
    (h : EndsWith ⟨.chain (.proposal p.origin p.nonce p.dataHash), .ok state⟩ t) :
    ∃ earlier, readings t = earlier ++ [(.of p, .ok state)] := by
  obtain ⟨u, rfl⟩ := h
  exact ⟨readings u, readings_append⟩

theorem lastSeen_of_endsWith {state : ProposalState}
    (h : EndsWith ⟨.chain (.proposal p.origin p.nonce p.dataHash), .ok state⟩ t) :
    lastSeen (.of p) t = some state := by
  obtain ⟨earlier, hr⟩ := readings_of_endsWith h
  simp [lastSeen, hr, Except.toOption]

/-! ## Submissions -/

/-- A trace was continued without a look at a proposal. -/
def Unread (t t' : Trace) : Prop := ∃ u, t' = t ++ u ∧ readings u = []

theorem Unread.refl : Unread t t := ⟨[], (List.append_nil t).symm, rfl⟩

theorem Unread.snoc (h : Unread t t') (hx : ¬ x.request.IsReading) : Unread t (t' ++ [x]) := by
  obtain ⟨u, rfl, hu⟩ := h
  exact ⟨u ++ [x], List.append_assoc .., by simp [hu, readings_of_forall (List.forall_mem_singleton.mpr hx)]⟩

theorem Unread.lastSeen_eq (h : Unread t t') : lastSeen k t' = lastSeen k t := by
  obtain ⟨u, rfl, hu⟩ := h
  simp [lastSeen, hu]

theorem not_isReading_of_submission {call : BridgeCall} {r : WriterRequest} (h : Signer.OfSubmission call r) :
    ¬ r.IsReading := by
  rcases r with (_ | _ | _ | _ | _ | _ | _ | _ | _) | _ | _ | _ | _ | _
  case chain.proposal => exact absurd h id
  all_goals exact id

/-! ## The proposal of a message -/

/-- The proposal of a message: its data is the payload, and its handler the one that the bridge told. -/
def IsProposalOf (m : Message) (t : Trace) (p : Proposal) : Prop :=
  ∃ data handler, Payload.encode m.transferType m.payload = .ok data ∧
    ⟨.chain (.handler m.resource), .ok handler⟩ ∈ t ∧ p = .ofMessage m handler data

theorem IsProposalOf.append (h : IsProposalOf m t p) (u : Trace) : IsProposalOf m (t ++ u) p := by
  obtain ⟨data, handler, hd, hh, hp⟩ := h
  exact ⟨data, handler, hd, List.mem_append_left u hh, hp⟩

theorem Unread.isProposalOf (h : Unread t t') (hp : IsProposalOf m t p) : IsProposalOf m t' p := by
  obtain ⟨u, rfl, -⟩ := h
  exact hp.append u

end Writer

end BridgeRelay
