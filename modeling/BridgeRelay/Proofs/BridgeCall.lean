import BridgeRelay.BridgeCall
import BridgeRelay.Devnet.Sample
import BridgeRelay.Proofs.Abi.Reading

/-!
# Calls say what the proposal says

The bridge reads from a call exactly the origin, the nonce, the resource and the data of the proposal, in the order of the
function that is called. So two calls of one function have the same bytes exactly if their proposals agree in these
fields, and a vote is never taken for an execution.
-/

namespace BridgeRelay

/-- Two proposals have the same origin, nonce, resource and data. -/
def Proposal.Agrees (p p' : Proposal) : Prop :=
  p.origin = p'.origin ∧ p.nonce = p'.nonce ∧ p.resource = p'.resource ∧ p.data = p'.data

/-! ## Selectors -/

namespace Keccak

/-- What is shorter than a block is hashed in one. -/
theorem toList_hash_of_lt {data : Bytes} (h : data.length < rate) : (hash data).toList =
    (List.range 4).flatMap fun i => laneBytes ((absorb (Vector.replicate 25 0) (pad data)).lane i 0) := by
  have single : absorbAll (Vector.replicate 25 0) data = absorb (Vector.replicate 25 0) (pad data) := by
    rw [absorbAll, dif_pos h]
  rw [hash]
  simp only [single]

end Keccak

namespace BridgeCall

open Abi

variable {p p' : Proposal}

theorem selector_vote : selector voteSignature = [0xc0, 0x33, 0x1b, 0x3e] := by
  rw [selector, Keccak.toList_hash_of_lt (by decide +kernel)]
  decide +kernel

theorem selector_execute : selector executeSignature = [0x20, 0x6a, 0x98, 0xfd] := by
  rw [selector, Keccak.toList_hash_of_lt (by decide +kernel)]
  decide +kernel

/-! ## Reading -/

/-- The types of the arguments of a vote: origin, nonce, resource, data. -/
def voteTypes : List ArgType := [.uint 8, .uint 64, .bytes32, .bytes]

/-- The types of the arguments of an execution: origin, nonce, data, resource, and whether a failure reverts. -/
def executeTypes : List ArgType := [.uint 8, .uint 64, .bytes, .bytes32, .bool]

theorem voteSignature_eq : voteSignature = signature "voteProposal" voteTypes := by decide +kernel

theorem executeSignature_eq : executeSignature = signature "executeProposal" executeTypes := by decide +kernel

theorem calldata_vote (p : Proposal) : (vote p).calldata = call voteSignature (voteItems p) := rfl

theorem calldata_execute (p : Proposal) : (execute p).calldata = call executeSignature (executeItems p) := rfl

theorem argument?_origin (p : Proposal) (items : List Item) :
    argument? (encode (.word (Word.ofNat p.origin.toNat) :: items)) 0 (.uint 8) = some (.uint p.origin.toNat) := by
  have small := p.origin.toNat_lt
  have word : ArgType.uint 8 ≠ .bytes := by decide
  have fits : p.origin.toNat < UInt64.size := Nat.lt_trans small (by decide)
  exact (argument?_word word []).trans (ofWord?_uint small fits)

theorem argument?_nonce (p : Proposal) (origin : Item) (items : List Item) :
    argument? (encode (origin :: .word (Word.ofNat p.nonce.toNat) :: items)) 1 (.uint 64) = some (.uint p.nonce.toNat) :=
  have word : ArgType.uint 64 ≠ .bytes := by decide
  (argument?_word word [origin]).trans (ofWord?_uint p.nonce.toNat_lt p.nonce.toNat_lt)

theorem ofCall?_vote (short : p.data.length < 2 ^ 256) :
    ofCall? "voteProposal" voteTypes (vote p).calldata =
      some [.uint p.origin.toNat, .uint p.nonce.toNat, .bytes32 p.resource.bytes, .bytes p.data] := by
  have resource : argument? (encode (voteItems p)) 2 .bytes32 = some (.bytes32 p.resource.bytes) :=
    (argument?_word (by decide) [_, _]).trans (ofWord?_bytes32 _)
  have data : argument? (encode (voteItems p)) 3 .bytes = some (.bytes p.data) :=
    argument?_bytes [_, _, _] short (by simp [position, tails])
  rw [calldata_vote, voteSignature_eq, ofCall?_call]
  exact arguments?_cons (argument?_origin p _) <| arguments?_cons (argument?_nonce p _ _) <|
    arguments?_cons resource <| arguments?_cons data rfl

theorem ofCall?_execute (short : p.data.length < 2 ^ 256) :
    ofCall? "executeProposal" executeTypes (execute p).calldata =
      some [.uint p.origin.toNat, .uint p.nonce.toNat, .bytes p.data, .bytes32 p.resource.bytes, .bool true] := by
  have data : argument? (encode (executeItems p)) 2 .bytes = some (.bytes p.data) :=
    argument?_bytes [_, _] short (by simp [position, tails])
  have resource : argument? (encode (executeItems p)) 3 .bytes32 = some (.bytes32 p.resource.bytes) :=
    (argument?_word (by decide) [_, _, _]).trans (ofWord?_bytes32 _)
  have reverts : argument? (encode (executeItems p)) 4 .bool = some (.bool true) :=
    argument?_word (by decide) [_, _, _, _]
  rw [calldata_execute, executeSignature_eq, ofCall?_call]
  exact arguments?_cons (argument?_origin p _) <| arguments?_cons (argument?_nonce p _ _) <|
    arguments?_cons data <| arguments?_cons resource <| arguments?_cons reverts rfl

/-! ## Equal calls -/

theorem call_inj {function : String} {items items' : List Item} :
    call function items = call function items' ↔ encode items = encode items' := by
  rw [call, call, List.append_cancel_left_eq]

/-- The words of origin and nonce, with which both calls begin. -/
def frontWords (p : Proposal) : List Word := [Word.ofNat p.origin.toNat, Word.ofNat p.nonce.toNat]

/-- The word of the resource. -/
def resourceWord (p : Proposal) : Word := Word.ofBytes p.resource.bytes.toList

theorem frontWords_inj : frontWords p = frontWords p' ↔ p.origin = p'.origin ∧ p.nonce = p'.nonce := by
  have origin := p.origin.toNat_lt
  have origin' := p'.origin.toNat_lt
  have nonce := p.nonce.toNat_lt
  have nonce' := p'.nonce.toNat_lt
  simp only [frontWords, List.cons.injEq, and_true, ofNat_inj]
  rw [Nat.mod_eq_of_lt (by omega), Nat.mod_eq_of_lt (by omega), Nat.mod_eq_of_lt (by omega),
    Nat.mod_eq_of_lt (by omega), UInt8.toNat_inj, UInt64.toNat_inj]

theorem resourceWord_inj : resourceWord p = resourceWord p' ↔ p.resource = p'.resource := by
  rw [← toBytes_inj, resourceWord, resourceWord, Word.toBytes_ofBytes p.resource.bytes.length_eq,
    Word.toBytes_ofBytes p'.resource.bytes.length_eq]
  obtain ⟨⟨bytes, length⟩⟩ := p.resource
  obtain ⟨⟨bytes', length'⟩⟩ := p'.resource
  simp

theorem voteItems_eq (p : Proposal) :
    voteItems p = (frontWords p ++ [resourceWord p]).map .word ++ .bytes p.data :: [].map .word := rfl

theorem executeItems_eq (p : Proposal) :
    executeItems p = (frontWords p).map .word ++ .bytes p.data :: [resourceWord p, 1].map .word := rfl

theorem calldata_vote_inj : (vote p).calldata = (vote p').calldata ↔ p.Agrees p' := by
  have words : (frontWords p ++ [resourceWord p]).length = (frontWords p' ++ [resourceWord p']).length := rfl
  rw [calldata_vote, calldata_vote, call_inj, voteItems_eq, voteItems_eq, encode_amongWords_inj words rfl,
    ← List.concat_eq_append, ← List.concat_eq_append, List.concat_inj, frontWords_inj, resourceWord_inj, Proposal.Agrees]
  grind

theorem calldata_execute_inj : (execute p).calldata = (execute p').calldata ↔ p.Agrees p' := by
  have front : (frontWords p).length = (frontWords p').length := rfl
  have back : [resourceWord p, 1].length = [resourceWord p', 1].length := rfl
  rw [calldata_execute, calldata_execute, call_inj, executeItems_eq, executeItems_eq,
    encode_amongWords_inj front back, frontWords_inj, List.cons.injEq, resourceWord_inj, Proposal.Agrees]
  grind

/-- The first bytes of a call tell its function. -/
theorem calldata_vote_ne (p p' : Proposal) : (vote p).calldata ≠ (execute p').calldata := by
  intro same
  obtain ⟨selectors, -⟩ := List.append_inj same (by simp)
  rw [selector_vote, selector_execute] at selectors
  revert selectors
  decide

/-- What the bridge reads from the calls on a proposal is the proposal's origin, nonce, resource and data, and for an
execution that a failure reverts. The data may be as long as its length fits into a word. Calls of one function have the
same bytes exactly if their proposals agree, of data of any length, and calls of both functions never have. -/
theorem calldata_faithful (p p' : Proposal) :
    (p.data.length < 2 ^ 256 →
      ofCall? "voteProposal" [.uint 8, .uint 64, .bytes32, .bytes] (vote p).calldata =
        some [.uint p.origin.toNat, .uint p.nonce.toNat, .bytes32 p.resource.bytes, .bytes p.data] ∧
      ofCall? "executeProposal" [.uint 8, .uint 64, .bytes, .bytes32, .bool] (execute p).calldata =
        some [.uint p.origin.toNat, .uint p.nonce.toNat, .bytes p.data, .bytes32 p.resource.bytes, .bool true]) ∧
    ((vote p).calldata = (vote p').calldata ↔ p.Agrees p') ∧
    ((execute p).calldata = (execute p').calldata ↔ p.Agrees p') ∧
    (vote p).calldata ≠ (execute p').calldata :=
  ⟨fun short => ⟨ofCall?_vote short, ofCall?_execute short⟩, calldata_vote_inj, calldata_execute_inj,
    calldata_vote_ne p p'⟩

theorem sample_calldata_faithful :
    (Devnet.sampleProposal 7).data.length < 2 ^ 256 ∧
    ofCall? "executeProposal" executeTypes (execute (Devnet.sampleProposal 7)).calldata =
      some [.uint 1, .uint 7, .bytes (Devnet.samplePayload 1000).layout, .bytes32 Devnet.sampleResource.bytes,
        .bool true] := by
  have short : (Devnet.sampleProposal 7).data.length < 2 ^ 256 := by decide +kernel
  exact ⟨short, ((calldata_faithful (Devnet.sampleProposal 7) (Devnet.sampleProposal 8)).1 short).2⟩

end BridgeCall

end BridgeRelay
