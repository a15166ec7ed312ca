import BridgeRelay.Deposit
import BridgeRelay.Proofs.Abi

/-!
# Deposits that read back

The log of a deposit reads back as that deposit, if a node can hold it.
-/

namespace BridgeRelay

theorem FixedBytes.toNat_lt {size : Nat} (bytes : FixedBytes size) : bytes.toNat < Nat.pow 256 size := by
  have h := ofBigEndian_lt bytes.toList
  rwa [bytes.length_eq] at h

@[simp] theorem FixedBytes.ofNat_toNat {size : Nat} (bytes : FixedBytes size) : ofNat size bytes.toNat = bytes := by
  obtain ⟨bytes, rfl⟩ := bytes
  simp [ofNat, toNat, bigEndian_ofBigEndian]

theorem FixedBytes.toNat_ofNat {size n : Nat} (h : n < Nat.pow 256 size) : (ofNat size n).toNat = n := by
  simp only [ofNat, toNat, ofBigEndian_bigEndian]
  exact Nat.mod_eq_of_lt h

namespace Deposit

/-- The arguments of the deposit are short enough for the memory of a node. -/
def Fits (d : Deposit) : Prop := (Abi.encode d.items).length < UInt64.size

instance : DecidablePred Fits := fun d => inferInstanceAs (Decidable ((Abi.encode d.items).length < UInt64.size))

variable {d : Deposit}

theorem ofBody?_encode (fits : d.Fits) : ofBody? d.user (Abi.encode d.items) = some d := by
  have destination : Abi.word? (Abi.encode d.items) 0 = some (Word.ofNat d.destination.toNat) :=
    Abi.word?_encode []
  have resource : Abi.word? (Abi.encode d.items) 1 = some (Word.ofBytes d.resource.bytes.toList) :=
    Abi.word?_encode [.word _]
  have nonce : Abi.word? (Abi.encode d.items) 2 = some (Word.ofNat d.nonce.toNat) :=
    Abi.word?_encode [.word _, .word _]
  have data : Abi.bytes? (Abi.encode d.items) 3 = some d.data :=
    Abi.bytes?_encode [.word _, .word _, .word _] fits
  have response : Abi.bytes? (Abi.encode d.items) 4 = some d.handlerResponse :=
    Abi.bytes?_encode [.word _, .word _, .word _, .bytes _] fits
  have resourceBytes : FixedBytes.ofNat 32 (Word.ofBytes d.resource.bytes.toList).toNat = d.resource.bytes := by
    have wide : ofBigEndian d.resource.bytes.toList < 2 ^ 256 := d.resource.bytes.toNat_lt
    rw [Word.ofBytes, BitVec.toNat_ofNat, Nat.mod_eq_of_lt wide]
    exact FixedBytes.ofNat_toNat _
  have low : d.destination.toNat < UInt64.size := Nat.lt_trans d.destination.toNat_lt (by decide)
  simp [ofBody?, destination, resource, nonce, data, response, resourceBytes, Word.toNat_ofNat_of_lt low,
    Word.toNat_ofNat_of_lt d.nonce.toNat_lt]

theorem ofLog_toLog (fits : d.Fits) (blockNumber : Option Height) (txHash : Option Hash) (logIndex : Option UInt64) :
    ofLog (d.toLog blockNumber txHash logIndex) = .ok d := by
  have user : d.user.toNat < Nat.pow 256 32 := Nat.lt_trans d.user.toNat_lt (by decide)
  simp [ofLog, toLog, topics, FixedBytes.toNat_ofNat user, ofBody?_encode fits]

end Deposit

end BridgeRelay
