import BridgeRelay.Payload.Codec

/-!
# Reading at positions

Handler data is read here at positions in the whole of it, and each difference and each slice is checked. Main
statement: for no data any of them is out of range, and what is read is what `decode` reads.
-/

namespace BridgeRelay.Payload

variable {α β : Type} {data : Bytes} {c : Cursor}

/-! ## Checked reading -/

/-- What is read, or why nothing is, unless a difference or a slice is out of range. -/
abbrev Checked : Type → Type := ExceptT Fault Option

def difference (a b : Nat) : Option Nat := if b ≤ a then some (a - b) else none

/-- The bytes from one position to another. -/
def slice (data : Bytes) (first last : Nat) : Option Bytes :=
  if first ≤ last ∧ last ≤ data.length then some ((data.drop first).take (last - first)) else none

def takeAt (data : Bytes) (offset needed : Nat) : Checked (Bytes × Nat) := do
  let left ← difference data.length offset
  if left < needed then throw (.truncated offset needed data.length)
  else
    let bytes ← slice data offset (offset + needed)
    return (bytes, offset + needed)

def wordAt (data : Bytes) (offset : Nat) : Checked (Word × Nat) := do
  let (bytes, offset) ← takeAt data offset Word.size
  return (Word.ofBytes bytes, offset)

def bytesAt (data : Bytes) (offset : Nat) : Checked (Bytes × Nat) := do
  let (length, offset) ← wordAt data offset
  if UInt64.size ≤ length.toNat then throw .lengthOverflow else takeAt data offset length.toNat

/-- Metadata that may be missing. -/
def metadataAt (data : Bytes) (offset : Nat) : Checked (Bytes × Nat) := do
  let left ← difference data.length offset
  if left = 0 then return ([], offset) else bytesAt data offset

def readAt (t : TransferType) (data : Bytes) (offset : Nat) : Checked (Payload × Nat) :=
  match t with
  | .fungible => do
      let (amount, offset) ← wordAt data offset
      let (recipient, offset) ← bytesAt data offset
      return (.fungible amount recipient, offset)
  | .nonFungible => do
      let (tokenId, offset) ← wordAt data offset
      let (recipient, offset) ← bytesAt data offset
      let (metadata, offset) ← metadataAt data offset
      return (.nonFungible tokenId recipient metadata, offset)
  | .generic => do
      let (metadata, offset) ← bytesAt data offset
      return (.generic metadata, offset)

/-- Reads data as `decode` does, at positions. -/
def decodeAt (t : TransferType) (data : Bytes) : Checked Payload := do
  let (p, offset) ← readAt t data 0
  let extra ← difference data.length offset
  if extra = 0 then return p else throw (.trailingBytes extra)

/-! ## Positions of cursors -/

/-- What a cursor has left is the data behind its position. -/
structure Cursor.Within (data : Bytes) (c : Cursor) : Prop where
  offset_le : c.offset ≤ data.length
  rest_eq : c.rest = data.drop c.offset

theorem Cursor.Within.length_rest (h : c.Within data) : c.rest.length = data.length - c.offset := by
  rw [h.rest_eq, List.length_drop]

theorem Cursor.Within.difference_eq (h : c.Within data) :
    difference data.length c.offset = some c.rest.length := by
  rw [difference, if_pos h.offset_le, h.length_rest]

/-- Nothing is out of range, the same is read, and the cursor is within the data again. -/
structure Agrees (data : Bytes) (x : Checked (α × Nat)) (y : Except Fault (α × Cursor)) : Prop where
  run_eq : x.run = some (y.map fun r => (r.1, r.2.offset))
  within (a : α) (c : Cursor) : y = .ok (a, c) → c.Within data

theorem Agrees.bind {x : Checked (α × Nat)} {y : Except Fault (α × Cursor)} {f : α × Nat → Checked (β × Nat)}
    {g : α × Cursor → Except Fault (β × Cursor)} (h : Agrees data x y)
    (hf : ∀ a c, c.Within data → Agrees data (f (a, c.offset)) (g (a, c))) : Agrees data (x >>= f) (y >>= g) := by
  obtain ⟨run_eq, within⟩ := h
  cases y with
  | error fault =>
      refine ⟨?_, nofun⟩
      rw [ExceptT.run_bind, run_eq]
      rfl
  | ok r =>
      obtain ⟨a, c⟩ := r
      have next := hf a c (within a c rfl)
      refine ⟨?_, next.within⟩
      rw [ExceptT.run_bind, run_eq]
      exact next.run_eq

theorem Agrees.pure (h : c.Within data) (a : α) : Agrees data (Pure.pure (a, c.offset)) (.ok (a, c)) := by
  refine ⟨rfl, ?_⟩
  rintro _ _ ⟨⟩
  exact h

theorem Agrees.throw (fault : Fault) : Agrees data (MonadExcept.throw fault : Checked (α × Nat)) (.error fault) :=
  ⟨rfl, nofun⟩

/-! ## Reading within bounds -/

theorem agrees_take (h : c.Within data) (needed : Nat) : Agrees data (takeAt data c.offset needed) (c.take needed) := by
  have left := h.length_rest
  have inside := h.offset_le
  have total : c.length = data.length := by
    rw [Cursor.length]
    omega
  have opened : takeAt data c.offset needed = (do
      if c.rest.length < needed then throw (.truncated c.offset needed data.length)
      else
        let bytes ← slice data c.offset (c.offset + needed)
        return (bytes, c.offset + needed)) := by
    rw [takeAt, h.difference_eq]
    rfl
  rw [opened, Cursor.take, total]
  split
  · exact .throw _
  · next enough =>
      have sliced : slice data c.offset (c.offset + needed) = some (c.rest.take needed) := by
        rw [slice, if_pos (by omega), h.rest_eq, Nat.add_sub_cancel_left]
      have within : Cursor.Within data ⟨c.offset + needed, c.rest.drop needed⟩ := by
        refine ⟨(by omega : c.offset + needed ≤ data.length), ?_⟩
        rw [h.rest_eq, List.drop_drop]
      rw [sliced]
      exact Agrees.pure within (c.rest.take needed)

theorem agrees_word (h : c.Within data) : Agrees data (wordAt data c.offset) c.word :=
  (agrees_take h Word.size).bind fun bytes _ hc => .pure hc (Word.ofBytes bytes)

theorem agrees_bytes (h : c.Within data) : Agrees data (bytesAt data c.offset) c.bytes := by
  refine (agrees_word h).bind fun length c hc => ?_
  dsimp only
  split
  · exact .throw _
  · exact agrees_take hc _

/-- Metadata, and what is read behind it. -/
theorem agrees_metadata {f : Bytes × Nat → Checked (β × Nat)} {g : Bytes × Cursor → Except Fault (β × Cursor)}
    (h : c.Within data) (hf : ∀ a c, c.Within data → Agrees data (f (a, c.offset)) (g (a, c))) :
    Agrees data (metadataAt data c.offset >>= f) (if c.rest = [] then g ([], c) else c.bytes >>= g) := by
  have opened : metadataAt data c.offset =
      (if c.rest.length = 0 then Pure.pure ([], c.offset) else bytesAt data c.offset) := by
    rw [metadataAt, h.difference_eq]
    rfl
  rw [opened]
  simp only [List.length_eq_zero_iff]
  split
  · exact (Agrees.pure h []).bind hf
  · exact (agrees_bytes h).bind hf

theorem agrees_read (t : TransferType) (h : c.Within data) : Agrees data (readAt t data c.offset) (read t c) := by
  cases t with
  | fungible =>
      refine (agrees_word h).bind fun amount c h => ?_
      refine (agrees_bytes h).bind fun recipient c h => ?_
      exact .pure h _
  | nonFungible =>
      refine (agrees_word h).bind fun tokenId c h => ?_
      refine (agrees_bytes h).bind fun recipient c h => ?_
      exact agrees_metadata h fun metadata c h => .pure h _
  | generic =>
      refine (agrees_bytes h).bind fun metadata c h => ?_
      exact .pure h _

/-- Whatever the data is, nothing is out of range while it is read. -/
theorem decodeAt_eq (t : TransferType) (data : Bytes) : (decodeAt t data).run = some (decode t data) := by
  have start : Cursor.Within data ⟨0, data⟩ := ⟨Nat.zero_le _, rfl⟩
  obtain ⟨run_eq, within⟩ := agrees_read t start
  rw [decodeAt, ExceptT.run_bind, run_eq, decode]
  cases hr : read t ⟨0, data⟩ with
  | error fault => rfl
  | ok r =>
      obtain ⟨p, c⟩ := r
      have left := (within p c hr).difference_eq
      simp only [Except.map, Option.bind_eq_bind, Option.bind_some, left]
      change (ExceptT.run (if c.rest.length = 0 then _ else _)) = some ((c.finish).bind fun _ => .ok p)
      rw [Cursor.finish]
      simp only [List.length_eq_zero_iff]
      split <;> rfl

end BridgeRelay.Payload
