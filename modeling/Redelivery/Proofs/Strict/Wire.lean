import Redelivery.Proofs.Wire.Grammar
import Redelivery.Pool

/-!
# Reading and writing without safety nets

How datagrams are written and read once more, word by word. A *strict* operation has no result where
a word does not fit into the rest of the buffer, a number does not fit into its field, or a byte is
asked for that is not there. A strict operation that writes has no result either where the plain one
reports an error.

## Main definitions

* `Header.Strict.write`, `Segment.Strict.write`, `Frame.Strict.stamp`: writing.
* `Frame.Strict.payloadLength`: reading a frame. Segments are read by `Segment.decodeEach?`.
* `Buffer.Strict.load`, `Buffer.Strict.receive`: buffers whose old bytes show when they are made
  longer, until they are overwritten.
* `Pool.Strict.compose`, `Pool.Strict.intake`: buffers from the pool in use.

## Main statements

* `Header.Strict.write_eq`, `Segment.Strict.write_eq`, `Frame.Strict.stamp_eq`,
  `Pool.Strict.compose_eq`: whatever is written without an error is written strictly.
* `Frame.Strict.payloadLength_eq`, `Pool.Strict.intake_eq`: reading always has a result.

Writing and reading are treated differently. Whether a datagram fits is decided elsewhere, so that a
strict operation that writes has a result *if* the plain one does, and that one is shown to in
`Stream.dataDatagram_eq_ok`. What is read comes from anybody, so that reading has a result without a
hypothesis: each access is behind a check of the length that covers it, and the equations say which.

A buffer from the pool has its old bytes in it. The strict operations keep these in sight;
`Buffer.Strict.receive_eq` and `Pool.Strict.compose_eq` say that none of them is left in what comes
out.
-/

namespace Redelivery

/-! ## Buffers -/

/-- The buffer after `message` was copied to its front. There is no result if the buffer is too
short for it. -/
def Bytes.Strict.overwrite (buffer message : Bytes) : Option Bytes :=
  if message.length ≤ buffer.length then some (buffer.overwrite message) else none

theorem Bytes.Strict.overwrite_eq {buffer message : Bytes} (h : message.length ≤ buffer.length) :
    overwrite buffer message = some (buffer.overwrite message) :=
  if_pos h

namespace Buffer

theorem append?_append (b : Buffer) (x y : Bytes) :
    (b.append? x).bind (·.append? y) = b.append? (x ++ y) := by
  by_cases hx : x.length ≤ b.room
  · have hroom : (b.spare.drop x.length).length = b.room - x.length := List.length_drop
    by_cases hy : y.length ≤ b.room - x.length
    · have hxy : (x ++ y).length ≤ b.room := by rw [List.length_append]; omega
      simp only [append?, dif_pos hx, dif_pos hxy, Option.bind_some]
      rw [dif_pos (by rw [room, hroom]; exact hy)]
      simp only [List.append_assoc, List.drop_drop, List.length_append]
    · have hxy : ¬ (x ++ y).length ≤ b.room := by rw [List.length_append]; omega
      simp only [append?, dif_pos hx, dif_neg hxy, Option.bind_some]
      exact dif_neg (by rw [room, hroom]; exact hy)
  · have hxy : ¬ (x ++ y).length ≤ b.room := by rw [List.length_append]; omega
    simp only [append?, dif_neg hx, dif_neg hxy, Option.bind_none]

/-- What fits into an empty buffer may be appended to it or loaded, which is the same. -/
theorem append?_eq_load {b : Buffer} {bytes : Bytes} (hempty : b.content = [])
    (hlen : bytes.length ≤ b.capacity) : b.append? bytes = some (b.load bytes) := by
  have hroom := b.length_add_room
  rw [hempty, List.length_nil, Nat.zero_add] at hroom
  unfold append? load
  rw [dif_pos (by omega)]
  simp only [Buffer.bytes, hempty, List.nil_append, List.take_of_length_le hlen]

/-- The buffer with `bytes` as its content: it is made as long as these, and they are copied. -/
def Strict.load (b : Buffer) (bytes : Bytes) : Option Buffer := do
  let sized ← b.resize? bytes.length
  let (loaded, _) ← sized.copyFrom? bytes
  some loaded

theorem Strict.load_eq {b : Buffer} {bytes : Bytes} (h : bytes.length ≤ b.capacity) :
    Strict.load b bytes = some (b.load bytes) := by
  have hlen : (b.bytes.take bytes.length).length = bytes.length := by
    rw [List.length_take_of_le (by rwa [b.length_bytes])]
  unfold Strict.load resize? copyFrom? Buffer.load
  rw [dif_pos h]
  simp only [Option.bind_eq_bind, Option.bind_some, hlen, Nat.le_refl, dite_true,
    List.take_of_length_le h, List.take_length]

/-- The socket fills a buffer: all bytes of it are shown, the first ones are overwritten by those of
the datagram, and the buffer is cut behind these. -/
def Strict.receive (b : Buffer) (raw : Bytes) : Option Buffer := do
  let shown := b.fill
  let bytes ← Bytes.Strict.overwrite shown.content (raw.take b.capacity)
  let (filled, _) ← shown.copyFrom? bytes
  filled.resize? (raw.take b.capacity).length

/-- **A buffer that the socket has filled shows the datagram**, as far as it goes in, and none of the
bytes that were there before. -/
theorem Strict.receive_eq (b : Buffer) (raw : Bytes) :
    receive b raw = some (b.load raw) := by
  have hbytes := b.length_bytes
  have hfits : (raw.take b.capacity).length ≤ b.bytes.length := by
    rw [hbytes]
    exact List.length_take_le _ _
  have hlength : b.bytes.length = (b.bytes.overwrite (raw.take b.capacity)).length := by
    unfold Bytes.overwrite
    rw [List.length_append, List.length_drop]
    omega
  -- the old bytes are there once more, but behind the datagram
  obtain ⟨filled, hcopy, hfilled, hcapacity⟩ : ∃ filled : Buffer,
      b.fill.copyFrom? (b.bytes.overwrite (raw.take b.capacity))
          = some (filled, (b.bytes.overwrite (raw.take b.capacity)).drop b.bytes.length)
        ∧ filled.bytes = raw.take b.capacity ++ b.bytes.drop (raw.take b.capacity).length
        ∧ filled.capacity = b.capacity := by
    refine ⟨_, dif_pos (Nat.le_of_eq hlength), ?_, rfl⟩
    show (b.bytes.overwrite _).take b.bytes.length ++ [] = _
    rw [hlength, List.take_length, List.append_nil]
    rfl
  unfold receive resize? Buffer.load
  simp only [content_fill, Bytes.Strict.overwrite_eq hfits, hcopy, hfilled, hcapacity,
    Option.bind_eq_bind, Option.bind_some, List.take_left, List.drop_left]
  exact dif_pos (hbytes ▸ hfits)

/-- Of the sevens that are shown at first, none is left. -/
example : (Buffer.Strict.receive ⟨[], [7, 7, 7], 3, rfl⟩ [1]).map Buffer.content = some [1] := by
  decide

end Buffer

/-! ## Writing -/

/-- Appends a header word by word. -/
def Header.Strict.write (h : Header) (b : Buffer) : Option Buffer :=
  if b.room < h.size then
    none
  else do
    let b ← b.append? [Frame.protocolId]
    let b ← b.append? [h.code]
    match h with
    | .ack next received => do
      let b ← b.append? (Bytes.ofUInt32 next.raw)
      b.append? (Bytes.ofUInt32 received)
    | _ => some b

theorem Header.Strict.write_eq {h : Header} {b b' : Buffer} (hw : h.write b = .ok b') :
    write h b = some b' := by
  have happend : b.append? h.encode = some b' := by
    unfold Header.write at hw
    split at hw
    · rename_i written heq
      cases hw
      exact heq
    · cases hw
  have hroom := (Buffer.extends_of_append? happend).room
  rw [length_encode] at hroom
  unfold write
  rw [if_neg (by omega), ← happend]
  -- all words of the header together are its bytes
  cases h with
  | ack next received =>
    have hencode : encode (ack next received) = [Frame.protocolId] ++ ([code (ack next received)]
        ++ (Bytes.ofUInt32 next.raw ++ Bytes.ofUInt32 received)) := rfl
    simp only [hencode, ← Buffer.append?_append, Option.bind_eq_bind]
  | data | dial | dialAck =>
    refine Eq.trans ?_ (Buffer.append?_append b [Frame.protocolId] [_])
    simp only [Option.bind_eq_bind, Option.bind_fun_some]

/-- Appends a segment word by word. There is no result either if the size of its body does not fit
into the size field. -/
def Segment.Strict.write (s : Segment Bytes) (b : Buffer) : Option Buffer :=
  if b.room < s.size then
    none
  else do
    let b ← b.append? (Bytes.ofUInt32 s.seq.raw)
    let size ← Word.narrow16? s.body.length
    let b ← b.append? (Bytes.ofUInt16 size)
    let b ← b.append? [if s.more then 1 else 0]
    b.append? s.body

theorem Segment.Strict.write_eq {s : Segment Bytes} {b b' : Buffer} (hw : s.write b = .ok b') :
    write s b = some b' := by
  unfold Segment.write at hw
  split at hw
  · cases hw
  · rename_i hroom
    split at hw
    · rename_i size written hsize happend
      cases hw
      have hword : size = UInt16.ofNat s.body.length :=
        (Option.some.inj (Option.ite_none_right_eq_some.mp hsize).2.symm)
      have hencode : s.encode = Bytes.ofUInt32 s.seq.raw ++ (Bytes.ofUInt16 size
          ++ ([if s.more then 1 else 0] ++ s.body)) := by
        rw [hword, encode, List.append_assoc]
        rfl
      unfold write
      rw [if_neg hroom, ← happend, hsize, hencode]
      simp only [← Buffer.append?_append, Option.bind_eq_bind, Option.bind_some]
    · cases hw

/-- Appends segments, one behind the other. -/
def Segment.Strict.writeAll (segments : List (Segment Bytes)) (b : Buffer) : Option Buffer :=
  segments.foldlM (fun b s => write s b) b

theorem Segment.Strict.writeAll_eq {segments : List (Segment Bytes)} {b b' : Buffer}
    (hw : Segment.writeAll segments b = .ok b') : writeAll segments b = some b' := by
  induction segments generalizing b with
  | nil =>
    cases hw
    rfl
  | cons s rest ih =>
    change (s.write b).bind (Segment.writeAll rest) = .ok b' at hw
    show (write s b).bind (writeAll rest) = some b'
    cases hs : s.write b with
    | error e =>
      rw [hs] at hw
      cases hw
    | ok mid =>
      rw [hs] at hw
      rw [write_eq hs]
      exact ih hw

/-- Appends the checksum. -/
def Frame.Strict.stamp (b : Buffer) : Option Buffer :=
  if b.room < checksumLength then none else b.append? (Bytes.ofUInt32 (checksum b.content))

theorem Frame.Strict.stamp_eq {b b' : Buffer} (h : Frame.stamp b = .ok b') :
    stamp b = some b' := by
  have hroom := (extends_of_stamp h).room
  rw [Bytes.length_ofUInt32] at hroom
  unfold Frame.stamp at h
  split at h
  · rename_i stamped happend
    cases h
    unfold stamp
    rw [if_neg (by rw [checksumLength]; omega), happend]
  · cases h

/-! ## Reading -/

/-- The length of a datagram's payload, if the datagram is valid. The first byte and the four last
ones are read without a look at whether they are there. -/
def Frame.Strict.payloadLength (datagram : Bytes) : Option (Option Nat) :=
  if datagram.length < minPayloadLength + checksumLength then
    some none
  else do
    let first ← datagram[0]?
    if first ≠ protocolId then
      some none
    else
      let length := datagram.length - checksumLength
      match ← Bytes.takeUInt32? (datagram.drop length) with
      | (received, []) =>
        some (if received ≠ checksum (datagram.take length) then none else some length)
      | _ => none

/-- **A frame is read without a look past its end.** -/
theorem Frame.Strict.payloadLength_eq (datagram : Bytes) :
    payloadLength datagram = some (payloadLength? datagram) := by
  unfold payloadLength payloadLength?
  by_cases hshort : datagram.length < minPayloadLength + checksumLength
  · rw [if_pos hshort, if_pos hshort]
  rw [if_neg hshort, if_neg hshort]
  obtain ⟨first, hfirst⟩ : ∃ first, datagram[0]? = some first :=
    ⟨_, List.getElem?_eq_getElem (by rw [minPayloadLength, checksumLength] at hshort; omega)⟩
  rw [List.head?_eq_getElem?, hfirst]
  simp only [Option.bind_eq_bind, Option.bind_some]
  by_cases hforeign : first ≠ protocolId
  · rw [if_pos hforeign, if_pos fun h => hforeign (Option.some.inj h)]
  rw [if_neg hforeign, if_neg fun h => hforeign fun heq => h (congrArg some heq)]
  -- what is behind the payload is one word, which is read back
  have hlast : (datagram.drop (datagram.length - checksumLength)).length = 4 := by
    rw [List.length_drop, checksumLength]
    rw [minPayloadLength, checksumLength] at hshort
    omega
  obtain ⟨received, rest, htake⟩ := (Bytes.exists_takeUInt32?_iff _).mpr (Nat.le_of_eq hlast.symm)
  have hdrop := Bytes.eq_of_takeUInt32? htake
  have hrest : rest = [] := by
    have hlen := congrArg List.length hdrop
    rw [hlast, List.length_append, Bytes.length_ofUInt32] at hlen
    exact List.length_eq_zero_iff.mp (by omega)
  rw [hrest, List.append_nil] at hdrop
  have hinj : ∀ n, Bytes.ofUInt32 received = Bytes.ofUInt32 n ↔ received = n := by
    refine fun n => ⟨fun h => ?_, congrArg _⟩
    have hback := Bytes.takeUInt32?_ofUInt32_append received []
    rw [h, Bytes.takeUInt32?_ofUInt32_append] at hback
    exact (congrArg Prod.fst (Option.some.inj hback)).symm
  rw [htake, hrest]
  simp only [Option.bind_some, hdrop, hinj, ne_eq, ite_not]

/-- The header of a datagram and the payload behind it, if the datagram is valid. -/
def Header.Strict.ofDatagram (datagram : Bytes) : Option (Option (Header × Bytes)) := do
  match ← Frame.Strict.payloadLength datagram with
  | none => some none
  | some length =>
    if length ≤ datagram.length then
      match decode (datagram.take length) with
      | (.ok header, rest) => some (some (header, rest))
      | (.error _, _) => some none
    else
      none

theorem Header.Strict.ofDatagram_eq (datagram : Bytes) :
    ofDatagram datagram = some (ofDatagram? datagram) := by
  unfold ofDatagram ofDatagram? Frame.payload?
  rw [Frame.Strict.payloadLength_eq]
  cases hlength : Frame.payloadLength? datagram with
  | none => rfl
  | some length =>
    have hle : length ≤ datagram.length := by
      have hlen := ((Frame.payloadLength?_eq_some_iff _ _).mp hlength).1
      omega
    simp only [Option.bind_eq_bind, Option.bind_some, if_pos hle, Option.map_some]
    cases decode (datagram.take length) with
    | mk result rest => cases result <;> rfl

/-! ## Buffers from a pool -/

namespace Pool.Strict

/-- What `write` leaves in a buffer from the pool. -/
def compose (p : Pool) (capacity : Nat) (write : Buffer → Option Buffer) :
    Option (Bytes × Pool) := do
  let (buffer, p) := p.take capacity
  let written ← write buffer
  some (written.content, p.give written)

/-- What a buffer from the pool takes in of `raw`, when the socket fills it. -/
def intake (p : Pool) (capacity : Nat) (raw : Bytes) : Option (Bytes × Pool) := do
  let (buffer, p) := p.take capacity
  let loaded ← Buffer.Strict.receive buffer raw
  some (loaded.content, p.give loaded)

theorem compose_eq {ε : Type} {p : Pool} {capacity : Nat} {write : Buffer → Except ε Buffer}
    {strict : Buffer → Option Buffer} {d : Bytes}
    (hstrict : ∀ b b', write b = .ok b' → strict b = some b')
    (h : (p.compose capacity write).1 = .ok d) :
    compose p capacity strict = some (d, (p.compose capacity write).2) := by
  unfold Pool.compose at h ⊢
  unfold compose
  generalize p.take capacity = taken at h ⊢
  obtain ⟨buffer, rest⟩ := taken
  cases hw : write buffer with
  | error e => simp [hw] at h
  | ok written =>
    simp only [hw] at h
    cases h
    simp only [hstrict buffer written hw, hw, Option.bind_eq_bind, Option.bind_some]

/-- **What is received fits into its buffer.** -/
theorem intake_eq (p : Pool) (capacity : Nat) (raw : Bytes) :
    intake p capacity raw = some (p.intake capacity raw) := by
  unfold intake
  simp only [Buffer.Strict.receive_eq, Option.bind_eq_bind, Option.bind_some]
  rfl

end Pool.Strict

end Redelivery
