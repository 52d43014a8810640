import Redelivery.Proofs.Translation.Window
import Redelivery.Proofs.Wire.Grammar
import Redelivery.Session.Agent

/-!
# Datagrams with all serial numbers moved

In a datagram with data every segment that can be read has a serial number, and so has an
acknowledgement. When these are moved on by some steps and the checksum is computed again, the
datagram is read as before, with the serial numbers moved. All other bytes stay, and so does a
datagram that is not valid or that carries no serial numbers.

## Main definitions

* `Segment.shiftAll`: the payload of a data packet with all serial numbers moved.
* `Bytes.shift`: a datagram with all serial numbers moved.
* `Arrival.shift`, `Signal.shift`: what comes from the socket.

## Main statements

* `Segment.decodeAll_shiftAll`: the segments that are read.
* `Header.ofDatagram?_shift`: the header and the payload.
* `Header.shift_datagram`, `Header.shift_datagram_data`: datagrams that are sent.

What a datagram reads as is defined by recursion on what is left of its bytes, and that is awkward
to compare. `Segment.payload_induction` is a better principle: bytes are segments one behind the
other until nothing more can be read, and the last part may be anything. All lemmas on payloads are
inductions of this kind. That moving serial numbers leaves the stuck part stuck is clear, as it is
left alone; that it does not make it longer is `Segment.length_shiftAll`.

A datagram is moved as long as it is valid, and the checksum is computed anew. So a forged datagram
is moved to a forged one, and an invalid one stays what it is. Buffers cut off what is too long, and
a session sees no more than what was cut; this is what `Bytes.shiftFront` is for.
-/

namespace Redelivery

/-! ## Segments that stand back to back -/

/-- The segment with its serial number moved on. -/
def WireSegment.shift {limit : Nat} (δ : Nat) (w : WireSegment limit) : WireSegment limit :=
  { w with seq := w.seq + δ }

namespace Segment

variable {limit : Nat}

/-- The bytes with all serial numbers moved on that are read from them. What follows the last segment
that can be read stays as it is. -/
def shiftAll (limit δ : Nat) (bytes : Bytes) : Bytes :=
  match h : decode limit 0 bytes with
  | (.error _, _) => bytes
  | (.ok s, rest) =>
    have : rest.length < bytes.length := length_lt_of_decode h
    Bytes.ofUInt32 (s.seq + δ).raw ++ (bytes.take (bytes.length - rest.length)).drop 4
      ++ shiftAll limit δ rest
termination_by bytes.length

/-- No segment can be read from the front of the bytes. -/
def IsStuck (limit : Nat) (bytes : Bytes) : Prop :=
  ∀ now, ∃ e rest, decode limit now bytes = (.error e, rest)

theorem isStuck_of_decode {now : Nat} {bytes rest : Bytes} {e : SegmentError}
    (h : decode limit now bytes = (.error e, rest)) : IsStuck limit bytes := by
  intro time
  cases hdecode : decode limit time bytes with
  | mk result tail =>
    cases result with
    | error e' => exact ⟨e', tail, rfl⟩
    | ok s =>
      -- it would have been read at any time
      obtain ⟨w, rfl, -⟩ := exists_wireSegment_of_decode hdecode
      rw [w.decode_bytes_append] at h
      cases h

/-- What is read one segment after the other, until there is none. -/
theorem payload_induction (limit : Nat) {P : Bytes → Prop} (stuck : ∀ bytes, IsStuck limit bytes → P bytes)
    (segment : ∀ (w : WireSegment limit) (rest : Bytes), P rest → P (w.bytes ++ rest))
    (bytes : Bytes) : P bytes := by
  induction hn : bytes.length using Nat.strong_induction_on generalizing bytes with
  | _ n ih =>
    cases hdecode : decode limit 0 bytes with
    | mk result rest =>
      cases result with
      | error e => exact stuck bytes (isStuck_of_decode hdecode)
      | ok s =>
        have hlt := length_lt_of_decode hdecode
        obtain ⟨w, rfl, -⟩ := exists_wireSegment_of_decode hdecode
        exact segment w rest (ih rest.length (hn ▸ hlt) rest rfl)

theorem shiftAll_of_isStuck {bytes : Bytes} (h : IsStuck limit bytes) (δ : Nat) :
    shiftAll limit δ bytes = bytes := by
  obtain ⟨e, rest, hdecode⟩ := h 0
  unfold shiftAll
  split
  · rfl
  · rename_i heq
    cases hdecode.symm.trans heq

theorem shiftAll_append (δ : Nat) (w : WireSegment limit) (rest : Bytes) :
    shiftAll limit δ (w.bytes ++ rest) = (w.shift δ).bytes ++ shiftAll limit δ rest := by
  have htake : (w.bytes ++ rest).take ((w.bytes ++ rest).length - rest.length) = w.bytes := by
    rw [List.length_append, Nat.add_sub_cancel, List.take_left]
  rw [shiftAll]
  split
  · rename_i heq
    cases (w.decode_bytes_append 0 rest).symm.trans heq
  · rename_i heq
    cases (w.decode_bytes_append 0 rest).symm.trans heq
    rw [htake]
    rfl

theorem length_shiftAll (δ : Nat) (bytes : Bytes) :
    (shiftAll limit δ bytes).length = bytes.length := by
  induction bytes using payload_induction limit with
  | stuck bytes h => rw [shiftAll_of_isStuck h]
  | segment w rest ih =>
    have hlength : (w.shift δ).bytes.length = w.bytes.length := by
      rw [WireSegment.length_bytes 0, WireSegment.length_bytes 0]
      rfl
    rw [shiftAll_append, List.length_append, List.length_append, ih, hlength]

theorem decodeAll_of_isStuck {bytes : Bytes} (h : IsStuck limit bytes) (now : Nat) :
    (decodeAll limit now bytes).1 = [] := by
  obtain ⟨e, rest, hdecode⟩ := h now
  rw [decodeAll]
  split
  · rfl
  · split
    · rfl
    · rename_i heq
      cases hdecode.symm.trans heq

theorem decodeAll_append (now : Nat) (w : WireSegment limit) (rest : Bytes) :
    decodeAll limit now (w.bytes ++ rest)
      = ((w.read now, rest) :: (decodeAll limit now rest).1, (decodeAll limit now rest).2) := by
  rw [decodeAll, if_neg fun hnil => w.bytes_ne_nil (List.append_eq_nil_iff.mp hnil).1]
  split
  · rename_i heq
    cases (w.decode_bytes_append now rest).symm.trans heq
  · rename_i heq
    cases (w.decode_bytes_append now rest).symm.trans heq
    rfl

/-- **The same segments are read**, with their serial numbers moved, and reading stops at the same
place. -/
theorem decodeAll_shiftAll (limit δ now : Nat) (bytes : Bytes) :
    (decodeAll limit now (shiftAll limit δ bytes)).1.map (·.1)
        = ((decodeAll limit now bytes).1.map (·.1)).map (shift δ)
      ∧ (decodeAll limit now (shiftAll limit δ bytes)).2.isSome
        = (decodeAll limit now bytes).2.isSome := by
  induction bytes using payload_induction limit with
  | stuck bytes h =>
    rw [shiftAll_of_isStuck h, decodeAll_of_isStuck h]
    exact ⟨rfl, rfl⟩
  | segment w rest ih =>
    rw [shiftAll_append, decodeAll_append, decodeAll_append, List.map_cons, List.map_cons,
      List.map_cons, ih.1]
    exact ⟨rfl, ih.2⟩

/-- Segments that were written back to back. -/
theorem shiftAll_flatMap_encode (δ : Nat) {segments : List (Segment Bytes)}
    (h : ∀ s ∈ segments, s.body.length ≤ limit ∧ s.body.length < 2 ^ 16) :
    shiftAll limit δ (segments.flatMap encode) = (segments.map (shift δ)).flatMap encode := by
  induction segments with
  | nil =>
    exact shiftAll_of_isStuck (fun _ => ⟨_, _, rfl⟩) δ
  | cons s rest ih =>
    obtain ⟨hlimit, hsize⟩ := h s List.mem_cons_self
    let w : WireSegment limit := ⟨s.seq, if s.more then 1 else 0, s.body, hlimit, hsize⟩
    have hencode : s.encode = w.bytes := rfl
    rw [List.flatMap_cons, List.map_cons, List.flatMap_cons, hencode, shiftAll_append,
      ih fun t ht => h t (List.mem_cons_of_mem s ht)]
    rfl

end Segment

/-! ## Datagrams -/

namespace Header

/-- The header with its serial number moved on, if it has one. -/
def shift (δ : Nat) : Header → Header
  | ack next received => ack (next + δ) received
  | h => h

/-- What follows the header, with all serial numbers in it moved on. -/
def shiftPayload (limit δ : Nat) (payload : Bytes) : Header → Bytes
  | data => Segment.shiftAll limit δ payload
  | _ => payload

@[simp] theorem size_shift (δ : Nat) (h : Header) : (h.shift δ).size = h.size := by
  cases h <;> rfl

/-- A datagram with a valid header is that header, what follows it and a checksum. -/
theorem eq_of_ofDatagram? {datagram payload : Bytes} {h : Header}
    (hread : ofDatagram? datagram = some (h, payload)) :
    datagram = Frame.ofPayload (h.encode ++ payload) := by
  unfold ofDatagram? at hread
  cases hpayload : Frame.payload? datagram with
  | none =>
    rw [hpayload] at hread
    cases hread
  | some framed =>
    rw [hpayload] at hread
    simp only at hread
    split at hread
    · rename_i header rest hdecode
      cases hread
      obtain ⟨length, hlength, rfl⟩ := Option.map_eq_some_iff.mp hpayload
      obtain ⟨-, -, -, hframe⟩ := (Frame.payloadLength?_eq_some_iff _ _).mp hlength
      rw [← eq_of_decode hdecode]
      exact hframe
    · cases hread

end Header

/-- The datagram with all serial numbers in it moved on and a new checksum, if it is valid and has
any. -/
def Bytes.shift (limit δ : Nat) (datagram : Bytes) : Bytes :=
  match Header.ofDatagram? datagram with
  | some (.data, payload) =>
    Frame.ofPayload (Header.data.encode ++ Segment.shiftAll limit δ payload)
  | some (.ack next received, rest) =>
    Frame.ofPayload ((Header.ack (next + δ) received).encode ++ rest)
  | _ => datagram

namespace Header

variable {limit δ : Nat}

theorem shift_eq {datagram payload : Bytes} {h : Header}
    (hread : ofDatagram? datagram = some (h, payload)) :
    datagram.shift limit δ
      = Frame.ofPayload ((h.shift δ).encode ++ h.shiftPayload limit δ payload) := by
  unfold Bytes.shift
  rw [hread]
  cases h with
  | data => rfl
  | ack next received => rfl
  | dial => exact eq_of_ofDatagram? hread
  | dialAck => exact eq_of_ofDatagram? hread

theorem shift_of_invalid {datagram : Bytes} (hread : ofDatagram? datagram = none) :
    datagram.shift limit δ = datagram := by
  unfold Bytes.shift
  rw [hread]

/-- **The header reads as before**, with its serial number moved. -/
theorem ofDatagram?_shift (datagram : Bytes) :
    ofDatagram? (datagram.shift limit δ)
      = (ofDatagram? datagram).map fun read =>
        (read.1.shift δ, read.1.shiftPayload limit δ read.2) := by
  cases hread : ofDatagram? datagram with
  | none => rw [shift_of_invalid hread, hread, Option.map_none]
  | some read => rw [shift_eq hread, ofDatagram?_ofPayload, Option.map_some]

theorem length_shift (datagram : Bytes) : (datagram.shift limit δ).length = datagram.length := by
  cases hread : ofDatagram? datagram with
  | none => rw [shift_of_invalid hread]
  | some read =>
    obtain ⟨h, payload⟩ := read
    have hpayload : (h.shiftPayload limit δ payload).length = payload.length := by
      cases h with
      | data => exact Segment.length_shiftAll δ payload
      | _ => rfl
    rw [shift_eq hread, eq_of_ofDatagram? hread]
    unfold Frame.ofPayload
    simp only [List.length_append, Bytes.length_ofUInt32, length_encode, size_shift, hpayload]

/-- A datagram that is only a header. -/
theorem shift_datagram (h : Header) :
    (h.datagram []).shift limit δ = (h.shift δ).datagram [] := by
  rw [shift_eq (ofDatagram?_datagram h [])]
  cases h with
  | data => exact congrArg _ (congrArg _ (Segment.shiftAll_flatMap_encode δ (by simp)))
  | _ => rfl

/-- A datagram with segments. -/
theorem shift_datagram_data {segments : List (Segment Bytes)}
    (h : ∀ s ∈ segments, s.body.length ≤ limit ∧ s.body.length < 2 ^ 16) :
    (Header.data.datagram segments).shift limit δ
      = Header.data.datagram (segments.map (Segment.shift δ)) := by
  rw [shift_eq (ofDatagram?_datagram _ segments)]
  exact congrArg _ (congrArg _ (Segment.shiftAll_flatMap_encode δ h))

end Header

/-! ## From the socket -/

/-- What a buffer for a datagram takes in, with all serial numbers moved on. What does not fit there
stays as it is. -/
def Bytes.shiftFront (settings : Settings) (δ : Nat) (raw : Bytes) : Bytes :=
  Bytes.shift settings.maxSegment δ (raw.take settings.mtu) ++ raw.drop settings.mtu

theorem Bytes.take_shiftFront (settings : Settings) (δ : Nat) (raw : Bytes) :
    (raw.shiftFront settings δ).take settings.mtu
      = Bytes.shift settings.maxSegment δ (raw.take settings.mtu) := by
  have hlength : (Bytes.shift settings.maxSegment δ (raw.take settings.mtu)).length
      = (raw.take settings.mtu).length :=
    Header.length_shift _
  unfold Bytes.shiftFront
  rcases Nat.le_total settings.mtu raw.length with hle | hle
  · exact List.take_left' (by rw [hlength, List.length_take, Nat.min_eq_left hle])
  · rw [List.drop_eq_nil_of_le hle, List.append_nil]
    exact List.take_of_length_le (by rw [hlength]; exact List.length_take_le _ _)

/-- What comes from the socket, with all serial numbers moved on. -/
def Arrival.shift (settings : Settings) (δ : Nat) : Arrival → Arrival
  | datagram raw => datagram (raw.shiftFront settings δ)
  | fault reason => fault reason

/-- The signal with all serial numbers in what has arrived moved on. -/
def Signal.shift (settings : Settings) (δ : Nat) : Signal → Signal
  | arrived arrival => arrived (arrival.shift settings δ)
  | signal => signal

end Redelivery
