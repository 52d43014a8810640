import Mathlib.Algebra.Ring.Nat
import Redelivery.Settings

/-!
# Datagrams and what they say

A datagram is a header and some segments, framed. Reading it gives both back: the header exactly,
and the segments up to the times at which they were sent, which never go over the wire.

## Main definitions

* `Header.datagram`: the datagram with a given header and given segments.

## Main statements

* `Segment.decode_encode_append`, `Segment.decodeAll_flatMap_encode`: segments read back.
* `Header.ofDatagram?_datagram`: the header reads back, and leaves the segments.

Two parts of a datagram read back for different reasons. A header has a fixed shape for each type,
so that `Header.decode_encode_append` is a case analysis. Segments follow each other without a mark
at the end, so what is said of one segment is said with something left behind it, and
`Segment.decodeAll_flatMap_encode` is an induction on the segments. The reader goes on as long as
something is left, and that is as long as there are segments, since none is written as nothing
(`Segment.encode_ne_nil`).

The bound on the size of a segment is what its size field can hold and what the reader has room for.
Both hold of whatever a stream has numbered.
-/

namespace Redelivery

/-! ## Words -/

namespace Bytes

/-- A multiple of a power of two and a number below that power have no bit in common. -/
theorem mul_two_pow_or {b i : Nat} (h : b < 2 ^ i) (a : Nat) : a * 2 ^ i ||| b = a * 2 ^ i + b := by
  rw [← Nat.shiftLeft_eq, Nat.shiftLeft_add_eq_or_of_lt h]

theorem toNat_toUInt16 (a b : UInt8) : (toUInt16 a b).toNat = a.toNat * 2 ^ 8 + b.toNat := by
  have ha := a.toNat_lt
  have hb := b.toNat_lt
  unfold toUInt16
  simp only [UInt16.toNat_or, UInt16.toNat_shiftLeft, UInt8.toNat_toUInt16]
  rw [show (8 : UInt16).toNat % 16 = 8 from rfl, Nat.shiftLeft_eq, Nat.mod_eq_of_lt (by omega),
    mul_two_pow_or (by omega)]

theorem toNat_toUInt32 (a b c d : UInt8) :
    (toUInt32 a b c d).toNat
      = a.toNat * 2 ^ 24 + (b.toNat * 2 ^ 16 + (c.toNat * 2 ^ 8 + d.toNat)) := by
  have ha := a.toNat_lt
  have hb := b.toNat_lt
  have hc := c.toNat_lt
  have hd := d.toNat_lt
  unfold toUInt32
  simp only [UInt32.toNat_or, UInt32.toNat_shiftLeft, UInt8.toNat_toUInt32]
  rw [show (24 : UInt32).toNat % 32 = 24 from rfl, show (16 : UInt32).toNat % 32 = 16 from rfl,
    show (8 : UInt32).toNat % 32 = 8 from rfl]
  simp only [Nat.shiftLeft_eq]
  rw [Nat.mod_eq_of_lt (by omega), Nat.mod_eq_of_lt (by omega), Nat.mod_eq_of_lt (by omega)]
  -- the two low bytes first, since each step needs the value of the bytes below it
  have hlow : c.toNat * 2 ^ 8 ||| d.toNat = c.toNat * 2 ^ 8 + d.toNat := mul_two_pow_or (by omega) _
  rw [Nat.or_assoc, Nat.or_assoc, hlow]
  have hmid := mul_two_pow_or (b := c.toNat * 2 ^ 8 + d.toNat) (i := 16) (by omega) b.toNat
  rw [hmid, mul_two_pow_or (by omega)]

theorem toUInt16_ofUInt16 (n : UInt16) : toUInt16 (n >>> 8).toUInt8 n.toUInt8 = n := by
  have hn := n.toNat_lt
  apply UInt16.toNat.inj
  rw [toNat_toUInt16]
  simp only [UInt16.toNat_toUInt8, UInt16.toNat_shiftRight]
  rw [show (8 : UInt16).toNat % 16 = 8 from rfl]
  simp only [Nat.shiftRight_eq_div_pow]
  omega

theorem toUInt32_ofUInt32 (n : UInt32) :
    toUInt32 (n >>> 24).toUInt8 (n >>> 16).toUInt8 (n >>> 8).toUInt8 n.toUInt8 = n := by
  have hn := n.toNat_lt
  apply UInt32.toNat.inj
  rw [toNat_toUInt32]
  simp only [UInt32.toNat_toUInt8, UInt32.toNat_shiftRight]
  rw [show (24 : UInt32).toNat % 32 = 24 from rfl, show (16 : UInt32).toNat % 32 = 16 from rfl,
    show (8 : UInt32).toNat % 32 = 8 from rfl]
  simp only [Nat.shiftRight_eq_div_pow]
  omega

@[simp]
theorem takeUInt32?_ofUInt32_append (n : UInt32) (rest : Bytes) :
    takeUInt32? (ofUInt32 n ++ rest) = some (n, rest) := by
  show some (toUInt32 (n >>> 24).toUInt8 (n >>> 16).toUInt8 (n >>> 8).toUInt8 n.toUInt8, rest)
    = some (n, rest)
  rw [toUInt32_ofUInt32]

end Bytes

/-! ## Segments -/

namespace Segment

/-- The segment as the receiver reads it, who knows only when it arrived. -/
def arrivedAt (now : Nat) (s : Segment Bytes) : Segment Bytes :=
  { s with sentAt := now }

/-- **A segment reads back**, whatever follows it, if its body fits into the place provided for it
and its size into the size field. -/
theorem decode_encode_append {limit now : Nat} {s : Segment Bytes} (hlimit : s.body.length ≤ limit)
    (hsize : s.body.length < 2 ^ 16) (rest : Bytes) :
    decode limit now (s.encode ++ rest) = (.ok (s.arrivedAt now), rest) := by
  have hword : (UInt16.ofNat s.body.length).toNat = s.body.length := by
    rw [UInt16.toNat_ofNat', Nat.mod_eq_of_lt hsize]
  -- any value but zero stands for a segment that others follow
  have hflag : ((if s.more then 1 else 0 : UInt8) != 0) = s.more := by
    cases s.more <;> rfl
  unfold encode Bytes.ofUInt32 Bytes.ofUInt16
  simp only [List.cons_append, List.nil_append, decode, Bytes.toUInt16_ofUInt16,
    Bytes.toUInt32_ofUInt32, hword, hflag]
  rw [if_neg (by rw [List.length_append]; omega), if_neg (by omega), List.take_left,
    List.drop_left]
  rfl

theorem encode_ne_nil (s : Segment Bytes) : s.encode ≠ [] := by
  unfold encode Bytes.ofUInt32
  simp

/-- **Segments that stand back to back read back**, up to the end and without an error. -/
theorem decodeAll_flatMap_encode {limit : Nat} (now : Nat) (segments : List (Segment Bytes))
    (h : ∀ s ∈ segments, s.body.length ≤ limit ∧ s.body.length < 2 ^ 16) :
    ∃ found, decodeAll limit now (segments.flatMap encode) = (found, none)
      ∧ found.map (·.1) = segments.map (arrivedAt now) := by
  induction segments with
  | nil =>
    refine ⟨[], ?_, rfl⟩
    rw [List.flatMap_nil, decodeAll, if_pos rfl]
  | cons s rest ih =>
    obtain ⟨found, hfound, hmap⟩ := ih fun t ht => h t (List.mem_cons_of_mem s ht)
    obtain ⟨hlimit, hsize⟩ := h s List.mem_cons_self
    have hdecode : decode limit now (s.encode ++ rest.flatMap encode)
        = (.ok (s.arrivedAt now), rest.flatMap encode) := decode_encode_append hlimit hsize _
    refine ⟨(s.arrivedAt now, rest.flatMap encode) :: found, ?_, by
      rw [List.map_cons, List.map_cons, hmap]⟩
    -- there is something to decode, as no segment is empty on the wire
    rw [List.flatMap_cons, decodeAll, if_neg fun hnil =>
      s.encode_ne_nil (List.append_eq_nil_iff.mp hnil).1]
    split
    · rename_i e tail heq
      rw [hdecode] at heq
      cases heq
    · rename_i t tail heq
      rw [hdecode] at heq
      cases heq
      rw [hfound]

end Segment

/-! ## Headers and frames -/

namespace Header

/-- **A header reads back**, whatever follows it. -/
theorem decode_encode_append (h : Header) (rest : Bytes) :
    decode (h.encode ++ rest) = (.ok h, rest) := by
  cases h with
  | ack next received =>
    have htake : Bytes.takeUInt32? (Bytes.ofUInt32 next.raw ++ Bytes.ofUInt32 received ++ rest)
        = some (next.raw, Bytes.ofUInt32 received ++ rest) := by
      rw [List.append_assoc, Bytes.takeUInt32?_ofUInt32_append]
    show decodeAck (Bytes.ofUInt32 next.raw ++ Bytes.ofUInt32 received ++ rest) = _
    unfold decodeAck
    rw [htake]
    simp only [Bytes.takeUInt32?_ofUInt32_append]
  | data => rfl
  | dial => rfl
  | dialAck => rfl

theorem two_le_size (h : Header) : 2 ≤ h.size := by
  cases h <;> simp [size, ackSize, plainSize]

theorem size_le (h : Header) : h.size ≤ ackSize := by
  cases h <;> simp [size, ackSize, plainSize]

theorem head?_encode (h : Header) : h.encode.head? = some Frame.protocolId := by
  cases h <;> rfl

/-- The datagram with the given header and segments. -/
def datagram (h : Header) (segments : List (Segment Bytes)) : Bytes :=
  Frame.ofPayload (h.encode ++ segments.flatMap Segment.encode)

theorem length_flatMap_encode (segments : List (Segment Bytes)) :
    (segments.flatMap Segment.encode).length = (segments.map Segment.size).sum := by
  rw [List.length_flatMap]
  congr 1
  exact List.map_congr_left fun s _ => s.length_encode

theorem length_datagram (h : Header) (segments : List (Segment Bytes)) :
    (h.datagram segments).length
      = h.size + (segments.map Segment.size).sum + Frame.checksumLength := by
  unfold datagram Frame.ofPayload
  rw [List.length_append, List.length_append, length_encode, length_flatMap_encode,
    Bytes.length_ofUInt32, Frame.checksumLength]

end Header

/-- The payload of a datagram that was framed here is what was framed. -/
theorem Frame.payload?_ofPayload {payload : Bytes} (hhead : payload.head? = some protocolId)
    (hlen : minPayloadLength ≤ payload.length) : payload? (ofPayload payload) = some payload := by
  have hlength : (ofPayload payload).length = payload.length + checksumLength := by
    rw [ofPayload, List.length_append, Bytes.length_ofUInt32, checksumLength]
  have hfirst : (ofPayload payload).head? = some protocolId := by
    cases payload with
    | nil => cases hhead
    | cons b rest => exact hhead
  have htake : (ofPayload payload).take payload.length = payload := List.take_left
  -- the last four bytes are the checksum of all those before them
  have hdrop : (ofPayload payload).drop payload.length = Bytes.ofUInt32 (checksum payload) :=
    List.drop_left
  unfold payload? payloadLength?
  simp only [hlength, Nat.add_sub_cancel, hdrop, htake, hfirst]
  rw [if_neg (by omega), if_neg (by simp), if_pos trivial, Option.map_some, htake]

/-- **A datagram's header reads back**, and the rest is what is left behind it. -/
theorem Header.ofDatagram?_ofPayload (h : Header) (rest : Bytes) :
    ofDatagram? (Frame.ofPayload (h.encode ++ rest)) = some (h, rest) := by
  have hhead : (h.encode ++ rest).head? = some Frame.protocolId := by
    rw [List.head?_append, head?_encode, Option.some_or]
  have hlen : Frame.minPayloadLength ≤ (h.encode ++ rest).length := by
    have hsize := h.two_le_size
    rw [List.length_append, length_encode, Frame.minPayloadLength]
    omega
  unfold ofDatagram?
  rw [Frame.payload?_ofPayload hhead hlen]
  simp only [decode_encode_append]

theorem Header.ofDatagram?_datagram (h : Header) (segments : List (Segment Bytes)) :
    ofDatagram? (h.datagram segments) = some (h, segments.flatMap Segment.encode) :=
  ofDatagram?_ofPayload h _

end Redelivery
