import Redelivery.Proofs.Wire.Crc32
import Redelivery.Proofs.Wire.Grammar

/-!
# What is written is read

A datagram is written piece by piece into a buffer as large as valid settings let a datagram be, and
read layer by layer. Whatever fits is written, each piece with exactly as many bytes as its size
says, and comes back as it was.

## Main definitions

* `Segment.WritesEach`: a buffer with segments written to it one by one.

## Main statements

* `Header.reads_as_written`: every layer gives back what was written to it.
* `Frame.checksum_eq_isoHdlc`: the checksum is the masked CRC-32/ISO-HDLC.

All of it is assembled from lemmas on single layers, those of `Buffer.Extends` for writing and those
on reading back for reading. What is added here is that each piece takes as many bytes as its size
says, which the relation `Segment.WritesEach` records for segments that are written one by one.
-/

namespace Redelivery

/-- The checksum of a payload is its CRC-32/ISO-HDLC with the mask added. -/
theorem Frame.checksum_eq_isoHdlc (payload : Bytes) :
    checksum payload = ⟨Crc32.isoHdlc.compute payload⟩ ^^^ mask := by
  rw [checksum, ← Crc32.toBitVec_checksum]

namespace Segment

/-- The segments are written one by one to `b`, which ends up as `b'`: each of them is accepted and
takes as many bytes as its size says. -/
inductive WritesEach : List (Segment Bytes) → Buffer → Buffer → Prop
  /-- Nothing is left to write. -/
  | nil (b : Buffer) : WritesEach [] b b
  /-- The first segment is written, and then the others. -/
  | cons {s : Segment Bytes} {rest : List (Segment Bytes)} {b mid b' : Buffer}
      (write_eq : s.write b = .ok mid) (length_eq : mid.length = b.length + s.size)
      (others : WritesEach rest mid b') : WritesEach (s :: rest) b b'

/-- Segments that are written in one go are written one by one. -/
theorem writesEach_of_writeAll {segments : List (Segment Bytes)} {b b' : Buffer}
    (h : writeAll segments b = .ok b') : WritesEach segments b b' := by
  induction segments generalizing b with
  | nil =>
    cases h
    exact .nil _
  | cons s rest ih =>
    change (s.write b).bind (writeAll rest) = .ok b' at h
    cases hs : s.write b with
    | error e =>
      rw [hs] at h
      cases h
    | ok mid =>
      rw [hs] at h
      refine .cons hs ?_ (ih h)
      rw [Buffer.length, (extends_of_write hs).1, List.length_append, length_encode, Buffer.length]

end Segment

/-- **Whatever fits into a datagram is written, and reads back.** The header, each of the segments
and the checksum are written with as many bytes as their sizes say. Behind them stands the masked
CRC-32/ISO-HDLC. The frame is accepted, the header is the one that was written, and behind it the
same segments are found and nothing else. -/
theorem Header.reads_as_written (settings : ValidSettings) (now : Nat) (h : Header)
    (segments : List (Segment Bytes)) (hkind : h ≠ data → segments = [])
    (hbody : ∀ s ∈ segments, s.body.length ≤ settings.maxSegment)
    (hfit : h.size + (segments.map Segment.size).sum + Frame.checksumLength ≤ settings.mtu)
    (empty : Buffer) (hcontent : empty.content = []) (hcapacity : empty.capacity = settings.mtu) :
    ∃ headed filled stamped found,
      h.write empty = .ok headed ∧ headed.length = h.size
      ∧ Segment.WritesEach segments headed filled
      ∧ Frame.stamp filled = .ok stamped
      ∧ stamped.length = filled.length + Frame.checksumLength
      ∧ stamped.content = filled.content
          ++ Bytes.ofUInt32 (⟨Crc32.isoHdlc.compute filled.content⟩ ^^^ Frame.mask)
      ∧ Frame.payloadLength? stamped.content = some filled.length
      ∧ decode (stamped.content.take filled.length)
          = (.ok h, segments.flatMap Segment.encode)
      ∧ Segment.decodeAll settings.maxSegment now (segments.flatMap Segment.encode) = (found, none)
      ∧ found.map (·.1) = segments.map (Segment.arrivedAt now)
      ∧ (h ≠ data → segments.flatMap Segment.encode = []) := by
  have hsize : ∀ s ∈ segments, s.body.length < 2 ^ 16 := fun s hs =>
    Nat.lt_of_le_of_lt (hbody s hs) settings.maxSegment_lt
  have hroom := empty.length_add_room
  rw [hcontent, List.length_nil] at hroom
  -- writing: every piece finds room for itself
  obtain ⟨headed, hwrite, hext⟩ := write_of_size_le (h := h) (b := empty) (by omega)
  have hleft := hext.room
  rw [length_encode] at hleft
  obtain ⟨filled, hall, hext'⟩ := Segment.writeAll_of_sum_le (b := headed) hsize (by omega)
  have hleft' := hext'.room
  rw [length_flatMap_encode] at hleft'
  obtain ⟨stamped, hstamp, hsum⟩ := Frame.stamp_of_le (b := filled) (by omega)
  have hheaded : headed.content = h.encode := by rw [hext.1, hcontent, List.nil_append]
  have hfilled : filled.content = h.encode ++ segments.flatMap Segment.encode := by
    rw [hext'.1, hheaded]
  have hstamped : stamped.content = Frame.ofPayload filled.content := by
    rw [hsum.1, Frame.ofPayload]
  have htake : stamped.content.take filled.length = filled.content := by
    rw [hstamped]
    exact List.take_left
  -- reading: every layer leaves to the next one what it was given
  obtain ⟨found, hfound, hmap⟩ := @Segment.decodeAll_flatMap_encode settings.maxSegment now
    segments fun s hs => ⟨hbody s hs, hsize s hs⟩
  refine ⟨headed, filled, stamped, found, hwrite, ?_, Segment.writesEach_of_writeAll hall, hstamp,
    ?_, ?_, ?_, ?_, hfound, hmap, ?_⟩
  · rw [Buffer.length, hheaded, length_encode]
  · rw [Buffer.length, hsum.1, List.length_append, Bytes.length_ofUInt32, Frame.checksumLength,
      Buffer.length]
  · rw [hsum.1, Frame.checksum_eq_isoHdlc]
  · have hpos := h.two_le_size
    have hlen : filled.length = h.size + (segments.map Segment.size).sum := by
      rw [Buffer.length, hfilled, List.length_append, length_encode, length_flatMap_encode]
    refine (Frame.payloadLength?_eq_some_iff _ _).mpr ⟨?_, ?_, ?_, ?_⟩
    · rw [hsum.1, List.length_append, Bytes.length_ofUInt32, Frame.checksumLength, Buffer.length]
    · rw [hlen, Frame.minPayloadLength]
      omega
    · rw [hsum.1, hfilled, List.append_assoc, List.head?_append, head?_encode, Option.some_or]
    · rw [htake, hstamped]
  · rw [htake, hfilled, decode_encode_append]
  · intro hne
    rw [hkind hne, List.flatMap_nil]

/-- Two segments, the second one empty, across the wrap-around of serial numbers. -/
theorem Header.reads_as_written_wrapping :
    ∃ stamped found, Frame.payloadLength? stamped.content = some 19
      ∧ (Segment.decodeAll (default : ValidSettings).maxSegment 5
          ((stamped : Buffer).content.take 19 |>.drop 2)).1 = found
      ∧ found.map (·.1) = [⟨⟨0xFFFFFFFF⟩, true, [1, 2, 3], 5⟩, ⟨⟨0⟩, false, [], 5⟩] := by
  obtain ⟨headed, filled, stamped, found, -, hheaded, hwrites, -, -, -, hframe, hdecode, hall,
    hfound, -⟩ := Header.reads_as_written default 5 .data
      [⟨⟨0xFFFFFFFF⟩, true, [1, 2, 3], 0⟩, ⟨⟨0⟩, false, [], 0⟩] (by decide) (by decide) (by decide)
      (Buffer.zeroed 1200) rfl rfl
  have hlen : filled.length = 19 := by
    cases hwrites with
    | cons _ h₁ hrest =>
      cases hrest with
      | cons _ h₂ hnil =>
        cases hnil
        rw [h₂, h₁, hheaded]
        rfl
  rw [hlen] at hframe hdecode
  have hpayload := Header.eq_of_decode hdecode
  refine ⟨stamped, found, hframe, ?_, hfound⟩
  rw [hpayload]
  exact congrArg Prod.fst hall

end Redelivery
