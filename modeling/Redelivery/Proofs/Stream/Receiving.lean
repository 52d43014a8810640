import Redelivery.Proofs.Pieces
import Redelivery.Proofs.Stream.Alike
import Redelivery.Proofs.Window.Spans
import Redelivery.Stream.Incoming

/-!
# What a stream does with a datagram of its peer

A datagram that one stream has made is read by another as what it was made of. This file says what
follows: segments go into the receive window one after the other, an acknowledgement goes to the
send window, and a datagram of the handshake changes nothing.

## Main definitions

* `Stream.arrivals`: the segments that a stream finds in a datagram.

## Main statements

* `Stream.exists_storeSegment_eq`, `Stream.storeSegment_eq`: the effect of a segment.
* `Stream.receiveWindow_receive`: the segments of a datagram are stored one after the other.
* `Stream.receive_data`, `Stream.receive_ack`, `Stream.receive_handshake`: the effect of a datagram.
* `Stream.reply_of_receive`: nothing but a request for a stream is answered at once.

Each segment that is stored changes the receive window and the pool, and whether it comes from the
network or from nowhere makes no difference. So the datagram as a whole is a fold over the segments
that are read in it (`Stream.receiveWindow_receive`), and which segments these are is a question for
the lemmas on reading back: `Stream.arrivals_data` has the answer for datagrams that a stream of the
same settings has made.

What arrives passes through a buffer first. `Stream.taking` is the stream at that point, after the
datagram is in the buffer and counted, and `Stream.alike_taking` lets the later lemmas forget about
it.
-/

namespace Redelivery

/-- What comes through a buffer is cut off at the buffer's capacity, whatever buffer that is. -/
theorem Pool.fst_intake (p : Pool) (capacity : Nat) (raw : Bytes) :
    (p.intake capacity raw).1 = raw.take capacity := by
  show raw.take (p.take capacity).1.capacity = raw.take capacity
  rw [capacity_take]

namespace Stream

/-- **A segment that arrives** is offered to the receive window, with its body in a buffer. Apart
from the pool, nothing else changes. -/
theorem exists_storeSegment_eq (s : Stream) (t : Segment Bytes) :
    ∃ (u : Segment Buffer) (pool : Pool),
      s.storeSegment t = { s with receiveWindow := s.receiveWindow.offer u, pool := pool }
      ∧ u.seq = t.seq ∧ (t.body.length ≤ s.settings.maxSegment → u.wire = t) := by
  have hcapacity := Pool.capacity_take s.pool s.settings.maxSegment
  unfold storeSegment
  simp only
  generalize hu : (t.map fun _ => (s.pool.take s.settings.maxSegment).1.load t.body) = u
  have hseq : u.seq = t.seq := by rw [← hu]; rfl
  -- the buffer takes as much of the body as there is room for, which is all of it
  have hwire : t.body.length ≤ s.settings.maxSegment → u.wire = t := by
    intro hbody
    rw [← hcapacity] at hbody
    rw [← hu]
    show (⟨t.seq, t.more, ((s.pool.take s.settings.maxSegment).1.load t.body).content, t.sentAt⟩
      : Segment Bytes) = t
    rw [Buffer.content_load_of_length_le hbody]
  unfold Window.offer
  cases haccept : s.receiveWindow.accept u with
  | stored w evicted => exact ⟨u, _, by rw [haccept], hseq, hwire⟩
  | refused => exact ⟨u, _, by rw [haccept], hseq, hwire⟩

theorem storeSegment_eq (s : Stream) (t : Segment Bytes) :
    ∃ (u : Segment Buffer) (pool : Pool),
      s.storeSegment t = { s with receiveWindow := s.receiveWindow.offer u, pool := pool }
      ∧ u.seq = t.seq ∧ (t.body.length ≤ s.settings.maxSegment → u.wire.piece = t.piece) := by
  obtain ⟨u, pool, hstore, hseq, hwire⟩ := s.exists_storeSegment_eq t
  exact ⟨u, pool, hstore, hseq, fun hbody => congrArg Segment.piece (hwire hbody)⟩

/-! ## Datagrams -/

/-- The stream that has a datagram in a buffer, and has not looked at it yet. -/
def taking (s : Stream) (raw : Bytes) : Stream :=
  let (datagram, pool) := s.pool.intake s.settings.mtu raw
  { s with pool := pool, traffic := s.traffic.received datagram.length }

theorem alike_taking (s : Stream) (raw : Bytes) : s.Alike (s.taking raw) :=
  ⟨rfl, rfl, rfl, rfl, rfl, rfl, id⟩

/-- Nothing is lost of a datagram that is not too long. -/
theorem intake_of_length_le {s : Stream} {raw : Bytes} (hlen : raw.length ≤ s.settings.mtu) :
    (s.pool.intake s.settings.mtu raw).1 = raw := by
  rw [Pool.fst_intake, List.take_of_length_le hlen]

/-- What a stream makes of a datagram that is not too long. -/
theorem receive_of_length_le {s : Stream} {now : Nat} {raw : Bytes}
    (hlen : raw.length ≤ s.settings.mtu) :
    s.receive now raw = (s.taking raw).process now raw := by
  have hintake := intake_of_length_le hlen
  show (s.taking raw).process now (s.pool.intake s.settings.mtu raw).1 = _
  rw [hintake]

/-- The segments that a stream finds in a datagram, in the order in which it stores them. -/
def arrivals (s : Stream) (now : Nat) (raw : Bytes) : List (Segment Bytes) :=
  match Header.ofDatagram? (s.pool.intake s.settings.mtu raw).1 with
  | some (.data, payload) => (Segment.decodeAll s.settings.maxSegment now payload).1.map (·.1)
  | _ => []

/-- **A datagram gets into the receive window segment by segment.** -/
theorem receiveWindow_receive (s : Stream) (now : Nat) (raw : Bytes) :
    (s.receive now raw).1.receiveWindow
      = ((s.arrivals now raw).foldl storeSegment (s.taking raw)).receiveWindow := by
  show ((s.taking raw).process now (s.pool.intake s.settings.mtu raw).1).1.receiveWindow = _
  unfold process arrivals
  cases Header.ofDatagram? (s.pool.intake s.settings.mtu raw).1 with
  | none => rfl
  | some found =>
    obtain ⟨header, payload⟩ := found
    cases header <;> rfl

/-- A stream finds the segments that were sent, with the time of their arrival. -/
theorem arrivals_data {s : Stream} {now : Nat} {segments : List (Segment Bytes)}
    (hlen : (Header.data.datagram segments).length ≤ s.settings.mtu)
    (hbody : ∀ t ∈ segments, t.body.length ≤ s.settings.maxSegment) :
    s.arrivals now (Header.data.datagram segments) = segments.map (Segment.arrivedAt now) := by
  obtain ⟨found, hdecode, hmap⟩ := Segment.decodeAll_flatMap_encode now segments
    fun t ht => ⟨hbody t ht, Nat.lt_of_le_of_lt (hbody t ht) s.settings.maxSegment_lt⟩
  unfold arrivals
  rw [intake_of_length_le hlen, Header.ofDatagram?_datagram]
  simp only [hdecode, hmap]

/-- No segments are found in a datagram that is only a header. -/
theorem arrivals_of_ne_data (s : Stream) (now : Nat) {h : Header} (hh : h ≠ .data) :
    s.arrivals now (h.datagram []) = [] := by
  unfold arrivals
  rw [intake_of_length_le (s.length_datagram_nil_le h), Header.ofDatagram?_datagram]
  cases h with
  | data => exact absurd rfl hh
  | _ => rfl

/-- **Segments are stored one after the other**, and an acknowledgement is due. -/
theorem receive_data {s : Stream} (now : Nat) {segments : List (Segment Bytes)}
    (hlen : (Header.data.datagram segments).length ≤ s.settings.mtu) :
    (s.receive now (Header.data.datagram segments)).2 = none
      ∧ (s.receive now (Header.data.datagram segments)).1.ackDue = true
      ∧ ((s.arrivals now (Header.data.datagram segments)).foldl storeSegment
          (s.taking (Header.data.datagram segments))).Alike
        (s.receive now (Header.data.datagram segments)).1 := by
  rw [receive_of_length_le hlen]
  unfold process arrivals
  rw [intake_of_length_le hlen, Header.ofDatagram?_datagram]
  exact ⟨rfl, rfl, rfl, rfl, rfl, rfl, rfl, rfl, id⟩

/-- **An acknowledgement goes to the send window.** -/
theorem receive_ack (s : Stream) (now : Nat) (next : Serial) (received : UInt32) :
    (s.receive now ((Header.ack next received).datagram [])).2 = none
      ∧ ({ s with sendWindow := (s.sendWindow.acknowledge next received).window } : Stream).Alike
          (s.receive now ((Header.ack next received).datagram [])).1 := by
  rw [receive_of_length_le (s.length_datagram_nil_le (.ack next received))]
  unfold process
  rw [Header.ofDatagram?_datagram]
  exact ⟨rfl, rfl, rfl, rfl, rfl, rfl, rfl, id⟩

/-- Datagrams of the handshake change nothing. -/
theorem receive_handshake (s : Stream) (now : Nat) {h : Header} (hh : h = .dial ∨ h = .dialAck) :
    s.Alike (s.receive now (h.datagram [])).1 := by
  rw [receive_of_length_le (s.length_datagram_nil_le h)]
  unfold process
  rw [Header.ofDatagram?_datagram]
  rcases hh with rfl | rfl
  · exact s.alike_taking _
  · exact s.alike_taking _

/-- Whatever arrives does not close a stream, and does not make a message whole. -/
theorem flags_receive (s : Stream) (now : Nat) (raw : Bytes) :
    (s.receive now raw).1.closed = s.closed ∧ (s.receive now raw).1.complete = s.complete := by
  -- neither flag is touched by the storing of segments, however many these are
  have hfold (segments : List (Segment Bytes)) (s0 : Stream) :
      (segments.foldl storeSegment s0).closed = s0.closed
        ∧ (segments.foldl storeSegment s0).complete = s0.complete := by
    induction segments generalizing s0 with
    | nil => exact ⟨rfl, rfl⟩
    | cons t rest ih =>
      obtain ⟨u, pool, hstore, -⟩ := s0.storeSegment_eq t
      have hrest := ih (s0.storeSegment t)
      rw [hstore] at hrest
      rw [List.foldl_cons, hstore]
      exact hrest
  show ((s.taking raw).process now (s.pool.intake s.settings.mtu raw).1).1.closed = s.closed
    ∧ ((s.taking raw).process now (s.pool.intake s.settings.mtu raw).1).1.complete = s.complete
  unfold process
  cases Header.ofDatagram? (s.pool.intake s.settings.mtu raw).1 with
  | none => exact ⟨rfl, rfl⟩
  | some found =>
    obtain ⟨header, payload⟩ := found
    cases header with
    | data => exact hfold _ _
    | _ => exact ⟨rfl, rfl⟩

/-- Only a request for a stream is answered at once. -/
theorem reply_of_receive {s : Stream} {now : Nat} {raw : Bytes} {header : Header}
    (h : (s.receive now raw).2 = some header) : header = .dialAck := by
  unfold receive process at h
  simp only at h
  split at h
  · cases h
  · cases h
  · cases h
  · cases h
    rfl
  · cases h

end Stream

end Redelivery
