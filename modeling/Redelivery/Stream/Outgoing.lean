import Redelivery.Stream.Basic

/-!
# Outgoing data

How segments get into the send window and from there into datagrams. A new segment goes out at once,
along with some of its predecessors that are not yet acknowledged, so that a single loss is made up
for by the next datagram. A flush sends all segments again that are older than the fastest recent
round trip, as many in a datagram as fit.

## Main definitions

* `Segment.fitting`, `Segment.batches`: segments grouped by the room in a datagram.
* `Stream.prepare`, `Stream.insert?`: a new segment on its way into the send window.
* `Stream.segmentDatagram`: the datagram for the segment that was added last.
* `Stream.flushDatagrams`: the datagrams of a flush.
-/

namespace Redelivery

namespace Segment

/-- The longest part of the list, from its front, that fits into the given room. -/
def fitting (room : Nat) : List (Segment Bytes) → List (Segment Bytes)
  | [] => []
  | s :: rest => if s.size ≤ room then s :: fitting (room - s.size) rest else []

/-- The list cut into groups, each as long as fits into the given room. A segment that does not even
fit alone is a group of its own. -/
def batches (room : Nat) : List (Segment Bytes) → List (List (Segment Bytes))
  | [] => []
  | s :: rest =>
    let others := fitting (room - s.size) rest
    (s :: others) :: batches room (rest.drop others.length)
termination_by segments => segments.length
decreasing_by
  simp only [List.length_drop, List.length_cons]
  omega

/-- Appends segments to a buffer, one behind the other. -/
def writeAll (segments : List (Segment Bytes)) (b : Buffer) : Except SegmentError Buffer :=
  segments.foldlM (fun b s => s.write b) b

end Segment

namespace Stream

/-! ### New segments -/

/-- A buffer with a piece of a message. -/
def prepare (s : Stream) (piece : Bytes) : Buffer × Stream :=
  let (buffer, pool) := s.pool.take s.settings.maxSegment
  (buffer.load piece, { s with pool := pool })

/-- The stream without a buffer that a writer held. -/
def giveBack (s : Stream) (buffer : Buffer) : Stream :=
  { s with pool := s.pool.give buffer }

/-- The stream with a new segment in its send window, or `none` if there is no room for it. -/
def insert? (s : Stream) (now : Nat) (body : Buffer) (more : Bool) : Option Stream :=
  match s.sendWindow.write { seq := s.next, more := more, body := body, sentAt := now } with
  | .added window => some { s with sendWindow := window }
  | .present => some (s.giveBack body)
  | .full => none

/-- The stream after the datagram with the new segment was sent, along with `piggybacked` earlier
ones. -/
def commit (s : Stream) (piggybacked : Nat) : Stream :=
  { s with
    sentSinceTick := true
    traffic := s.traffic.piggybacked piggybacked
    next := s.next.next }

/-- The stream after the datagram with the new segment could not be sent: the segment is given up,
and the stream is closed. -/
def abandon (s : Stream) : Stream :=
  match s.sendWindow.clear s.next with
  | some (segment, window) =>
    shut { s with sendWindow := window, pool := s.pool.give segment.body }
  | none => s.shut

/-! ### Datagrams -/

/-- A datagram with the given segments. -/
def dataDatagram (s : Stream) (segments : List (Segment Bytes)) : Except Failure Bytes × Stream :=
  s.compose fun b => do
    let b ← (Header.data.write b).mapError .header
    (Segment.writeAll segments b).mapError .segment

/-- The datagram for the segment that was just added, and the number of earlier segments in it:
those of its predecessors that are not yet acknowledged, the latest first, as far as the settings
ask for them and as long as they fit. -/
def segmentDatagram (s : Stream) : Except Failure (Bytes × Nat) × Stream :=
  match s.sendWindow.find? s.next with
  | none => (.error (.missing s.next), s)
  | some segment =>
    let first := segment.wire
    let earlier := (s.sendWindow.predecessors s.next s.settings.redundancy).map Segment.wire
    let extra := Segment.fitting (s.settings.segmentRoom - first.size) earlier
    match s.dataDatagram (first :: extra) with
    | (.ok datagram, s) => (.ok (datagram, extra.length), s)
    | (.error e, s) => (.error e, s)

/-- One datagram for each group of segments. -/
def dataDatagrams (s : Stream) : List (List (Segment Bytes)) → Except Failure (List Bytes) × Stream
  | [] => (.ok [], s)
  | segments :: rest =>
    match s.dataDatagram segments with
    | (.error e, s) => (.error e, s)
    | (.ok datagram, s) =>
      match s.dataDatagrams rest with
      | (.error e, s) => (.error e, s)
      | (.ok datagrams, s) => (.ok (datagram :: datagrams), s)

/-- The segments of the send window that are at least as old as the fastest recent round trip. -/
def overdue (s : Stream) (now : Nat) : List (Segment Bytes) :=
  (s.sendWindow.entries.filter fun segment =>
    s.roundTrips.recentMin ≤ now - segment.sentAt).map Segment.wire

/-- The datagrams of a flush, and the number of segments in them. -/
def flushDatagrams (s : Stream) (now : Nat) : Except Failure (List Bytes × Nat) × Stream :=
  let segments := s.overdue now
  let s := { s with roundTrips := s.roundTrips.remember }
  match s.dataDatagrams (Segment.batches s.settings.segmentRoom segments) with
  | (.ok datagrams, s) => (.ok (datagrams, segments.length), s)
  | (.error e, s) => (.error e, s)

end Stream

end Redelivery
