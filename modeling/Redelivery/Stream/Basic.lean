import Redelivery.Failure
import Redelivery.Pool
import Redelivery.Traffic
import Redelivery.Window

/-!
# Streams

A stream carries messages both ways over datagrams that may be lost, repeated or reordered. This is
the state of one of its two ends: what was sent and is not yet acknowledged, what arrived and is not
yet delivered, and the message that is being put together.

Nothing here waits. The operations that do, and the rules for several of them at once, are built on
top of this state in `Redelivery.Session`.

## Main definitions

* `Stream`: the state.
* `Stream.establish`: a stream on which nothing has happened yet.
* `Stream.shut`: closes the stream.
* `Stream.compose`, `Stream.control`: a stamped datagram, and one that is only a header.
-/

namespace Redelivery

/-- One end of a stream. -/
structure Stream where
  /-- The settings. -/
  settings : ValidSettings
  /-- Where buffers come from and go to. -/
  pool : Pool
  /-- The segments that were sent and are not yet acknowledged. -/
  sendWindow : Window Buffer
  /-- The serial number of the next new segment. -/
  next : Serial
  /-- The round trips of the segments that were acknowledged. -/
  roundTrips : RoundTrips
  /-- The segments that arrived and are not yet delivered. -/
  receiveWindow : Window Buffer
  /-- The part of the next message that was taken out of the receive window. -/
  assembled : Array UInt8
  /-- Whether `assembled` is a whole message that waits for a reader with a buffer for it. -/
  complete : Bool
  /-- Whether data arrived since the last acknowledgement was sent. -/
  ackDue : Bool
  /-- Whether the stream is closed. -/
  closed : Bool
  /-- Whether the writer that waits for room has been notified. -/
  roomFreed : Bool
  /-- Whether a write sent something since the last tick of the flusher. -/
  sentSinceTick : Bool
  /-- The traffic counters. -/
  traffic : Traffic

namespace Stream

/-- A stream on which nothing has happened yet. Both windows start at the initial serial number, on
which the two ends agree. -/
def establish (settings : ValidSettings) (pool : Pool) : Stream where
  settings := settings
  pool := pool
  sendWindow := .empty settings.windowSize settings.initialSerial settings.windowSize_pos
  next := settings.initialSerial
  roundTrips := .empty
  receiveWindow := .empty settings.windowSize settings.initialSerial settings.windowSize_pos
  assembled := #[]
  complete := false
  ackDue := false
  closed := false
  roomFreed := false
  sentSinceTick := false
  traffic := {}

/-- Closes the stream for good, and notifies the writer that waits for room. -/
def shut (s : Stream) : Stream :=
  { s with closed := true, roomFreed := true }

/-- Counts a datagram that the socket has taken. -/
def countSent (s : Stream) (datagram : Bytes) : Stream :=
  { s with traffic := s.traffic.sent datagram.length }

/-- A datagram: what `write` leaves in a buffer as large as a datagram may be, with its
checksum. -/
def compose (s : Stream) (write : Buffer → Except Failure Buffer) : Except Failure Bytes × Stream :=
  let (datagram, pool) := s.pool.compose s.settings.mtu fun b => do
    let b ← write b
    (Frame.stamp b).mapError .stamp
  (datagram, { s with pool := pool })

/-- A datagram that is only a header. -/
def control (s : Stream) (header : Header) : Except Failure Bytes × Stream :=
  s.compose fun b => (header.write b).mapError .header

/-- The datagram that acknowledges all that arrived so far. None is due afterwards, until more data
arrives. -/
def acknowledge (s : Stream) : Except Failure Bytes × Stream :=
  let (next, received) := s.receiveWindow.acknowledgement
  control { s with ackDue := false } (.ack next received)

@[simp] theorem closed_shut (s : Stream) : s.shut.closed = true := rfl

@[simp] theorem roomFreed_shut (s : Stream) : s.shut.roomFreed = true := rfl

/-- Making a datagram changes nothing but the pool. -/
theorem snd_compose (s : Stream) (write : Buffer → Except Failure Buffer) :
    (s.compose write).2 = { s with pool := (s.compose write).2.pool } := rfl

end Stream

end Redelivery
