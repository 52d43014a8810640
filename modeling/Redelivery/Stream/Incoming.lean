import Redelivery.Stream.Basic

/-!
# Incoming datagrams

What a stream does with a datagram that it receives, and how messages get from there to readers.

Data only ever changes the receive window; an acknowledgement only ever changes the send window and
the round trips. A request to set up a stream is answered again, since the peer did not see the
first answer; a late answer is ignored. What is not valid is counted and dropped.

## Main definitions

* `Stream.receive`: takes in a datagram.
* `Stream.process`: the effect of a datagram, by its header.
* `Stream.deliver`: the next step on the way of the next message to a reader.
-/

namespace Redelivery.Stream

/-! ### By kind of packet -/

/-- Stores a received segment in the receive window, if it is accepted there. -/
def storeSegment (s : Stream) (segment : Segment Bytes) : Stream :=
  let (buffer, pool) := s.pool.take s.settings.maxSegment
  let body := buffer.load segment.body
  match s.receiveWindow.accept (segment.map fun _ => body) with
  | .stored window evicted =>
    { s with receiveWindow := window, pool := pool.giveAll (evicted.toList.map (·.body)) }
  | .refused => { s with pool := pool.give body }

/-- Takes in the payload of a data packet: its segments, up to the first that cannot be read. An
acknowledgement is due even if all of them are duplicates: the peer sent them again because it did
not see the last one. -/
def processData (s : Stream) (now : Nat) (payload : Bytes) : Stream :=
  let (segments, stop) := Segment.decodeAll s.settings.maxSegment now payload
  let s := (segments.map (·.1)).foldl storeSegment s
  let traffic := if stop.isSome then s.traffic.malformed else s.traffic
  { s with traffic := traffic, ackDue := true }

/-- Takes in an acknowledgement. The writer that waits for room is notified if it removes
anything from the send window. -/
def processAck (s : Stream) (now : Nat) (next : Serial) (received : UInt32) : Stream :=
  let shed := s.sendWindow.acknowledge next received
  let removed := shed.removed.toList
  { s with
    sendWindow := shed.window
    roundTrips := s.roundTrips.appendAll (Window.roundTrips removed now)
    pool := s.pool.giveAll (removed.map (·.body))
    traffic := s.traffic.acknowledged removed.length
    roomFreed := s.roomFreed || !removed.isEmpty }

/-- The effect of a datagram, and the header of the reply that is owed to it, if one is. -/
def process (s : Stream) (now : Nat) (datagram : Bytes) : Stream × Option Header :=
  match Header.ofDatagram? datagram with
  | none => ({ s with traffic := s.traffic.malformed }, none)
  | some (.data, payload) => (s.processData now payload, none)
  | some (.ack next received, _) => (s.processAck now next received, none)
  | some (.dial, _) => (s, some .dialAck)
  | some (.dialAck, _) => (s, none)

/-- Takes in a datagram. It passes through a buffer as large as a datagram may be, and what does not
fit there is lost. -/
def receive (s : Stream) (now : Nat) (raw : Bytes) : Stream × Option Header :=
  let (datagram, pool) := s.pool.intake s.settings.mtu raw
  process { s with pool := pool, traffic := s.traffic.received datagram.length } now datagram

/-! ### Delivery -/

/-- What a reader gets out of a stream without waiting. -/
inductive Delivery where
  /-- A whole message of the given length is in the buffer. -/
  | message (length : Nat) (buffer : Bytes)
  /-- The message cannot be had. -/
  | failed (failure : Failure)
  /-- One more segment of the message was taken out of the receive window, which is to be
  acknowledged. -/
  | advanced
  /-- The next segment is not there. -/
  | starved

/-- The next step on the way of the next message into the reader's buffer: a message that is whole
is handed over, otherwise the next segment is appended to it. A message that the buffer is too
small for stays. A message that becomes longer than the settings allow closes the stream. -/
def deliver (s : Stream) (buffer : Bytes) : Stream × Delivery :=
  if s.complete then
    let length := s.assembled.size
    if buffer.length < length then
      (s, .failed (.readBufferTooSmall length buffer.length))
    else
      ({ s with assembled := #[], complete := false },
        .message length (buffer.overwrite s.assembled.toList))
  else
    match s.receiveWindow.pop? with
    | none => (s, .starved)
    | some (segment, window) =>
      let s := { s with receiveWindow := window, pool := s.pool.give segment.body }
      let length := s.assembled.size + segment.body.length
      if s.settings.maxMessage < length then
        (s.shut, .failed (.messageTooLarge length s.settings.maxMessage))
      else
        ({ s with
            assembled := s.assembled ++ segment.body.content
            complete := !segment.more }, .advanced)

end Redelivery.Stream
