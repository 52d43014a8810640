/-!
# Traffic

Counters of what a stream sent and received. They are words of 64 bits and wrap around.

## Main definitions

* `Traffic`: the counters, all zero at first.
* `Traffic.sent`, `Traffic.received`, `Traffic.malformed`, `Traffic.piggybacked`, `Traffic.resent`,
  `Traffic.acknowledged`: the events that are counted.
-/

namespace Redelivery

/-- The traffic counters of a stream. -/
structure Traffic where
  /-- Datagrams sent. -/
  datagramsSent : UInt64 := 0
  /-- Bytes of the datagrams sent. -/
  bytesSent : UInt64 := 0
  /-- Datagrams received. -/
  datagramsReceived : UInt64 := 0
  /-- Bytes of the datagrams received. -/
  bytesReceived : UInt64 := 0
  /-- Datagrams that failed verification or could not be read to the end. -/
  malformedDropped : UInt64 := 0
  /-- Earlier segments that were sent again along with a new one. -/
  segmentsPiggybacked : UInt64 := 0
  /-- Segments that were sent again by a flush. -/
  segmentsResent : UInt64 := 0
  /-- Segments that were acknowledged. -/
  segmentsAcknowledged : UInt64 := 0
deriving DecidableEq, Repr

namespace Traffic

/-- A datagram of `length` bytes was sent. -/
def sent (t : Traffic) (length : Nat) : Traffic :=
  { t with
    datagramsSent := t.datagramsSent + 1
    bytesSent := t.bytesSent + UInt64.ofNat length }

/-- A datagram of `length` bytes was received. -/
def received (t : Traffic) (length : Nat) : Traffic :=
  { t with
    datagramsReceived := t.datagramsReceived + 1
    bytesReceived := t.bytesReceived + UInt64.ofNat length }

/-- A datagram was dropped, or the rest of it. -/
def malformed (t : Traffic) : Traffic :=
  { t with malformedDropped := t.malformedDropped + 1 }

/-- `count` earlier segments went along with a new one. -/
def piggybacked (t : Traffic) (count : Nat) : Traffic :=
  { t with segmentsPiggybacked := t.segmentsPiggybacked + UInt64.ofNat count }

/-- A flush sent `count` segments again. -/
def resent (t : Traffic) (count : Nat) : Traffic :=
  { t with segmentsResent := t.segmentsResent + UInt64.ofNat count }

/-- `count` segments were acknowledged. -/
def acknowledged (t : Traffic) (count : Nat) : Traffic :=
  { t with segmentsAcknowledged := t.segmentsAcknowledged + UInt64.ofNat count }

end Traffic

end Redelivery
