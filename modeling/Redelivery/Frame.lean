import Redelivery.Buffer
import Redelivery.Crc32

/-!
# Frames

A datagram is a payload followed by four bytes of checksum: the CRC-32 of the payload, masked so
that a foreign protocol with a plain CRC-32 is not taken for this one. The payload starts with the
protocol's number and the packet kind.

## Main definitions

* `Frame.checksum`: the masked check value.
* `Frame.stamp`: appends the checksum to a payload.
* `Frame.payloadLength?`: verifies a datagram and tells how long its payload is.
* `Frame.payload?`: the payload of a datagram that is verified.
-/

namespace Redelivery.Frame

/-- The number every payload starts with. -/
def protocolId : UInt8 := 67

/-- The mask that is added to the check value. -/
def mask : UInt32 := 0x5A11ADFC

/-- The number of bytes behind the payload. -/
def checksumLength : Nat := 4

/-- The shortest payload: protocol number and packet kind. -/
def minPayloadLength : Nat := 2

/-- The masked check value of a payload. -/
def checksum (payload : Bytes) : UInt32 :=
  Crc32.checksum payload ^^^ mask

/-- The datagram with the given payload. -/
def ofPayload (payload : Bytes) : Bytes :=
  payload ++ Bytes.ofUInt32 (checksum payload)

/-- A payload could not be stamped with its checksum: the buffer has no room for the checksum. -/
structure StampError where
  /-- The length of the payload. -/
  length : Nat
deriving DecidableEq, Repr

/-- The error in words. -/
def StampError.message (e : StampError) : String :=
  s!"no room for checksum: datagram payload of length {e.length} fills the buffer"

/-- Appends the checksum to the payload in the buffer. -/
def stamp (b : Buffer) : Except StampError Buffer :=
  match b.append? (Bytes.ofUInt32 (checksum b.content)) with
  | some stamped => .ok stamped
  | none => .error ⟨b.length⟩

/-- The length of a datagram's payload, or `none` if the datagram is too short, belongs to another
protocol or fails the check. -/
def payloadLength? (datagram : Bytes) : Option Nat :=
  if datagram.length < minPayloadLength + checksumLength then
    none
  else if datagram.head? ≠ some protocolId then
    none
  else
    let length := datagram.length - checksumLength
    if datagram.drop length = Bytes.ofUInt32 (checksum (datagram.take length)) then
      some length
    else
      none

/-- The payload of a datagram, or `none` if it is not valid. -/
def payload? (datagram : Bytes) : Option Bytes :=
  (payloadLength? datagram).map datagram.take

end Redelivery.Frame
