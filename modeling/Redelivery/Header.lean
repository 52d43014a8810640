import Redelivery.Frame
import Redelivery.Serial

/-!
# Packet headers

Every payload starts with the protocol's number and the kind of packet. A packet with data goes on
with segments; an acknowledgement goes on with the next serial number that the receiver expects and
a bitmap of those behind it that it holds already; the two packets of the handshake end there.

## Main definitions

* `Header`: what a packet is about.
* `Header.encode`, `Header.write`: its bytes, and writing them to a buffer.
* `Header.decode`: reads a header off the front of a payload.
* `Header.ofDatagram?`: the header of a datagram and the payload behind it.
-/

namespace Redelivery

/-- What a packet is about. -/
inductive Header where
  /-- Segments follow. -/
  | data
  /-- All serial numbers before `next` were received, and `next + 1 + i` wherever bit `i` of
  `received` is set. -/
  | ack (next : Serial) (received : UInt32)
  /-- A request to set up a stream. -/
  | dial
  /-- The answer to a request. -/
  | dialAck
deriving DecidableEq, Repr

/-- Why a header could not be written or read. -/
inductive HeaderError where
  /-- The buffer has no room for the header. -/
  | noRoom (required available : Nat)
  /-- The payload ends inside a field. -/
  | truncated (requested available : Nat)
  /-- The payload starts with the number of another protocol. -/
  | foreignProtocol (id : UInt8)
  /-- There is no packet kind with this number. -/
  | unknownKind (code : UInt8)
deriving DecidableEq, Repr

namespace HeaderError

/-- The error in words. -/
def message : HeaderError → String
  | noRoom required available =>
    s!"no room for packet header: {required} bytes required, {available} available"
  | truncated requested available =>
    "Not enough bytes remaining in buffer to read value "
      ++ s!"(requested {requested} but only {available} available)"
  | foreignProtocol id => s!"unsupported protocol id {id.toNat}"
  | unknownKind code =>
    s!"No discriminant in enum \x60PacketKind\x60 matches the value \x60{code.toNat}\x60"

end HeaderError

namespace Header

/-- The number of the packet kind. -/
def code : Header → UInt8
  | data => 0
  | ack _ _ => 1
  | dial => 2
  | dialAck => 3

/-- The length of a header without fields of its own. -/
def plainSize : Nat := 2

/-- The length of an acknowledgement's header. -/
def ackSize : Nat := 10

/-- The number of bytes of a header. -/
def size : Header → Nat
  | ack _ _ => ackSize
  | _ => plainSize

/-- The bytes of a header. -/
def encode (h : Header) : Bytes :=
  match h with
  | ack next received =>
    Frame.protocolId :: h.code :: (Bytes.ofUInt32 next.raw ++ Bytes.ofUInt32 received)
  | _ => [Frame.protocolId, h.code]

@[simp] theorem length_encode (h : Header) : h.encode.length = h.size := by
  cases h <;> rfl

/-- Appends a header to a buffer, or nothing at all if there is no room for all of it. -/
def write (h : Header) (b : Buffer) : Except HeaderError Buffer :=
  match b.append? h.encode with
  | some written => .ok written
  | none => .error (.noRoom h.size b.room)

/-- Reads the fields of an acknowledgement: the header, and what was not consumed. -/
def decodeAck (bytes : Bytes) : Except HeaderError Header × Bytes :=
  match Bytes.takeUInt32? bytes with
  | none => (.error (.truncated 4 bytes.length), bytes)
  | some (next, rest) =>
    match Bytes.takeUInt32? rest with
    | none => (.error (.truncated 4 rest.length), rest)
    | some (received, rest) => (.ok (ack ⟨next⟩ received), rest)

/-- Reads a header off the front of a payload. The second part is what was not consumed, also after
an error: a field that is complete is consumed even if its value is not acceptable. -/
def decode (bytes : Bytes) : Except HeaderError Header × Bytes :=
  match bytes with
  | [] => (.error (.truncated 1 0), [])
  | id :: rest =>
    if id ≠ Frame.protocolId then
      (.error (.foreignProtocol id), rest)
    else
      match rest with
      | [] => (.error (.truncated 1 0), [])
      | 0 :: rest => (.ok data, rest)
      | 1 :: rest => decodeAck rest
      | 2 :: rest => (.ok dial, rest)
      | 3 :: rest => (.ok dialAck, rest)
      | code :: rest => (.error (.unknownKind code), rest)

/-- The header of a valid datagram and the payload behind it. -/
def ofDatagram? (datagram : Bytes) : Option (Header × Bytes) :=
  match Frame.payload? datagram with
  | none => none
  | some payload =>
    match decode payload with
    | (.ok header, rest) => some (header, rest)
    | (.error _, _) => none

end Header

end Redelivery
