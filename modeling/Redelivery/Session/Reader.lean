import Redelivery.Session.Agent

/-!
# Readers

A read takes segments out of the receive window, in sequence, until they make up a whole message,
and receives datagrams whenever the next segment is not there. It acknowledges every segment that it
takes out, and whatever data arrived before it receives again: a reader that waits for the socket
owes no acknowledgement.

## Main definitions

* `Reader`: the points at which a read waits.
* `Reader.begin`, `Reader.resume`: its first turn, and the turns after that.
-/

namespace Redelivery

/-- The points at which a read waits. -/
inductive Reader where
  /-- For the section. -/
  | entering
  /-- For the socket to take an acknowledgement. Then it tries `again` to get on with the message,
  or it receives. -/
  | acking (datagram : Bytes) (again : Bool)
  /-- For the socket to deliver a datagram. -/
  | receiving
  /-- For the socket to take a reply to what was received. -/
  | replying (datagram : Bytes)
deriving DecidableEq, Repr

namespace Reader

/-- What a read returns: the length of the message and the buffer with it, or the reason why there
is none. -/
abbrev Outcome := Except Failure (Nat × Bytes)

/-- What a reader waits for. -/
def wait : Reader → Wait
  | entering => .reading
  | acking _ _ => .sending none
  | receiving => .arrival none
  | replying _ => .sending none

/-- The end of a read: it leaves the section. -/
def finish (x : Shared) (me : Agent) (outcome : Outcome) : Shared × Turn Reader Outcome :=
  (x.leaveReading me, .returns outcome)

/-- Sends an acknowledgement. If it cannot be made, the reader goes on without. -/
def acknowledge (x : Shared) (again : Bool) : Shared × Turn Reader Outcome :=
  match x.stream.acknowledge with
  | (.ok datagram, stream) => ({ x with stream := stream }, .hands (acking datagram again) datagram)
  | (.error _, stream) =>
    ({ x with stream := stream }, .waits (if again then entering else receiving))

/-- The owner of the section gets on with the message, as far as it can without waiting. -/
def proceed (x : Shared) (me : Agent) (buffer : Bytes) : Shared × Turn Reader Outcome :=
  if x.stream.closed then
    finish x me (.error .streamClosed)
  else
    match x.stream.deliver buffer with
    | (stream, .message length buffer) =>
      finish { x with stream := stream } me (.ok (length, buffer))
    | (stream, .failed failure) => finish { x with stream := stream } me (.error failure)
    | (stream, .advanced) => acknowledge { x with stream := stream } true
    | (stream, .starved) =>
      let x := { x with stream := stream }
      if stream.ackDue then acknowledge x false else (x, .waits receiving)

/-- A reader takes in what the socket delivered. -/
def accept (x : Shared) (me : Agent) (buffer : Bytes) (now : Nat) :
    Arrival → Shared × Turn Reader Outcome
  | .fault reason => finish x me (.error (.socket reason))
  | .datagram raw =>
    match x.stream.receive now raw with
    | (stream, none) => proceed { x with stream := stream } me buffer
    | (stream, some header) =>
      match stream.control header with
      | (.ok datagram, stream) => ({ x with stream := stream }, .hands (replying datagram) datagram)
      | (.error _, stream) => proceed { x with stream := stream } me buffer

/-- The first turn of a read. -/
def begin (x : Shared) (me : Agent) (buffer : Bytes) : Shared × Turn Reader Outcome :=
  if x.stream.closed then
    (x, .returns (.error .streamClosed))
  else
    let x := { x with reading := x.reading.enter me }
    if x.reading.owner = some me then proceed x me buffer else (x, .waits entering)

/-- The turn that a signal gives to a reader. Signals that it does not wait for change nothing. -/
def resume (x : Shared) (me : Agent) (buffer : Bytes) (now : Nat) (point : Reader)
    (signal : Signal) : Shared × Turn Reader Outcome :=
  match point, signal with
  | entering, .granted => proceed x me buffer
  | acking datagram again, .sent =>
    let x := { x with stream := x.stream.countSent datagram }
    if again then proceed x me buffer else (x, .waits receiving)
  | acking _ again, .unsent _ =>
    if again then proceed x me buffer else (x, .waits receiving)
  | receiving, .arrived arrival => accept x me buffer now arrival
  | receiving, .closed => finish x me (.error .streamClosed)
  | replying datagram, .sent =>
    proceed { x with stream := x.stream.countSent datagram } me buffer
  | replying _, .unsent _ => proceed x me buffer
  | point, _ => (x, .waits point)

end Reader

end Redelivery
