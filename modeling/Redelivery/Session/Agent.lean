import Redelivery.Section
import Redelivery.Stream.Incoming
import Redelivery.Stream.Outgoing

/-!
# Agents

Several agents work on one stream at the same time: reads, writes and closes that were called and
have not returned yet, and the flusher that runs in the background. They share the stream's state
and two sections, one for writing and one for reading.

An agent runs without interruption until it has to wait for something: for a section, for the socket
to deliver or to take a datagram, for room in the send window, or for the time. Then it is described
by the point it has reached, and it goes on from there when the signal comes that ends its wait.

What an agent does between two waits is one turn, even where it takes and releases the lock on the
send window several times in it. So no other agent sees the stream between the moment when a segment
is added to the send window and the one when its datagram is made, or between the moment when a
writer finds the window full and the one from which on it will be notified of room. Agents that run
on threads of their own could be that close together; an acknowledgement that is processed at such a
moment is outside of what is described here.

## Main definitions

* `Agent`, `Shared`: the agents and what they share.
* `Wait`, `Signal`: what an agent waits for and what ends that.
* `Turn`: where an agent's turn takes it.
-/

namespace Redelivery

/-- An agent that works on a stream. -/
inductive Agent where
  /-- A read, a write or a close, by the number of the call. -/
  | call (id : Nat)
  /-- The flusher. -/
  | flusher
deriving DecidableEq, Repr

/-- What the agents of a stream share. -/
structure Shared where
  /-- The stream. -/
  stream : Stream
  /-- Only its owner may add segments to the send window or send segments. -/
  writing : Section Agent := {}
  /-- Only its owner may receive from the socket or take segments out of the receive window. -/
  reading : Section Agent := {}

namespace Shared

/-- An agent leaves the section for writing. -/
def leaveWriting (x : Shared) (me : Agent) : Shared :=
  { x with writing := x.writing.leave me }

/-- An agent leaves the section for reading. -/
def leaveReading (x : Shared) (me : Agent) : Shared :=
  { x with reading := x.reading.leave me }

end Shared

/-- What comes from a socket. -/
inductive Arrival where
  /-- A datagram. -/
  | datagram (raw : Bytes)
  /-- The socket failed to receive one. -/
  | fault (reason : String)
deriving DecidableEq, Repr

/-- What an agent waits for. -/
inductive Wait where
  /-- To own the section for writing. -/
  | writing
  /-- To own the section for reading. -/
  | reading
  /-- An arrival or the end of the stream, at most until the given time. -/
  | arrival (limit : Option Nat)
  /-- That the socket takes the datagram it was handed, at most until the given time. -/
  | sending (limit : Option Nat)
  /-- Room in the send window, at most until the given time. -/
  | room (limit : Nat)
  /-- The given time, or the end of the stream. -/
  | tick (time : Nat)
  /-- The end of the flusher. -/
  | flusher
deriving DecidableEq, Repr

/-- The time until which a wait lasts at most, if it is limited. -/
def Wait.limit? : Wait → Option Nat
  | arrival limit => limit
  | sending limit => limit
  | room limit => some limit
  | tick time => some time
  | writing => none
  | reading => none
  | flusher => none

/-- What ends a wait. -/
inductive Signal where
  /-- The section is owned. -/
  | granted
  /-- Something came from the socket. -/
  | arrived (arrival : Arrival)
  /-- The stream is closed. -/
  | closed
  /-- The socket has taken the datagram. -/
  | sent
  /-- The socket failed to take the datagram. -/
  | unsent (reason : String)
  /-- An acknowledgement has removed something from the send window, or the stream is closed. -/
  | room
  /-- The time has come. -/
  | due
  /-- The flusher has ended. -/
  | ended
  /-- It has taken too long. -/
  | expired
deriving DecidableEq, Repr

/-- Where an agent's turn takes it. -/
inductive Turn (π ρ : Type) where
  /-- It waits at a point. -/
  | waits (point : π)
  /-- It waits at a point for the socket to take the datagram that it has just handed to it. -/
  | hands (point : π) (datagram : Bytes)
  /-- It has ended. -/
  | returns (result : ρ)

namespace Turn

variable {π π' ρ ρ' : Type}

/-- The turn with points and result seen as something else. -/
def map (f : π → π') (g : ρ → ρ') : Turn π ρ → Turn π' ρ'
  | waits point => waits (f point)
  | hands point datagram => hands (f point) datagram
  | returns result => returns (g result)

end Turn

end Redelivery
