import Redelivery.Session.Agent

/-!
# Scripted sockets

A socket whose arrivals are put there by a script, and which keeps what is sent until the script
takes it away. A script can also make it fail.

## Main definitions

* `Socket`: what has arrived, what was sent, and which sends are to fail.
* `Socket.send`, `Socket.next?`: the two uses of it.
-/

namespace Redelivery

/-- A scripted socket. -/
structure Socket where
  /-- What is to be received, the next one first. -/
  inbox : List Arrival := []
  /-- What was sent, the first one first. -/
  outbox : Array Bytes := #[]
  /-- For each of the next sends, the reason why it fails, if it does. All others succeed. -/
  verdicts : List (Option String) := []

namespace Socket

/-- Hands a datagram to the socket, and tells whether it was sent. -/
def send (s : Socket) (datagram : Bytes) : Socket × Signal :=
  match s.verdicts with
  | some reason :: verdicts => ({ s with verdicts := verdicts }, .unsent reason)
  | none :: verdicts => ({ s with outbox := s.outbox.push datagram, verdicts := verdicts }, .sent)
  | [] => ({ s with outbox := s.outbox.push datagram }, .sent)

/-- The next arrival. -/
def next? (s : Socket) : Option Arrival :=
  s.inbox.head?

/-- The socket after the next arrival was received. -/
def received (s : Socket) : Socket :=
  { s with inbox := s.inbox.tail }

/-- The socket with more arrivals behind those that are there. -/
def arrive (s : Socket) (arrivals : List Arrival) : Socket :=
  { s with inbox := s.inbox ++ arrivals }

end Socket

end Redelivery
