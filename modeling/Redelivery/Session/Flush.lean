import Redelivery.Session.Agent

/-!
# Flushes

A flush sends all segments again that are overdue, one datagram after the other. The datagrams are
made at its start. It is done by the flusher and by writers that wait for room, and only ever by the
owner of the section for writing.

## Main definitions

* `Flush`: a flush in progress.
* `Flush.begin`, `Flush.sent`, `Flush.unsent`: its start, and what follows on each datagram.
-/

namespace Redelivery

/-- A flush in progress. -/
structure Flush where
  /-- The datagram that the socket has been handed. -/
  current : Bytes
  /-- The datagrams after it. -/
  rest : List Bytes
  /-- The number of segments in all datagrams of the flush. -/
  count : Nat
deriving DecidableEq, Repr

namespace Flush

/-- How a flush goes on. -/
inductive Progress where
  /-- All datagrams were sent. -/
  | done
  /-- The next datagram is to be sent. -/
  | going (flush : Flush)
  /-- It failed. -/
  | failed (failure : Failure)

/-- Starts a flush. -/
def begin (s : Stream) (now : Nat) : Stream × Progress :=
  match s.flushDatagrams now with
  | (.ok ([], _), s) => (s, .done)
  | (.ok (datagram :: rest, count), s) => (s, .going ⟨datagram, rest, count⟩)
  | (.error failure, s) => (s, .failed failure)

/-- The current datagram was sent. The segments count as sent again when the last one was. -/
def sent (f : Flush) (s : Stream) : Stream × Progress :=
  let s := s.countSent f.current
  match f.rest with
  | [] => ({ s with traffic := s.traffic.resent f.count }, .done)
  | datagram :: rest => (s, .going { f with current := datagram, rest := rest })

/-- The current datagram could not be sent: that closes the stream. -/
def unsent (_ : Flush) (s : Stream) (reason : String) : Stream × Progress :=
  (s.shut, .failed (.socket reason))

end Flush

end Redelivery
