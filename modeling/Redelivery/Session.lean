import Redelivery.Session.Closer
import Redelivery.Session.Flusher
import Redelivery.Session.Reader
import Redelivery.Session.Writer

/-!
# Sessions

A session is a stream together with the agents that work on it: the calls that have not returned
yet and the flusher. It moves on by the turns of its agents. A turn is given to an agent by the
signal that ends its wait; which signals are possible depends on the session, the time and the
socket. Where several are, there is no order among them: any of them may come first.

## Main definitions

* `Call`, `Result`: an operation in progress and what it returns.
* `Session`: the stream, its sections and its agents.
* `Session.read`, `Session.write`, `Session.close`, `Session.cancel`: what a caller can do.
* `Session.allows`, `Session.resume`: the signals that may end a wait, and the turn that one gives.
-/

namespace Redelivery

/-- An operation that has not returned yet. -/
inductive Call where
  /-- A read into a buffer. -/
  | reading (buffer : Bytes) (point : Reader)
  /-- A write. -/
  | writing (point : Writer)
  /-- A close. -/
  | closing (point : Closer)

namespace Call

/-- What a call waits for. -/
def wait : Call → Wait
  | reading _ point => point.wait
  | writing point => point.wait
  | closing point => point.wait

/-- The buffers that a call holds. -/
def buffers : Call → List Buffer
  | reading _ _ => []
  | writing point => point.buffers
  | closing _ => []

end Call

/-- What an operation returns. -/
inductive Result where
  /-- A message of the given length is in the buffer. -/
  | read (length : Nat) (buffer : Bytes)
  /-- The message is on its way. -/
  | written
  /-- Nobody works on the stream any more. -/
  | closed
  /-- The operation failed. -/
  | failed (failure : Failure)
deriving DecidableEq, Repr

/-- What a session does in a turn, as seen from outside. -/
inductive Outcome where
  /-- The agent waits. -/
  | waits
  /-- The agent has handed a datagram to the socket, and waits for the socket to take it. -/
  | hands (datagram : Bytes)
  /-- A call has returned. -/
  | returns (id : Nat) (result : Result)
deriving DecidableEq, Repr

/-- A stream and the agents that work on it. -/
structure Session where
  /-- What the agents share. -/
  shared : Shared
  /-- The calls that have not returned yet, by number, in the order in which they were made. -/
  calls : List (Nat × Call) := []
  /-- The flusher, unless it has ended. -/
  flusher : Option Flusher
  /-- Whether no close has waited for the flusher yet. -/
  joinable : Bool := true

namespace Session

/-- The session of a stream that is established now. -/
def establish (stream : Stream) (now : Nat) : Session where
  shared := { stream := stream }
  flusher := some (.begin stream.settings now)

/-- The stream. -/
def stream (s : Session) : Stream :=
  s.shared.stream

/-- The call with the given number. -/
def call? (s : Session) (id : Nat) : Option Call :=
  s.calls.lookup id

/-- The session without the call with the given number. -/
def forget (s : Session) (id : Nat) : Session :=
  { s with calls := s.calls.filter fun entry => entry.1 != id }

/-- The session with the call with the given number at a new point. -/
def place (s : Session) (id : Nat) (call : Call) : Session :=
  if s.calls.any (·.1 == id) then
    { s with calls := s.calls.map fun entry => if entry.1 == id then (id, call) else entry }
  else
    { s with calls := s.calls ++ [(id, call)] }

/-! ### Turns -/

/-- The session after a call's turn. -/
def record (s : Session) (id : Nat) (x : Shared) : Turn Call Result → Session × Outcome
  | .waits call => ({ s with shared := x }.place id call, .waits)
  | .hands call datagram => ({ s with shared := x }.place id call, .hands datagram)
  | .returns result => ({ s with shared := x }.forget id, .returns id result)

/-- The session after a reader's turn. -/
def recordReader (s : Session) (id : Nat) (buffer : Bytes)
    (turn : Shared × Turn Reader Reader.Outcome) : Session × Outcome :=
  s.record id turn.1 <| turn.2.map (.reading buffer) fun
    | .ok (length, buffer) => .read length buffer
    | .error failure => .failed failure

/-- The session after a writer's turn. -/
def recordWriter (s : Session) (id : Nat) (turn : Shared × Turn Writer Writer.Outcome) :
    Session × Outcome :=
  s.record id turn.1 <| turn.2.map .writing fun
    | .ok () => .written
    | .error failure => .failed failure

/-- The session after a closer's turn. -/
def recordCloser (s : Session) (id : Nat) (turn : Shared × Turn Closer Unit) :
    Session × Outcome :=
  s.record id turn.1 <| turn.2.map .closing fun _ => .closed

/-- The session after the flusher's turn. -/
def recordFlusher (s : Session) : Shared × Turn Flusher Unit → Session × Outcome
  | (x, .waits point) => ({ s with shared := x, flusher := some point }, .waits)
  | (x, .hands point datagram) => ({ s with shared := x, flusher := some point }, .hands datagram)
  | (x, .returns ()) => ({ s with shared := x, flusher := none }, .waits)

/-! ### What a caller can do -/

/-- A read into a buffer, as a call with the given number. -/
def read (s : Session) (id : Nat) (buffer : Bytes) : Session × Outcome :=
  s.recordReader id buffer (Reader.begin s.shared (.call id) buffer)

/-- A write, as a call with the given number. -/
def write (s : Session) (now id : Nat) (message : Bytes) : Session × Outcome :=
  s.recordWriter id (Writer.begin s.shared (.call id) now message)

/-- A close, as a call with the given number. -/
def close (s : Session) (id : Nat) : Session × Outcome :=
  { s with joinable := false }.recordCloser id (Closer.begin s.shared (.call id) s.joinable)

/-- Abandons the call with the given number wherever it waits. It gives up what it holds, and
nothing else happens. -/
def cancel (s : Session) (id : Nat) : Session :=
  match s.call? id with
  | none => s
  | some call =>
    let x := (s.shared.leaveReading (.call id)).leaveWriting (.call id)
    let stream := { x.stream with pool := x.stream.pool.giveAll call.buffers }
    { s with shared := { x with stream := stream } }.forget id

/-! ### Waits and signals -/

/-- What an agent waits for, if it is at work. -/
def wait? (s : Session) : Agent → Option Wait
  | .flusher => s.flusher.map Flusher.wait
  | .call id => (s.call? id).map Call.wait

/-- Whether a signal may end the wait of an agent. Often several may, as when a datagram has arrived
on a stream that was closed in the meantime, and it is open which of them does. What arrives, and
what the socket makes of a datagram, is not up to the session. -/
def allows (s : Session) (now : Nat) (me : Agent) (signal : Signal) : Bool :=
  match s.wait? me, signal with
  | some .writing, .granted => s.shared.writing.owner = some me
  | some .reading, .granted => s.shared.reading.owner = some me
  | some (.arrival _), .arrived _ => true
  | some (.arrival _), .closed => s.stream.closed
  | some (.arrival (some limit)), .due => limit ≤ now
  | some (.sending _), .sent => true
  | some (.sending _), .unsent _ => true
  | some (.sending (some limit)), .due => limit ≤ now
  | some (.room _), .room => s.stream.roomFreed
  | some (.room limit), .due => limit ≤ now
  | some (.tick _), .closed => s.stream.closed
  | some (.tick time), .due => time ≤ now
  | some .flusher, .ended => s.flusher.isNone
  | _, _ => false

/-- The turn that a signal gives to an agent. -/
def resume (s : Session) (now : Nat) (me : Agent) (signal : Signal) : Session × Outcome :=
  match me with
  | .flusher =>
    match s.flusher with
    | none => (s, .waits)
    | some point => s.recordFlusher (Flusher.resume s.shared now point signal)
  | .call id =>
    match s.call? id with
    | none => (s, .waits)
    | some (.reading buffer point) =>
      s.recordReader id buffer (Reader.resume s.shared me buffer now point signal)
    | some (.writing point) => s.recordWriter id (Writer.resume s.shared me now point signal)
    | some (.closing point) => s.recordCloser id (Closer.resume s.shared me point signal)

/-- The agents: first the owners of the sections, then the calls in order, then the flusher. -/
def agents (s : Session) : List Agent :=
  (s.shared.reading.owner.toList ++ s.shared.writing.owner.toList
    ++ s.calls.map (fun entry => Agent.call entry.1) ++ [Agent.flusher]).eraseDups

/-- The times at which some agent's wait ends. -/
def timers (s : Session) : List Nat :=
  s.agents.filterMap fun me => s.wait? me >>= Wait.limit?

end Session

end Redelivery
