import Redelivery.Handshake
import Redelivery.Simulation.Socket

/-!
# Simulated endpoints

An endpoint has a scripted socket and room for one stream. Its tasks are the handshakes and the
calls that a script has started, by number. Workers, which are handshakes and the agents of
sessions, take their turns in the order in which they became ready; each of them goes on for as long
as it does not have to wait. The clock stands still meanwhile, and the socket answers at once.

Handshakes and sessions leave it open which signal ends a wait when several may. A simulation has to
choose, so here there is an order among them (`Endpoint.signal?`). What holds of all signals that
may come holds of these.

## Main definitions

* `Worker`, `Endpoint`: what takes turns, and the state.
* `Endpoint.connect`, `Endpoint.accept`, `Endpoint.write`, `Endpoint.read`, `Endpoint.readOn`,
  `Endpoint.close`, `Endpoint.cancel`, `Endpoint.drop`: what a script can do.
* `Endpoint.settle`: all turns that can be taken at one time.
-/

namespace Redelivery

/-- What takes turns at an endpoint. -/
inductive Worker where
  /-- A handshake, by the number of its task. -/
  | handshake (task : Nat)
  /-- An agent of the session that a task has opened. -/
  | agent (session : Nat) (me : Agent)
deriving DecidableEq, Repr

/-- How a task ends, or a round of a task that reads on and on. -/
inductive Completion where
  /-- It has succeeded. -/
  | done
  /-- It has read a message. -/
  | message (data : Bytes)
  /-- It has failed. -/
  | failed (failure : Failure)
  /-- The endpoint has no stream for it. -/
  | noStream
deriving DecidableEq, Repr

/-- What an operation on a stream means for its task. -/
def Completion.ofResult : Result → Completion
  | .read length buffer => .message (buffer.take length)
  | .written => .done
  | .closed => .done
  | .failed failure => .failed failure

/-- A task that reads messages one after the other until a read fails. -/
structure ReadLoop where
  /-- The number of the task. -/
  task : Nat
  /-- The task that has opened the session. -/
  session : Nat
  /-- The buffer. -/
  buffer : Bytes

/-- A simulated endpoint. -/
structure Endpoint where
  /-- The settings. -/
  settings : Settings
  /-- The socket. -/
  socket : Socket := {}
  /-- The handshakes in progress, by task. -/
  handshakes : List (Nat × Handshake) := []
  /-- The sessions, by the task that has opened them: the endpoint's stream, and those that calls
  are still at work on. -/
  sessions : List (Nat × Session) := []
  /-- The task that has opened the endpoint's stream, if there is one. -/
  current : Option Nat := none
  /-- The tasks that read on and on. -/
  loops : List ReadLoop := []
  /-- The workers that may be ready, in the order in which they became so. -/
  ready : List Worker := []
  /-- The socket's answer to the datagram that the first of them has handed to it. -/
  verdict : Option Signal := none
  /-- The datagrams sent, each with its time. -/
  sent : Array (Nat × Bytes) := #[]
  /-- The tasks, or rounds of tasks, that have ended, each with its time and the task's number. -/
  ended : Array (Nat × Nat × Completion) := #[]

namespace Endpoint

/-! ### Parts -/

/-- The endpoint's stream. -/
def session? (e : Endpoint) : Option (Nat × Session) :=
  e.current.bind fun key => (e.sessions.lookup key).map (key, ·)

/-- The endpoint with a session replaced. -/
def setSession (e : Endpoint) (key : Nat) (session : Session) : Endpoint :=
  { e with
    sessions := e.sessions.map fun entry => if entry.1 == key then (key, session) else entry }

/-- The endpoint with a handshake at a new point. -/
def setHandshake (e : Endpoint) (task : Nat) (h : Handshake) : Endpoint :=
  { e with
    handshakes := e.handshakes.map fun entry => if entry.1 == task then (task, h) else entry }

/-- The endpoint without a handshake. -/
def forgetHandshake (e : Endpoint) (task : Nat) : Endpoint :=
  { e with handshakes := e.handshakes.filter fun entry => entry.1 != task }

/-- The endpoint without a task that reads on and on. -/
def forgetLoop (e : Endpoint) (task : Nat) : Endpoint :=
  { e with loops := e.loops.filter fun entry => entry.task != task }

/-- The endpoint without the sessions that nobody needs any more. Their flushers end with them. -/
def prune (e : Endpoint) : Endpoint :=
  { e with
    sessions := e.sessions.filter fun entry =>
      e.current == some entry.1 || !entry.2.calls.isEmpty
        || e.loops.any fun readLoop => readLoop.session == entry.1 }

/-- A task, or a round of it, has ended. -/
def complete (e : Endpoint) (now task : Nat) (completion : Completion) : Endpoint :=
  { e with ended := e.ended.push (now, task, completion) }

/-- A worker has handed a datagram to the socket, which answers at once. -/
def send (e : Endpoint) (now : Nat) (datagram : Bytes) : Endpoint :=
  let (socket, verdict) := e.socket.send datagram
  let sent := if verdict = .sent then e.sent.push (now, datagram) else e.sent
  { e with socket := socket, verdict := some verdict, sent := sent }

/-! ### Turns -/

/-- The endpoint after a session's turn. -/
def recordSession (e : Endpoint) (now key : Nat) : Session × Outcome → Endpoint
  | (session, .waits) => e.setSession key session
  | (session, .hands datagram) => (e.setSession key session).send now datagram
  | (session, .returns task (.failed failure)) =>
    (((e.setSession key session).forgetLoop task).complete now task (.failed failure)).prune
  | (session, .returns task result) =>
    ((e.setSession key session).complete now task (.ofResult result)).prune

/-- The endpoint after a handshake's turn. A new stream takes the place of an old one. -/
def recordHandshake (e : Endpoint) (now task : Nat) : Turn Handshake Handshake.Outcome → Endpoint
  | .waits h => e.setHandshake task h
  | .hands h datagram => (e.setHandshake task h).send now datagram
  | .returns (.error failure) => (e.forgetHandshake task).complete now task (.failed failure)
  | .returns (.ok session) =>
    let e := e.forgetHandshake task
    ({ e with sessions := e.sessions ++ [(task, session)], current := some task }.complete now task
      .done).prune

/-- The task that reads on and on and is between two rounds, if the worker is one. -/
def idleLoop? (e : Endpoint) (session : Session) : Agent → Option ReadLoop
  | .flusher => none
  | .call id =>
    if (session.call? id).isSome then none else e.loops.find? fun readLoop => readLoop.task == id

/-- The signals that there may be, in the order in which they are tried: some go before what the
socket has, which is the next arrival and its answer to what it was handed, and some behind it. -/
def offers (e : Endpoint) (before behind : List Signal) : List Signal :=
  before ++ (e.socket.next?.map Signal.arrived).toList ++ e.verdict.toList ++ behind

/-- The signal that gives a turn to a worker, if it is ready. Of several that may, the first one
does: nothing arrives any more at a stream that is closed, and a request that is due goes before what
has arrived. -/
def signal? (e : Endpoint) (now : Nat) : Worker → Option Signal
  | .handshake task =>
    (e.handshakes.lookup task).bind fun h => (e.offers [.due] [.expired]).find? (h.allows now)
  | .agent key me =>
    (e.sessions.lookup key).bind fun session =>
      ((e.offers [.granted, .closed, .room, .ended] [.due]).find? (session.allows now me)).or
        ((e.idleLoop? session me).map fun _ => .granted)

/-- What a signal is about leaves the socket. -/
def consume (e : Endpoint) : Signal → Endpoint
  | .arrived _ => { e with socket := e.socket.received }
  | .sent => { e with verdict := none }
  | .unsent _ => { e with verdict := none }
  | _ => e

/-- The turn that a signal gives to a worker. -/
def turn (e : Endpoint) (now : Nat) (worker : Worker) (signal : Signal) : Endpoint :=
  let e := e.consume signal
  match worker with
  | .handshake task =>
    match e.handshakes.lookup task with
    | none => e
    | some h => e.recordHandshake now task (h.resume now signal)
  | .agent key me =>
    match e.sessions.lookup key with
    | none => e
    | some session =>
      match e.idleLoop? session me with
      | some readLoop => e.recordSession now key (session.read readLoop.task readLoop.buffer)
      | none => e.recordSession now key (session.resume now me signal)

/-- The workers. -/
def workers (e : Endpoint) : List Worker :=
  e.sessions.flatMap (fun entry => entry.2.agents.map (.agent entry.1))
    ++ e.handshakes.map fun entry => .handshake entry.1

/-- The workers that have become ready stand in line. -/
def rouse (e : Endpoint) (now : Nat) : Endpoint :=
  { e with
    ready := e.ready ++ e.workers.filter fun worker =>
      !e.ready.contains worker && (e.signal? now worker).isSome }

/-- At most `steps` turns of the workers in line. The first one keeps its place for as long as it
is ready. -/
def run (now : Nat) : Nat → Endpoint → Endpoint
  | 0, e => e
  | steps + 1, e =>
    match e.ready with
    | [] => e
    | worker :: rest =>
      match e.signal? now worker with
      | none => run now steps { e with ready := rest }
      | some signal => run now steps ((e.turn now worker signal).rouse now)

/-- The number of things that can keep workers busy while the clock stands still: what the socket
has to deliver, what the windows hold, and the calls with what they have yet to send. -/
def load (e : Endpoint) : Nat :=
  let arrivals := e.socket.inbox.map fun
    | .datagram raw => raw.length + 1
    | .fault _ => 1
  let calls := e.sessions.map fun (_, session) =>
    session.stream.sendWindow.size + session.stream.receiveWindow.size
      + (session.calls.map fun
        | (_, .writing point) => point.remaining + 1
        | _ => 1).foldr (· + ·) 0
  (arrivals ++ calls).foldr (· + ·) (e.handshakes.length + e.loops.length)

/-- All turns that can be taken at one time. Every arrival, segment and call is good for a few turns
for each of the others, so there are far fewer of them than steps that `run` may make. -/
def settle (e : Endpoint) (now : Nat) : Endpoint :=
  let e := e.rouse now
  let things := e.load + 1
  run now (64 * (things * things * things)) e

/-- The times at which some worker's wait ends. -/
def timers (e : Endpoint) : List Nat :=
  e.sessions.flatMap (·.2.timers) ++ e.handshakes.flatMap (·.2.timers)

/-- The tasks in progress. -/
def tasks (e : Endpoint) : List Nat :=
  e.handshakes.map (·.1) ++ e.sessions.flatMap (·.2.calls.map (·.1)) ++ e.loops.map (·.task)

/-! ### What a script can do -/

/-- A worker is the first in line. -/
def first (e : Endpoint) (worker : Worker) : Endpoint :=
  { e with ready := worker :: e.ready }

/-- Starts a handshake after its first turn. -/
def shake (e : Endpoint) (now task : Nat) (turn : Turn Handshake Handshake.Outcome) : Endpoint :=
  match turn with
  | .waits h => { e with handshakes := e.handshakes ++ [(task, h)] }
  | .hands h datagram =>
    ({ e with handshakes := e.handshakes ++ [(task, h)] }.first (.handshake task)).send now datagram
  | turn => e.recordHandshake now task turn

/-- Starts to dial. -/
def connect (e : Endpoint) (now task : Nat) : Endpoint :=
  e.shake now task (Handshake.dial e.settings now)

/-- Starts to listen. -/
def accept (e : Endpoint) (now task : Nat) : Endpoint :=
  e.shake now task (Handshake.listen e.settings)

/-- Starts an operation on the endpoint's stream, if it has one. -/
def operate (e : Endpoint) (now task : Nat) (start : Session → Session × Outcome) : Endpoint :=
  match e.session? with
  | none => e.complete now task .noStream
  | some (key, session) =>
    (e.recordSession now key (start session)).first (.agent key (.call task))

/-- Writes a message. -/
def write (e : Endpoint) (now task : Nat) (message : Bytes) : Endpoint :=
  e.operate now task (·.write now task message)

/-- Reads a message into a buffer of the given length. -/
def read (e : Endpoint) (now task length : Nat) : Endpoint :=
  e.operate now task (·.read task (List.replicate length 0))

/-- Reads messages into a buffer of the given length, one after the other, until a read fails. -/
def readOn (e : Endpoint) (now task length : Nat) : Endpoint :=
  match e.session? with
  | none => e.complete now task .noStream
  | some (key, _) =>
    let readLoop : ReadLoop :=
      { task := task, session := key, buffer := List.replicate length 0 }
    { e with loops := e.loops ++ [readLoop] }.first (.agent key (.call task))

/-- Closes the endpoint's stream. -/
def close (e : Endpoint) (now task : Nat) : Endpoint :=
  e.operate now task (·.close task)

/-- Abandons a task. -/
def cancel (e : Endpoint) (task : Nat) : Endpoint :=
  let e := (e.forgetHandshake task).forgetLoop task
  let sessions := e.sessions.map fun (key, session) => (key, session.cancel task)
  { e with sessions := sessions }.prune

/-- Drops the endpoint's stream. -/
def drop (e : Endpoint) : Endpoint :=
  { e with current := none }.prune

end Endpoint

end Redelivery
