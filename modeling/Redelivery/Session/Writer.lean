import Redelivery.Session.Flush

/-!
# Writers

A write cuts its message into segments and adds them to the send window one by one; each goes out
in a datagram of its own before the next is added. While the window is full, the writer takes turns:
it receives a datagram if no reader does, since there may be an acknowledgement in it, then it
flushes, then it waits for room. It gives up when a segment has found no room for as long as the
settings allow.

A write that fails with a part of the message sent closes the stream: the peer could never complete
the message.

## Main definitions

* `Writer`: the points at which a write waits.
* `Writer.begin`, `Writer.resume`: its first turn, and the turns after that.
-/

namespace Redelivery

/-- A segment on its way into the send window, and what comes behind it. -/
structure Job where
  /-- The body of the segment. -/
  body : Buffer
  /-- The rest of the message, in pieces. -/
  rest : List Bytes
  /-- Whether earlier segments of the message were sent. -/
  begun : Bool
  /-- When the writer gives up. -/
  deadline : Nat

/-- The points at which a write waits. -/
inductive Writer where
  /-- For the section. -/
  | entering (message : Bytes)
  /-- For the socket to deliver a datagram. -/
  | polling (job : Job) (limit : Nat)
  /-- For the socket to take a reply to what was received. -/
  | replying (job : Job) (limit : Nat) (datagram : Bytes)
  /-- For the socket to take a datagram of a flush. -/
  | flushing (job : Job) (flush : Flush)
  /-- For room in the send window. -/
  | awaiting (job : Job) (limit : Nat)
  /-- For the socket to take the datagram with the new segment, and some earlier ones. -/
  | sending (rest : List Bytes) (datagram : Bytes) (piggybacked : Nat)

namespace Writer

/-- What a write returns. -/
abbrev Outcome := Except Failure Unit

/-- What a writer waits for. -/
def wait : Writer → Wait
  | entering _ => .writing
  | polling _ limit => .arrival (some limit)
  | replying _ limit _ => .sending (some limit)
  | flushing _ _ => .sending none
  | awaiting _ limit => .room limit
  | sending _ _ _ => .sending none

/-- The buffers that a writer holds. -/
def buffers : Writer → List Buffer
  | entering _ => []
  | polling job _ => [job.body]
  | replying job _ _ => [job.body]
  | flushing job _ => [job.body]
  | awaiting job _ => [job.body]
  | sending _ _ _ => []

/-- The number of bytes of its message that a writer has yet to send, the current segment not
counted. -/
def remaining : Writer → Nat
  | entering message => message.length
  | polling job _ => job.rest.flatten.length
  | replying job _ _ => job.rest.flatten.length
  | flushing job _ => job.rest.flatten.length
  | awaiting job _ => job.rest.flatten.length
  | sending rest _ _ => rest.flatten.length

/-- The end of a write that fails. The stream is closed if a part of the message was sent. -/
def fail (x : Shared) (me : Agent) (begun : Bool) (failure : Failure) :
    Shared × Turn Writer Outcome :=
  let stream := if begun then x.stream.shut else x.stream
  ({ x with stream := stream }.leaveWriting me, .returns (.error failure))

/-- The end of a write that fails with a segment that did not get into the send window. -/
def failWith (x : Shared) (me : Agent) (job : Job) (failure : Failure) :
    Shared × Turn Writer Outcome :=
  fail { x with stream := x.stream.giveBack job.body } me job.begun failure

/-- When a writer that waits now stops waiting: after the time that the settings tell, but not
after its deadline. -/
def limit (x : Shared) (now : Nat) (job : Job) : Nat :=
  now + min x.stream.settings.writePoll (job.deadline - now)

/-- A writer goes on after a part of a flush. -/
def flushed (x : Shared) (me : Agent) (now : Nat) (job : Job) :
    Flush.Progress → Shared × Turn Writer Outcome
  | .done => (x, .waits (awaiting job (limit x now job)))
  | .going flush => (x, .hands (flushing job flush) flush.current)
  | .failed failure => failWith x me job failure

/-- A writer has received, or could not, and flushes. -/
def polled (x : Shared) (me : Agent) (now : Nat) (job : Job) : Shared × Turn Writer Outcome :=
  if x.stream.closed then
    failWith x me job .streamClosed
  else
    let (stream, progress) := Flush.begin x.stream now
    flushed { x with stream := stream } me now job progress

/-- A writer has found the send window full. From now on it takes notice of room that is freed. It
receives, unless a reader does. -/
def poll (x : Shared) (me : Agent) (now : Nat) (job : Job) : Shared × Turn Writer Outcome :=
  let x := { x with stream := { x.stream with roomFreed := false } }
  match x.reading.tryEnter? me with
  | some reading => ({ x with reading := reading }, .waits (polling job (limit x now job)))
  | none => polled x me now job

/-- A writer tries to add its segment to the send window, and sends it. -/
def attempt (x : Shared) (me : Agent) (now : Nat) (job : Job) : Shared × Turn Writer Outcome :=
  match x.stream.insert? now job.body (!job.rest.isEmpty) with
  | some stream =>
    match stream.segmentDatagram with
    | (.ok (datagram, piggybacked), stream) =>
      ({ x with stream := stream }, .hands (sending job.rest datagram piggybacked) datagram)
    | (.error failure, stream) => fail { x with stream := stream } me job.begun failure
  | none =>
    if job.deadline ≤ now then failWith x me job .writeTimeout else poll x me now job

/-- A writer has waited for room and tries again. -/
def retry (x : Shared) (me : Agent) (now : Nat) (job : Job) : Shared × Turn Writer Outcome :=
  if x.stream.closed then failWith x me job .streamClosed else attempt x me now job

/-- The owner of the section gets on with what is left of its message. -/
def proceed (x : Shared) (me : Agent) (now : Nat) (begun : Bool) :
    List Bytes → Shared × Turn Writer Outcome
  | [] => (x.leaveWriting me, .returns (.ok ()))
  | piece :: rest =>
    if x.stream.closed then
      fail x me begun .streamClosed
    else
      let (body, stream) := x.stream.prepare piece
      let deadline := now + x.stream.settings.writeTimeout
      attempt { x with stream := stream } me now
        { body := body, rest := rest, begun := begun, deadline := deadline }

/-- The owner of the section starts with its message. -/
def start (x : Shared) (me : Agent) (now : Nat) (message : Bytes) : Shared × Turn Writer Outcome :=
  proceed x me now false (message.chunks x.stream.settings.maxSegment)

/-- A writer has received and leaves the section for reading. -/
def leavePolling (x : Shared) (me : Agent) (now : Nat) (job : Job) :
    Shared × Turn Writer Outcome :=
  polled (x.leaveReading me) me now job

/-- A writer takes in what the socket delivered. It does not mind if that is a fault. -/
def accept (x : Shared) (me : Agent) (now : Nat) (job : Job) (limit : Nat) :
    Arrival → Shared × Turn Writer Outcome
  | .fault _ => leavePolling x me now job
  | .datagram raw =>
    match x.stream.receive now raw with
    | (stream, none) => leavePolling { x with stream := stream } me now job
    | (stream, some header) =>
      match stream.control header with
      | (.ok datagram, stream) =>
        ({ x with stream := stream }, .hands (replying job limit datagram) datagram)
      | (.error _, stream) => leavePolling { x with stream := stream } me now job

/-- The first turn of a write. An empty message is no message, and nothing is sent for it. -/
def begin (x : Shared) (me : Agent) (now : Nat) (message : Bytes) :
    Shared × Turn Writer Outcome :=
  let maximum := x.stream.settings.maxMessage
  if x.stream.closed then
    (x, .returns (.error .streamClosed))
  else if maximum < message.length then
    (x, .returns (.error (.messageTooLarge message.length maximum)))
  else if message.isEmpty then
    (x, .returns (.ok ()))
  else
    let x := { x with writing := x.writing.enter me }
    if x.writing.owner = some me then start x me now message
    else (x, .waits (entering message))

/-- The turn that a signal gives to a writer. Signals that it does not wait for change nothing. -/
def resume (x : Shared) (me : Agent) (now : Nat) (point : Writer) (signal : Signal) :
    Shared × Turn Writer Outcome :=
  match point, signal with
  | entering message, .granted => start x me now message
  | polling job limit, .arrived arrival => accept x me now job limit arrival
  | polling job _, .closed => leavePolling x me now job
  | polling job _, .due => leavePolling x me now job
  | replying job _ datagram, .sent =>
    leavePolling { x with stream := x.stream.countSent datagram } me now job
  | replying job _ _, .unsent _ => leavePolling x me now job
  | replying job _ _, .due => leavePolling x me now job
  | flushing job flush, .sent =>
    let (stream, progress) := flush.sent x.stream
    flushed { x with stream := stream } me now job progress
  | flushing job flush, .unsent reason =>
    let (stream, progress) := flush.unsent x.stream reason
    flushed { x with stream := stream } me now job progress
  | awaiting job _, .room => retry x me now job
  | awaiting job _, .due => retry x me now job
  | sending rest datagram piggybacked, .sent =>
    let stream := (x.stream.countSent datagram).commit piggybacked
    proceed { x with stream := stream } me now true rest
  | sending _ _ _, .unsent reason =>
    fail { x with stream := x.stream.abandon } me false (.socket reason)
  | point, _ => (x, .waits point)

end Writer

end Redelivery
