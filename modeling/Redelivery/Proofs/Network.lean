import Mathlib.Logic.Function.Basic
import Redelivery.Cable
import Redelivery.Proofs.Pieces
import Redelivery.Proofs.Datagram
import Redelivery.Session

/-!
# Two ends and a network

Two sessions are joined by a network that may lose, repeat, delay and reorder datagrams, as it
likes. It does not alter or forge any, and it does not deliver a datagram that is so old that its
numbers are about to come up again.

A step is the passing of time, a call at one of the ends, or a turn of an agent there. Which agent
gets a turn, what signal ends its wait, which datagram arrives and which datagrams the socket takes
is open: all that the sessions, the clock and the network allow may happen, in any order. Besides
the sessions a state has the history of either end, as far as it can be seen from outside: what was
written and read, and what was numbered and taken out of the windows.

## Main definitions

* `Flight`: a datagram that a socket has taken.
* `Peer`: a session and its history.
* `Network`, `Network.step?`: the state of everything, and its steps.
* `Network.IsStart`, `Network.Reachable`: where it starts, and what it comes to.

## Main statements

* `Network.allows_eq`: whatever a session may wait for can happen, if the network brings it about.
* `Network.Reachable.run`: what is reached by several events can be reached.
-/

namespace Redelivery

/-- A datagram that a socket has taken. The network keeps it for good, and may deliver it at any
time, any number of times or not at all. -/
structure Flight where
  /-- The datagram. -/
  datagram : Bytes
  /-- How many segments either side had numbered when the datagram was sent. -/
  stamp : Side → Nat

/-- A session and its history. -/
structure Peer where
  /-- The session. -/
  session : Session
  /-- What the socket makes of the datagram that an agent has handed to it. -/
  verdict : Agent → Signal := fun _ => .sent
  /-- The number of calls so far, which is the number of the next one. -/
  calls : Nat := 0
  /-- The writes that got hold of the section for writing, by call and in that order, with their
  messages. -/
  entered : List (Nat × Bytes) := []
  /-- The calls that failed. -/
  failed : List Nat := []
  /-- The messages that reads returned. -/
  delivered : List Bytes := []
  /-- What the segments carry that have numbers, in the order of their numbers. -/
  assigned : List Piece := []
  /-- What the segments carried that were taken out of the receive window, in that order. -/
  taken : List Piece := []
  /-- The number of steps that the base of the send window has moved. -/
  passed : Nat := 0

namespace Peer

/-- The stream. -/
def stream (p : Peer) : Stream :=
  p.session.stream

/-- The messages of the writes that got hold of the section and did not fail: they have returned, or
they are still at work. -/
def accepted (p : Peer) : List Bytes :=
  (p.entered.filter fun entry => !p.failed.contains entry.1).map (·.2)

/-! ### What a turn adds to the history -/

/-- The piece that got a number in a turn: a writer that has just handed over the datagram with a
new segment has numbered that one. -/
def numbered? (s : Session) (me : Agent) (outcome : Outcome) : Option Piece :=
  match me, outcome with
  | .call id, .hands _ =>
    match s.call? id with
    | some (.writing (.sending _ _ _)) =>
      (s.stream.sendWindow.find? s.stream.next).map fun segment => segment.wire.piece
    | _ => none
  | _, _ => none

/-- The piece that was taken out of the receive window between two states of a stream: what was
added to the message that is put together, and whether that is whole now. -/
def taken? (before after : Stream) : Option Piece :=
  if after.receiveWindow.base = before.receiveWindow.base then
    none
  else
    some ⟨!after.complete, after.assembled.toList.drop before.assembled.size⟩

/-- The peer with a new state of its stream, and the history that goes with it. -/
def observe (p : Peer) (session : Session) : Peer :=
  { p with
    session := session
    taken := p.taken ++ (taken? p.stream session.stream).toList
    passed := p.passed
      + session.stream.sendWindow.base.distanceFrom p.stream.sendWindow.base }

/-- The peer after a turn of an agent. -/
def record (p : Peer) (me : Agent) (turn : Session × Outcome) : Peer :=
  { p.observe turn.1 with
    assigned := p.assigned ++ (numbered? turn.1 me turn.2).toList
    failed :=
      match turn.2 with
      | .returns id (.failed _) => p.failed ++ [id]
      | _ => p.failed
    delivered :=
      match turn.2 with
      | .returns _ (.read length buffer) => p.delivered ++ [buffer.take length]
      | _ => p.delivered }

/-- The peer when an agent is about to get a signal. A write that waited for the section has got
hold of it. A segment that the socket did not take gives its number back. -/
def signalled (p : Peer) (me : Agent) (signal : Signal) : Peer :=
  match me with
  | .flusher => p
  | .call id =>
    match p.session.call? id, signal with
    | some (.writing (.entering message)), .granted =>
      { p with entered := p.entered ++ [(id, message)] }
    | some (.writing (.sending _ _ _)), .unsent _ => { p with assigned := p.assigned.dropLast }
    | _, _ => p

/-- The peer when a write is called. If the write is not refused, it gets hold of the section at
once, unless somebody else is there. -/
def letIn (p : Peer) (id : Nat) (message : Bytes) : Peer :=
  if p.stream.closed = false ∧ message.length ≤ p.stream.settings.maxMessage ∧ message ≠ []
      ∧ (p.session.shared.writing.enter (.call id)).owner = some (.call id) then
    { p with entered := p.entered ++ [(id, message)] }
  else
    p

end Peer

/-- Two peers and what was sent from either side. -/
structure Network where
  /-- The time. -/
  now : Nat
  /-- The peers. -/
  peer : Side → Peer
  /-- The datagrams that were sent from a side. -/
  flights : Side → List Flight

/-- What a caller can ask for. -/
inductive Operation where
  /-- A read into a buffer. -/
  | read (buffer : Bytes)
  /-- A write. -/
  | write (message : Bytes)
  /-- A close. -/
  | close
deriving Repr

/-- A step of the network. If an agent hands a datagram to the socket in a step, the socket takes it
unless there is a reason for a `refusal`; the agent learns this later, by a signal. -/
inductive Event where
  /-- Time passes. -/
  | elapse (span : Nat)
  /-- A call is made. -/
  | call (side : Side) (operation : Operation) (refusal : Option String)
  /-- An agent gets a turn, by a signal that ends its wait. -/
  | turn (side : Side) (me : Agent) (signal : Signal) (refusal : Option String)
deriving Repr

namespace Network

/-! ### What is allowed -/

/-- Whether a datagram sent from a side may still be delivered: the sender of the data that it
carries or acknowledges has numbered less than `2 ^ 31` segments since. -/
def isFresh (n : Network) (side : Side) (f : Flight) : Bool :=
  match Header.ofDatagram? f.datagram with
  | some (.data, _) => (n.peer side).assigned.length < f.stamp side + 2 ^ 31
  | some (.ack _ _, _) => (n.peer side.other).assigned.length < f.stamp side.other + 2 ^ 31
  | _ => true

/-- Whether a signal may end the wait of an agent. What arrives is a datagram from the other side
that may still be delivered, or a fault of the socket. -/
def allows (n : Network) (side : Side) (me : Agent) (signal : Signal) : Bool :=
  let p := n.peer side
  match p.session.wait? me, signal with
  | some .writing, .granted => p.session.shared.writing.owner = some me
  | some .reading, .granted => p.session.shared.reading.owner = some me
  | some (.arrival _), .arrived (.datagram raw) =>
    (n.flights side.other).any fun f => f.datagram == raw && n.isFresh side.other f
  | some (.arrival _), .arrived (.fault _) => true
  | some (.arrival _), .closed => p.stream.closed
  | some (.arrival (some limit)), .due => limit ≤ n.now
  | some (.sending _), .sent => p.verdict me = .sent
  | some (.sending _), .unsent reason => p.verdict me = .unsent reason
  | some (.sending (some limit)), .due => limit ≤ n.now
  | some (.room _), .room => p.stream.roomFreed
  | some (.room limit), .due => limit ≤ n.now
  | some (.tick _), .closed => p.stream.closed
  | some (.tick time), .due => time ≤ n.now
  | some .flusher, .ended => p.session.flusher.isNone
  | _, _ => false

/-- Whether the network may bring a signal about: a datagram must be under way and may not be too
old, and the socket keeps to what it has made of the datagram that it was handed. -/
def brings (n : Network) (side : Side) (me : Agent) : Signal → Bool
  | .arrived (.datagram raw) =>
    (n.flights side.other).any fun f => f.datagram == raw && n.isFresh side.other f
  | .sent => (n.peer side).verdict me = .sent
  | .unsent reason => (n.peer side).verdict me = .unsent reason
  | _ => true

/-- **All signals that a session may wait for** are allowed, if the network may bring them about.
Nothing else is settled by the network, such as which of them comes first. -/
theorem allows_eq (n : Network) (side : Side) (me : Agent) (signal : Signal) :
    n.allows side me signal
      = ((n.peer side).session.allows n.now me signal && n.brings side me signal) := by
  unfold allows Session.allows brings
  simp only [Peer.stream]
  generalize (n.peer side).session.wait? me = wait
  -- a wait goes with few signals, and the network adds a condition to three of them
  rcases wait with - | (- | - | (- | limit) | (- | limit) | limit | time | -)
  all_goals
    rcases signal with - | (raw | reason) | - | - | reason | - | - | - | -
    all_goals first | rfl | exact (Bool.and_true _).symm

/-! ### Steps -/

/-- The network with a new peer at one side. -/
def withPeer (n : Network) (side : Side) (p : Peer) : Network :=
  { n with peer := Function.update n.peer side p }

/-- The network with one more datagram from one side. -/
def withFlight (n : Network) (side : Side) (datagram : Bytes) : Network :=
  let f : Flight := { datagram := datagram, stamp := fun z => (n.peer z).assigned.length }
  { n with flights := Function.update n.flights side (f :: n.flights side) }

/-- The network after a turn that has left the peer `p`. If it has handed a datagram to the socket,
that is the time when the socket decides about it. -/
def commit (n : Network) (side : Side) (me : Agent) (p : Peer) (outcome : Outcome)
    (refusal : Option String) : Network :=
  match outcome, refusal with
  | .hands _, some reason =>
    n.withPeer side { p with verdict := Function.update p.verdict me (.unsent reason) }
  | .hands datagram, none =>
    (n.withPeer side { p with verdict := Function.update p.verdict me .sent }).withFlight side
      datagram
  | _, _ => n.withPeer side p

/-- The first turn of a call, and the peer after it. -/
def called (n : Network) (side : Side) : Operation → Peer × Outcome
  | .read buffer =>
    let p := n.peer side
    let turn := p.session.read p.calls buffer
    ({ p.record (.call p.calls) turn with calls := p.calls + 1 }, turn.2)
  | .write message =>
    let p := n.peer side
    let turn := p.session.write n.now p.calls message
    ({ (p.letIn p.calls message).record (.call p.calls) turn with calls := p.calls + 1 }, turn.2)
  | .close =>
    let p := n.peer side
    let turn := p.session.close p.calls
    ({ p.record (.call p.calls) turn with calls := p.calls + 1 }, turn.2)

/-- A later turn of an agent, and the peer after it. -/
def turned (n : Network) (side : Side) (me : Agent) (signal : Signal) : Peer × Outcome :=
  let p := n.peer side
  let turn := p.session.resume n.now me signal
  ((p.signalled me signal).record me turn, turn.2)

/-- The network after an event, or `none` if it cannot happen. -/
def step? (n : Network) : Event → Option Network
  | .elapse span => some { n with now := n.now + span }
  | .call side operation refusal =>
    let (p, outcome) := n.called side operation
    some (n.commit side (.call (n.peer side).calls) p outcome refusal)
  | .turn side me signal refusal =>
    if n.allows side me signal then
      let (p, outcome) := n.turned side me signal
      some (n.commit side me p outcome refusal)
    else
      none

/-- The network after several events, or `none` if one of them cannot happen. -/
def run? (n : Network) : List Event → Option Network
  | [] => some n
  | e :: rest => (n.step? e).bind fun n => n.run? rest

/-! ### Where it starts -/

/-- Both streams are established with the given settings, at some time and after some traffic.
Nothing was sent but requests for a stream and answers to these. -/
structure IsStart (settings : ValidSettings) (n : Network) : Prop where
  /-- The peers have just got their streams. -/
  peer_eq : ∀ side, ∃ pool traffic now,
    n.peer side
      = { session := .establish { Stream.establish settings pool with traffic := traffic } now }
  /-- Datagrams of the handshake may still be under way. -/
  flights_eq : ∀ side, ∀ f ∈ n.flights side,
    f.datagram = Header.dial.datagram [] ∨ f.datagram = Header.dialAck.datagram []

/-- What the network can come to, with streams of the given settings. -/
inductive Reachable (settings : ValidSettings) : Network → Prop where
  /-- It starts. -/
  | start {n : Network} (h : n.IsStart settings) : Reachable settings n
  /-- Something happens. -/
  | step {n n' : Network} (e : Event) (h : Reachable settings n) (hstep : n.step? e = some n') :
    Reachable settings n'

theorem Reachable.run {settings : ValidSettings} {n n' : Network} (h : Reachable settings n)
    {events : List Event} (hrun : n.run? events = some n') : Reachable settings n' := by
  induction events generalizing n with
  | nil =>
    cases hrun
    exact h
  | cons e rest ih =>
    obtain ⟨mid, hmid, hrest⟩ := Option.bind_eq_some_iff.mp hrun
    exact ih (h.step e hmid) hrest

end Network

end Redelivery
