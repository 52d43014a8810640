import Redelivery.Session.Flush

/-!
# The flusher

An agent in the background flushes at regular intervals, so that segments are sent again even if
nothing new is written. It skips a tick when a write has sent something since the last one, or is
at work: writers send earlier segments along with new ones, and they flush themselves when they have
to wait.

## Main definitions

* `Flusher`: the points at which the flusher waits.
* `Flusher.begin`, `Flusher.resume`: its start, and its turns.
-/

namespace Redelivery

/-- The points at which the flusher waits. -/
inductive Flusher where
  /-- For its next tick. -/
  | waiting (tick : Nat)
  /-- For the socket to take a datagram of a flush. The tick is the one after that. -/
  | flushing (tick : Nat) (flush : Flush)
deriving DecidableEq, Repr

namespace Flusher

/-- The flusher of a stream that is established now. -/
def begin (settings : ValidSettings) (now : Nat) : Flusher :=
  waiting (now + settings.flushInterval)

/-- What the flusher waits for. -/
def wait : Flusher → Wait
  | waiting tick => .tick tick
  | flushing _ _ => .sending none

/-- The flusher goes on after a part of a flush. -/
def flushed (x : Shared) (tick : Nat) : Flush.Progress → Shared × Turn Flusher Unit
  | .done => (x.leaveWriting .flusher, .waits (waiting tick))
  | .going flush => (x, .hands (flushing tick flush) flush.current)
  | .failed _ => (x.leaveWriting .flusher, .returns ())

/-- A tick. -/
def tick (x : Shared) (now next : Nat) : Shared × Turn Flusher Unit :=
  if x.stream.sentSinceTick then
    ({ x with stream := { x.stream with sentSinceTick := false } }, .waits (waiting next))
  else
    match x.writing.tryEnter? .flusher with
    | none => (x, .waits (waiting next))
    | some writing =>
      let x := { x with writing := writing }
      if x.stream.closed then
        (x.leaveWriting .flusher, .returns ())
      else
        let (stream, progress) := Flush.begin x.stream now
        flushed { x with stream := stream } next progress

/-- The turn that a signal gives to the flusher. Signals that it does not wait for change
nothing. -/
def resume (x : Shared) (now : Nat) (point : Flusher) (signal : Signal) :
    Shared × Turn Flusher Unit :=
  match point, signal with
  | waiting time, .due => tick x now (time + x.stream.settings.flushInterval)
  | waiting _, .closed => (x, .returns ())
  | flushing next flush, .sent =>
    let (stream, progress) := flush.sent x.stream
    flushed { x with stream := stream } next progress
  | flushing next flush, .unsent reason =>
    let (stream, progress) := flush.unsent x.stream reason
    flushed { x with stream := stream } next progress
  | point, _ => (x, .waits point)

end Flusher

end Redelivery
