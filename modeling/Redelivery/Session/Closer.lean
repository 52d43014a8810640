import Redelivery.Session.Agent

/-!
# Closers

A close marks the stream as closed and then waits until nobody is at work on it any more: for the
flusher to end, and for the owners of the two sections, and all in line before it, to notice. The
first close waits for the flusher; further ones do not.

## Main definitions

* `Closer`: the points at which a close waits.
* `Closer.begin`, `Closer.resume`: its first turn, and the turns after that.
-/

namespace Redelivery

/-- The points at which a close waits. -/
inductive Closer where
  /-- For the flusher to end. -/
  | joining
  /-- For the section for writing. -/
  | enteringWriting
  /-- For the section for reading. -/
  | enteringReading
deriving DecidableEq, Repr

namespace Closer

/-- What a closer waits for. -/
def wait : Closer → Wait
  | joining => .flusher
  | enteringWriting => .writing
  | enteringReading => .reading

/-- A closer passes through the section for reading. -/
def passReading (x : Shared) (me : Agent) : Shared × Turn Closer Unit :=
  if x.reading.isFree then
    (x, .returns ())
  else
    ({ x with reading := x.reading.enter me }, .waits enteringReading)

/-- A closer passes through the section for writing, and then through the other. -/
def passWriting (x : Shared) (me : Agent) : Shared × Turn Closer Unit :=
  if x.writing.isFree then
    passReading x me
  else
    ({ x with writing := x.writing.enter me }, .waits enteringWriting)

/-- The first turn of a close. -/
def begin (x : Shared) (me : Agent) (joins : Bool) : Shared × Turn Closer Unit :=
  let x := { x with stream := x.stream.shut }
  if joins then (x, .waits joining) else passWriting x me

/-- The turn that a signal gives to a closer. Signals that it does not wait for change nothing. -/
def resume (x : Shared) (me : Agent) (point : Closer) (signal : Signal) :
    Shared × Turn Closer Unit :=
  match point, signal with
  | joining, .ended => passWriting x me
  | enteringWriting, .granted => passReading (x.leaveWriting me) me
  | enteringReading, .granted => (x.leaveReading me, .returns ())
  | point, _ => (x, .waits point)

end Closer

end Redelivery
