import Redelivery.Bytes

/-!
# Cables

A cable connects two ends in memory and carries datagrams both ways, in order. Each end may lose
some of what it sends, by a policy that can be replaced at any time. An end can be dropped: what is
on its way to it is lost then, and so is all that is sent to it later, without the sender noticing.

## Main definitions

* `Loss`: which of the datagrams sent are lost.
* `CableEnd`: one end: what is on its way to it, its loss policy and its counters.
* `Cable`: both ends, with `Cable.send`, `Cable.receive`, `Cable.setLoss` and `Cable.drop`.
-/

namespace Redelivery

/-- Which of the datagrams sent are lost. -/
inductive Loss where
  /-- None. -/
  | none
  /-- Every `period`-th since the policy was set, of which `count` have gone by. -/
  | everyNth (period count : Nat)
  /-- Those that a rule picks. The rule remembers what it was asked about before, the latest
  first. -/
  | matching (isLost : List Bytes → Bytes → Bool) (earlier : List Bytes)

namespace Loss

/-- The policy that loses every `period`-th datagram from now on; there is none for a period of
zero. -/
def everyNth? (period : Nat) : Option Loss :=
  if period = 0 then Option.none else some (.everyNth period 0)

/-- The policy that loses everything. -/
def always : Loss :=
  .matching (fun _ _ => true) []

/-- The policy that loses nothing, by a rule. -/
def never : Loss :=
  .matching (fun _ _ => false) []

/-- The policy that loses datagrams of more than `limit` bytes. -/
def longerThan (limit : Nat) : Loss :=
  .matching (fun _ datagram => decide (limit < datagram.length)) []

/-- Whether the next datagram is lost, and the policy for those after it. -/
def judge (policy : Loss) (datagram : Bytes) : Bool × Loss :=
  match policy with
  | .none => (false, .none)
  | .everyNth period count => ((count + 1) % period == 0, .everyNth period (count + 1))
  | .matching isLost earlier => (isLost earlier datagram, .matching isLost (datagram :: earlier))

end Loss

/-- One end of a cable. -/
structure CableEnd where
  /-- The datagrams on their way to this end, the next one first. -/
  incoming : List Bytes := []
  /-- The loss policy for datagrams sent from this end. -/
  loss : Loss := .none
  /-- The number of datagrams sent from this end, lost ones included. -/
  sent : Nat := 0
  /-- The number of datagrams sent from this end and lost. -/
  lost : Nat := 0
  /-- Whether this end was not dropped yet. -/
  alive : Bool := true

/-- The names of the two ends. -/
inductive Side where
  /-- The one end. -/
  | a
  /-- The other end. -/
  | b
deriving DecidableEq, Repr

/-- The other side. -/
def Side.other : Side → Side
  | a => b
  | b => a

theorem Side.other_other (x : Side) : x.other.other = x := by
  cases x <;> rfl

theorem Side.other_ne (x : Side) : x.other ≠ x := by
  cases x <;> exact Side.noConfusion

theorem Side.eq_or_eq_other (x y : Side) : y = x ∨ y = x.other := by
  cases x <;> cases y <;> simp [Side.other]

/-- Two ends that are connected. -/
structure Cable where
  /-- The one end. -/
  a : CableEnd := {}
  /-- The other end. -/
  b : CableEnd := {}

namespace Cable

/-- The end on a side. -/
def endAt (c : Cable) : Side → CableEnd
  | .a => c.a
  | .b => c.b

/-- The cable with the end on a side replaced. -/
def setEnd (c : Cable) (side : Side) (e : CableEnd) : Cable :=
  match side with
  | .a => { c with a := e }
  | .b => { c with b := e }

/-- Sends a datagram from a side. It counts as sent, whether it arrives or not. -/
def send (c : Cable) (side : Side) (datagram : Bytes) : Cable :=
  let sender := c.endAt side
  let (isLost, loss) := sender.loss.judge datagram
  let sender := { sender with sent := sender.sent + 1, loss := loss }
  if isLost then
    c.setEnd side { sender with lost := sender.lost + 1 }
  else
    let c := c.setEnd side sender
    let receiver := c.endAt side.other
    if receiver.alive then
      c.setEnd side.other { receiver with incoming := receiver.incoming ++ [datagram] }
    else
      c

/-- Receives the next datagram at a side into a buffer: how many of its bytes the buffer holds, the
buffer, and the cable. A datagram that is longer than the buffer is cut; what lies behind a shorter
one stays. There may be nothing to receive. -/
def receive (c : Cable) (side : Side) (buffer : Bytes) : Option (Nat × Bytes × Cable) :=
  let receiver := c.endAt side
  match receiver.incoming with
  | [] => none
  | datagram :: rest =>
    let part := datagram.take buffer.length
    some (part.length, buffer.overwrite part, c.setEnd side { receiver with incoming := rest })

/-- Replaces the loss policy for datagrams sent from a side. -/
def setLoss (c : Cable) (side : Side) (loss : Loss) : Cable :=
  c.setEnd side { c.endAt side with loss := loss }

/-- Drops the end on a side. -/
def drop (c : Cable) (side : Side) : Cable :=
  c.setEnd side { c.endAt side with alive := false, incoming := [] }

end Cable

end Redelivery
