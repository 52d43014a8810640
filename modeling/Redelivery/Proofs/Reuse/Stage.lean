import Redelivery.Proofs.Session.Handshake
import Redelivery.Proofs.Translation.Unmoved

/-!
# From the handshake on

An end of a stream from the call on that sets it up: first there is a handshake, and then a session
or a failure. All this time the end has a pool, from which it borrows buffers and to which it returns
them, with whatever was written to them. What is in the pool may be exchanged for something else at
any time, as if the pool had been in use elsewhere.

## Main definitions

* `Role`, `Stage`: the two ways to set up a stream, and how far an end has come.
* `Stage.begin`, `Stage.stimulate`: the first stage, and what becomes of a stage.
* `Sight`, `Stage.sights`: what can be seen of an end, and of a run.
* `Stage.repool`: a stage with something else in its pool.

A stimulus carries the signal of the turn that it gives, and the stage takes it only if it allows
it. So nothing here decides which of several things that are ready is looked at first: a run is any
list of stimuli, and those that are not allowed leave the stage as it is.

`Stage.sights` keeps what came of a stimulus as well as what is left behind. That is what the
statement on reuse compares; two ends that behave alike for now but would not do so later are told
apart by it, as their windows and the times of their timers can be seen.
-/

namespace Redelivery

/-- The two ways to set up a stream. -/
inductive Role where
  /-- The end sends requests. -/
  | dials
  /-- The end waits for a request. -/
  | listens
deriving DecidableEq, Repr

/-- How far an end has come. -/
inductive Stage where
  /-- A handshake goes on. -/
  | shaking (point : Handshake)
  /-- There is a session. -/
  | established (session : Session)
  /-- The handshake has failed. -/
  | failed (failure : Failure)

/-- What can be seen of an end after something has happened to it. -/
inductive Sight where
  /-- A handshake goes on. This was done if it has had a turn, and it goes on at these times. -/
  | shaking (outcome : Option Outcome) (timers : List Nat)
  /-- There is a session. The windows are seen without the spare bytes of buffers. -/
  | established (response : Response) (sendWindow receiveWindow : Window Bytes)
  /-- The handshake has failed. -/
  | failed (failure : Failure)

/-- The first turn of a handshake. -/
def Role.begin (settings : Settings) (now : Nat) : Role → Turn Handshake Handshake.Outcome
  | dials => Handshake.dial settings now
  | listens => Handshake.listen settings

/-! ## Other pools -/

/-- The session with something else in its pool. -/
def Session.repool (s : Session) (reuse : Pool → Pool) : Session :=
  { s with shared := { s.shared with stream := { s.stream with pool := reuse s.stream.pool } } }

/-- The dialing end with something else in its pool. -/
def Dial.repool (d : Dial) (reuse : Pool → Pool) : Dial :=
  { d with pool := reuse d.pool }

/-- The handshake with something else in its pool. -/
def Handshake.repool (h : Handshake) (reuse : Pool → Pool) : Handshake :=
  match h with
  | dialing d => dialing (d.repool reuse)
  | requesting d => requesting (d.repool reuse)
  | pausing d limit => pausing (d.repool reuse) limit
  | listening settings pool => listening settings (reuse pool)
  | dozing settings pool limit => dozing settings (reuse pool) limit
  | answering session datagram => answering (session.repool reuse) datagram

theorem Session.IsNew.repool {settings : ValidSettings} {s : Session} (h : s.IsNew settings)
    (reuse : Pool → Pool) : (s.repool reuse).IsNew settings := by
  obtain ⟨pool, traffic, now, hnone, rfl⟩ := h
  exact ⟨reuse pool, traffic, now, hnone, rfl⟩

theorem Handshake.IsFor.repool {settings : ValidSettings} {h : Handshake} (hfor : h.IsFor settings)
    (reuse : Pool → Pool) : (h.repool reuse).IsFor settings := by
  cases h with
  | answering session datagram => exact Session.IsNew.repool hfor reuse
  | _ => exact hfor

namespace Stage

/-- The stage with something else in its pool. -/
def repool (stage : Stage) (reuse : Pool → Pool) : Stage :=
  match stage with
  | shaking point => shaking (point.repool reuse)
  | established session => established (session.repool reuse)
  | failed failure => failed failure

/-! ## What happens to an end -/

/-- Where a turn of the handshake leads, and what it does. -/
def ofTurn : Turn Handshake Handshake.Outcome → Stage × Option Outcome
  | .waits point => (shaking point, some .waits)
  | .hands point datagram => (shaking point, some (.hands datagram))
  | .returns (.ok session) => (established session, none)
  | .returns (.error failure) => (failed failure, none)

/-- The first stage of an end. -/
def begin (role : Role) (settings : Settings) (now : Nat) : Stage :=
  (ofTurn (role.begin settings now)).1

/-- What becomes of a stage. There is nothing to call before there is a session, and only one agent
to have a turn. -/
def stimulate (stage : Stage) (stimulus : Stimulus) : Stage × Option Outcome :=
  match stage, stimulus with
  | shaking point, .turn now _ signal =>
    if point.allows now signal then ofTurn (point.resume now signal) else (shaking point, none)
  | established session, stimulus =>
    let step := session.stimulate stimulus
    (established step.1, step.2)
  | stage, _ => (stage, none)

/-- What can be seen of a stage. -/
def sight (stage : Stage) (outcome : Option Outcome) : Sight :=
  match stage with
  | shaking point => .shaking outcome point.timers
  | established session =>
    .established (session.respond outcome) session.stream.sendWindow.wire
      session.stream.receiveWindow.wire
  | failed failure => .failed failure

/-- What can be seen of a run. -/
def sights (stage : Stage) : List Stimulus → List Sight
  | [] => []
  | stimulus :: rest =>
    let step := stage.stimulate stimulus
    step.1.sight step.2 :: step.1.sights rest

end Stage

end Redelivery
