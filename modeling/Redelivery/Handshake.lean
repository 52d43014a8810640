import Redelivery.Session

/-!
# Handshakes

A stream is established by a handshake. One end dials: it sends a request at regular intervals until
an answer arrives or it takes too long. The other end listens for a request and answers it. Whatever
else arrives in the meantime is ignored, and after a fault of the socket either end pauses.

The time that dialing may take goes on while the socket has a request in hand or the end pauses. An
end that listens has no such limit.

## Main definitions

* `Dial`: what a dialing end knows.
* `Handshake`: the points at which a handshake waits.
* `Handshake.dial`, `Handshake.listen`: the first turn of either end.
* `Handshake.allows`, `Handshake.resume`: the signals that may end the wait of a handshake, and the
  turn that one gives.
-/

namespace Redelivery

/-- What a dialing end knows. -/
structure Dial where
  /-- The settings. -/
  settings : ValidSettings
  /-- The pool of the stream to be. -/
  pool : Pool
  /-- The request. -/
  request : Bytes
  /-- When it is sent next. Requests that could not be sent in time are made up for. -/
  tick : Nat
  /-- When the end gives up, if ever. -/
  expiry : Option Nat

/-- Whether it has taken a dialing end too long. -/
def Dial.isOver (d : Dial) (now : Nat) : Bool :=
  d.expiry.any fun expiry => expiry ≤ now

/-- The points at which a handshake waits. -/
inductive Handshake where
  /-- For the next request to be due, or for an answer. -/
  | dialing (dial : Dial)
  /-- For the socket to take a request. -/
  | requesting (dial : Dial)
  /-- For a pause to end, while dialing. -/
  | pausing (dial : Dial) (limit : Nat)
  /-- For a request. -/
  | listening (settings : ValidSettings) (pool : Pool)
  /-- For a pause to end, while listening. -/
  | dozing (settings : ValidSettings) (pool : Pool) (limit : Nat)
  /-- For the socket to take the answer. -/
  | answering (session : Session) (datagram : Bytes)

namespace Handshake

/-- What a handshake returns. -/
abbrev Outcome := Except Failure Session

/-- The header of what arrived, if it is valid, and the pool that lent the buffer for it. -/
def open? (settings : ValidSettings) (pool : Pool) (raw : Bytes) : Option Header × Pool :=
  let (datagram, pool) := pool.intake settings.mtu raw
  ((Header.ofDatagram? datagram).map (·.1), pool)

/-! ### Dialing -/

/-- The first turn of a dialing end. The first request is due at once. -/
def dial (settings : Settings) (now : Nat) : Turn Handshake Outcome :=
  match ValidSettings.ofSettings settings with
  | .error e => .returns (.error (.settings e))
  | .ok settings =>
    match (Stream.establish settings (.empty settings.poolSize)).control .dial with
    | (.error failure, _) => .returns (.error failure)
    | (.ok request, stream) =>
      .waits <| dialing
        { settings := settings
          pool := stream.pool
          request := request
          tick := now
          expiry := settings.dialTimeout.map (now + ·) }

/-- A dialing end takes in what the socket delivered. -/
def dialed (d : Dial) (now : Nat) : Arrival → Turn Handshake Outcome
  | .fault _ => .waits (pausing d (now + d.settings.dialInterval))
  | .datagram raw =>
    match open? d.settings d.pool raw with
    | (some .dialAck, pool) =>
      .returns (.ok (.establish (.establish d.settings pool) now))
    | (_, pool) => .waits (dialing { d with pool := pool })

/-! ### Listening -/

/-- The first turn of a listening end. -/
def listen (settings : Settings) : Turn Handshake Outcome :=
  match ValidSettings.ofSettings settings with
  | .error e => .returns (.error (.settings e))
  | .ok settings => .waits (listening settings (.empty settings.poolSize))

/-- A listening end takes in what the socket delivered. The stream begins with the answer. -/
def listened (settings : ValidSettings) (pool : Pool) (now : Nat) :
    Arrival → Turn Handshake Outcome
  | .fault _ => .waits (dozing settings pool (now + settings.dialInterval))
  | .datagram raw =>
    match open? settings pool raw with
    | (some .dial, pool) =>
      match (Stream.establish settings pool).control .dialAck with
      | (.error failure, _) => .returns (.error failure)
      | (.ok datagram, stream) => .hands (answering (.establish stream now) datagram) datagram
    | (_, pool) => .waits (listening settings pool)

/-- A session whose answer the socket has taken. -/
def answered (session : Session) (datagram : Bytes) : Session :=
  { session with shared := { session.shared with stream := session.stream.countSent datagram } }

/-! ### Turns -/

/-- Whether a signal may end the wait of a handshake. Often several may, as when something arrives
while a request is due, and it is open which of them does. A dialing end can expire wherever it
waits, also for the socket to take a request. -/
def allows (h : Handshake) (now : Nat) (signal : Signal) : Bool :=
  match h, signal with
  | dialing d, .due => d.tick ≤ now
  | dialing _, .arrived _ => true
  | dialing d, .expired => d.isOver now
  | requesting _, .sent => true
  | requesting _, .unsent _ => true
  | requesting d, .expired => d.isOver now
  | pausing _ limit, .due => limit ≤ now
  | pausing d _, .expired => d.isOver now
  | listening _ _, .arrived _ => true
  | dozing _ _ limit, .due => limit ≤ now
  | answering _ _, .sent => true
  | answering _ _, .unsent _ => true
  | _, _ => false

/-- The turn that a signal gives to a handshake. Signals that it does not wait for change
nothing. -/
def resume (h : Handshake) (now : Nat) (signal : Signal) : Turn Handshake Outcome :=
  match h, signal with
  | dialing d, .due =>
    .hands (requesting { d with tick := d.tick + d.settings.dialInterval }) d.request
  | dialing d, .arrived arrival => dialed d now arrival
  | dialing _, .expired => .returns (.error .handshakeTimeout)
  | requesting d, .sent => .waits (dialing d)
  | requesting d, .unsent _ => .waits (dialing d)
  | requesting _, .expired => .returns (.error .handshakeTimeout)
  | pausing d _, .due => .waits (dialing d)
  | pausing _ _, .expired => .returns (.error .handshakeTimeout)
  | listening settings pool, .arrived arrival => listened settings pool now arrival
  | dozing settings pool _, .due => .waits (listening settings pool)
  | answering session datagram, .sent => .returns (.ok (answered session datagram))
  | answering _ _, .unsent reason => .returns (.error (.socket reason))
  | h, _ => .waits h

/-- The times at which the wait of a handshake ends. -/
def timers : Handshake → List Nat
  | dialing d => d.tick :: d.expiry.toList
  | requesting d => d.expiry.toList
  | pausing d limit => limit :: d.expiry.toList
  | dozing _ _ limit => [limit]
  | _ => []

end Handshake

end Redelivery
