import Redelivery.Proofs.Session.Writer

/-!
# How a new segment gets to the socket

In all its turns, a writer hands over new segments in one way only: the segment is put into the send
window under the next serial number, and the datagram is made right then, of this segment and of
those before it that are still in the window. The stream is open at that time. This file tells so
without knowing what else is in the send window, so it holds whatever arrives.

## Main definitions

* `Stream.Announces`: a new segment is put into the send window, and its datagram is made.
* `Writer.settled`: the stream after the signal that a writer gets.
* `Writer.Announcing`: new segments are handed over in a turn in no other way.

## Main statements

* `Writer.begin_announcing`, `Writer.resume_announcing`: the turns of a writer.

There is one place in all of a writer's functions where a segment is added to the send window, and
it is `attempt_announcing` that looks at it. All other functions either lead there or hand over
something else, and the lemmas for them have nothing to say but which. What was added is known by
the next serial number and nothing else: whether the window held another segment under that number
before, or what the base was, does not matter here.
-/

namespace Redelivery

/-- A new segment is put into the send window of `s`, a datagram is made of it and of some earlier
ones, and the stream is `s'` then. -/
def Stream.Announces (s s' : Stream) (datagram : Bytes) (piggybacked : Nat) : Prop :=
  ∃ pool now body more t,
    ({ s with pool := pool } : Stream).insert? now body more = some t
      ∧ t.segmentDatagram = (.ok (datagram, piggybacked), s')

namespace Writer

/-- The stream after the signal that a writer gets: a datagram that the socket has taken is
counted. -/
def settled (s : Stream) : Writer → Signal → Stream
  | sending _ datagram piggybacked, .sent => (s.countSent datagram).commit piggybacked
  | _, _ => s

/-- If a new segment is handed over in the turn, then the stream `s` is open and gets it. -/
def Announcing (s : Stream) (r : Shared × Turn Writer Outcome) : Prop :=
  ∀ rest made piggybacked datagram, r.2 = .hands (sending rest made piggybacked) datagram →
    made = datagram ∧ s.closed = false ∧ s.Announces r.1.stream datagram piggybacked

variable {s : Stream} {x : Shared} {me : Agent} {now : Nat} {job : Job}

theorem Announcing.of_ne {r : Shared × Turn Writer Outcome}
    (h : ∀ rest made piggybacked datagram,
      r.2 ≠ .hands (sending rest made piggybacked) datagram) : Announcing s r :=
  fun rest made piggybacked datagram heq => absurd heq (h rest made piggybacked datagram)

theorem flushed_announcing (progress : Flush.Progress) :
    Announcing s (flushed x me now job progress) := by
  cases progress <;> exact .of_ne fun _ _ _ _ h => by cases h

theorem polled_announcing : Announcing s (polled x me now job) := by
  unfold polled
  split
  · exact .of_ne fun _ _ _ _ h => by cases h
  · exact flushed_announcing _

theorem poll_announcing : Announcing s (poll x me now job) := by
  unfold poll
  simp only
  split
  · exact .of_ne fun _ _ _ _ h => by cases h
  · exact polled_announcing

/-- **A writer tries to add its segment.** -/
theorem attempt_announcing {pool : Pool} (hopen : s.closed = false)
    (hs : x.stream = { s with pool := pool }) : Announcing s (attempt x me now job) := by
  unfold attempt
  split
  · rename_i t hinsert
    rw [hs] at hinsert
    split
    · rename_i made piggybacked s' hmade
      intro rest d k datagram heq
      cases heq
      exact ⟨rfl, hopen, pool, now, job.body, _, t, hinsert, hmade⟩
    · exact .of_ne fun _ _ _ _ h => by cases h
  · split
    · exact .of_ne fun _ _ _ _ h => by cases h
    · exact poll_announcing

theorem retry_announcing : Announcing x.stream (retry x me now job) := by
  unfold retry
  split
  · exact .of_ne fun _ _ _ _ h => by cases h
  · rename_i hopen
    exact attempt_announcing (Bool.eq_false_of_not_eq_true hopen) rfl

theorem proceed_announcing (begun : Bool) (bodies : List Bytes) :
    Announcing x.stream (proceed x me now begun bodies) := by
  unfold proceed
  split
  · exact .of_ne fun _ _ _ _ h => by cases h
  · split
    · exact .of_ne fun _ _ _ _ h => by cases h
    · rename_i hopen
      exact attempt_announcing (Bool.eq_false_of_not_eq_true hopen) rfl

theorem accept_announcing (limit : Nat) (arrival : Arrival) :
    Announcing s (accept x me now job limit arrival) := by
  unfold accept
  split
  · exact polled_announcing
  · split
    · exact polled_announcing
    · split
      · exact .of_ne fun _ _ _ _ h => by cases h
      · exact polled_announcing

/-- **The start of a write.** -/
theorem begin_announcing (x : Shared) (me : Agent) (now : Nat) (message : Bytes) :
    Announcing x.stream (begin x me now message) := by
  rcases begin_cases x me now message with ⟨outcome, heq, -⟩ | ⟨-, -, -, heq⟩
  · rw [heq]
    exact .of_ne fun _ _ _ _ h => by cases h
  · rw [heq]
    split
    · exact proceed_announcing (x := { x with writing := x.writing.enter me }) false _
    · exact .of_ne fun _ _ _ _ h => by cases h

/-- **A turn of a writer.** -/
theorem resume_announcing (x : Shared) (me : Agent) (now : Nat) (point : Writer) (signal : Signal) :
    Announcing (settled x.stream point signal) (resume x me now point signal) := by
  have hstay : Announcing (settled x.stream point signal) (x, .waits point) :=
    .of_ne fun _ _ _ _ h => by cases h
  cases point with
  | entering message =>
    cases signal with
    | granted => exact proceed_announcing false _
    | _ => exact hstay
  | polling job limit =>
    cases signal with
    | arrived arrival => exact accept_announcing limit arrival
    | closed => exact polled_announcing
    | due => exact polled_announcing
    | _ => exact hstay
  | replying job limit datagram =>
    cases signal with
    | sent => exact polled_announcing
    | unsent reason => exact polled_announcing
    | due => exact polled_announcing
    | _ => exact hstay
  | flushing job flush =>
    cases signal with
    | sent => exact flushed_announcing _
    | unsent reason => exact flushed_announcing _
    | _ => exact hstay
  | awaiting job limit =>
    cases signal with
    | room => exact retry_announcing
    | due => exact retry_announcing
    | _ => exact hstay
  | sending rest datagram piggybacked =>
    cases signal with
    | sent =>
      exact proceed_announcing
        (x := { x with stream := (x.stream.countSent datagram).commit piggybacked }) true rest
    | unsent reason => exact .of_ne fun _ _ _ _ h => by cases h
    | _ => exact hstay

end Writer

end Redelivery
