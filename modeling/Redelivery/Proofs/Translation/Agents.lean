import Redelivery.Proofs.Translation.Stream
import Redelivery.Session

/-!
# Agents with all serial numbers moved

If two agents are at the same point of their work on matching streams and get the same signal, they
go on to the same point again. They hand the same datagram to the socket, moved, and they end with
the same result. What an agent has with it is moved as well: a datagram that it waits for the socket
to take, or those of a flush. A writer has a buffer, too, and of that only the content matters.

## Main definitions

* `Shared.Matches`: what agents share, and the same with all serial numbers moved.
* `Turn.Matches`, `Parallel`: turns that lead to the same.
* `Flush.shift`, `Reader.shift`, `Flusher.shift`, `Writer.Matches`: agents at the same point.

## Main statements

* `Reader.begin_parallel`, `Reader.resume_parallel`, `Writer.begin_parallel`,
  `Writer.resume_parallel`, `Flusher.resume_parallel`, `Closer.begin_parallel`,
  `Closer.resume_parallel`: turns of agents at the same point lead to the same.

`Parallel` relates a turn of one agent and a turn of the other, with what they share and with where
they get to. It is shown for each function that a turn is made of, in the order in which these call
each other. At every branch the condition is the same on both sides, because it depends on a part of
the stream that is equal or on a comparison of serial numbers that does not change; after that the
two go on as one.

For readers, flushers and closers to be at the same point is an equation, the second point being the
first one moved. A writer has a buffer with it, and buffers may differ in their spare bytes, so
`Writer.Matches` is a relation.
-/

namespace Redelivery

variable {settings : Settings} {δ : Nat} {x y : Shared} {me : Agent}

/-- The streams match, and the sections are the same. -/
structure Shared.Matches (settings : Settings) (δ : Nat) (x y : Shared) : Prop where
  /-- The streams. -/
  stream : x.stream.Matches settings δ y.stream
  /-- The sections for writing. -/
  writing_eq : y.writing = x.writing
  /-- The sections for reading. -/
  reading_eq : y.reading = x.reading

namespace Shared.Matches

section

variable (h : x.Matches settings δ y)

include h

theorem withStream {s t : Stream} (hst : s.Matches settings δ t) :
    ({ x with stream := s } : Shared).Matches settings δ { y with stream := t } :=
  { h with stream := hst }

theorem withWriting (writing : Section Agent) :
    ({ x with writing := writing } : Shared).Matches settings δ { y with writing := writing } :=
  ⟨h.stream, rfl, h.reading_eq⟩

theorem withReading (reading : Section Agent) :
    ({ x with reading := reading } : Shared).Matches settings δ { y with reading := reading } :=
  ⟨h.stream, h.writing_eq, rfl⟩

theorem leaveWriting (me : Agent) :
    (x.leaveWriting me).Matches settings δ (y.leaveWriting me) :=
  { h with writing_eq := congrArg (·.leave me) h.writing_eq }

theorem leaveReading (me : Agent) :
    (x.leaveReading me).Matches settings δ (y.leaveReading me) :=
  { h with reading_eq := congrArg (·.leave me) h.reading_eq }

theorem enterWriting (me : Agent) :
    ({ x with writing := x.writing.enter me } : Shared).Matches settings δ
      { y with writing := y.writing.enter me } :=
  { h with writing_eq := congrArg (·.enter me) h.writing_eq }

theorem enterReading (me : Agent) :
    ({ x with reading := x.reading.enter me } : Shared).Matches settings δ
      { y with reading := y.reading.enter me } :=
  { h with reading_eq := congrArg (·.enter me) h.reading_eq }

theorem countSent (datagram : Bytes) :
    ({ x with stream := x.stream.countSent datagram } : Shared).Matches settings δ
      { y with stream := y.stream.countSent (datagram.shift settings.maxSegment δ) } :=
  h.withStream (h.stream.countSent datagram)

end

end Shared.Matches

/-- Both agents wait at points that go together, or both have handed over the same datagram, moved,
or both have ended with the same result. -/
inductive Turn.Matches {π ρ : Type} (limit δ : Nat) (together : π → π → Prop) :
    Turn π ρ → Turn π ρ → Prop where
  /-- Both wait. -/
  | waits {p q : π} (h : together p q) : Matches limit δ together (.waits p) (.waits q)
  /-- Both wait for the socket. -/
  | hands {p q : π} (h : together p q) (datagram : Bytes) :
    Matches limit δ together (.hands p datagram) (.hands q (datagram.shift limit δ))
  /-- Both have ended. -/
  | returns (result : ρ) : Matches limit δ together (.returns result) (.returns result)

/-- Two turns that lead to the same. -/
structure Parallel {π ρ : Type} (settings : Settings) (δ : Nat) (together : π → π → Prop)
    (a b : Shared × Turn π ρ) : Prop where
  /-- What the agents share matches afterwards. -/
  shared : a.1.Matches settings δ b.1
  /-- And so does where they are. -/
  turn : a.2.Matches settings.maxSegment δ together b.2

namespace Parallel

variable {π ρ : Type} {together : π → π → Prop}

theorem waits (h : x.Matches settings δ y) {p q : π} (hpq : together p q) :
    Parallel settings δ together ((x, .waits p) : Shared × Turn π ρ) (y, .waits q) :=
  ⟨h, .waits hpq⟩

theorem hands (h : x.Matches settings δ y) {p q : π} (hpq : together p q) (datagram : Bytes) :
    Parallel settings δ together ((x, .hands p datagram) : Shared × Turn π ρ)
      (y, .hands q (datagram.shift settings.maxSegment δ)) :=
  ⟨h, .hands hpq datagram⟩

theorem returns (h : x.Matches settings δ y) (result : ρ) :
    Parallel settings δ together ((x, .returns result) : Shared × Turn π ρ) (y, .returns result) :=
  ⟨h, .returns result⟩

end Parallel

/-! ## What comes in and goes out -/

namespace Stream.Matches

variable {s t : Stream}

/-- A datagram arrives, and both are asked for a stream again, or neither is. -/
theorem receive_shiftFront (h : s.Matches settings δ t) (now : Nat) (raw : Bytes) :
    ∃ s' t' reply, s.receive now raw = (s', reply)
      ∧ t.receive now (raw.shiftFront settings δ) = (t', reply)
      ∧ s'.Matches settings δ t' ∧ (reply = none ∨ reply = some .dialAck) := by
  obtain ⟨hmatches, hreply⟩ := h.receive now (Bytes.take_shiftFront settings δ raw)
  -- the only header that is answered has no serial number in it to be moved
  refine ⟨_, _, (s.receive now raw).2, rfl, Prod.ext rfl hreply, hmatches, ?_⟩
  cases hheader : (s.receive now raw).2 with
  | none => exact Or.inl rfl
  | some header => exact Or.inr (congrArg some (reply_of_receive hheader))

/-- Both make the acknowledgement of all that arrived. -/
theorem acknowledge (h : s.Matches settings δ t) :
    ∃ datagram s' t', s.acknowledge = (.ok datagram, s')
      ∧ t.acknowledge = (.ok (datagram.shift settings.maxSegment δ), t')
      ∧ s'.Matches settings δ t' := by
  obtain ⟨p, hs⟩ := s.acknowledge_eq
  obtain ⟨q, ht⟩ := t.acknowledge_eq
  rw [h.receiveWindow.ackDatagram_eq settings.maxSegment] at ht
  exact ⟨_, _, _, hs, ht, { h with ackDue_eq := rfl }⟩

/-- Both make the answer to a request for a stream. -/
theorem control_dialAck (h : s.Matches settings δ t) :
    ∃ datagram s' t', s.control .dialAck = (.ok datagram, s')
      ∧ t.control .dialAck = (.ok (datagram.shift settings.maxSegment δ), t')
      ∧ s'.Matches settings δ t' := by
  obtain ⟨p, hs⟩ := s.control_eq .dialAck
  obtain ⟨q, ht⟩ := t.control_eq .dialAck
  refine ⟨_, _, _, hs, ?_, h.withPool p q⟩
  rw [Header.shift_datagram]
  exact ht

end Stream.Matches

/-! ## Readers -/

namespace Reader

/-- The point with all serial numbers moved on, in what the socket is to take. -/
def shift (limit δ : Nat) : Reader → Reader
  | entering => entering
  | acking datagram again => acking (datagram.shift limit δ) again
  | receiving => receiving
  | replying datagram => replying (datagram.shift limit δ)

/-- The second reader is where the first is. -/
def Matches (limit δ : Nat) (p q : Reader) : Prop :=
  q = p.shift limit δ

theorem matches_shift (limit δ : Nat) (p : Reader) : p.Matches limit δ (p.shift limit δ) :=
  rfl

@[simp] theorem wait_shift (limit δ : Nat) (p : Reader) : (p.shift limit δ).wait = p.wait := by
  cases p <;> rfl

variable (h : x.Matches settings δ y)

include h

theorem finish_parallel (me : Agent) (outcome : Outcome) :
    Parallel settings δ (Matches settings.maxSegment δ) (finish x me outcome)
      (finish y me outcome) :=
  .returns (h.leaveReading me) outcome

theorem acknowledge_parallel (again : Bool) :
    Parallel settings δ (Matches settings.maxSegment δ) (acknowledge x again)
      (acknowledge y again) := by
  obtain ⟨datagram, s, t, hs, ht, hst⟩ := h.stream.acknowledge
  unfold acknowledge
  simp only [hs, ht]
  exact .hands (h.withStream hst) (matches_shift _ δ (acking datagram again)) datagram

theorem proceed_parallel (me : Agent) (buffer : Bytes) :
    Parallel settings δ (Matches settings.maxSegment δ) (proceed x me buffer)
      (proceed y me buffer) := by
  obtain ⟨hstream, hdelivery⟩ := h.stream.deliver buffer
  unfold proceed
  rw [h.stream.closed_eq]
  by_cases hclosed : x.stream.closed = true
  · simp only [if_pos hclosed]
    exact finish_parallel h me _
  simp only [if_neg hclosed]
  -- both streams deliver the same, and from there on the turns have the same cases
  generalize x.stream.deliver buffer = a at hstream hdelivery ⊢
  generalize y.stream.deliver buffer = b at hstream hdelivery ⊢
  obtain ⟨s, delivery⟩ := a
  obtain ⟨t, delivery'⟩ := b
  cases hdelivery
  have hmatches := h.withStream hstream
  cases delivery with
  | message length filled => exact finish_parallel hmatches me _
  | failed failure => exact finish_parallel hmatches me _
  | advanced => exact acknowledge_parallel hmatches true
  | starved =>
    have hdue_eq : t.ackDue = s.ackDue := hstream.ackDue_eq
    simp only [hdue_eq]
    by_cases hdue : s.ackDue = true
    · simp only [if_pos hdue]
      exact acknowledge_parallel hmatches false
    · simp only [if_neg hdue]
      exact .waits hmatches (matches_shift _ δ receiving)

theorem accept_parallel (me : Agent) (buffer : Bytes) (now : Nat) (arrival : Arrival) :
    Parallel settings δ (Matches settings.maxSegment δ) (accept x me buffer now arrival)
      (accept y me buffer now (arrival.shift settings δ)) := by
  cases arrival with
  | fault reason => exact finish_parallel h me _
  | datagram raw =>
    obtain ⟨s, t, reply, hs, ht, hstream, hreply⟩ := h.stream.receive_shiftFront now raw
    unfold accept Arrival.shift
    simp only [hs, ht]
    rcases hreply with rfl | rfl
    · exact proceed_parallel (h.withStream hstream) me buffer
    · obtain ⟨datagram, s', t', hs', ht', hstream'⟩ := hstream.control_dialAck
      simp only [hs', ht']
      exact .hands (h.withStream hstream') (matches_shift _ δ (replying datagram)) datagram

/-- **Reads start alike.** -/
theorem begin_parallel (me : Agent) (buffer : Bytes) :
    Parallel settings δ (Matches settings.maxSegment δ) (begin x me buffer)
      (begin y me buffer) := by
  have hentered := h.enterReading me
  unfold begin
  rw [h.stream.closed_eq]
  by_cases hclosed : x.stream.closed = true
  · simp only [if_pos hclosed]
    exact .returns h _
  simp only [if_neg hclosed, h.reading_eq] at hentered ⊢
  by_cases howner : (x.reading.enter me).owner = some me
  · simp only [if_pos howner]
    exact proceed_parallel hentered me buffer
  · simp only [if_neg howner]
    exact .waits hentered (matches_shift _ δ entering)

/-- **Readers go on alike.** -/
theorem resume_parallel (me : Agent) (buffer : Bytes) (now : Nat) (point : Reader)
    (signal : Signal) :
    Parallel settings δ (Matches settings.maxSegment δ) (resume x me buffer now point signal)
      (resume y me buffer now (point.shift settings.maxSegment δ)
        (signal.shift settings δ)) := by
  cases point with
  | entering =>
    cases signal with
    | granted => exact proceed_parallel h me buffer
    | _ => exact .waits h (matches_shift _ δ entering)
  | acking datagram again =>
    cases signal with
    | sent =>
      cases again with
      | true => exact proceed_parallel (h.countSent datagram) me buffer
      | false => exact .waits (h.countSent datagram) (matches_shift _ δ receiving)
    | unsent reason =>
      cases again with
      | true => exact proceed_parallel h me buffer
      | false => exact .waits h (matches_shift _ δ receiving)
    | _ => exact .waits h (matches_shift _ δ (acking datagram again))
  | receiving =>
    cases signal with
    | arrived arrival => exact accept_parallel h me buffer now arrival
    | closed => exact finish_parallel h me _
    | _ => exact .waits h (matches_shift _ δ receiving)
  | replying datagram =>
    cases signal with
    | sent => exact proceed_parallel (h.countSent datagram) me buffer
    | unsent reason => exact proceed_parallel h me buffer
    | _ => exact .waits h (matches_shift _ δ (replying datagram))

end Reader

/-! ## Flushes -/

namespace Flush

/-- The flush with all serial numbers moved on. -/
def shift (limit δ : Nat) (f : Flush) : Flush where
  current := f.current.shift limit δ
  rest := f.rest.map (Bytes.shift limit δ)
  count := f.count

/-- How a flush goes on, with all serial numbers moved on. -/
def Progress.shift (limit δ : Nat) : Progress → Progress
  | done => done
  | going flush => going (flush.shift limit δ)
  | failed failure => failed failure

variable {s t : Stream} (h : s.Matches settings δ t)

include h

/-- **Flushes start alike.** -/
theorem begin_matches (now : Nat) :
    (begin s now).1.Matches settings δ (begin t now).1
      ∧ (begin t now).2 = (begin s now).2.shift settings.maxSegment δ := by
  obtain ⟨datagrams, count, p, q, hs, ht⟩ := h.flushDatagrams now
  have hmatches : ({ s with roundTrips := s.roundTrips.remember, pool := p } : Stream).Matches
      settings δ { t with roundTrips := t.roundTrips.remember, pool := q } :=
    { h with roundTrips_eq := congrArg RoundTrips.remember h.roundTrips_eq }
  unfold begin
  rw [hs, ht]
  cases datagrams with
  | nil => exact ⟨hmatches, rfl⟩
  | cons datagram rest => exact ⟨hmatches, rfl⟩

/-- **Flushes go on alike.** -/
theorem sent_matches (f : Flush) :
    (f.sent s).1.Matches settings δ ((f.shift settings.maxSegment δ).sent t).1
      ∧ ((f.shift settings.maxSegment δ).sent t).2
        = (f.sent s).2.shift settings.maxSegment δ := by
  obtain ⟨current, rest, count⟩ := f
  have hcount := h.countSent current
  cases rest with
  | nil =>
    exact ⟨{ hcount with traffic_eq := congrArg (·.resent count) hcount.traffic_eq }, rfl⟩
  | cons datagram rest => exact ⟨hcount, rfl⟩

end Flush

/-! ## Writers -/

/-- The segments on their way into the windows have the same content, which fits into a datagram,
and the same comes behind them. -/
structure Job.Matches (limit : Nat) (j k : Job) : Prop where
  /-- The content. -/
  content_eq : k.body.content = j.body.content
  /-- It fits. -/
  length_le : j.body.content.length ≤ limit
  /-- What comes behind. -/
  rest_eq : k.rest = j.rest
  /-- Whether earlier segments were sent. -/
  begun_eq : k.begun = j.begun
  /-- When the writers give up. -/
  deadline_eq : k.deadline = j.deadline

namespace Writer

/-- The second writer is where the first is. -/
inductive Matches (limit δ : Nat) : Writer → Writer → Prop where
  /-- At the section. -/
  | entering (message : Bytes) : Matches limit δ (.entering message) (.entering message)
  /-- In front of the socket. -/
  | polling {j k : Job} (h : j.Matches limit k) (time : Nat) :
    Matches limit δ (.polling j time) (.polling k time)
  /-- With a reply. -/
  | replying {j k : Job} (h : j.Matches limit k) (time : Nat) (datagram : Bytes) :
    Matches limit δ (.replying j time datagram) (.replying k time (datagram.shift limit δ))
  /-- In a flush. -/
  | flushing {j k : Job} (h : j.Matches limit k) (flush : Flush) :
    Matches limit δ (.flushing j flush) (.flushing k (flush.shift limit δ))
  /-- In front of the send window. -/
  | awaiting {j k : Job} (h : j.Matches limit k) (time : Nat) :
    Matches limit δ (.awaiting j time) (.awaiting k time)
  /-- With the new segment. -/
  | sending (rest : List Bytes) (datagram : Bytes) (piggybacked : Nat) :
    Matches limit δ (.sending rest datagram piggybacked)
      (.sending rest (datagram.shift limit δ) piggybacked)

theorem Matches.wait_eq {limit δ : Nat} {p q : Writer} (h : p.Matches limit δ q) :
    q.wait = p.wait := by
  cases h <;> rfl

variable {j k : Job} (h : x.Matches settings δ y)

include h

theorem fail_parallel (me : Agent) (begun : Bool) (failure : Failure) :
    Parallel settings δ (Matches settings.maxSegment δ) (fail x me begun failure)
      (fail y me begun failure) := by
  cases begun with
  | true => exact .returns ((h.withStream h.stream.shut).leaveWriting me) _
  | false => exact .returns (h.leaveWriting me) _

theorem failWith_parallel (hjob : j.Matches settings.maxSegment k) (me : Agent)
    (failure : Failure) :
    Parallel settings δ (Matches settings.maxSegment δ) (failWith x me j failure)
      (failWith y me k failure) := by
  unfold failWith
  rw [hjob.begun_eq]
  exact fail_parallel (h.withStream (h.stream.withPool _ _)) me j.begun failure

theorem limit_eq (hjob : j.Matches settings.maxSegment k) (now : Nat) :
    limit y now k = limit x now j := by
  unfold limit
  rw [hjob.deadline_eq, h.stream.view_eq Settings.writePoll fun _ _ => rfl]

theorem flushed_parallel (hjob : j.Matches settings.maxSegment k) (me : Agent) (now : Nat)
    (progress : Flush.Progress) :
    Parallel settings δ (Matches settings.maxSegment δ) (flushed x me now j progress)
      (flushed y me now k (progress.shift settings.maxSegment δ)) := by
  cases progress with
  | done =>
    unfold flushed Flush.Progress.shift
    simp only
    rw [limit_eq h hjob]
    exact .waits h (.awaiting hjob _)
  | going flush => exact .hands h (.flushing hjob flush) flush.current
  | failed failure => exact failWith_parallel h hjob me failure

theorem polled_parallel (hjob : j.Matches settings.maxSegment k) (me : Agent) (now : Nat) :
    Parallel settings δ (Matches settings.maxSegment δ) (polled x me now j)
      (polled y me now k) := by
  obtain ⟨hstream, hprogress⟩ := Flush.begin_matches h.stream now
  unfold polled
  rw [h.stream.closed_eq]
  by_cases hclosed : x.stream.closed = true
  · simp only [if_pos hclosed]
    exact failWith_parallel h hjob me _
  simp only [if_neg hclosed, hprogress]
  exact flushed_parallel (h.withStream hstream) hjob me now _

theorem leavePolling_parallel (hjob : j.Matches settings.maxSegment k) (me : Agent) (now : Nat) :
    Parallel settings δ (Matches settings.maxSegment δ) (leavePolling x me now j)
      (leavePolling y me now k) :=
  polled_parallel (h.leaveReading me) hjob me now

theorem poll_parallel (hjob : j.Matches settings.maxSegment k) (me : Agent) (now : Nat) :
    Parallel settings δ (Matches settings.maxSegment δ) (poll x me now j) (poll y me now k) := by
  have hnotice : ({ x with stream := { x.stream with roomFreed := false } } : Shared).Matches
      settings δ { y with stream := { y.stream with roomFreed := false } } :=
    h.withStream { h.stream with roomFreed_eq := rfl }
  have htry : y.reading.tryEnter? me = x.reading.tryEnter? me := by rw [h.reading_eq]
  unfold poll
  simp only [htry]
  cases x.reading.tryEnter? me with
  | some reading =>
    show Parallel settings δ (Matches settings.maxSegment δ)
      (_, .waits (polling j (limit x now j))) (_, .waits (polling k (limit y now k)))
    rw [limit_eq h hjob]
    exact .waits (hnotice.withReading reading) (.polling hjob _)
  | none => exact polled_parallel hnotice hjob me now

/-- **Both segments find room, or none does.** -/
theorem attempt_parallel (hjob : j.Matches settings.maxSegment k) (me : Agent) (now : Nat) :
    Parallel settings δ (Matches settings.maxSegment δ) (attempt x me now j)
      (attempt y me now k) := by
  have hinsert := h.stream.insert? now hjob.content_eq (h.stream.limit_eq ▸ hjob.length_le)
    (!j.rest.isEmpty)
  unfold attempt
  rw [hjob.rest_eq, hjob.deadline_eq]
  generalize x.stream.insert? now j.body (!j.rest.isEmpty) = a at hinsert ⊢
  generalize y.stream.insert? now k.body (!j.rest.isEmpty) = b at hinsert ⊢
  cases hinsert with
  | none =>
    simp only
    by_cases hlate : j.deadline ≤ now
    · simp only [if_pos hlate]
      exact failWith_parallel h hjob me _
    · simp only [if_neg hlate]
      exact poll_parallel h hjob me now
  | @some s t hadded =>
    obtain ⟨datagram, piggybacked, p, q, hs, ht⟩ := hadded.1.segmentDatagram hadded.2
    simp only [hs, ht]
    exact .hands (h.withStream (hadded.1.withPool p q)) (.sending _ _ piggybacked) datagram

theorem retry_parallel (hjob : j.Matches settings.maxSegment k) (me : Agent) (now : Nat) :
    Parallel settings δ (Matches settings.maxSegment δ) (retry x me now j) (retry y me now k) := by
  unfold retry
  rw [h.stream.closed_eq]
  by_cases hclosed : x.stream.closed = true
  · simp only [if_pos hclosed]
    exact failWith_parallel h hjob me _
  · simp only [if_neg hclosed]
    exact attempt_parallel h hjob me now

theorem proceed_parallel (me : Agent) (now : Nat) (begun : Bool) (pieces : List Bytes) :
    Parallel settings δ (Matches settings.maxSegment δ) (proceed x me now begun pieces)
      (proceed y me now begun pieces) := by
  cases pieces with
  | nil => exact .returns (h.leaveWriting me) _
  | cons piece rest =>
    obtain ⟨hstream, hcontent, hfits⟩ := h.stream.prepare piece
    have htimeout : y.stream.settings.writeTimeout = x.stream.settings.writeTimeout :=
      h.stream.view_eq Settings.writeTimeout fun _ _ => rfl
    unfold proceed
    rw [h.stream.closed_eq]
    by_cases hclosed : x.stream.closed = true
    · simp only [if_pos hclosed]
      exact fail_parallel h me begun _
    simp only [if_neg hclosed, htimeout]
    have hjob : Job.Matches settings.maxSegment
        ⟨(x.stream.prepare piece).1, rest, begun, now + x.stream.settings.writeTimeout⟩
        ⟨(y.stream.prepare piece).1, rest, begun, now + x.stream.settings.writeTimeout⟩ :=
      ⟨hcontent, h.stream.limit_eq ▸ hfits, rfl, rfl, rfl⟩
    exact attempt_parallel (h.withStream hstream) hjob me now

theorem start_parallel (me : Agent) (now : Nat) (message : Bytes) :
    Parallel settings δ (Matches settings.maxSegment δ) (start x me now message)
      (start y me now message) := by
  unfold start
  rw [h.stream.maxSegment_eq]
  exact proceed_parallel h me now false _

theorem accept_parallel (hjob : j.Matches settings.maxSegment k) (me : Agent) (now time : Nat)
    (arrival : Arrival) :
    Parallel settings δ (Matches settings.maxSegment δ) (accept x me now j time arrival)
      (accept y me now k time (arrival.shift settings δ)) := by
  cases arrival with
  | fault reason => exact leavePolling_parallel h hjob me now
  | datagram raw =>
    obtain ⟨s, t, reply, hs, ht, hstream, hreply⟩ := h.stream.receive_shiftFront now raw
    unfold accept Arrival.shift
    simp only [hs, ht]
    rcases hreply with rfl | rfl
    · exact leavePolling_parallel (h.withStream hstream) hjob me now
    · obtain ⟨datagram, s', t', hs', ht', hstream'⟩ := hstream.control_dialAck
      simp only [hs', ht']
      exact .hands (h.withStream hstream') (.replying hjob time datagram) datagram

/-- **Writes start alike.** -/
theorem begin_parallel (me : Agent) (now : Nat) (message : Bytes) :
    Parallel settings δ (Matches settings.maxSegment δ) (begin x me now message)
      (begin y me now message) := by
  have hentered := h.enterWriting me
  unfold begin
  simp only [h.stream.closed_eq, h.stream.maxMessage_eq]
  by_cases hclosed : x.stream.closed = true
  · simp only [if_pos hclosed]
    exact .returns h _
  simp only [if_neg hclosed]
  by_cases hlong : x.stream.settings.maxMessage < message.length
  · simp only [if_pos hlong]
    exact .returns h _
  simp only [if_neg hlong]
  by_cases hempty : message.isEmpty = true
  · simp only [if_pos hempty]
    exact .returns h _
  simp only [if_neg hempty, h.writing_eq] at hentered ⊢
  by_cases howner : (x.writing.enter me).owner = some me
  · simp only [if_pos howner]
    exact start_parallel hentered me now message
  · simp only [if_neg howner]
    exact .waits hentered (.entering message)

/-- **Writers go on alike.** -/
theorem resume_parallel (me : Agent) (now : Nat) {p q : Writer}
    (hpq : p.Matches settings.maxSegment δ q) (signal : Signal) :
    Parallel settings δ (Matches settings.maxSegment δ) (resume x me now p signal)
      (resume y me now q (signal.shift settings δ)) := by
  cases hpq with
  | entering message =>
    cases signal with
    | granted => exact start_parallel h me now message
    | _ => exact .waits h (.entering message)
  | polling hjob time =>
    cases signal with
    | arrived arrival => exact accept_parallel h hjob me now time arrival
    | closed => exact leavePolling_parallel h hjob me now
    | due => exact leavePolling_parallel h hjob me now
    | _ => exact .waits h (.polling hjob time)
  | replying hjob time datagram =>
    cases signal with
    | sent => exact leavePolling_parallel (h.countSent datagram) hjob me now
    | unsent reason => exact leavePolling_parallel h hjob me now
    | due => exact leavePolling_parallel h hjob me now
    | _ => exact .waits h (.replying hjob time datagram)
  | flushing hjob flush =>
    cases signal with
    | sent =>
      obtain ⟨hstream, hprogress⟩ := Flush.sent_matches h.stream flush
      have hflushed := flushed_parallel (h.withStream hstream) hjob me now (flush.sent x.stream).2
      rw [← hprogress] at hflushed
      exact hflushed
    | unsent reason =>
      exact flushed_parallel (h.withStream h.stream.shut) hjob me now (.failed (.socket reason))
    | _ => exact .waits h (.flushing hjob flush)
  | awaiting hjob time =>
    cases signal with
    | room => exact retry_parallel h hjob me now
    | due => exact retry_parallel h hjob me now
    | _ => exact .waits h (.awaiting hjob time)
  | sending rest datagram piggybacked =>
    cases signal with
    | sent =>
      exact proceed_parallel (h.withStream ((h.stream.countSent datagram).commit piggybacked)) me
        now true rest
    | unsent reason => exact fail_parallel (h.withStream h.stream.abandon) me false _
    | _ => exact .waits h (.sending rest datagram piggybacked)

end Writer

/-! ## Flushers -/

namespace Flusher

/-- The point with all serial numbers moved on, in what the socket is to take. -/
def shift (limit δ : Nat) : Flusher → Flusher
  | waiting time => waiting time
  | flushing next flush => flushing next (flush.shift limit δ)

/-- The second flusher is where the first is. -/
def Matches (limit δ : Nat) (p q : Flusher) : Prop :=
  q = p.shift limit δ

theorem matches_shift (limit δ : Nat) (p : Flusher) : p.Matches limit δ (p.shift limit δ) :=
  rfl

@[simp] theorem wait_shift (limit δ : Nat) (p : Flusher) : (p.shift limit δ).wait = p.wait := by
  cases p <;> rfl

variable (h : x.Matches settings δ y)

include h

theorem flushed_parallel (next : Nat) (progress : Flush.Progress) :
    Parallel settings δ (Matches settings.maxSegment δ) (flushed x next progress)
      (flushed y next (progress.shift settings.maxSegment δ)) := by
  cases progress with
  | done => exact .waits (h.leaveWriting .flusher) (matches_shift _ δ (waiting next))
  | going flush => exact .hands h (matches_shift _ δ (flushing next flush)) flush.current
  | failed failure => exact .returns (h.leaveWriting .flusher) ()

theorem tick_parallel (now next : Nat) :
    Parallel settings δ (Matches settings.maxSegment δ) (tick x now next) (tick y now next) := by
  have htry : y.writing.tryEnter? .flusher = x.writing.tryEnter? .flusher := by
    rw [h.writing_eq]
  unfold tick
  rw [h.stream.sentSinceTick_eq, htry]
  by_cases hsent : x.stream.sentSinceTick = true
  · simp only [if_pos hsent]
    have hstream : ({ x.stream with sentSinceTick := false } : Stream).Matches settings δ
        { y.stream with sentSinceTick := false } :=
      { h.stream with sentSinceTick_eq := rfl }
    exact .waits (h.withStream hstream) (matches_shift _ δ (waiting next))
  simp only [if_neg hsent]
  cases x.writing.tryEnter? .flusher with
  | none => exact .waits h (matches_shift _ δ (waiting next))
  | some writing =>
    have hentered := h.withWriting writing
    simp only [h.stream.closed_eq]
    by_cases hclosed : x.stream.closed = true
    · simp only [if_pos hclosed]
      exact .returns (hentered.leaveWriting .flusher) ()
    obtain ⟨hstream, hprogress⟩ := Flush.begin_matches h.stream now
    simp only [if_neg hclosed, hprogress]
    exact flushed_parallel (hentered.withStream hstream) next _

/-- **Flushers go on alike.** -/
theorem resume_parallel (now : Nat) (point : Flusher) (signal : Signal) :
    Parallel settings δ (Matches settings.maxSegment δ) (resume x now point signal)
      (resume y now (point.shift settings.maxSegment δ) (signal.shift settings δ)) := by
  have hinterval : y.stream.settings.flushInterval = x.stream.settings.flushInterval :=
    h.stream.view_eq Settings.flushInterval fun _ _ => rfl
  cases point with
  | waiting time =>
    cases signal with
    | due =>
      unfold resume shift Signal.shift
      simp only [hinterval]
      exact tick_parallel h now _
    | closed => exact .returns h ()
    | _ => exact .waits h (matches_shift _ δ (waiting time))
  | flushing next flush =>
    cases signal with
    | sent =>
      obtain ⟨hstream, hprogress⟩ := Flush.sent_matches h.stream flush
      have hflushed := flushed_parallel (h.withStream hstream) next (flush.sent x.stream).2
      rw [← hprogress] at hflushed
      exact hflushed
    | unsent reason =>
      exact flushed_parallel (h.withStream h.stream.shut) next (.failed (.socket reason))
    | _ => exact .waits h (matches_shift _ δ (flushing next flush))

end Flusher

/-! ## Closers -/

namespace Closer

variable (h : x.Matches settings δ y)

include h

theorem passReading_parallel (me : Agent) :
    Parallel settings δ Eq (passReading x me) (passReading y me) := by
  have hentered := h.enterReading me
  unfold passReading
  rw [h.reading_eq] at hentered ⊢
  by_cases hfree : x.reading.isFree = true
  · simp only [if_pos hfree]
    exact .returns h ()
  · simp only [if_neg hfree]
    exact .waits hentered rfl

theorem passWriting_parallel (me : Agent) :
    Parallel settings δ Eq (passWriting x me) (passWriting y me) := by
  have hentered := h.enterWriting me
  unfold passWriting
  rw [h.writing_eq] at hentered ⊢
  by_cases hfree : x.writing.isFree = true
  · simp only [if_pos hfree]
    exact passReading_parallel h me
  · simp only [if_neg hfree]
    exact .waits hentered rfl

/-- **Closes start alike.** -/
theorem begin_parallel (me : Agent) (joins : Bool) :
    Parallel settings δ Eq (begin x me joins) (begin y me joins) := by
  have hshut := h.withStream h.stream.shut
  cases joins with
  | true => exact .waits hshut rfl
  | false => exact passWriting_parallel hshut me

/-- **Closers go on alike.** -/
theorem resume_parallel (me : Agent) (point : Closer) (signal : Signal) :
    Parallel settings δ Eq (resume x me point signal)
      (resume y me point (signal.shift settings δ)) := by
  cases point with
  | joining =>
    cases signal with
    | ended => exact passWriting_parallel h me
    | _ => exact .waits h rfl
  | enteringWriting =>
    cases signal with
    | granted => exact passReading_parallel (h.leaveWriting me) me
    | _ => exact .waits h rfl
  | enteringReading =>
    cases signal with
    | granted => exact .returns (h.leaveReading me) ()
    | _ => exact .waits h rfl

end Closer

end Redelivery
