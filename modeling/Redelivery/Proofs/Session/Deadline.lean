import Redelivery.Proofs.Session.Waiting

/-!
# The deadline of a segment

A writer tries to add its segment to the send window, and if there is no room, it receives, flushes
and waits, and tries again. Each of its waits ends by the deadline at the latest, and the first
attempt from then on is the last one. So the writer neither overshoots the deadline nor gives up
before it, provided that no time passes that it has not waited for.

## Main definitions

* `Wait.lets`: how long a wait may last.
* `Writer.Meets`: a writer has a deadline and does not wait any longer than that.
* `Writer.Timely`: what a turn comes to by a deadline.
* `Writer.ahead`: what a writer goes on with.

## Main statements

* `Writer.Meets.pass`: waiting does not overshoot the deadline.
* `Writer.attempt_timely`: nor does an attempt, and it does not give up before the deadline.
* `Writer.resume_eq_attempt`: the turn in which a writer begins with a segment.
* `Writer.resume_timely`: all other turns.

Two things have to be excluded: that a writer waits beyond its deadline, and that it gives up before
it. The first rides on `limit_le`: every wait is limited by the poll interval or by the time that is
left, whichever is less. The second one is `attempt_timely`: a writer that gives up for want of time
has just found no room, and the deadline has come; and with `Meets`, by which the deadline has not
passed, this is the very time.

A turn that begins with a new segment sets a new deadline, and all others go by the old one. `ahead`
tells which turns are of the first kind, and `resume_eq_attempt` and `begin_eq_attempt` say that
they are attempts; `resume_timely` is about the others. Failures for other reasons are told apart by
what they say: no function that composes a datagram, opens a flush or reads from the socket fails
with this failure (the lemmas on `isTimeout`).
-/

namespace Redelivery

/-! ## Other failures -/

namespace Failure

variable {α β ε : Type} {failure : Failure}

/-- What failed in a first step or in a second one is no matter of time if neither of them is. -/
theorem isTimeout_of_bind {a : Except Failure α} {f : α → Except Failure β}
    (ha : ∀ e, a = .error e → e.isTimeout = false)
    (hf : ∀ b e, f b = .error e → e.isTimeout = false) (h : a.bind f = .error failure) :
    failure.isTimeout = false := by
  cases a with
  | error e =>
    cases h
    exact ha failure rfl
  | ok b => exact hf b failure h

theorem isTimeout_of_mapError {a : Except ε α} {f : ε → Failure}
    (hf : ∀ e, (f e).isTimeout = false) (h : a.mapError f = .error failure) :
    failure.isTimeout = false := by
  cases a with
  | error e =>
    cases h
    exact hf e
  | ok b => cases h

end Failure

namespace Stream

variable {s s' : Stream} {failure : Failure}

/-- A datagram that cannot be composed is no matter of time. -/
theorem isTimeout_of_compose {write : Buffer → Except Failure Buffer}
    (hwrite : ∀ b e, write b = .error e → e.isTimeout = false)
    (h : (s.compose write).1 = .error failure) : failure.isTimeout = false := by
  unfold compose Pool.compose at h
  simp only at h
  split at h
  · cases h
  · rename_i e heq
    cases h
    exact Failure.isTimeout_of_bind (hwrite _)
      (fun b e => Failure.isTimeout_of_mapError fun _ => rfl) heq

theorem isTimeout_of_dataDatagram {segments : List (Segment Bytes)}
    (h : (s.dataDatagram segments).1 = .error failure) : failure.isTimeout = false :=
  isTimeout_of_compose (fun _ _ => Failure.isTimeout_of_bind
    (fun _ => Failure.isTimeout_of_mapError fun _ => rfl)
    (fun _ _ => Failure.isTimeout_of_mapError fun _ => rfl)) h

theorem isTimeout_of_dataDatagrams {groups : List (List (Segment Bytes))}
    (h : (s.dataDatagrams groups).1 = .error failure) : failure.isTimeout = false := by
  induction groups generalizing s with
  | nil => cases h
  | cons segments rest ih =>
    unfold dataDatagrams at h
    split at h
    · rename_i e s' heq
      cases h
      exact isTimeout_of_dataDatagram (congrArg Prod.fst heq)
    · split at h
      · rename_i e s' heq
        cases h
        exact ih (congrArg Prod.fst heq)
      · cases h

theorem isTimeout_of_segmentDatagram (h : s.segmentDatagram = (.error failure, s')) :
    failure.isTimeout = false := by
  unfold segmentDatagram at h
  split at h
  · cases h
    rfl
  · simp only at h
    split at h
    · cases h
    · rename_i e s'' heq
      cases h
      exact isTimeout_of_dataDatagram (congrArg Prod.fst heq)

/-- A flush that cannot begin does not say that it has taken too long. -/
theorem isTimeout_of_begin {now : Nat} (h : (Flush.begin s now).2 = .failed failure) :
    failure.isTimeout = false := by
  unfold Flush.begin flushDatagrams at h
  simp only at h
  split at h
  · cases h
  · cases h
  · rename_i e s' heq
    cases h
    split at heq
    · cases heq
    · rename_i e s'' heq'
      cases heq
      exact isTimeout_of_dataDatagrams (congrArg Prod.fst heq')

end Stream

/-! ## Waits -/

/-- Whether the time may go on to `time` while there is such a wait: the socket takes a datagram at
once, and a timer ends a wait when it is due. -/
def Wait.lets (now time : Nat) (wait : Wait) : Bool :=
  (match wait with
    | sending _ => decide (time ≤ now)
    | _ => true)
  && wait.limit?.all fun limit => time ≤ limit

namespace Writer

/-- The segment that a writer tries to add to the send window, and what comes behind it. -/
def job? : Writer → Option Job
  | entering _ => none
  | polling job _ => some job
  | replying job _ _ => some job
  | flushing job _ => some job
  | awaiting job _ => some job
  | sending _ _ _ => none

/-- The deadline of a writer inside the section has not passed, and it does not wait any longer than
that. -/
structure Meets (w : Writer) (deadline now : Nat) : Prop where
  /-- The writer is inside. -/
  inside : w.isInside = true
  /-- The deadline has not passed. -/
  now_le : now ≤ deadline
  /-- It is that of the segment. -/
  deadline_eq : ∀ job, w.job? = some job → job.deadline = deadline
  /-- The writer does not wait any longer. -/
  limit_le : ∀ limit, w.wait.limit? = some limit → limit ≤ deadline

theorem meets_of_job {w : Writer} {job : Job} {deadline now : Nat} (hjob : w.job? = some job)
    (hdeadline : job.deadline = deadline) (hnow : now ≤ deadline)
    (hlimit : ∀ limit, w.wait.limit? = some limit → limit ≤ deadline) : w.Meets deadline now where
  inside := by
    cases w with
    | entering message => cases hjob
    | _ => rfl
  now_le := hnow
  deadline_eq j hj := by
    cases hjob.symm.trans hj
    exact hdeadline
  limit_le := hlimit

theorem meets_sending {rest : List Bytes} {datagram : Bytes} {piggybacked deadline now : Nat}
    (hnow : now ≤ deadline) : (sending rest datagram piggybacked).Meets deadline now where
  inside := rfl
  now_le := hnow
  deadline_eq job hjob := by cases hjob
  limit_le limit hlimit := by cases hlimit

/-- **Waiting does not overshoot the deadline.** -/
theorem Meets.pass {w : Writer} {deadline now time : Nat} (h : w.Meets deadline now)
    (hlets : w.wait.lets now time = true) : w.Meets deadline time := by
  refine ⟨h.inside, ?_, h.deadline_eq, h.limit_le⟩
  have hnow := h.now_le
  have hinside := h.inside
  have hlimit := h.limit_le
  cases w with
  | entering message => cases hinside
  | polling job limit =>
    have hle := hlimit limit rfl
    have hdue : time ≤ limit := by simpa [Wait.lets, wait, Wait.limit?] using hlets
    omega
  | awaiting job limit =>
    have hle := hlimit limit rfl
    have hdue : time ≤ limit := by simpa [Wait.lets, wait, Wait.limit?] using hlets
    omega
  | _ =>
    -- the socket does not take any time
    have hle : time ≤ now := of_decide_eq_true (Bool.and_eq_true_iff.mp hlets).1
    omega

/-! ## Turns -/

/-- What a turn of a writer comes to by a deadline: the writer still meets it, and if it gives up,
this is the time, and there is no room in the send window. -/
structure Timely (deadline now : Nat) (r : Shared × Turn Writer Outcome) : Prop where
  /-- The deadline is met. -/
  meets : ∀ w, r.2.point? = some w → w.Meets deadline now
  /-- The writer gives up for good reason. -/
  expires : r.2 = .returns (.error .writeTimeout) → now = deadline ∧ r.1.stream.IsFull

section

variable {x : Shared} {me : Agent} {job : Job} {deadline now : Nat}

theorem timely_of_returns {y : Shared} {outcome : Outcome}
    (h : outcome ≠ .error .writeTimeout) : Timely deadline now (y, .returns outcome) where
  meets w hw := by cases hw
  expires hfails := by
    cases hfails
    exact absurd rfl h

theorem timely_of_point {r : Shared × Turn Writer Outcome} {w : Writer}
    (hpoint : r.2.point? = some w) (h : w.Meets deadline now) : Timely deadline now r where
  meets v hv := by
    cases hpoint.symm.trans hv
    exact h
  expires hfails := by
    rw [hfails] at hpoint
    cases hpoint

theorem ne_of_isTimeout {failure : Failure} (h : failure.isTimeout = false) :
    (Except.error failure : Outcome) ≠ .error .writeTimeout := by
  rintro heq
  cases heq
  cases h

/-- A failure that is no matter of time. -/
theorem fail_timely {begun : Bool} {failure : Failure} (h : failure.isTimeout = false) :
    Timely deadline now (fail x me begun failure) :=
  timely_of_returns (ne_of_isTimeout h)

/-- A writer that waits for as long as it may waits until the deadline at the latest. -/
theorem limit_le (hdeadline : job.deadline = deadline) (hnow : now ≤ deadline) (l : Nat)
    (hl : some (limit x now job) = some l) : l ≤ deadline := by
  cases hl
  unfold limit
  omega

theorem flushed_timely (hdeadline : job.deadline = deadline) (hnow : now ≤ deadline)
    {progress : Flush.Progress}
    (hprogress : ∀ failure, progress = .failed failure → failure.isTimeout = false) :
    Timely deadline now (flushed x me now job progress) := by
  cases progress with
  | done => exact timely_of_point rfl (meets_of_job rfl hdeadline hnow (limit_le hdeadline hnow))
  | going flush =>
    exact timely_of_point rfl (meets_of_job rfl hdeadline hnow fun _ hl => by cases hl)
  | failed failure => exact fail_timely (hprogress failure rfl)

theorem polled_timely (hdeadline : job.deadline = deadline) (hnow : now ≤ deadline) :
    Timely deadline now (polled x me now job) := by
  unfold polled
  split
  · exact fail_timely rfl
  · exact flushed_timely hdeadline hnow fun _ => Stream.isTimeout_of_begin

theorem leavePolling_timely (hdeadline : job.deadline = deadline) (hnow : now ≤ deadline) :
    Timely deadline now (leavePolling x me now job) :=
  polled_timely hdeadline hnow

theorem poll_timely (hdeadline : job.deadline = deadline) (hnow : now ≤ deadline) :
    Timely deadline now (poll x me now job) := by
  unfold poll
  simp only
  split
  · exact timely_of_point rfl (meets_of_job rfl hdeadline hnow (limit_le hdeadline hnow))
  · exact polled_timely hdeadline hnow

/-- **An attempt** that fails is the last one exactly at the deadline. -/
theorem attempt_timely (hdeadline : job.deadline = deadline) (hnow : now ≤ deadline) :
    Timely deadline now (attempt x me now job) := by
  unfold attempt
  split
  · split
    · exact timely_of_point rfl (meets_sending hnow)
    · rename_i heq
      exact fail_timely (Stream.isTimeout_of_segmentDatagram heq)
  · rename_i hnone
    have hfull := Stream.isFull_of_insert?_eq_none hnone
    split
    · refine ⟨fun w hw => (by cases hw), fun _ => ⟨by omega, ?_⟩⟩
      -- giving up changes neither the window nor the number
      unfold failWith fail
      split
      · exact hfull.congr rfl rfl
      · exact hfull.congr rfl rfl
    · exact poll_timely hdeadline hnow

theorem retry_timely (hdeadline : job.deadline = deadline) (hnow : now ≤ deadline) :
    Timely deadline now (retry x me now job) := by
  unfold retry
  split
  · exact fail_timely rfl
  · exact attempt_timely hdeadline hnow

/-- **A writer that begins with a segment** makes an attempt, with the time that the settings
tell. -/
theorem proceed_eq_attempt (begun : Bool) {bodies : List Bytes} (hbodies : bodies ≠ [])
    (hopen : x.stream.closed = false) :
    ∃ y job, proceed x me now begun bodies = attempt y me now job
      ∧ job.deadline = now + x.stream.settings.writeTimeout := by
  obtain ⟨piece, rest, rfl⟩ := List.exists_cons_of_ne_nil hbodies
  refine ⟨{ x with stream := (x.stream.prepare piece).2 },
    ⟨(x.stream.prepare piece).1, rest, begun, now + x.stream.settings.writeTimeout⟩, ?_, rfl⟩
  show (if x.stream.closed = true then _ else _) = _
  rw [if_neg (by rw [hopen]; decide)]
  rfl

/-- A writer that has nothing to begin with, or no open stream, returns. -/
theorem proceed_eq_returns {begun : Bool} {bodies : List Bytes}
    (h : bodies = [] ∨ x.stream.closed = true) :
    ∃ y outcome, proceed x me now begun bodies = (y, .returns outcome)
      ∧ outcome ≠ .error .writeTimeout := by
  cases bodies with
  | nil => exact ⟨_, _, rfl, by simp⟩
  | cons piece rest =>
    have hclosed := h.resolve_left (List.cons_ne_nil _ _)
    have hfails : proceed x me now begun (piece :: rest) = fail x me begun .streamClosed :=
      if_pos hclosed
    exact ⟨_, _, hfails, ne_of_isTimeout rfl⟩

theorem accept_timely {limit : Nat} (hdeadline : job.deadline = deadline) (hnow : now ≤ deadline)
    (hlimit : limit ≤ deadline) (arrival : Arrival) :
    Timely deadline now (accept x me now job limit arrival) := by
  unfold accept
  split
  · exact leavePolling_timely hdeadline hnow
  · split
    · exact leavePolling_timely hdeadline hnow
    · split
      · refine timely_of_point rfl (meets_of_job rfl hdeadline hnow fun l hl => ?_)
        cases hl
        exact hlimit
      · exact leavePolling_timely hdeadline hnow

end

/-! ## First attempts -/

/-- What a writer goes on with when it gets the signal: the message when it gets hold of the section,
and the rest of it when a segment was sent. -/
def ahead (x : Shared) : Writer → Signal → List Bytes
  | entering message, .granted => message.chunks x.stream.settings.maxSegment
  | sending rest _ _, .sent => rest
  | _, _ => []

/-- **A turn in which the writer begins with a segment** is an attempt. -/
theorem resume_eq_attempt {x : Shared} {point : Writer} {signal : Signal}
    (h : point.ahead x signal ≠ []) (hopen : x.stream.closed = false) (me : Agent) (now : Nat) :
    ∃ y job, resume x me now point signal = attempt y me now job
      ∧ job.deadline = now + x.stream.settings.writeTimeout := by
  cases point with
  | entering message =>
    cases signal with
    | granted => exact proceed_eq_attempt false h hopen
    | _ => exact absurd rfl h
  | sending rest datagram piggybacked =>
    cases signal with
    | sent =>
      exact proceed_eq_attempt
        (x := { x with stream := (x.stream.countSent datagram).commit piggybacked }) true h hopen
    | _ => exact absurd rfl h
  | _ => exact absurd rfl h

/-- Whether a write gets hold of the section at its call. -/
def Enters (x : Shared) (me : Agent) (message : Bytes) : Prop :=
  x.stream.closed = false ∧ message.length ≤ x.stream.settings.maxMessage ∧ message ≠ []
    ∧ (x.writing.enter me).owner = some me

instance (x : Shared) (me : Agent) (message : Bytes) : Decidable (Enters x me message) :=
  inferInstanceAs (Decidable (_ ∧ _))

/-- **A write that gets hold of the section at its call** begins with its first segment. -/
theorem begin_eq_attempt {x : Shared} {me : Agent} {message : Bytes} (h : Enters x me message)
    (now : Nat) :
    ∃ y job, begin x me now message = attempt y me now job
      ∧ job.deadline = now + x.stream.settings.writeTimeout := by
  obtain ⟨hopen, hlength, hmessage, howner⟩ := h
  rcases begin_cases x me now message with ⟨outcome, -, hrefused⟩ | ⟨-, -, -, heq⟩
  · exact absurd ⟨hopen, hlength, hmessage⟩ hrefused
  · rw [heq, if_pos howner]
    exact proceed_eq_attempt (x := { x with writing := x.writing.enter me }) false
      (Bytes.chunks_ne_nil x.stream.settings.maxSegment_pos hmessage) hopen

/-- Any other write returns at its call, or stands in line. -/
theorem begin_rests {x : Shared} {me : Agent} {message : Bytes} (h : ¬ Enters x me message)
    (now : Nat) :
    (∃ outcome, begin x me now message = (x, .returns outcome) ∧ outcome ≠ .error .writeTimeout)
      ∨ ∃ y, begin x me now message = (y, .waits (entering message)) := by
  unfold begin
  simp only
  split
  · exact Or.inl ⟨_, rfl, ne_of_isTimeout rfl⟩
  · rename_i hopen
    split
    · exact Or.inl ⟨_, rfl, ne_of_isTimeout rfl⟩
    · rename_i hlength
      split
      · exact Or.inl ⟨_, rfl, by simp⟩
      · rename_i hmessage
        rw [if_neg]
        · exact Or.inr ⟨_, rfl⟩
        · intro howner
          refine h ⟨Bool.eq_false_of_not_eq_true hopen, Nat.le_of_not_lt hlength, ?_, howner⟩
          exact fun hnil => hmessage (List.isEmpty_iff.mpr hnil)

/-- A writer that stands in line does not begin if there is nothing to be sent, or nowhere to. -/
theorem resume_entering_eq_returns {x : Shared} {message : Bytes}
    (h : (entering message).ahead x .granted = [] ∨ x.stream.closed = true) (me : Agent)
    (now : Nat) :
    ∃ y outcome, resume x me now (entering message) .granted = (y, .returns outcome)
      ∧ outcome ≠ .error .writeTimeout :=
  proceed_eq_returns h

/-- **Any other turn of a writer inside the section** goes by the same deadline as before. -/
theorem resume_timely {x : Shared} {me : Agent} {deadline now : Nat} {point : Writer}
    {signal : Signal} (h : point.Meets deadline now)
    (hahead : point.ahead x signal = [] ∨ x.stream.closed = true) :
    Timely deadline now (resume x me now point signal) := by
  have hstays : Timely deadline now ((x, .waits point) : Shared × Turn Writer Outcome) :=
    timely_of_point rfl h
  have hnow := h.now_le
  have hinside := h.inside
  have hdeadline := h.deadline_eq
  have hlimit := h.limit_le
  cases point with
  | entering message => cases hinside
  | polling job limit =>
    cases signal with
    | arrived arrival => exact accept_timely (hdeadline job rfl) hnow (hlimit limit rfl) arrival
    | closed => exact leavePolling_timely (hdeadline job rfl) hnow
    | due => exact leavePolling_timely (hdeadline job rfl) hnow
    | _ => exact hstays
  | replying job limit datagram =>
    cases signal with
    | sent => exact leavePolling_timely (hdeadline job rfl) hnow
    | unsent reason => exact leavePolling_timely (hdeadline job rfl) hnow
    | due => exact leavePolling_timely (hdeadline job rfl) hnow
    | _ => exact hstays
  | flushing job flush =>
    cases signal with
    | sent =>
      refine flushed_timely (x := { x with stream := (flush.sent x.stream).1 })
        (hdeadline job rfl) hnow fun failure hfailed => ?_
      split at hfailed <;> cases hfailed
    | unsent reason => exact fail_timely rfl
    | _ => exact hstays
  | awaiting job limit =>
    cases signal with
    | room => exact retry_timely (hdeadline job rfl) hnow
    | due => exact retry_timely (hdeadline job rfl) hnow
    | _ => exact hstays
  | sending rest datagram piggybacked =>
    cases signal with
    | sent =>
      have hreturns : ∃ y outcome, resume x me now (sending rest datagram piggybacked) .sent
          = (y, .returns outcome) ∧ outcome ≠ .error .writeTimeout :=
        proceed_eq_returns
          (x := { x with stream := (x.stream.countSent datagram).commit piggybacked }) hahead
      obtain ⟨y, outcome, heq, hne⟩ := hreturns
      rw [heq]
      exact timely_of_returns hne
    | unsent reason => exact fail_timely rfl
    | _ => exact hstays

end Writer

end Redelivery
