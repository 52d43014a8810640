import Redelivery.Proofs.Session.Reading

/-!
# What an agent holds where it waits

Each point at which an agent waits comes with sections that the agent owns there: a reader in the
middle of a read owns the section for reading, a writer in the middle of a write owns the section
for writing and, while it receives, the other one as well. A closer owns nothing, but where there is
one, the stream is closed. An agent has all of this after each of its turns, whatever datagrams have
arrived, and no other agent can take it away.

## Main definitions

* `Reader.Holds`, `Writer.Holds`, `Flusher.Holds`, `Closer.Holds`: what goes with a point.
* `Shared.Respects`: what the turn of one agent leaves to the others.
* `Settles`: a turn respects the others and ends at a point with all that goes with it.

## Main statements

* `Reader.begin_settles`, `Reader.resume_settles`, `Writer.begin_settles`, `Writer.resume_settles`,
  `Flusher.resume_settles`, `Closer.begin_settles`, `Closer.resume_settles`: all turns settle.

`Settles` has two halves, and they are used in different ways. That the others are respected is
transitive, so a turn that goes through several functions respects them if each function does
(`Settles.of_respects`); that the agent has what it needs is a matter of the last function alone.
Each function of an agent has one lemma here, named after it, and each is by cases on what the
function returns.

A closer is the reason why `Shared.Respects` mentions the end of the stream. What goes with a closer
is that the stream is closed, and no other agent can open it again.
-/

namespace Redelivery

/-- In its turn, the agent `me` does not open the stream again and drives nobody out of a
section. -/
structure Shared.Respects (me : Agent) (x x' : Shared) : Prop where
  /-- The end of the stream is final. -/
  closed : x.stream.closed = true → x'.stream.closed = true
  /-- Whoever else owns the section for writing keeps it. -/
  writing : ∀ agent, agent ≠ me → x.writing.owner = some agent → x'.writing.owner = some agent
  /-- Whoever else owns the section for reading keeps it. -/
  reading : ∀ agent, agent ≠ me → x.reading.owner = some agent → x'.reading.owner = some agent

namespace Shared.Respects

variable {me : Agent} {x x' : Shared}

theorem refl (me : Agent) (x : Shared) : x.Respects me x :=
  ⟨id, fun _ _ => id, fun _ _ => id⟩

theorem trans {y : Shared} (h : x.Respects me x') (h' : x'.Respects me y) : x.Respects me y where
  closed hclosed := h'.closed (h.closed hclosed)
  writing agent hne howner := h'.writing agent hne (h.writing agent hne howner)
  reading agent hne howner := h'.reading agent hne (h.reading agent hne howner)

theorem of_closed {s : Stream} (h : x.stream.closed = true → s.closed = true) :
    x.Respects me { x with stream := s } :=
  ⟨h, fun _ _ => id, fun _ _ => id⟩

theorem of_alike {s : Stream} (h : x.stream.Alike s) : x.Respects me { x with stream := s } :=
  of_closed h.closed

/-- As long as the stream is open, anything may be done to it. -/
theorem of_open (h : x.stream.closed = false) (s : Stream) :
    x.Respects me { x with stream := s } :=
  of_closed fun hclosed => absurd (h.symm.trans hclosed) (by decide)

theorem leaveWriting (me : Agent) (x : Shared) : x.Respects me (x.leaveWriting me) :=
  ⟨id, fun _ hne howner => Section.owner_leave_of_ne howner hne, fun _ _ => id⟩

theorem leaveReading (me : Agent) (x : Shared) : x.Respects me (x.leaveReading me) :=
  ⟨id, fun _ _ => id, fun _ hne howner => Section.owner_leave_of_ne howner hne⟩

theorem enterWriting (me : Agent) (x : Shared) :
    x.Respects me { x with writing := x.writing.enter me } :=
  ⟨id, fun _ _ howner => Section.owner_enter_of_owner howner me, fun _ _ => id⟩

theorem enterReading (me : Agent) (x : Shared) :
    x.Respects me { x with reading := x.reading.enter me } :=
  ⟨id, fun _ _ => id, fun _ _ howner => Section.owner_enter_of_owner howner me⟩

end Shared.Respects

/-- A turn of the agent `me` that starts with `x` respects the others, and where the agent waits
afterwards, it has what goes with that point. -/
structure Settles {π ρ : Type} (me : Agent) (holds : Shared → π → Prop) (x : Shared)
    (r : Shared × Turn π ρ) : Prop where
  /-- The others are respected. -/
  respects : x.Respects me r.1
  /-- The agent has what it needs. -/
  holds : ∀ p, r.2.point? = some p → holds r.1 p

namespace Settles

variable {π π' ρ ρ' : Type} {me : Agent} {holds : Shared → π → Prop} {x x' : Shared}
  {r : Shared × Turn π ρ}

theorem of_respects (h : x.Respects me x') (hr : Settles me holds x' r) : Settles me holds x r :=
  ⟨h.trans hr.respects, hr.holds⟩

theorem returns (h : x.Respects me x') (result : ρ) :
    Settles me holds x ((x', .returns result) : Shared × Turn π ρ) :=
  ⟨h, fun _ hp => by cases hp⟩

theorem waits (h : x.Respects me x') {p : π} (hp : holds x' p) :
    Settles me holds x ((x', .waits p) : Shared × Turn π ρ) :=
  ⟨h, fun _ heq => by cases heq; exact hp⟩

theorem hands (h : x.Respects me x') {p : π} (hp : holds x' p) (datagram : Bytes) :
    Settles me holds x ((x', .hands p datagram) : Shared × Turn π ρ) :=
  ⟨h, fun _ heq => by cases heq; exact hp⟩

/-- The points may be seen as something else. -/
theorem map (h : Settles me holds x r) (f : π → π') (g : ρ → ρ') {holds' : Shared → π' → Prop}
    (hholds : ∀ y p, holds y p → holds' y (f p)) :
    Settles me holds' x (r.1, r.2.map f g) where
  respects := h.respects
  holds p hp := by
    obtain ⟨q, hq, rfl⟩ := Turn.point?_map_eq_some_iff.mp hp
    exact hholds r.1 q (h.holds q hq)

end Settles

/-! ## Readers -/

namespace Reader

/-- What a reader has at a point. -/
def Holds (me : Agent) (x : Shared) : Reader → Prop
  | entering => True
  | acking _ _ => x.reading.owner = some me
  | receiving => x.reading.owner = some me
  | replying _ => x.reading.owner = some me

variable {me : Agent} {x x' : Shared} {buffer : Bytes}

theorem Holds.owner {p : Reader} (h : p.Holds me x) (hin : p.isInside = true) :
    x.reading.owner = some me := by
  cases p with
  | entering => cases hin
  | _ => exact h

/-- Nobody else can take away what a reader has. -/
theorem Holds.respects {p : Reader} (h : p.Holds me x) {other : Agent}
    (hx : x.Respects other x') (hne : me ≠ other) : p.Holds me x' := by
  cases p with
  | entering => trivial
  | _ => exact hx.reading me hne h

theorem finish_settles (x : Shared) (me : Agent) (outcome : Outcome) :
    Settles me (Holds me) x (finish x me outcome) :=
  .returns (.leaveReading me x) outcome

theorem acknowledge_settles (howner : x.reading.owner = some me) (again : Bool) :
    Settles me (Holds me) x (acknowledge x again) := by
  have halike := x.stream.alike_acknowledge
  unfold acknowledge
  split
  · rename_i datagram s heq
    rw [heq] at halike
    exact .hands (.of_alike halike) howner datagram
  · rename_i failure s heq
    rw [heq] at halike
    refine .waits (.of_alike halike) ?_
    cases again with
    | true => trivial
    | false => exact howner

theorem proceed_settles (howner : x.reading.owner = some me) (buffer : Bytes) :
    Settles me (Holds me) x (proceed x me buffer) := by
  unfold proceed
  split
  · exact finish_settles x me _
  · -- the stream is open here, so whatever is taken out of it opens nothing again
    rename_i hopen
    have hopen := Bool.eq_false_of_not_eq_true hopen
    split
    · exact (finish_settles _ me _).of_respects (.of_open hopen _)
    · exact (finish_settles _ me _).of_respects (.of_open hopen _)
    · rename_i s heq
      exact (acknowledge_settles (x := { x with stream := s }) howner true).of_respects
        (.of_open hopen s)
    · rename_i s heq
      simp only
      split
      · exact (acknowledge_settles (x := { x with stream := s }) howner false).of_respects
          (.of_open hopen s)
      · exact .waits (.of_open hopen s) howner

/-- What arrives does not close a stream, so a reader that takes it in settles. -/
theorem accept_settles (howner : x.reading.owner = some me) (buffer : Bytes) (now : Nat)
    (arrival : Arrival) : Settles me (Holds me) x (accept x me buffer now arrival) := by
  cases arrival with
  | fault reason => exact finish_settles x me _
  | datagram raw =>
    have hflags := (x.stream.flags_receive now raw).1
    unfold accept
    simp only
    split
    · rename_i s heq
      rw [heq] at hflags
      exact (proceed_settles (x := { x with stream := s }) howner buffer).of_respects
        (.of_closed hflags.trans)
    · rename_i s header heq
      rw [heq] at hflags
      have hreceived : x.Respects me { x with stream := s } := .of_closed hflags.trans
      have halike := s.alike_control header
      split
      · rename_i datagram s' heq'
        rw [heq'] at halike
        exact .hands (hreceived.trans (.of_alike halike)) howner datagram
      · rename_i failure s' heq'
        rw [heq'] at halike
        exact (proceed_settles (x := { x with stream := s' }) howner buffer).of_respects
          (hreceived.trans (.of_alike halike))

/-- **The start of a read** settles. -/
theorem begin_settles (x : Shared) (me : Agent) (buffer : Bytes) :
    Settles me (Holds me) x (begin x me buffer) := by
  unfold begin
  split
  · exact .returns (.refl me x) _
  · simp only
    split
    · rename_i howner
      exact (proceed_settles howner buffer).of_respects (.enterReading me x)
    · exact .waits (.enterReading me x) trivial

/-- **A turn of a reader** settles. -/
theorem resume_settles {point : Reader} (h : point.Holds me x) (buffer : Bytes) (now : Nat)
    {signal : Signal} (hgranted : signal = .granted → point = entering →
      x.reading.owner = some me) :
    Settles me (Holds me) x (resume x me buffer now point signal) := by
  have hstay : Settles me (Holds me) x (x, (.waits point : Turn Reader Outcome)) :=
    .waits (.refl me x) h
  have hcounted (datagram : Bytes) :
      x.Respects me { x with stream := x.stream.countSent datagram } :=
    .of_alike (x.stream.alike_countSent datagram)
  unfold resume
  split
  · -- it has got hold of the section
    exact proceed_settles (hgranted rfl rfl) buffer
  · -- the acknowledgement was sent
    rename_i datagram again
    simp only
    split
    · exact (proceed_settles (x := { x with stream := x.stream.countSent datagram }) h
        buffer).of_respects (hcounted datagram)
    · exact .waits (hcounted datagram) h
  · -- it was not sent
    split
    · exact proceed_settles h buffer
    · exact .waits (.refl me x) h
  · -- something has arrived
    exact accept_settles h buffer now _
  · -- the stream was closed
    exact finish_settles x me _
  · -- the answer to a request was sent, or not
    rename_i datagram
    exact (proceed_settles (x := { x with stream := x.stream.countSent datagram }) h
      buffer).of_respects (hcounted datagram)
  · exact proceed_settles h buffer
  · -- no other signal ends the wait
    exact hstay

end Reader

/-! ## Writers -/

namespace Writer

/-- What a writer has at a point. No writer stands in line without a message. -/
def Holds (me : Agent) (x : Shared) : Writer → Prop
  | entering message => message ≠ []
  | polling _ _ => x.writing.owner = some me ∧ x.reading.owner = some me
  | replying _ _ _ => x.writing.owner = some me ∧ x.reading.owner = some me
  | flushing _ _ => x.writing.owner = some me
  | awaiting _ _ => x.writing.owner = some me
  | sending _ _ _ => x.writing.owner = some me

variable {me : Agent} {x x' : Shared} {now : Nat} {job : Job}

theorem Holds.owner {w : Writer} (h : w.Holds me x) (hin : w.isInside = true) :
    x.writing.owner = some me := by
  cases w with
  | entering message => cases hin
  | polling job limit => exact h.1
  | replying job limit datagram => exact h.1
  | _ => exact h

/-- Nobody else can take away what a writer has. -/
theorem Holds.respects {w : Writer} (h : w.Holds me x) {other : Agent}
    (hx : x.Respects other x') (hne : me ≠ other) : w.Holds me x' := by
  cases w with
  | entering message => exact h
  | polling job limit => exact ⟨hx.writing me hne h.1, hx.reading me hne h.2⟩
  | replying job limit datagram => exact ⟨hx.writing me hne h.1, hx.reading me hne h.2⟩
  | _ => exact hx.writing me hne h

theorem fail_settles (x : Shared) (me : Agent) (begun : Bool) (failure : Failure) :
    Settles me (Holds me) x (fail x me begun failure) := by
  cases begun with
  | true =>
    exact .returns ((Shared.Respects.of_alike x.stream.alike_shut).trans (.leaveWriting me _)) _
  | false => exact .returns (.leaveWriting me x) _

theorem failWith_settles (x : Shared) (me : Agent) (job : Job) (failure : Failure) :
    Settles me (Holds me) x (failWith x me job failure) :=
  (fail_settles _ me job.begun failure).of_respects (.of_alike (x.stream.alike_giveBack job.body))

theorem flushed_settles (howner : x.writing.owner = some me) (now : Nat) (job : Job)
    (progress : Flush.Progress) : Settles me (Holds me) x (flushed x me now job progress) := by
  cases progress with
  | done => exact .waits (.refl me x) howner
  | going flush => exact .hands (.refl me x) howner flush.current
  | failed failure => exact failWith_settles x me job failure

theorem polled_settles (howner : x.writing.owner = some me) (now : Nat) (job : Job) :
    Settles me (Holds me) x (polled x me now job) := by
  unfold polled
  split
  · exact failWith_settles x me job _
  · exact (flushed_settles (x := { x with stream := (Flush.begin x.stream now).1 }) howner now job
      _).of_respects (.of_alike (Flush.begin_alike x.stream now))

theorem leavePolling_settles (howner : x.writing.owner = some me) (now : Nat) (job : Job) :
    Settles me (Holds me) x (leavePolling x me now job) :=
  (polled_settles (x := x.leaveReading me) howner now job).of_respects (.leaveReading me x)

theorem poll_settles (howner : x.writing.owner = some me) (now : Nat) (job : Job) :
    Settles me (Holds me) x (poll x me now job) := by
  have hforgets : x.Respects me { x with stream := { x.stream with roomFreed := false } } :=
    .of_closed id
  unfold poll
  simp only
  split
  · rename_i reading henter
    obtain ⟨hfree, rfl⟩ := Section.tryEnter?_eq_some_iff.mp henter
    refine .waits (hforgets.trans (.enterReading me _)) ⟨howner, ?_⟩
    exact Section.owner_enter_of_isFree hfree me
  · exact (polled_settles (x := { x with stream := { x.stream with roomFreed := false } }) howner
      now job).of_respects hforgets

theorem attempt_settles (howner : x.writing.owner = some me) (hopen : x.stream.closed = false)
    (now : Nat) (job : Job) : Settles me (Holds me) x (attempt x me now job) := by
  unfold attempt
  split
  · split
    · exact .hands (.of_open hopen _) howner _
    · exact (fail_settles _ me job.begun _).of_respects (.of_open hopen _)
  · split
    · exact failWith_settles x me job _
    · exact poll_settles howner now job

theorem retry_settles (howner : x.writing.owner = some me) (now : Nat) (job : Job) :
    Settles me (Holds me) x (retry x me now job) := by
  unfold retry
  split
  · exact failWith_settles x me job _
  · rename_i hopen
    exact attempt_settles howner (Bool.eq_false_of_not_eq_true hopen) now job

theorem proceed_settles (howner : x.writing.owner = some me) (now : Nat) (begun : Bool)
    (pieces : List Bytes) : Settles me (Holds me) x (proceed x me now begun pieces) := by
  cases pieces with
  | nil => exact .returns (.leaveWriting me x) _
  | cons piece rest =>
    unfold proceed
    simp only
    split
    · exact fail_settles x me begun _
    · rename_i hopen
      have hopen := Bool.eq_false_of_not_eq_true hopen
      exact (attempt_settles (x := { x with stream := (x.stream.prepare piece).2 }) howner hopen now
        _).of_respects (.of_open hopen _)

/-- What arrives does not close a stream, so a writer that takes it in settles. -/
theorem accept_settles (howner : x.writing.owner = some me) (hreading : x.reading.owner = some me)
    (now : Nat) (job : Job) (limit : Nat) (arrival : Arrival) :
    Settles me (Holds me) x (accept x me now job limit arrival) := by
  cases arrival with
  | fault reason => exact leavePolling_settles howner now job
  | datagram raw =>
    have hflags := (x.stream.flags_receive now raw).1
    unfold accept
    simp only
    split
    · rename_i s heq
      rw [heq] at hflags
      exact (leavePolling_settles (x := { x with stream := s }) howner now job).of_respects
        (.of_closed hflags.trans)
    · rename_i s header heq
      rw [heq] at hflags
      have hreceived : x.Respects me { x with stream := s } := .of_closed hflags.trans
      have halike := s.alike_control header
      split
      · rename_i datagram s' heq'
        rw [heq'] at halike
        exact .hands (hreceived.trans (.of_alike halike)) ⟨howner, hreading⟩ datagram
      · rename_i failure s' heq'
        rw [heq'] at halike
        exact (leavePolling_settles (x := { x with stream := s' }) howner now job).of_respects
          (hreceived.trans (.of_alike halike))

/-- **The start of a write** settles. -/
theorem begin_settles (x : Shared) (me : Agent) (now : Nat) (message : Bytes) :
    Settles me (Holds me) x (begin x me now message) := by
  rcases begin_cases x me now message with ⟨outcome, heq, -⟩ | ⟨-, -, hmessage, heq⟩
  · rw [heq]
    exact .returns (.refl me x) outcome
  · rw [heq]
    split
    · rename_i howner
      exact (proceed_settles howner now false _).of_respects (.enterWriting me x)
    · exact .waits (.enterWriting me x) hmessage

/-- **A turn of a writer** settles. -/
theorem resume_settles {point : Writer} (h : point.Holds me x) (now : Nat) {signal : Signal}
    (hgranted : ∀ message, signal = .granted → point = entering message →
      x.writing.owner = some me) :
    Settles me (Holds me) x (resume x me now point signal) := by
  have hstay : Settles me (Holds me) x (x, (.waits point : Turn Writer Outcome)) :=
    .waits (.refl me x) h
  unfold resume
  split
  · rename_i message
    -- the section was granted, and the write starts
    exact proceed_settles (hgranted message rfl rfl) now false _
  · -- something has arrived, or nothing will: the stream was closed, or it is time to flush
    exact accept_settles h.1 h.2 now _ _ _
  · exact leavePolling_settles h.1 now _
  · exact leavePolling_settles h.1 now _
  · -- a request was answered, or could not be, or that takes too long
    rename_i job limit datagram
    exact (leavePolling_settles (x := { x with stream := x.stream.countSent datagram }) h.1 now
      job).of_respects (.of_alike (x.stream.alike_countSent datagram))
  · exact leavePolling_settles h.1 now _
  · exact leavePolling_settles h.1 now _
  · -- a datagram of the flush was sent
    rename_i job flush
    exact (flushed_settles (x := { x with stream := (flush.sent x.stream).1 }) h now job
      _).of_respects (.of_alike (flush.sent_alike x.stream))
  · -- it was not sent, and that closes the stream
    rename_i job flush reason
    exact (flushed_settles (x := { x with stream := (flush.unsent x.stream reason).1 }) h now job
      _).of_respects (.of_alike (flush.unsent_alike x.stream reason))
  · -- there may be room, or the time is over
    exact retry_settles h now _
  · exact retry_settles h now _
  · -- the new segment was sent
    rename_i rest datagram piggybacked
    have hcommitted : x.Respects me
        { x with stream := (x.stream.countSent datagram).commit piggybacked } := .of_closed id
    exact (proceed_settles
      (x := { x with stream := (x.stream.countSent datagram).commit piggybacked }) h now true
      rest).of_respects hcommitted
  · -- it was not sent, and is given up
    exact (fail_settles _ me false _).of_respects (.of_closed fun _ => x.stream.closed_abandon)
  · exact hstay

end Writer

/-! ## The flusher -/

namespace Flusher

/-- What the flusher has at a point. -/
def Holds (x : Shared) : Flusher → Prop
  | waiting _ => True
  | flushing _ _ => x.writing.owner = some .flusher

variable {x x' : Shared}

theorem Holds.owner {p : Flusher} (h : p.Holds x) (hin : p.isFlushing = true) :
    x.writing.owner = some .flusher := by
  cases p with
  | waiting tick => cases hin
  | flushing tick flush => exact h

/-- Nobody else can take away what the flusher has. -/
theorem Holds.respects {p : Flusher} (h : p.Holds x) {other : Agent} (hx : x.Respects other x')
    (hne : .flusher ≠ other) : p.Holds x' := by
  cases p with
  | waiting tick => trivial
  | flushing tick flush => exact hx.writing .flusher hne h

theorem flushed_settles (howner : x.writing.owner = some .flusher) (tick : Nat)
    (progress : Flush.Progress) : Settles .flusher Holds x (flushed x tick progress) := by
  cases progress with
  | done => exact .waits (.leaveWriting .flusher x) trivial
  | going flush => exact .hands (.refl .flusher x) howner flush.current
  | failed failure => exact .returns (.leaveWriting .flusher x) ()

theorem tick_settles (x : Shared) (now next : Nat) :
    Settles .flusher Holds x (tick x now next) := by
  have hforgets : x.Respects .flusher
      { x with stream := { x.stream with sentSinceTick := false } } := .of_closed id
  unfold tick
  split
  · exact .waits hforgets trivial
  · split
    · exact .waits (.refl .flusher x) trivial
    · rename_i writing henter
      obtain ⟨hfree, rfl⟩ := Section.tryEnter?_eq_some_iff.mp henter
      -- the flusher does not stand in line: it has the section, or there is no flush
      have howner := Section.owner_enter_of_isFree hfree .flusher
      simp only
      split
      · exact .returns ((Shared.Respects.enterWriting .flusher x).trans
          (.leaveWriting .flusher _)) ()
      · have hbegun : x.Respects .flusher { x with
            writing := x.writing.enter .flusher
            stream := (Flush.begin x.stream now).1 } :=
          (Shared.Respects.enterWriting .flusher x).trans
            (.of_alike (Flush.begin_alike x.stream now))
        exact (flushed_settles howner next _).of_respects hbegun

/-- **A turn of the flusher** settles. -/
theorem resume_settles {point : Flusher} (h : point.Holds x) (now : Nat) (signal : Signal) :
    Settles .flusher Holds x (resume x now point signal) := by
  unfold resume
  split
  · exact tick_settles x now _
  · exact .returns (.refl .flusher x) ()
  · rename_i next flush
    exact (flushed_settles (x := { x with stream := (flush.sent x.stream).1 }) h next
      _).of_respects (.of_alike (flush.sent_alike x.stream))
  · rename_i next flush reason
    exact (flushed_settles (x := { x with stream := (flush.unsent x.stream reason).1 }) h next
      _).of_respects (.of_alike (flush.unsent_alike x.stream reason))
  · exact .waits (.refl .flusher x) h

end Flusher

/-! ## Closers -/

namespace Closer

/-- Where there is a closer, the stream is closed. -/
def Holds (x : Shared) (_ : Closer) : Prop :=
  x.stream.closed = true

variable {x : Shared}

theorem passReading_settles (hclosed : x.stream.closed = true) (me : Agent) :
    Settles me Holds x (passReading x me) := by
  unfold passReading
  split
  · exact .returns (.refl me x) ()
  · exact .waits (.enterReading me x) hclosed

theorem passWriting_settles (hclosed : x.stream.closed = true) (me : Agent) :
    Settles me Holds x (passWriting x me) := by
  unfold passWriting
  split
  · exact passReading_settles hclosed me
  · exact .waits (.enterWriting me x) hclosed

/-- **The start of a close** settles. -/
theorem begin_settles (x : Shared) (me : Agent) (joins : Bool) :
    Settles me Holds x (begin x me joins) := by
  have hshut : x.Respects me { x with stream := x.stream.shut } := .of_alike x.stream.alike_shut
  unfold begin
  simp only
  split
  · exact .waits hshut rfl
  · exact (passWriting_settles (x := { x with stream := x.stream.shut }) rfl me).of_respects hshut

/-- **A turn of a closer** settles. -/
theorem resume_settles {point : Closer} (h : point.Holds x) (me : Agent) (signal : Signal) :
    Settles me Holds x (resume x me point signal) := by
  unfold resume
  split
  · exact passWriting_settles h me
  · exact (passReading_settles (x := x.leaveWriting me) h me).of_respects (.leaveWriting me x)
  · exact .returns (.leaveReading me x) ()
  · exact .waits (.refl me x) h

end Closer

end Redelivery
