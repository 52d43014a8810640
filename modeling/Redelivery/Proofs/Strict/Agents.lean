import Redelivery.Proofs.Session.Reading
import Redelivery.Proofs.Strict.Stream

/-!
# Agents without safety nets

The turns of all agents once more, made of strict operations on the stream. Where a plain turn goes
on after a datagram could not be composed, a strict turn has no result.

A turn that starts with a sound stream *succeeds*: the strict turn has a result, that of the plain
one, the stream is sound again, and the datagram that is handed to the socket is proper.

## Main definitions

* `Succeeds`: a strict turn does what the plain one does, and does it well.
* `Flush.Strict.begin`, `Reader.Strict.resume`, `Writer.Strict.resume`, `Flusher.Strict.resume`:
  strict turns.
* `Writer.Fits`, `Flusher.Fits`: what agents have with them is not too long.

## Main statements

* `Reader.begin_succeeds`, `Reader.resume_succeeds`, `Writer.begin_succeeds`,
  `Writer.resume_succeeds`, `Flusher.resume_succeeds`: turns succeed.

The strict turns repeat the plain ones line by line, and the lemmas go through them in the same
order, each function calling on the one before: `proceed_succeeds` on `acknowledge_succeeds`,
`accept_succeeds` on `proceed_succeeds`, and the turns on all of these. At each place where the
plain turn would go on after an error of the stream, the lemma takes from `Stream.Sound` that there
is none, and only then compares the two. `Succeeds.waits`, `Succeeds.hands` and `Succeeds.returns`
close the cases.

What agents have with them is looked at again later, when the stream has changed in between. So
`Fits` must not depend on the stream, and it does not: it bounds the pieces of a writer by the
settings, and asks of the datagrams of a flush to be proper. Readers have nothing of that kind with
them.
-/

namespace Redelivery

/-- The strict turn has the result of the plain turn, which leaves a sound stream. The agent waits
at a point that fits, and the datagram that it hands to the socket is proper. -/
structure Succeeds {π ρ : Type} (settings : ValidSettings) (fits : π → Prop)
    (strict : Option (Shared × Turn π ρ)) (plain : Shared × Turn π ρ) : Prop where
  /-- The results are the same. -/
  eq : strict = some plain
  /-- The stream is sound. -/
  sound : plain.1.stream.Sound settings
  /-- The point fits. -/
  fits : ∀ p, plain.2.point? = some p → fits p
  /-- The datagram is proper. -/
  proper : ∀ d, plain.2.handed? = some d → d.Proper settings

namespace Succeeds

variable {π ρ : Type} {settings : ValidSettings} {fits : π → Prop} {x : Shared}

theorem returns (h : x.stream.Sound settings) (result : ρ) :
    Succeeds settings fits (some (x, .returns result)) (x, .returns result) :=
  ⟨rfl, h, fun _ hp => (by cases hp), fun _ hd => (by cases hd)⟩

theorem waits (h : x.stream.Sound settings) {p : π} (hp : fits p) :
    Succeeds settings fits (some ((x, .waits p) : Shared × Turn π ρ)) (x, .waits p) :=
  ⟨rfl, h, fun _ heq => (by cases heq; exact hp), fun _ hd => (by cases hd)⟩

theorem hands (h : x.stream.Sound settings) {p : π} (hp : fits p) {d : Bytes}
    (hd : d.Proper settings) :
    Succeeds settings fits (some ((x, .hands p d) : Shared × Turn π ρ)) (x, .hands p d) :=
  ⟨rfl, h, fun _ heq => (by cases heq; exact hp), fun _ heq => (by cases heq; exact hd)⟩

end Succeeds

variable {settings : ValidSettings} {x : Shared} {me : Agent}

/-! ## Readers -/

namespace Reader

namespace Strict

/-- Sends an acknowledgement. -/
def acknowledge (x : Shared) (again : Bool) : Option (Shared × Turn Reader Outcome) := do
  let (datagram, stream) ← Stream.Strict.acknowledge x.stream
  some ({ x with stream := stream }, .hands (acking datagram again) datagram)

/-- The owner of the section gets on with the message, as far as it can without waiting. -/
def proceed (x : Shared) (me : Agent) (buffer : Bytes) : Option (Shared × Turn Reader Outcome) :=
  if x.stream.closed then
    some (finish x me (.error .streamClosed))
  else do
    match ← Stream.Strict.deliver x.stream buffer with
    | (stream, .message length buffer) =>
      some (finish { x with stream := stream } me (.ok (length, buffer)))
    | (stream, .failed failure) => some (finish { x with stream := stream } me (.error failure))
    | (stream, .advanced) => acknowledge { x with stream := stream } true
    | (stream, .starved) =>
      let x := { x with stream := stream }
      if stream.ackDue then acknowledge x false else some (x, .waits receiving)

/-- A reader takes in what the socket delivered. -/
def accept (x : Shared) (me : Agent) (buffer : Bytes) (now : Nat) :
    Arrival → Option (Shared × Turn Reader Outcome)
  | .fault reason => some (finish x me (.error (.socket reason)))
  | .datagram raw => do
    match ← Stream.Strict.receive x.stream now raw with
    | (stream, none) => proceed { x with stream := stream } me buffer
    | (stream, some header) =>
      let (datagram, stream) ← Stream.Strict.control stream header
      some ({ x with stream := stream }, .hands (replying datagram) datagram)

/-- The first turn of a read. -/
def begin (x : Shared) (me : Agent) (buffer : Bytes) : Option (Shared × Turn Reader Outcome) :=
  if x.stream.closed then
    some (x, .returns (.error .streamClosed))
  else
    let x := { x with reading := x.reading.enter me }
    if x.reading.owner = some me then proceed x me buffer else some (x, .waits entering)

/-- The turn that a signal gives to a reader. -/
def resume (x : Shared) (me : Agent) (buffer : Bytes) (now : Nat) (point : Reader)
    (signal : Signal) : Option (Shared × Turn Reader Outcome) :=
  match point, signal with
  | entering, .granted => proceed x me buffer
  | acking datagram again, .sent =>
    let x := { x with stream := x.stream.countSent datagram }
    if again then proceed x me buffer else some (x, .waits receiving)
  | acking _ again, .unsent _ =>
    if again then proceed x me buffer else some (x, .waits receiving)
  | receiving, .arrived arrival => accept x me buffer now arrival
  | receiving, .closed => some (finish x me (.error .streamClosed))
  | replying datagram, .sent =>
    proceed { x with stream := x.stream.countSent datagram } me buffer
  | replying _, .unsent _ => proceed x me buffer
  | point, _ => some (x, .waits point)

end Strict

/-- Readers have nothing with them that could be too long. -/
def Fits (_ : Reader) : Prop :=
  True

theorem fits (point : Reader) : point.Fits :=
  trivial

theorem finish_succeeds (h : x.stream.Sound settings) (me : Agent) (outcome : Outcome) :
    Succeeds settings Fits (some (finish x me outcome)) (finish x me outcome) :=
  .returns (x := x.leaveReading me) h outcome

theorem acknowledge_succeeds (h : x.stream.Sound settings) (again : Bool) :
    Succeeds settings Fits (Strict.acknowledge x again) (acknowledge x again) := by
  have hproper : x.stream.receiveWindow.ackDatagram.Proper settings :=
    h.settings_eq ▸ x.stream.proper_datagram_nil _
  rw [acknowledge_eq_hands]
  unfold Strict.acknowledge
  rw [Stream.Strict.acknowledge_eq]
  exact .hands (x := { x with stream := x.stream.acknowledge.2 }) (h.congr rfl rfl rfl h.size_le)
    (fits _) hproper

theorem proceed_succeeds (h : x.stream.Sound settings) (me : Agent) (buffer : Bytes) :
    Succeeds settings Fits (Strict.proceed x me buffer) (proceed x me buffer) := by
  -- A sound stream delivers without an error, so both turns branch on the same delivery.
  obtain ⟨hstrict, hsound⟩ := h.deliver buffer
  unfold Strict.proceed proceed
  by_cases hclosed : x.stream.closed = true
  · simp only [if_pos hclosed]
    exact finish_succeeds h me _
  simp only [if_neg hclosed, hstrict, Option.bind_eq_bind, Option.bind_some]
  generalize x.stream.deliver buffer = r at hsound ⊢
  obtain ⟨s, delivery⟩ := r
  cases delivery with
  | message length filled => exact finish_succeeds (x := { x with stream := s }) hsound me _
  | failed failure => exact finish_succeeds (x := { x with stream := s }) hsound me _
  | advanced => exact acknowledge_succeeds (x := { x with stream := s }) hsound true
  | starved =>
    simp only
    by_cases hdue : s.ackDue = true
    · simp only [if_pos hdue]
      exact acknowledge_succeeds (x := { x with stream := s }) hsound false
    · simp only [if_neg hdue]
      exact .waits (x := { x with stream := s }) hsound (fits _)

theorem accept_succeeds (h : x.stream.Sound settings) (me : Agent) (buffer : Bytes) (now : Nat)
    (arrival : Arrival) :
    Succeeds settings Fits (Strict.accept x me buffer now arrival)
      (accept x me buffer now arrival) := by
  cases arrival with
  | fault reason => exact finish_succeeds h me _
  | datagram raw =>
    obtain ⟨hstrict, hsound⟩ := h.receive now raw
    unfold Strict.accept accept
    simp only [hstrict, Option.bind_eq_bind, Option.bind_some]
    generalize x.stream.receive now raw = r at hsound ⊢
    obtain ⟨s, reply⟩ := r
    cases reply with
    | none => exact proceed_succeeds (x := { x with stream := s }) hsound me buffer
    | some header =>
      -- the answer is a header and nothing else, which fits into every datagram
      obtain ⟨s', hok, hstrict', hsound', hproper⟩ := hsound.exists_control header
      simp only [hok, hstrict', Option.bind_some]
      exact .hands (x := { x with stream := s' }) hsound' (fits _) hproper

/-- **The start of a read** succeeds. -/
theorem begin_succeeds (h : x.stream.Sound settings) (me : Agent) (buffer : Bytes) :
    Succeeds settings Fits (Strict.begin x me buffer) (begin x me buffer) := by
  unfold Strict.begin begin
  by_cases hclosed : x.stream.closed = true
  · simp only [if_pos hclosed]
    exact .returns h _
  simp only [if_neg hclosed]
  by_cases howner : (x.reading.enter me).owner = some me
  · simp only [if_pos howner]
    exact proceed_succeeds (x := { x with reading := x.reading.enter me }) h me buffer
  · simp only [if_neg howner]
    exact .waits (x := { x with reading := x.reading.enter me }) h (fits _)

/-- **A turn of a reader** succeeds. -/
theorem resume_succeeds (h : x.stream.Sound settings) (me : Agent) (buffer : Bytes) (now : Nat)
    (point : Reader) (signal : Signal) :
    Succeeds settings Fits (Strict.resume x me buffer now point signal)
      (resume x me buffer now point signal) := by
  cases point with
  | entering =>
    cases signal with
    | granted => exact proceed_succeeds h me buffer
    | _ => exact .waits h (fits _)
  | acking datagram again =>
    cases signal with
    | sent =>
      cases again with
      | true =>
        exact proceed_succeeds (x := { x with stream := x.stream.countSent datagram })
          (h.countSent datagram) me buffer
      | false =>
        exact .waits (x := { x with stream := x.stream.countSent datagram })
          (h.countSent datagram) (fits _)
    | unsent reason =>
      cases again with
      | true => exact proceed_succeeds h me buffer
      | false => exact .waits h (fits _)
    | _ => exact .waits h (fits _)
  | receiving =>
    cases signal with
    | arrived arrival => exact accept_succeeds h me buffer now arrival
    | closed => exact finish_succeeds h me _
    | _ => exact .waits h (fits _)
  | replying datagram =>
    cases signal with
    | sent =>
      exact proceed_succeeds (x := { x with stream := x.stream.countSent datagram })
        (h.countSent datagram) me buffer
    | unsent reason => exact proceed_succeeds h me buffer
    | _ => exact .waits h (fits _)

end Reader

/-! ## Flushes -/

namespace Flush

/-- Starts a flush. -/
def Strict.begin (s : Stream) (now : Nat) : Option (Stream × Progress) := do
  match ← Stream.Strict.flushDatagrams s now with
  | (([], _), s) => some (s, .done)
  | ((datagram :: rest, count), s) => some (s, .going ⟨datagram, rest, count⟩)

/-- **A flush starts**, with proper datagrams. -/
theorem begin_strict {s : Stream} (h : s.Sound settings) (now : Nat) :
    Strict.begin s now = some (begin s now) ∧ (begin s now).1.Sound settings
      ∧ (begin s now).2.All (Bytes.Proper settings) := by
  obtain ⟨datagrams, count, s', hok, hstrict, hsound, hproper⟩ := h.exists_flushDatagrams now
  unfold Strict.begin begin
  rw [hok, hstrict]
  cases datagrams with
  | nil => exact ⟨rfl, hsound, trivial⟩
  | cons datagram rest =>
    exact ⟨rfl, hsound, hproper datagram List.mem_cons_self,
      fun d hd => hproper d (List.mem_cons_of_mem datagram hd)⟩

theorem sound_sent {s : Stream} (h : s.Sound settings) (f : Flush) :
    (f.sent s).1.Sound settings := by
  unfold sent
  simp only
  split <;> exact h.congr rfl rfl rfl h.size_le

end Flush

/-! ## Writers -/

namespace Writer

namespace Strict

/-- A writer has received, or could not, and flushes. -/
def polled (x : Shared) (me : Agent) (now : Nat) (job : Job) :
    Option (Shared × Turn Writer Outcome) :=
  if x.stream.closed then
    some (failWith x me job .streamClosed)
  else do
    let (stream, progress) ← Flush.Strict.begin x.stream now
    some (flushed { x with stream := stream } me now job progress)

/-- A writer has found the send window full. -/
def poll (x : Shared) (me : Agent) (now : Nat) (job : Job) :
    Option (Shared × Turn Writer Outcome) :=
  let x := { x with stream := { x.stream with roomFreed := false } }
  match x.reading.tryEnter? me with
  | some reading => some ({ x with reading := reading }, .waits (polling job (limit x now job)))
  | none => polled x me now job

/-- A writer tries to add its segment to the send window, and sends it. -/
def attempt (x : Shared) (me : Agent) (now : Nat) (job : Job) :
    Option (Shared × Turn Writer Outcome) := do
  match ← Stream.Strict.insert x.stream now job.body (!job.rest.isEmpty) with
  | some stream =>
    let ((datagram, piggybacked), stream) ← Stream.Strict.segmentDatagram stream
    some ({ x with stream := stream }, .hands (sending job.rest datagram piggybacked) datagram)
  | none =>
    if job.deadline ≤ now then some (failWith x me job .writeTimeout) else poll x me now job

/-- A writer has waited for room and tries again. -/
def retry (x : Shared) (me : Agent) (now : Nat) (job : Job) :
    Option (Shared × Turn Writer Outcome) :=
  if x.stream.closed then some (failWith x me job .streamClosed) else attempt x me now job

/-- The owner of the section gets on with what is left of its message. -/
def proceed (x : Shared) (me : Agent) (now : Nat) (begun : Bool) :
    List Bytes → Option (Shared × Turn Writer Outcome)
  | [] => some (x.leaveWriting me, .returns (.ok ()))
  | piece :: rest =>
    if x.stream.closed then
      some (fail x me begun .streamClosed)
    else do
      let (body, stream) ← Stream.Strict.prepare x.stream piece
      let deadline := now + x.stream.settings.writeTimeout
      attempt { x with stream := stream } me now
        { body := body, rest := rest, begun := begun, deadline := deadline }

/-- The owner of the section starts with its message. -/
def start (x : Shared) (me : Agent) (now : Nat) (message : Bytes) :
    Option (Shared × Turn Writer Outcome) := do
  proceed x me now false (← Bytes.Strict.chunks x.stream.settings.maxSegment message)

/-- A writer has received and leaves the section for reading. -/
def leavePolling (x : Shared) (me : Agent) (now : Nat) (job : Job) :
    Option (Shared × Turn Writer Outcome) :=
  polled (x.leaveReading me) me now job

/-- A writer takes in what the socket delivered. -/
def accept (x : Shared) (me : Agent) (now : Nat) (job : Job) (limit : Nat) :
    Arrival → Option (Shared × Turn Writer Outcome)
  | .fault _ => leavePolling x me now job
  | .datagram raw => do
    match ← Stream.Strict.receive x.stream now raw with
    | (stream, none) => leavePolling { x with stream := stream } me now job
    | (stream, some header) =>
      let (datagram, stream) ← Stream.Strict.control stream header
      some ({ x with stream := stream }, .hands (replying job limit datagram) datagram)

/-- The first turn of a write. -/
def begin (x : Shared) (me : Agent) (now : Nat) (message : Bytes) :
    Option (Shared × Turn Writer Outcome) :=
  let maximum := x.stream.settings.maxMessage
  if x.stream.closed then
    some (x, .returns (.error .streamClosed))
  else if maximum < message.length then
    some (x, .returns (.error (.messageTooLarge message.length maximum)))
  else if message.isEmpty then
    some (x, .returns (.ok ()))
  else
    let x := { x with writing := x.writing.enter me }
    if x.writing.owner = some me then start x me now message
    else some (x, .waits (entering message))

/-- The turn that a signal gives to a writer. -/
def resume (x : Shared) (me : Agent) (now : Nat) (point : Writer) (signal : Signal) :
    Option (Shared × Turn Writer Outcome) :=
  match point, signal with
  | entering message, .granted => start x me now message
  | polling job limit, .arrived arrival => accept x me now job limit arrival
  | polling job _, .closed => leavePolling x me now job
  | polling job _, .due => leavePolling x me now job
  | replying job _ datagram, .sent =>
    leavePolling { x with stream := x.stream.countSent datagram } me now job
  | replying job _ _, .unsent _ => leavePolling x me now job
  | replying job _ _, .due => leavePolling x me now job
  | flushing job flush, .sent =>
    let (stream, progress) := flush.sent x.stream
    some (flushed { x with stream := stream } me now job progress)
  | flushing job flush, .unsent reason =>
    let (stream, progress) := flush.unsent x.stream reason
    some (flushed { x with stream := stream } me now job progress)
  | awaiting job _, .room => retry x me now job
  | awaiting job _, .due => retry x me now job
  | sending rest datagram piggybacked, .sent =>
    let stream := (x.stream.countSent datagram).commit piggybacked
    proceed { x with stream := stream } me now true rest
  | sending _ _ _, .unsent reason => do
    let stream ← Stream.Strict.abandon x.stream
    some (fail { x with stream := stream } me false (.socket reason))
  | point, _ => some (x, .waits point)

end Strict

/-- The writer's message is cut finely enough, and what it has still to send of a flush is
proper. -/
structure Fits (settings : ValidSettings) (w : Writer) : Prop where
  /-- The pieces fit into segments. -/
  length_le : ∀ b ∈ w.bodies, b.length ≤ settings.maxSegment
  /-- The datagrams are proper. -/
  proper : ∀ d ∈ w.resends, d.Proper settings

variable {job : Job}

theorem fail_succeeds (h : x.stream.Sound settings) (me : Agent) (begun : Bool)
    (failure : Failure) :
    Succeeds settings (Fits settings) (some (fail x me begun failure))
      (fail x me begun failure) := by
  cases begun with
  | true =>
    exact .returns (x := Shared.leaveWriting { x with stream := x.stream.shut } me)
      (h.congr rfl rfl rfl h.size_le) _
  | false => exact .returns (x := x.leaveWriting me) h _

theorem failWith_succeeds (h : x.stream.Sound settings) (me : Agent) (job : Job)
    (failure : Failure) :
    Succeeds settings (Fits settings) (some (failWith x me job failure))
      (failWith x me job failure) :=
  fail_succeeds (x := { x with stream := x.stream.giveBack job.body })
    (h.congr rfl rfl rfl h.size_le) me job.begun failure

theorem flushed_succeeds (h : x.stream.Sound settings) (me : Agent) (now : Nat)
    (hjob : ∀ b ∈ job.bodies, b.length ≤ settings.maxSegment) {progress : Flush.Progress}
    (hprogress : progress.All (Bytes.Proper settings)) :
    Succeeds settings (Fits settings) (some (flushed x me now job progress))
      (flushed x me now job progress) := by
  cases progress with
  | done => exact .waits h ⟨hjob, fun _ hd => absurd hd List.not_mem_nil⟩
  | going flush => exact .hands h ⟨hjob, hprogress.2⟩ hprogress.1
  | failed failure => exact failWith_succeeds h me job failure

theorem polled_succeeds (h : x.stream.Sound settings) (me : Agent) (now : Nat)
    (hjob : ∀ b ∈ job.bodies, b.length ≤ settings.maxSegment) :
    Succeeds settings (Fits settings) (Strict.polled x me now job) (polled x me now job) := by
  unfold Strict.polled polled
  by_cases hclosed : x.stream.closed = true
  · simp only [if_pos hclosed]
    exact failWith_succeeds h me job _
  obtain ⟨hstrict, hsound, hproper⟩ := Flush.begin_strict h now
  simp only [if_neg hclosed, hstrict, Option.bind_eq_bind, Option.bind_some]
  exact flushed_succeeds (x := { x with stream := (Flush.begin x.stream now).1 }) hsound me now hjob
    hproper

theorem leavePolling_succeeds (h : x.stream.Sound settings) (me : Agent) (now : Nat)
    (hjob : ∀ b ∈ job.bodies, b.length ≤ settings.maxSegment) :
    Succeeds settings (Fits settings) (Strict.leavePolling x me now job)
      (leavePolling x me now job) :=
  polled_succeeds (x := x.leaveReading me) h me now hjob

theorem poll_succeeds (h : x.stream.Sound settings) (me : Agent) (now : Nat)
    (hjob : ∀ b ∈ job.bodies, b.length ≤ settings.maxSegment) :
    Succeeds settings (Fits settings) (Strict.poll x me now job) (poll x me now job) := by
  have hsound : ({ x.stream with roomFreed := false } : Stream).Sound settings :=
    h.congr rfl rfl rfl h.size_le
  unfold Strict.poll poll
  simp only
  cases x.reading.tryEnter? me with
  | some reading => exact .waits hsound ⟨hjob, fun _ hd => absurd hd List.not_mem_nil⟩
  | none =>
    exact polled_succeeds (x := { x with stream := { x.stream with roomFreed := false } }) hsound
      me now hjob

/-- **A new segment goes out or has to wait**; its datagram always comes out. -/
theorem attempt_succeeds (h : x.stream.Sound settings) (me : Agent) (now : Nat)
    (hjob : ∀ b ∈ job.bodies, b.length ≤ settings.maxSegment) :
    Succeeds settings (Fits settings) (Strict.attempt x me now job) (attempt x me now job) := by
  unfold Strict.attempt attempt
  rw [Stream.Strict.insert_eq]
  simp only [Option.bind_eq_bind, Option.bind_some]
  cases hinsert : x.stream.insert? now job.body (!job.rest.isEmpty) with
  | none =>
    simp only
    by_cases hlate : job.deadline ≤ now
    · simp only [if_pos hlate]
      exact failWith_succeeds h me job _
    · simp only [if_neg hlate]
      exact poll_succeeds h me now hjob
  | some s =>
    obtain ⟨hsound, hfind⟩ := h.of_insert? (hjob _ List.mem_cons_self) hinsert
    obtain ⟨datagram, piggybacked, s', hok, hstrict, hsound', hproper⟩ :=
      hsound.exists_segmentDatagram hfind
    simp only [hok, hstrict, Option.bind_some]
    exact .hands (x := { x with stream := s' }) hsound'
      ⟨fun b hb => hjob b (List.mem_cons_of_mem _ hb), fun _ hd => absurd hd List.not_mem_nil⟩
      hproper

theorem retry_succeeds (h : x.stream.Sound settings) (me : Agent) (now : Nat)
    (hjob : ∀ b ∈ job.bodies, b.length ≤ settings.maxSegment) :
    Succeeds settings (Fits settings) (Strict.retry x me now job) (retry x me now job) := by
  unfold Strict.retry retry
  by_cases hclosed : x.stream.closed = true
  · simp only [if_pos hclosed]
    exact failWith_succeeds h me job _
  · simp only [if_neg hclosed]
    exact attempt_succeeds h me now hjob

theorem proceed_succeeds (h : x.stream.Sound settings) (me : Agent) (now : Nat) (begun : Bool)
    {pieces : List Bytes} (hpieces : ∀ b ∈ pieces, b.length ≤ settings.maxSegment) :
    Succeeds settings (Fits settings) (Strict.proceed x me now begun pieces)
      (proceed x me now begun pieces) := by
  cases pieces with
  | nil => exact .returns (x := x.leaveWriting me) h _
  | cons piece rest =>
    unfold Strict.proceed proceed
    by_cases hclosed : x.stream.closed = true
    · simp only [if_pos hclosed]
      exact fail_succeeds h me begun _
    have hpiece : piece.length ≤ x.stream.settings.maxSegment := by
      rw [h.settings_eq]
      exact hpieces piece List.mem_cons_self
    simp only [if_neg hclosed, Stream.Strict.prepare_eq hpiece, Option.bind_eq_bind,
      Option.bind_some]
    apply attempt_succeeds (x := { x with stream := (x.stream.prepare piece).2 })
      (h.congr rfl rfl rfl h.size_le)
    -- the body that was prepared is the piece itself
    show ∀ b ∈ (x.stream.prepare piece).1.content :: rest, _
    rw [content_prepare hpiece]
    exact hpieces

theorem start_succeeds (h : x.stream.Sound settings) (me : Agent) (now : Nat) (message : Bytes) :
    Succeeds settings (Fits settings) (Strict.start x me now message) (start x me now message) := by
  unfold Strict.start start
  rw [Bytes.Strict.chunks_eq x.stream.settings.maxSegment_pos, h.settings_eq]
  exact proceed_succeeds h me now false fun b hb => Bytes.length_le_of_mem_chunks hb

theorem accept_succeeds (h : x.stream.Sound settings) (me : Agent) (now : Nat)
    (hjob : ∀ b ∈ job.bodies, b.length ≤ settings.maxSegment) (limit : Nat) (arrival : Arrival) :
    Succeeds settings (Fits settings) (Strict.accept x me now job limit arrival)
      (accept x me now job limit arrival) := by
  cases arrival with
  | fault reason => exact leavePolling_succeeds h me now hjob
  | datagram raw =>
    obtain ⟨hstrict, hsound⟩ := h.receive now raw
    unfold Strict.accept accept
    simp only [hstrict, Option.bind_eq_bind, Option.bind_some]
    generalize x.stream.receive now raw = r at hsound ⊢
    obtain ⟨s, reply⟩ := r
    cases reply with
    | none => exact leavePolling_succeeds (x := { x with stream := s }) hsound me now hjob
    | some header =>
      obtain ⟨s', hok, hstrict', hsound', hproper⟩ := hsound.exists_control header
      simp only [hok, hstrict', Option.bind_some]
      exact .hands (x := { x with stream := s' }) hsound'
        ⟨hjob, fun _ hd => absurd hd List.not_mem_nil⟩ hproper

/-- **The start of a write** succeeds. -/
theorem begin_succeeds (h : x.stream.Sound settings) (me : Agent) (now : Nat) (message : Bytes) :
    Succeeds settings (Fits settings) (Strict.begin x me now message) (begin x me now message) := by
  unfold Strict.begin begin
  simp only
  by_cases hclosed : x.stream.closed = true
  · simp only [if_pos hclosed]
    exact .returns h _
  by_cases hlong : x.stream.settings.maxMessage < message.length
  · simp only [if_neg hclosed, if_pos hlong]
    exact .returns h _
  by_cases hempty : message.isEmpty = true
  · simp only [if_neg hclosed, if_neg hlong, if_pos hempty]
    exact .returns h _
  simp only [if_neg hclosed, if_neg hlong, if_neg hempty]
  by_cases howner : (x.writing.enter me).owner = some me
  · simp only [if_pos howner]
    exact start_succeeds (x := { x with writing := x.writing.enter me }) h me now message
  · simp only [if_neg howner]
    exact .waits (x := { x with writing := x.writing.enter me }) h
      ⟨fun _ hb => absurd hb List.not_mem_nil, fun _ hd => absurd hd List.not_mem_nil⟩

/-- **A turn of a writer** succeeds. -/
theorem resume_succeeds (h : x.stream.Sound settings) (me : Agent) (now : Nat) {point : Writer}
    (hpoint : point.Fits settings) (signal : Signal) :
    Succeeds settings (Fits settings) (Strict.resume x me now point signal)
      (resume x me now point signal) := by
  have hjob := hpoint.length_le
  have hstay : Succeeds settings (Fits settings) (some (x, .waits point))
      ((x, .waits point) : Shared × Turn Writer Outcome) := .waits h hpoint
  cases point with
  | entering message =>
    cases signal with
    | granted => exact start_succeeds h me now message
    | _ => exact hstay
  | polling job limit =>
    cases signal with
    | arrived arrival => exact accept_succeeds h me now hjob limit arrival
    | closed => exact leavePolling_succeeds h me now hjob
    | due => exact leavePolling_succeeds h me now hjob
    | _ => exact hstay
  | replying job limit datagram =>
    cases signal with
    | sent =>
      exact leavePolling_succeeds (x := { x with stream := x.stream.countSent datagram })
        (h.countSent datagram) me now hjob
    | unsent reason => exact leavePolling_succeeds h me now hjob
    | due => exact leavePolling_succeeds h me now hjob
    | _ => exact hstay
  | flushing job flush =>
    cases signal with
    | sent =>
      exact flushed_succeeds (x := { x with stream := (flush.sent x.stream).1 })
        (Flush.sound_sent h flush) me now hjob (Flush.all_sent hpoint.proper x.stream)
    | unsent reason =>
      exact flushed_succeeds (x := { x with stream := (flush.unsent x.stream reason).1 })
        (h.congr rfl rfl rfl h.size_le) me now hjob (flush.all_unsent x.stream reason)
    | _ => exact hstay
  | awaiting job limit =>
    cases signal with
    | room => exact retry_succeeds h me now hjob
    | due => exact retry_succeeds h me now hjob
    | _ => exact hstay
  | sending rest datagram piggybacked =>
    cases signal with
    | sent =>
      exact proceed_succeeds
        (x := { x with stream := (x.stream.countSent datagram).commit piggybacked })
        (h.congr rfl rfl rfl h.size_le) me now true hjob
    | unsent reason =>
      obtain ⟨hstrict, hsound⟩ := h.abandon
      unfold Strict.resume resume
      simp only [hstrict, Option.bind_eq_bind, Option.bind_some]
      exact fail_succeeds (x := { x with stream := x.stream.abandon }) hsound me false _
    | _ => exact hstay

end Writer

/-! ## The flusher -/

namespace Flusher

namespace Strict

/-- The flusher of a stream that is established now. There is no result if it would never
wait. -/
def begin (settings : ValidSettings) (now : Nat) : Option Flusher :=
  if settings.flushInterval = 0 then none else some (waiting (now + settings.flushInterval))

/-- A tick. -/
def tick (x : Shared) (now next : Nat) : Option (Shared × Turn Flusher Unit) :=
  if x.stream.sentSinceTick then
    some ({ x with stream := { x.stream with sentSinceTick := false } }, .waits (waiting next))
  else
    match x.writing.tryEnter? .flusher with
    | none => some (x, .waits (waiting next))
    | some writing =>
      let x := { x with writing := writing }
      if x.stream.closed then
        some (x.leaveWriting .flusher, .returns ())
      else do
        let (stream, progress) ← Flush.Strict.begin x.stream now
        some (flushed { x with stream := stream } next progress)

/-- The turn that a signal gives to the flusher. -/
def resume (x : Shared) (now : Nat) (point : Flusher) (signal : Signal) :
    Option (Shared × Turn Flusher Unit) :=
  match point, signal with
  | waiting time, .due => tick x now (time + x.stream.settings.flushInterval)
  | waiting _, .closed => some (x, .returns ())
  | flushing next flush, .sent =>
    let (stream, progress) := flush.sent x.stream
    some (flushed { x with stream := stream } next progress)
  | flushing next flush, .unsent reason =>
    let (stream, progress) := flush.unsent x.stream reason
    some (flushed { x with stream := stream } next progress)
  | point, _ => some (x, .waits point)

end Strict

/-- What the flusher has still to send of a flush is proper. -/
def Fits (settings : ValidSettings) (point : Flusher) : Prop :=
  ∀ d ∈ point.resends, d.Proper settings

/-- **The flusher waits between its ticks.** -/
theorem begin_strict (settings : ValidSettings) (now : Nat) :
    Strict.begin settings now = some (begin settings now) :=
  if_neg ((Settings.fault?_eq_none_iff _).mp settings.fault?_eq_none).2.2.2.2.2.2.1

theorem flushed_succeeds (h : x.stream.Sound settings) (next : Nat) {progress : Flush.Progress}
    (hprogress : progress.All (Bytes.Proper settings)) :
    Succeeds settings (Fits settings) (some (flushed x next progress))
      (flushed x next progress) := by
  cases progress with
  | done =>
    exact .waits (x := x.leaveWriting .flusher) h fun _ hd => absurd hd List.not_mem_nil
  | going flush => exact .hands h hprogress.2 hprogress.1
  | failed failure => exact .returns (x := x.leaveWriting .flusher) h ()

theorem tick_succeeds (h : x.stream.Sound settings) (now next : Nat) :
    Succeeds settings (Fits settings) (Strict.tick x now next) (tick x now next) := by
  have hwaiting : (waiting next).Fits settings := fun _ hd => absurd hd List.not_mem_nil
  unfold Strict.tick tick
  by_cases hsent : x.stream.sentSinceTick = true
  · simp only [if_pos hsent]
    exact .waits (x := { x with stream := { x.stream with sentSinceTick := false } })
      (h.congr rfl rfl rfl h.size_le) hwaiting
  simp only [if_neg hsent]
  cases x.writing.tryEnter? .flusher with
  | none => exact .waits h hwaiting
  | some writing =>
    simp only
    by_cases hclosed : x.stream.closed = true
    · simp only [if_pos hclosed]
      exact .returns (x := Shared.leaveWriting { x with writing := writing } .flusher) h ()
    obtain ⟨hstrict, hsound, hproper⟩ := Flush.begin_strict h now
    simp only [if_neg hclosed, hstrict, Option.bind_eq_bind, Option.bind_some]
    exact flushed_succeeds
      (x := { x with stream := (Flush.begin x.stream now).1, writing := writing }) hsound next
      hproper

/-- **A turn of the flusher** succeeds. -/
theorem resume_succeeds (h : x.stream.Sound settings) (now : Nat) {point : Flusher}
    (hpoint : point.Fits settings) (signal : Signal) :
    Succeeds settings (Fits settings) (Strict.resume x now point signal)
      (resume x now point signal) := by
  cases point with
  | waiting time =>
    cases signal with
    | due => exact tick_succeeds h now _
    | closed => exact .returns h ()
    | _ => exact .waits h hpoint
  | flushing next flush =>
    cases signal with
    | sent =>
      exact flushed_succeeds (x := { x with stream := (flush.sent x.stream).1 })
        (Flush.sound_sent h flush) next (Flush.all_sent hpoint x.stream)
    | unsent reason =>
      exact flushed_succeeds (x := { x with stream := (flush.unsent x.stream reason).1 })
        (h.congr rfl rfl rfl h.size_le) next (flush.all_unsent x.stream reason)
    | _ => exact .waits h hpoint

end Flusher

end Redelivery
