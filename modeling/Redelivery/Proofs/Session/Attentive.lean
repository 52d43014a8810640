import Redelivery.Proofs.Session.Reading

/-!
# Sessions that leave nothing unread

Only the owner of the section for reading is at a point inside it. A writer gets there when it finds
the section free, a reader when its turn in the line has come; closers only pass through, and the
flusher stays outside. So while a reader rests inside, everybody else leaves the receiving half
alone, and it stays as the reader has left it: with nothing to deliver and nothing to acknowledge. A
session for which this holds is *attentive*.

## Main definitions

* `Writer.Abides`: what a writer's turn leaves alone.
* `Session.Attentive`: only owners are inside, and a reader that rests has left nothing undone.
* `Session.Serves`: a turn that leaves a session attentive, and tells the peer what it has done.

## Main statements

* `Writer.begin_conduct`, `Writer.resume_conduct`, `Closer.begin_conduct`, `Closer.resume_conduct`,
  `Flusher.resume_conduct`: the turns of agents other than readers.
* `Session.Attentive.of_conduct`: a turn keeps a session attentive.
* `Session.Attentive.record`, `Session.Attentive.recordFlusher`: what is recorded of a turn serves.

Most of the file is about writers. They get into the section for reading when they find it free,
take in one datagram, and leave it; what they have taken in is not acknowledged. That does no harm
to a reader that rests, because none can be resting while a writer has the section: `Abides.conduct`
makes use of that, and asks for nothing about what arrived. When the writer has left, the next
reader starts anew, and finds what there is.

Then `Attentive.of_conduct` goes from one agent to the session: those who are inside own the
section, at most one does, so the agent that had the turn is the only one whose account may have
changed.
-/

namespace Redelivery

/-! ## Writers -/

namespace Writer

/-- Whether the writer has got hold of the section for reading. -/
def isReading : Writer → Bool
  | polling _ _ => true
  | replying _ _ _ => true
  | entering _ => false
  | flushing _ _ => false
  | awaiting _ _ => false
  | sending _ _ _ => false

/-- What a turn of a writer leaves alone that starts with `x`, after an arrival if there is one. -/
structure Abides (me : Agent) (x : Shared) (r : Shared × Turn Writer Outcome) : Prop where
  /-- What is received and not yet delivered, and other owners of the section for reading. -/
  yields : x.Yields me r.1
  /-- A writer that waits inside that section owns it. -/
  inside : ∀ w, r.2.point? = some w → w.isReading = true → r.1.reading.owner = some me
  /-- A writer does not acknowledge anything. -/
  handed : ∀ d, r.2.handed? = some d → d.isAck = false

section

variable {me : Agent} {x x' : Shared} {now : Nat} {job : Job}

theorem Abides.of_yields (h : x.Yields me x') {r : Shared × Turn Writer Outcome}
    (hr : Abides me x' r) : Abides me x r :=
  ⟨h.trans hr.yields, hr.inside, hr.handed⟩

/-- A writer that is done has not got hold of the section. -/
theorem Abides.of_returns {r : Shared × Turn Writer Outcome} (h : x.Yields me r.1)
    {outcome : Outcome} (hr : r.2 = .returns outcome) : Abides me x r := by
  refine ⟨h, fun w hw => ?_, fun d hd => ?_⟩
  · rw [hr] at hw
    cases hw
  · rw [hr] at hd
    cases hd

theorem fail_abides (x : Shared) (me : Agent) (begun : Bool) (failure : Failure) :
    Abides me x (fail x me begun failure) := by
  refine .of_returns ⟨?_, fun _ _ howner => howner⟩ rfl
  cases begun <;> exact ⟨rfl, rfl, rfl⟩

theorem failWith_abides (x : Shared) (me : Agent) (job : Job) (failure : Failure) :
    Abides me x (failWith x me job failure) := by
  have hgiven : x.Yields me { x with stream := x.stream.giveBack job.body } :=
    .of_retains ⟨rfl, rfl, rfl⟩
  exact (fail_abides _ me job.begun failure).of_yields hgiven

theorem flushed_abides (x : Shared) (me : Agent) (now : Nat) (job : Job) {progress : Flush.Progress}
    (hall : progress.All Bytes.IsData) : Abides me x (flushed x me now job progress) := by
  cases progress with
  | done =>
    refine ⟨.refl me x, fun w hw hin => ?_, fun d hd => ?_⟩
    · cases hw
      cases hin
    · cases hd
  | going flush =>
    refine ⟨.refl me x, fun w hw hin => ?_, fun d hd => ?_⟩
    · cases hw
      cases hin
    · cases hd
      exact hall.1.isAck_eq
  | failed failure => exact failWith_abides x me job failure

theorem polled_abides (x : Shared) (me : Agent) (now : Nat) (job : Job) :
    Abides me x (polled x me now job) := by
  unfold polled
  split
  · exact failWith_abides x me job _
  · exact (flushed_abides _ me now job (Flush.begin_isData x.stream now)).of_yields
      (.of_retains (Flush.begin_retains x.stream now))

theorem leavePolling_abides (x : Shared) (me : Agent) (now : Nat) (job : Job) :
    Abides me x (leavePolling x me now job) :=
  (polled_abides _ me now job).of_yields (.leaveReading x me)

theorem poll_abides (x : Shared) (me : Agent) (now : Nat) (job : Job) :
    Abides me x (poll x me now job) := by
  have hforgets : x.Yields me { x with stream := { x.stream with roomFreed := false } } :=
    .of_retains ⟨rfl, rfl, rfl⟩
  unfold poll
  simp only
  split
  · rename_i reading henter
    -- nobody else is in the section, or the writer would not have got hold of it
    obtain ⟨hfree, rfl⟩ := Section.tryEnter?_eq_some_iff.mp henter
    refine ⟨⟨hforgets.stream, fun agent _ howner => ?_⟩, fun _ _ _ => ?_, fun d hd => ?_⟩
    · exact Section.owner_enter_of_owner howner me
    · exact Section.owner_enter_of_isFree hfree me
    · cases hd
  · exact (polled_abides _ me now job).of_yields hforgets

theorem attempt_abides (x : Shared) (me : Agent) (now : Nat) (job : Job) :
    Abides me x (attempt x me now job) := by
  unfold attempt
  split
  · rename_i s hinsert
    have hretains := (Stream.retains_insert? hinsert).trans s.retains_segmentDatagram
    split
    · rename_i datagram piggybacked s' heq
      rw [heq] at hretains
      refine ⟨.of_retains hretains, fun w hw hin => ?_, fun d hd => ?_⟩
      · cases hw
        cases hin
      · cases hd
        exact (Stream.isData_of_segmentDatagram (congrArg Prod.fst heq)).isAck_eq
    · rename_i failure s' heq
      rw [heq] at hretains
      exact (fail_abides _ me job.begun failure).of_yields (.of_retains hretains)
  · split
    · exact failWith_abides x me job _
    · exact poll_abides x me now job

theorem retry_abides (x : Shared) (me : Agent) (now : Nat) (job : Job) :
    Abides me x (retry x me now job) := by
  unfold retry
  split
  · exact failWith_abides x me job _
  · exact attempt_abides x me now job

theorem proceed_abides (x : Shared) (me : Agent) (now : Nat) (begun : Bool) (bodies : List Bytes) :
    Abides me x (proceed x me now begun bodies) := by
  cases bodies with
  | nil => exact .of_returns ⟨.refl _, fun _ _ howner => howner⟩ rfl
  | cons piece rest =>
    unfold proceed
    simp only
    split
    · exact fail_abides x me begun _
    · have hprepared : x.Yields me { x with stream := (x.stream.prepare piece).2 } :=
        .of_retains ⟨rfl, rfl, rfl⟩
      exact (attempt_abides _ me now _).of_yields hprepared

theorem start_abides (x : Shared) (me : Agent) (now : Nat) (message : Bytes) :
    Abides me x (start x me now message) :=
  proceed_abides x me now false _

/-- A writer that has taken in a datagram leaves the section, or answers a request first. -/
theorem accept_abides (howner : x.reading.owner = some me) (limit : Nat) (arrival : Arrival) :
    Abides me { x with stream := x.stream.heard now (.arrived arrival) }
      (accept x me now job limit arrival) := by
  cases arrival with
  | fault reason => exact leavePolling_abides x me now job
  | datagram raw =>
    show Abides me { x with stream := (x.stream.receive now raw).1 } _
    unfold accept
    simp only
    split
    · rename_i s heq
      rw [heq]
      exact leavePolling_abides _ me now job
    · rename_i s header heq
      -- the writer keeps the section while its answer is on the way
      obtain ⟨s', hcontrol, hretains⟩ := Stream.control_of_reply (congrArg Prod.snd heq) s
      rw [heq, hcontrol]
      refine ⟨.of_retains hretains, fun _ _ _ => howner, fun d hd => ?_⟩
      cases hd
      exact Bytes.isAck_dialAck

theorem resume_abides {point : Writer} {signal : Signal}
    (howner : point.isReading = true → x.reading.owner = some me)
    (hpoint : ∀ arrival, signal = .arrived arrival → ∃ job limit, point = .polling job limit)
    (hresends : ∀ d ∈ point.resends, d.IsData) :
    Abides me { x with stream := x.stream.heard now signal } (resume x me now point signal) := by
  have hstay : Abides me x (x, .waits point) := by
    refine ⟨.refl me x, fun w hw hin => ?_, fun d hd => ?_⟩
    · cases hw
      exact howner hin
    · cases hd
  have hcount (job : Job) (datagram : Bytes) :
      Abides me x (leavePolling { x with stream := x.stream.countSent datagram } me now job) := by
    have hcounted : x.Yields me { x with stream := x.stream.countSent datagram } :=
      .of_retains ⟨rfl, rfl, rfl⟩
    exact (leavePolling_abides _ me now job).of_yields hcounted
  cases point with
  | entering message =>
    cases signal with
    | arrived arrival =>
      obtain ⟨_, _, hpolling⟩ := hpoint arrival rfl
      cases hpolling
    | granted => exact start_abides x me now message
    | _ => exact hstay
  | polling job limit =>
    cases signal with
    | arrived arrival => exact accept_abides (howner rfl) limit arrival
    | closed => exact leavePolling_abides x me now job
    | due => exact leavePolling_abides x me now job
    | _ => exact hstay
  | replying job limit datagram =>
    cases signal with
    | arrived arrival =>
      obtain ⟨_, _, hpolling⟩ := hpoint arrival rfl
      cases hpolling
    | sent => exact hcount job datagram
    | unsent reason => exact leavePolling_abides x me now job
    | due => exact leavePolling_abides x me now job
    | _ => exact hstay
  | flushing job flush =>
    cases signal with
    | arrived arrival =>
      obtain ⟨_, _, hpolling⟩ := hpoint arrival rfl
      cases hpolling
    | sent =>
      have hsent : x.Yields me { x with stream := (flush.sent x.stream).1 } :=
        .of_retains (flush.sent_retains x.stream)
      exact (flushed_abides _ me now job (Flush.all_sent hresends x.stream)).of_yields hsent
    | unsent reason =>
      have hunsent : x.Yields me { x with stream := (flush.unsent x.stream reason).1 } :=
        .of_retains ⟨rfl, rfl, rfl⟩
      exact (flushed_abides _ me now job (flush.all_unsent x.stream reason)).of_yields hunsent
    | _ => exact hstay
  | awaiting job limit =>
    cases signal with
    | arrived arrival =>
      obtain ⟨_, _, hpolling⟩ := hpoint arrival rfl
      cases hpolling
    | room => exact retry_abides x me now job
    | due => exact retry_abides x me now job
    | _ => exact hstay
  | sending rest datagram piggybacked =>
    cases signal with
    | arrived arrival =>
      obtain ⟨_, _, hpolling⟩ := hpoint arrival rfl
      cases hpolling
    | sent =>
      have hcommitted : x.Yields me
          { x with stream := (x.stream.countSent datagram).commit piggybacked } :=
        .of_retains ⟨rfl, rfl, rfl⟩
      exact (proceed_abides _ me now true rest).of_yields hcommitted
    | unsent reason =>
      have habandoned : x.Yields me { x with stream := x.stream.abandon } :=
        .of_retains x.stream.retains_abandon
      exact (fail_abides _ me false (.socket reason)).of_yields habandoned
    | _ => exact hstay

theorem begin_abides (x : Shared) (me : Agent) (now : Nat) (message : Bytes) :
    Abides me x (begin x me now message) := by
  have henters : x.Yields me { x with writing := x.writing.enter me } :=
    ⟨.refl _, fun _ _ howner => howner⟩
  rcases begin_cases x me now message with ⟨outcome, heq, -⟩ | ⟨-, -, -, heq⟩
  · rw [heq]
    exact .of_returns (.refl me x) rfl
  · rw [heq]
    split
    · exact (start_abides _ me now message).of_yields henters
    · refine ⟨henters, fun w hw hin => ?_, fun d hd => ?_⟩
      · cases hw
        cases hin
      · cases hd

/-- A writer that has taken in a datagram is alone in the section for reading. -/
theorem Abides.conduct {heard : Stream} {r : Shared × Turn Writer Outcome}
    (h : Abides me { x with stream := heard } r)
    (hheard : heard = x.stream ∨ x.reading.owner = some me) :
    Conduct me x heard isReading (fun _ => false) r where
  others agent hne howner := by
    refine ⟨h.yields.owner agent hne howner, ?_⟩
    -- the stream has heard something only if this writer owns the section, and then no other does
    rcases hheard with rfl | hmine
    · exact h.yields.stream
    · exact absurd (Option.some.inj (howner.symm.trans hmine)) hne
  inside := h.inside
  resting _ _ hrest := by cases hrest
  answers := .silent h.yields.stream.receiveWindow h.yields.stream.ackDue h.handed

/-- **The start of a write.** -/
theorem begin_conduct (x : Shared) (me : Agent) (now : Nat) (message : Bytes) :
    Conduct me x x.stream isReading (fun _ => false) (begin x me now message) :=
  (begin_abides x me now message).conduct (Or.inl rfl)

/-- **A turn of a writer.** -/
theorem resume_conduct {point : Writer} {signal : Signal}
    (howner : point.isReading = true → x.reading.owner = some me)
    (hpoint : ∀ arrival, signal = .arrived arrival → ∃ job limit, point = .polling job limit)
    (hresends : ∀ d ∈ point.resends, d.IsData) :
    Conduct me x (x.stream.heard now signal) isReading (fun _ => false)
      (resume x me now point signal) := by
  apply (resume_abides howner hpoint hresends).conduct
  cases signal with
  | arrived arrival =>
    obtain ⟨job, limit, rfl⟩ := hpoint arrival rfl
    exact Or.inr (howner rfl)
  | _ => exact Or.inl rfl

end

end Writer

/-! ## Closers and the flusher -/

namespace Closer

variable {me : Agent} {x x' : Shared}

theorem passReading_yields (h : x.Yields me x') :
    x.Yields me (passReading x' me).1 ∧ (passReading x' me).2.handed? = none := by
  unfold passReading
  split
  · exact ⟨h, rfl⟩
  · exact ⟨h.trans ⟨.refl _, fun _ _ howner => Section.owner_enter_of_owner howner me⟩, rfl⟩

theorem passWriting_yields (h : x.Yields me x') :
    x.Yields me (passWriting x' me).1 ∧ (passWriting x' me).2.handed? = none := by
  unfold passWriting
  split
  · exact passReading_yields h
  · exact ⟨h.trans ⟨.refl _, fun _ _ howner => howner⟩, rfl⟩

theorem begin_yields (x : Shared) (me : Agent) (joins : Bool) :
    x.Yields me (begin x me joins).1 ∧ (begin x me joins).2.handed? = none := by
  have hshut : x.Yields me { x with stream := x.stream.shut } := .of_retains ⟨rfl, rfl, rfl⟩
  unfold begin
  simp only
  split
  · exact ⟨hshut, rfl⟩
  · exact passWriting_yields hshut

theorem resume_yields (x : Shared) (me : Agent) (point : Closer) (signal : Signal) :
    x.Yields me (resume x me point signal).1 ∧ (resume x me point signal).2.handed? = none := by
  have hleft : x.Yields me (x.leaveWriting me) := ⟨.refl _, fun _ _ howner => howner⟩
  unfold resume
  split
  · exact passWriting_yields (.refl me x)
  · exact passReading_yields hleft
  · exact ⟨.leaveReading x me, rfl⟩
  · exact ⟨.refl me x, rfl⟩

/-- **The start of a close.** -/
theorem begin_conduct (x : Shared) (me : Agent) (joins : Bool) :
    Conduct me x x.stream (fun _ => false) (fun _ => false) (begin x me joins) := by
  obtain ⟨hyields, hhanded⟩ := begin_yields x me joins
  exact .of_yields hyields fun d hd => by simp [hhanded] at hd

/-- **A turn of a closer.** -/
theorem resume_conduct (x : Shared) (me : Agent) (point : Closer) (signal : Signal) :
    Conduct me x x.stream (fun _ => false) (fun _ => false) (resume x me point signal) := by
  obtain ⟨hyields, hhanded⟩ := resume_yields x me point signal
  exact .of_yields hyields fun d hd => by simp [hhanded] at hd

end Closer

namespace Flusher

variable {x : Shared}

theorem flushed_conduct {x' : Shared} (h : x.Yields .flusher x') (tick : Nat)
    {progress : Flush.Progress} (hall : progress.All Bytes.IsData) :
    Conduct .flusher x x.stream (fun _ => false) (fun _ => false) (flushed x' tick progress) := by
  cases progress with
  | done => exact .of_yields ⟨h.stream, h.owner⟩ fun d hd => by cases hd
  | going flush =>
    refine .of_yields h fun d hd => ?_
    cases hd
    exact hall.1.isAck_eq
  | failed failure => exact .of_yields ⟨h.stream, h.owner⟩ fun d hd => by cases hd

theorem tick_conduct (x : Shared) (now next : Nat) :
    Conduct .flusher x x.stream (fun _ => false) (fun _ => false) (tick x now next) := by
  have hsame (writing : Section Agent) : x.Yields .flusher { x with writing := writing } :=
    ⟨.refl _, fun _ _ howner => howner⟩
  unfold tick
  split
  · exact .of_yields (.of_retains ⟨rfl, rfl, rfl⟩) fun d hd => by cases hd
  · split
    · exact .of_yields (.refl _ x) fun d hd => by cases hd
    · rename_i writing hwriting
      simp only
      split
      · exact .of_yields (hsame (writing.leave .flusher)) fun d hd => by cases hd
      · have hbegun : x.Yields .flusher
            { x with writing := writing, stream := (Flush.begin x.stream now).1 } :=
          ⟨Flush.begin_retains x.stream now, fun _ _ howner => howner⟩
        exact flushed_conduct hbegun next (Flush.begin_isData x.stream now)

/-- **A turn of the flusher.** -/
theorem resume_conduct (x : Shared) (now : Nat) {point : Flusher} (signal : Signal)
    (hresends : ∀ d ∈ point.resends, d.IsData) :
    Conduct .flusher x x.stream (fun _ => false) (fun _ => false) (resume x now point signal) := by
  have hstay : Conduct .flusher x x.stream (fun _ => false) (fun _ => false)
      ((x, .waits point) : Shared × Turn Flusher Unit) :=
    .of_yields (.refl _ x) fun d hd => by cases hd
  cases point with
  | waiting time =>
    cases signal with
    | due => exact tick_conduct x now _
    | closed => exact .of_yields (.refl _ x) fun d hd => by cases hd
    | _ => exact hstay
  | flushing time flush =>
    cases signal with
    | sent =>
      have hsent : x.Yields .flusher { x with stream := (flush.sent x.stream).1 } :=
        .of_retains (flush.sent_retains x.stream)
      exact flushed_conduct hsent time (Flush.all_sent hresends x.stream)
    | unsent reason =>
      have hunsent : x.Yields .flusher { x with stream := (flush.unsent x.stream reason).1 } :=
        .of_retains ⟨rfl, rfl, rfl⟩
      exact flushed_conduct hunsent time (flush.all_unsent x.stream reason)
    | _ => exact hstay

end Flusher

/-! ## Sessions -/

namespace Call

/-- Whether the call has got hold of the section for reading. -/
def isReading : Call → Bool
  | reading _ point => point.isInside
  | writing point => point.isReading
  | closing _ => false

/-- Whether the call is a read that waits for the socket to deliver something, or will do so as soon
as an acknowledgement is sent. -/
def isResting : Call → Bool
  | reading _ point => point.isResting
  | writing _ => false
  | closing _ => false

theorem isReading_of_isResting {c : Call} (h : c.isResting = true) : c.isReading = true := by
  cases c with
  | reading buffer point => exact Reader.isInside_of_isResting h
  | writing point => cases h
  | closing point => cases h

end Call

/-- The datagram that is handed over in a turn. -/
def Outcome.handed? : Outcome → Option Bytes
  | waits => none
  | hands datagram => some datagram
  | returns _ _ => none

namespace Session

theorem handed?_record (s : Session) (id : Nat) (x : Shared) (turn : Turn Call Result) :
    (s.record id x turn).2.handed? = turn.handed? := by
  cases turn <;> rfl

/-- Only the owner of the section for reading is inside, and a reader that rests there has left
nothing undone. -/
structure Attentive (s : Session) : Prop where
  /-- Only the owner is inside. -/
  owner : ∀ id c, s.call? id = some c → c.isReading = true →
    s.shared.reading.owner = some (.call id)
  /-- A reader that rests has left nothing undone. -/
  drained : ∀ id c, s.call? id = some c → c.isResting = true → s.stream.Drained

/-- A session is attentive after a turn, and what was done in it to the receive window is told to
the peer. The stream was `heard` after the arrival that came with the turn's signal. -/
structure Serves (heard : Stream) (turn : Session × Outcome) : Prop where
  /-- The session is attentive. -/
  attentive : turn.1.Attentive
  /-- What was taken out is acknowledged. -/
  answers : heard.Answers turn.1.stream turn.2.handed?

namespace Attentive

variable {s s' : Session} {heard : Stream}

/-- **A turn of an agent** keeps a session attentive. -/
theorem of_conduct (h : s.Attentive) {me : Agent} {π ρ : Type} {inside resting : π → Bool}
    {r : Shared × Turn π ρ} (hr : Conduct me s.shared heard inside resting r)
    (hshared : s'.shared = r.1) (hothers : ∀ j, .call j ≠ me → s'.call? j = s.call? j)
    (hinside : ∀ id c, me = .call id → s'.call? id = some c → c.isReading = true →
      r.1.reading.owner = some me)
    (hresting : ∀ id c, me = .call id → s'.call? id = some c → c.isResting = true →
      r.1.stream.Drained) : s'.Attentive where
  owner j c hcall hin := by
    rw [hshared]
    by_cases hj : .call j = me
    · rw [hj]
      exact hinside j c hj.symm hcall hin
    · rw [hothers j hj] at hcall
      exact (hr.others _ hj (h.owner j c hcall hin)).1
  drained j c hcall hrest := by
    show s'.shared.stream.Drained
    rw [hshared]
    by_cases hj : .call j = me
    · exact hresting j c hj.symm hcall hrest
    · -- another one rests inside, so nothing of what it has left is touched
      rw [hothers j hj] at hcall
      have howner := h.owner j c hcall (Call.isReading_of_isResting hrest)
      exact (hr.others _ hj howner).2.drained (h.drained j c hcall hrest)

theorem record (h : s.Attentive) {id : Nat} {x : Shared} {turn : Turn Call Result}
    (hr : Conduct (.call id) s.shared heard Call.isReading Call.isResting (x, turn)) :
    Serves heard (s.record id x turn) where
  attentive := by
    refine h.of_conduct hr (shared_record s id x turn) ?_ ?_ ?_
    · intro j hj
      exact call?_record_of_ne s (fun heq => hj (congrArg Agent.call heq)) x turn
    · intro j c hj hcall hin
      cases hj
      rw [call?_record] at hcall
      exact hr.inside c hcall hin
    · intro j c hj hcall hrest
      cases hj
      rw [call?_record] at hcall
      exact hr.resting c hcall hrest
  answers := by
    rw [stream_record, handed?_record]
    exact hr.answers

theorem recordReader (h : s.Attentive) {id : Nat} {buffer : Bytes}
    {r : Shared × Turn Reader Reader.Outcome}
    (hr : Conduct (.call id) s.shared heard Reader.isInside Reader.isResting r) :
    Serves heard (s.recordReader id buffer r) :=
  h.record (hr.map _ _ (fun _ => rfl) fun _ => rfl)

theorem recordWriter (h : s.Attentive) {id : Nat} {r : Shared × Turn Writer Writer.Outcome}
    (hr : Conduct (.call id) s.shared heard Writer.isReading (fun _ => false) r) :
    Serves heard (s.recordWriter id r) :=
  h.record (hr.map _ _ (fun _ => rfl) fun _ => rfl)

theorem recordCloser (h : s.Attentive) {id : Nat} {r : Shared × Turn Closer Unit}
    (hr : Conduct (.call id) s.shared heard (fun _ => false) (fun _ => false) r) :
    Serves heard (s.recordCloser id r) :=
  h.record (hr.map _ _ (fun _ => rfl) fun _ => rfl)

theorem recordFlusher (h : s.Attentive) {r : Shared × Turn Flusher Unit}
    (hr : Conduct .flusher s.shared heard (fun _ => false) (fun _ => false) r) :
    Serves heard (s.recordFlusher r) := by
  obtain ⟨x, turn⟩ := r
  refine ⟨h.of_conduct hr ?_ ?_ (fun _ _ hme => by cases hme) (fun _ _ hme => by cases hme), ?_⟩
  · cases turn <;> rfl
  · intro j _
    cases turn <;> rfl
  · cases turn <;> exact hr.answers

end Attentive

end Session

end Redelivery
