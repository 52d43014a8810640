import Redelivery.Proofs.Session.Idle

/-!
# Sessions that come to an end

A closer waits until nobody is at work inside the section for writing, and then until nobody is
inside the one for reading. As the stream is closed, nobody comes back there. So when a close
returns, the stream is at rest for good: no datagram is handed to the socket any more, and all calls
but closes are refused.

## Main definitions

* `Session.Held`, `Session.Guarded`: agents have what they need, and closers have waited.
* `Session.Cleared`: the stream is closed and nobody is at work inside the sections.
* `Session.Grants`: a signal tells the truth about the sections.
* `Outcome.IsFinal`: what may still come of a turn at the end.

## Main statements

* `Session.Guarded.read`, `Session.Guarded.write`, `Session.Guarded.close`,
  `Session.Guarded.resume`: sessions stay guarded.
* `Session.Cleared.resume`: whoever was driven out does not come back.
* `Session.Guarded.cleared_of_close`, `Session.Guarded.cleared_of_resume`: a close that returns has
  waited for all others.
* `Session.Cleared.isFinal_resume`: nothing is done any more after that.

That a close which returns has waited for all others rides on ownership. Whoever is at work inside a
section owns it (`Session.Held`), and a closer gets past a section only when it owns that itself or
nobody does (`Closer.Passes`). So when it gets past the first one nobody is at work there
(`Session.Held.cleared_recordCloser`), and since the stream is closed, nobody will be:
`Session.Cleared.resume`, by the lemmas on idle turns. The field `Guarded.passed` carries this over
the time between the two sections, in which others may have turns.

The lemmas come in groups of two for each kind of agent, one for `Cleared` and one for `Guarded`,
and then once more for calls and for turns. The end of the file reads off what can still be seen:
`Session.Cleared.isFinal_resume`.
-/

namespace Redelivery

/-! ## What is true of all sessions -/

namespace Call

/-- What a call has at the point where it waits. -/
def Holds (me : Agent) (x : Shared) : Call → Prop
  | reading _ point => point.Holds me x
  | writing point => point.Holds me x
  | closing point => point.Holds x

/-- Whether the call is at work inside the section for writing or, if `reads` says so, inside the
one for reading. -/
def isBusy (reads : Bool) : Call → Bool
  | reading _ point => reads && point.isInside
  | writing point => point.isInside
  | closing _ => false

variable {me : Agent} {x x' : Shared} {c : Call}

/-- Nobody else can take away what a call has. -/
theorem Holds.respects (h : c.Holds me x) {other : Agent} (hx : x.Respects other x')
    (hne : me ≠ other) : c.Holds me x' := by
  cases c with
  | reading buffer point => exact Reader.Holds.respects h hx hne
  | writing point => exact Writer.Holds.respects h hx hne
  | closing point => exact hx.closed h

end Call

/-- What a call may still return at the end. -/
inductive Result.IsFinal (closes : Bool) : Result → Prop
  /-- Any operation is refused. -/
  | refused : IsFinal closes (.failed .streamClosed)
  /-- A close has nobody left to wait for. -/
  | closed (h : closes = true) : IsFinal closes .closed

/-- What may still come of a turn at the end. -/
inductive Outcome.IsFinal (closes : Bool) : Outcome → Prop
  /-- The agent waits. -/
  | waits : IsFinal closes .waits
  /-- A call has returned. -/
  | returns {id : Nat} {result : Result} (h : result.IsFinal closes) :
      IsFinal closes (.returns id result)

namespace Session

variable {s : Session} {id : Nat} {x : Shared} {turn : Turn Call Result} {reads : Bool}

/-- All agents have what goes with the points where they wait. -/
structure Held (s : Session) : Prop where
  /-- The calls. -/
  call : ∀ id c, s.call? id = some c → c.Holds (.call id) s.shared
  /-- The flusher. -/
  flusher : ∀ point, s.flusher = some point → point.Holds s.shared

/-- The stream is closed, and nobody is at work inside the section for writing or, if `reads` says
so, inside the one for reading. -/
structure Cleared (s : Session) (reads : Bool) : Prop where
  /-- The stream is closed. -/
  closed : s.stream.closed = true
  /-- No call is at work. -/
  call : ∀ id c, s.call? id = some c → c.isBusy reads = false
  /-- The flusher is not in the middle of a flush. -/
  flusher : ∀ point, s.flusher = some point → point.isFlushing = false

/-- All agents have what they need, and where a closer has come past the section for writing, nobody
is at work there any more. -/
structure Guarded (s : Session) : Prop where
  /-- All agents have what they need. -/
  held : s.Held
  /-- A closer has waited for those at work. -/
  passed : ∀ id, s.call? id = some (.closing .enteringReading) → s.Cleared false

/-- Whoever is inside the section for writing owns it. -/
theorem Held.owner (h : s.Held) {me : Agent} (hin : s.Inside me) :
    s.shared.writing.owner = some me := by
  cases me with
  | flusher =>
    obtain ⟨point, hpoint, hin⟩ := hin
    exact (h.flusher point hpoint).owner hin
  | call id =>
    obtain ⟨w, hcall, hin⟩ := hin
    exact Writer.Holds.owner (h.call id _ hcall) hin

/-! ### What a turn of a call keeps -/

theorem Held.record (h : s.Held)
    (hr : Settles (.call id) (Call.Holds (.call id)) s.shared (x, turn)) :
    (s.record id x turn).1.Held where
  call j c hcall := by
    rw [shared_record]
    by_cases hj : j = id
    · subst hj
      rw [call?_record] at hcall
      exact hr.holds c hcall
    · rw [call?_record_of_ne s hj] at hcall
      exact (h.call j c hcall).respects hr.respects fun heq => hj (Agent.call.inj heq)
  flusher point hpoint := by
    rw [shared_record]
    rw [flusher_record] at hpoint
    exact (h.flusher point hpoint).respects hr.respects Agent.noConfusion

/-- Nobody is at work after a turn if none of the others was, and the call is not. -/
theorem cleared_record (hclosed : x.stream.closed = true)
    (hothers : ∀ j c, j ≠ id → s.call? j = some c → c.isBusy reads = false)
    (hflusher : ∀ point, s.flusher = some point → point.isFlushing = false)
    (hme : ∀ c, turn.point? = some c → c.isBusy reads = false) :
    (s.record id x turn).1.Cleared reads where
  closed := by rw [stream_record, hclosed]
  call j c hcall := by
    by_cases hj : j = id
    · subst hj
      rw [call?_record] at hcall
      exact hme c hcall
    · rw [call?_record_of_ne s hj] at hcall
      exact hothers j c hj hcall
  flusher point hpoint := by
    rw [flusher_record] at hpoint
    exact hflusher point hpoint

theorem Cleared.record (h : s.Cleared reads) (hx : s.shared.Respects (.call id) x)
    (hme : ∀ c, turn.point? = some c → c.isBusy reads = false) :
    (s.record id x turn).1.Cleared reads :=
  cleared_record (hx.closed h.closed) (fun j c _ => h.call j c) h.flusher hme

theorem Guarded.record (h : s.Guarded)
    (hr : Settles (.call id) (Call.Holds (.call id)) s.shared (x, turn))
    (hme : s.Cleared false → ∀ c, turn.point? = some c → c.isBusy false = false)
    (hpast : turn.point? = some (.closing .enteringReading) →
      (s.record id x turn).1.Cleared false) : (s.record id x turn).1.Guarded where
  held := h.held.record hr
  passed j hcall := by
    by_cases hj : j = id
    · subst hj
      rw [call?_record] at hcall
      exact hpast hcall
    · rw [call?_record_of_ne s hj] at hcall
      have hcleared := h.passed j hcall
      exact hcleared.record hr.respects (hme hcleared)

/-! ### Readers -/

theorem isBusy_of_reader {buffer : Bytes} {r : Shared × Turn Reader Reader.Outcome}
    {g : Reader.Outcome → Result} (hidle : reads = true → Reader.IsIdle r.2) (c : Call)
    (hc : (r.2.map (Call.reading buffer) g).point? = some c) : c.isBusy reads = false := by
  obtain ⟨point, hpoint, rfl⟩ := Turn.point?_map_eq_some_iff.mp hc
  cases reads with
  | false => rfl
  | true => exact (hidle rfl).of_point? hpoint

theorem Cleared.recordReader (h : s.Cleared reads) {buffer : Bytes}
    {r : Shared × Turn Reader Reader.Outcome} (hx : s.shared.Respects (.call id) r.1)
    (hidle : reads = true → Reader.IsIdle r.2) : (s.recordReader id buffer r).1.Cleared reads :=
  h.record hx (isBusy_of_reader hidle)

theorem Guarded.recordReader (h : s.Guarded) {buffer : Bytes}
    {r : Shared × Turn Reader Reader.Outcome}
    (hr : Settles (.call id) (Reader.Holds (.call id)) s.shared r) :
    (s.recordReader id buffer r).1.Guarded := by
  refine h.record (hr.map _ _ fun _ _ hp => hp) (fun _ => isBusy_of_reader fun hfalse => ?_) ?_
  · cases hfalse
  · intro hpoint
    rw [Turn.point?_map] at hpoint
    simp at hpoint

/-! ### Writers -/

theorem isBusy_of_writer {r : Shared × Turn Writer Writer.Outcome} {g : Writer.Outcome → Result}
    (hidle : Writer.IsIdle r.2) (c : Call) (hc : (r.2.map Call.writing g).point? = some c) :
    c.isBusy reads = false := by
  obtain ⟨point, hpoint, rfl⟩ := Turn.point?_map_eq_some_iff.mp hc
  exact hidle.of_point? hpoint

theorem Cleared.recordWriter (h : s.Cleared reads) {r : Shared × Turn Writer Writer.Outcome}
    (hx : s.shared.Respects (.call id) r.1) (hidle : Writer.IsIdle r.2) :
    (s.recordWriter id r).1.Cleared reads :=
  h.record hx (isBusy_of_writer hidle)

theorem Guarded.recordWriter (h : s.Guarded) {r : Shared × Turn Writer Writer.Outcome}
    (hr : Settles (.call id) (Writer.Holds (.call id)) s.shared r)
    (hidle : s.Cleared false → Writer.IsIdle r.2) : (s.recordWriter id r).1.Guarded := by
  refine h.record (hr.map _ _ fun _ _ hp => hp) (fun hcleared => isBusy_of_writer (hidle hcleared))
    fun hpoint => ?_
  rw [Turn.point?_map] at hpoint
  simp at hpoint

/-! ### Closers -/

theorem isBusy_of_closer {r : Shared × Turn Closer Unit} {g : Unit → Result} (c : Call)
    (hc : (r.2.map Call.closing g).point? = some c) : c.isBusy reads = false := by
  obtain ⟨point, -, rfl⟩ := Turn.point?_map_eq_some_iff.mp hc
  rfl

theorem Cleared.recordCloser (h : s.Cleared reads) {r : Shared × Turn Closer Unit}
    (hx : s.shared.Respects (.call id) r.1) : (s.recordCloser id r).1.Cleared reads :=
  h.record hx isBusy_of_closer

/-- Whoever is at work owns a section. So nobody is, if the closer has come past both. -/
theorem Held.cleared_recordCloser (h : s.Held) {r : Shared × Turn Closer Unit}
    (hclosed : r.1.stream.closed = true)
    (hwriting : s.Cleared false ∨ s.shared.writing.FreeBut (.call id))
    (hreading : reads = true → s.shared.reading.FreeBut (.call id)) :
    (s.recordCloser id r).1.Cleared reads := by
  refine cleared_record hclosed (fun j c hj hcall => ?_) (fun point hpoint => ?_) isBusy_of_closer
  · -- another call at work would own the section that the closer found without another owner
    cases c with
    | reading buffer point =>
      by_contra hbusy
      obtain ⟨hreads, hin⟩ := Bool.and_eq_true_iff.mp (Bool.eq_true_of_not_eq_false hbusy)
      have howner := Reader.Holds.owner (h.call j _ hcall) hin
      exact hj (Agent.call.inj (hreading hreads _ howner))
    | writing point =>
      rcases hwriting with hcleared | hfree
      · exact hcleared.call j _ hcall
      · by_contra hbusy
        have howner := Writer.Holds.owner (h.call j _ hcall) (Bool.eq_true_of_not_eq_false hbusy)
        exact hj (Agent.call.inj (hfree _ howner))
    | closing point => rfl
  · rcases hwriting with hcleared | hfree
    · exact hcleared.flusher point hpoint
    · by_contra hflushing
      have howner := (h.flusher point hpoint).owner (Bool.eq_true_of_not_eq_false hflushing)
      cases hfree _ howner

theorem Guarded.recordCloser (h : s.Guarded) {r : Shared × Turn Closer Unit} {before : Prop}
    (hr : Settles (.call id) Closer.Holds s.shared r) (hclosed : r.1.stream.closed = true)
    (hpasses : Closer.Passes (.call id) s.shared before r.2) (hbefore : before → s.Cleared false) :
    (s.recordCloser id r).1.Guarded := by
  refine h.record (hr.map _ _ fun _ _ hp => hp) (fun _ => isBusy_of_closer) fun hpoint => ?_
  obtain ⟨point, hpoint, heq⟩ := Turn.point?_map_eq_some_iff.mp hpoint
  cases heq
  apply h.held.cleared_recordCloser hclosed
  · exact (hpasses.writing (Or.inr hpoint)).imp_left hbefore
  · intro hfalse
    cases hfalse

/-- **A close that returns** leaves nobody at work. -/
theorem Guarded.cleared_of_returns (h : s.Guarded) {r : Shared × Turn Closer Unit} {before : Prop}
    (hclosed : r.1.stream.closed = true)
    (hpasses : Closer.Passes (.call id) s.shared before r.2) (hbefore : before → s.Cleared false)
    (hreturns : r.2 = .returns ()) : (s.recordCloser id r).1.Cleared true :=
  h.held.cleared_recordCloser hclosed ((hpasses.writing (Or.inl hreturns)).imp_left hbefore)
    fun _ => hpasses.reading hreturns

/-! ### The flusher -/

theorem Cleared.recordFlusher (h : s.Cleared reads) {r : Shared × Turn Flusher Unit}
    (hx : s.shared.Respects .flusher r.1) (hidle : Flusher.IsIdle r.2) :
    (s.recordFlusher r).1.Cleared reads where
  closed := by
    show (s.recordFlusher r).1.shared.stream.closed = true
    rw [shared_recordFlusher]
    exact hx.closed h.closed
  call j c hcall := by
    rw [call?_recordFlusher] at hcall
    exact h.call j c hcall
  flusher point hpoint := by
    rw [flusher_recordFlusher] at hpoint
    exact hidle.of_point? hpoint

theorem Guarded.recordFlusher (h : s.Guarded) {r : Shared × Turn Flusher Unit}
    (hr : Settles .flusher Flusher.Holds s.shared r)
    (hidle : s.Cleared false → Flusher.IsIdle r.2) : (s.recordFlusher r).1.Guarded where
  held :=
    { call := fun j c hcall => by
        rw [call?_recordFlusher] at hcall
        rw [shared_recordFlusher]
        exact (h.held.call j c hcall).respects hr.respects Agent.noConfusion
      flusher := fun point hpoint => by
        rw [flusher_recordFlusher] at hpoint
        rw [shared_recordFlusher]
        exact hr.holds point hpoint }
  passed j hcall := by
    rw [call?_recordFlusher] at hcall
    have hcleared := h.passed j hcall
    exact hcleared.recordFlusher hr.respects (hidle hcleared)

/-! ### Calls -/

theorem Cleared.read (h : s.Cleared reads) (id : Nat) (buffer : Bytes) :
    (s.read id buffer).1.Cleared reads :=
  h.recordReader (Reader.begin_settles s.shared (.call id) buffer).respects fun _ =>
    Reader.begin_idle h.closed (.call id) buffer

theorem Guarded.read (h : s.Guarded) (id : Nat) (buffer : Bytes) : (s.read id buffer).1.Guarded :=
  h.recordReader (Reader.begin_settles s.shared (.call id) buffer)

theorem Cleared.write (h : s.Cleared reads) (now id : Nat) (message : Bytes) :
    (s.write now id message).1.Cleared reads :=
  h.recordWriter (Writer.begin_settles s.shared (.call id) now message).respects
    (Writer.begin_idle h.closed (.call id) now message)

theorem Guarded.write (h : s.Guarded) (now id : Nat) (message : Bytes) :
    (s.write now id message).1.Guarded :=
  h.recordWriter (Writer.begin_settles s.shared (.call id) now message) fun hcleared =>
    Writer.begin_idle hcleared.closed (.call id) now message

/-- Who waits for the flusher is not what these are about. -/
theorem Cleared.unjoinable (h : s.Cleared reads) :
    ({ s with joinable := false } : Session).Cleared reads :=
  ⟨h.closed, h.call, h.flusher⟩

theorem Guarded.unjoinable (h : s.Guarded) : ({ s with joinable := false } : Session).Guarded :=
  ⟨⟨h.held.call, h.held.flusher⟩, fun id hcall => (h.passed id hcall).unjoinable⟩

theorem Cleared.close (h : s.Cleared reads) (id : Nat) : (s.close id).1.Cleared reads :=
  h.unjoinable.recordCloser (Closer.begin_settles s.shared (.call id) s.joinable).respects

theorem Guarded.close (h : s.Guarded) (id : Nat) : (s.close id).1.Guarded :=
  h.unjoinable.recordCloser (Closer.begin_settles s.shared (.call id) s.joinable)
    (Closer.closed_begin s.shared (.call id) s.joinable)
    (Closer.begin_passes s.shared (.call id) s.joinable) False.elim

/-! ### Turns -/

/-- The agent is told that it owns the section that it waits for only if it does. -/
structure Grants (s : Session) (me : Agent) (signal : Signal) : Prop where
  /-- The section for writing. -/
  writing : s.wait? me = some .writing → signal = .granted → s.shared.writing.owner = some me
  /-- The section for reading. -/
  reading : s.wait? me = some .reading → signal = .granted → s.shared.reading.owner = some me

variable {me : Agent} {signal : Signal}

theorem Held.settles_reader (h : s.Held) {buffer : Bytes} {point : Reader}
    (hcall : s.call? id = some (.reading buffer point)) (hgrants : s.Grants (.call id) signal)
    (now : Nat) : Settles (.call id) (Reader.Holds (.call id)) s.shared
      (Reader.resume s.shared (.call id) buffer now point signal) := by
  apply Reader.resume_settles (h.call id _ hcall) buffer now
  rintro hsignal rfl
  exact hgrants.reading (wait?_of_call? hcall) hsignal

theorem Held.settles_writer (h : s.Held) {point : Writer}
    (hcall : s.call? id = some (.writing point)) (hgrants : s.Grants (.call id) signal)
    (now : Nat) : Settles (.call id) (Writer.Holds (.call id)) s.shared
      (Writer.resume s.shared (.call id) now point signal) := by
  apply Writer.resume_settles (h.call id _ hcall) now
  rintro message hsignal rfl
  exact hgrants.writing (wait?_of_call? hcall) hsignal

theorem Grants.passes_closer {point : Closer} (hgrants : s.Grants (.call id) signal)
    (hcall : s.call? id = some (.closing point)) :
    Closer.Passes (.call id) s.shared (point = .enteringReading)
      (Closer.resume s.shared (.call id) point signal).2 := by
  apply Closer.resume_passes
  · rintro rfl hsignal
    exact hgrants.writing (wait?_of_call? hcall) hsignal
  · rintro rfl hsignal
    exact hgrants.reading (wait?_of_call? hcall) hsignal

/-- **Whoever was driven out does not come back.** -/
theorem Cleared.resume (h : s.Cleared reads) (hheld : s.Held) (hgrants : s.Grants me signal)
    (now : Nat) : (s.resume now me signal).1.Cleared reads := by
  unfold Session.resume
  cases me with
  | flusher =>
    simp only
    cases hpoint : s.flusher with
    | none => exact h
    | some point =>
      exact h.recordFlusher
        (Flusher.resume_settles (hheld.flusher point hpoint) now signal).respects
        (Flusher.resume_idle h.closed (h.flusher point hpoint) now signal)
  | call id =>
    simp only
    cases hcall : s.call? id with
    | none => exact h
    | some c =>
      have hquiet := h.call id c hcall
      cases c with
      | reading buffer point =>
        apply h.recordReader (hheld.settles_reader hcall hgrants now).respects
        rintro rfl
        exact Reader.resume_idle h.closed hquiet (.call id) buffer now signal
      | writing point =>
        exact h.recordWriter (hheld.settles_writer hcall hgrants now).respects
          (Writer.resume_idle h.closed (hheld.call id _ hcall) hquiet now signal)
      | closing point =>
        exact h.recordCloser
          (Closer.resume_settles (hheld.call id _ hcall) (.call id) signal).respects

/-- **A turn** keeps a session guarded. -/
theorem Guarded.resume (h : s.Guarded) (hgrants : s.Grants me signal) (now : Nat) :
    (s.resume now me signal).1.Guarded := by
  unfold Session.resume
  cases me with
  | flusher =>
    simp only
    cases hpoint : s.flusher with
    | none => exact h
    | some point =>
      refine h.recordFlusher (Flusher.resume_settles (h.held.flusher point hpoint) now signal)
        fun hcleared => ?_
      exact Flusher.resume_idle hcleared.closed (hcleared.flusher point hpoint) now signal
  | call id =>
    simp only
    cases hcall : s.call? id with
    | none => exact h
    | some c =>
      -- a reader may still be at work where a closer waits for it: only writers have to be idle
      cases c with
      | reading buffer point => exact h.recordReader (h.held.settles_reader hcall hgrants now)
      | writing point =>
        refine h.recordWriter (h.held.settles_writer hcall hgrants now) fun hcleared => ?_
        exact Writer.resume_idle hcleared.closed (h.held.call id _ hcall)
          (hcleared.call id _ hcall) now signal
      | closing point =>
        have hclosed : point.Holds s.shared := h.held.call id _ hcall
        have hr := Closer.resume_settles hclosed (.call id) signal
        apply h.recordCloser hr (hr.respects.closed hclosed) (hgrants.passes_closer hcall)
        rintro rfl
        exact h.passed id hcall

/-! ### The end -/

/-- Whether the agent is a close. -/
def isClosing (s : Session) : Agent → Bool
  | .flusher => false
  | .call id =>
    match s.call? id with
    | some (.closing _) => true
    | _ => false

theorem isFinal_record {closes : Bool}
    (hidle : turn.IsIdle (fun _ => True) (Result.IsFinal closes)) :
    (s.record id x turn).2.IsFinal closes := by
  cases hidle with
  | waits => exact .waits
  | returns h => exact .returns h

theorem isFinal_recordReader {buffer : Bytes} {r : Shared × Turn Reader Reader.Outcome}
    (hidle : Reader.IsIdle r.2) : (s.recordReader id buffer r).2.IsFinal false := by
  apply isFinal_record
  apply hidle.map _ _ fun _ _ => trivial
  rintro outcome rfl
  exact .refused

theorem isFinal_recordWriter {r : Shared × Turn Writer Writer.Outcome} (hidle : Writer.IsIdle r.2) :
    (s.recordWriter id r).2.IsFinal false := by
  apply isFinal_record
  apply hidle.map _ _ fun _ _ => trivial
  rintro outcome rfl
  exact .refused

theorem isFinal_recordCloser {r : Shared × Turn Closer Unit}
    (hidle : r.2.IsIdle (fun _ => True) fun _ => True) :
    (s.recordCloser id r).2.IsFinal true :=
  isFinal_record (hidle.map _ _ (fun _ _ => trivial) fun _ _ => .closed rfl)

theorem isFinal_recordFlusher {r : Shared × Turn Flusher Unit} (hidle : Flusher.IsIdle r.2) :
    (s.recordFlusher r).2.IsFinal false := by
  obtain ⟨x, turn⟩ := r
  cases hidle <;> exact .waits

/-- **Nothing is done any more** in the turns of those who are left. -/
theorem Cleared.isFinal_resume (h : s.Cleared true) (hheld : s.Held) (hgrants : s.Grants me signal)
    (now : Nat) : (s.resume now me signal).2.IsFinal (s.isClosing me) := by
  unfold Session.resume isClosing
  cases me with
  | flusher =>
    simp only
    cases hpoint : s.flusher with
    | none => exact .waits
    | some point =>
      exact isFinal_recordFlusher
        (Flusher.resume_idle h.closed (h.flusher point hpoint) now signal)
  | call id =>
    simp only
    cases hcall : s.call? id with
    | none => exact .waits
    | some c =>
      have hquiet := h.call id c hcall
      cases c with
      | reading buffer point =>
        exact isFinal_recordReader
          (Reader.resume_idle h.closed hquiet (.call id) buffer now signal)
      | writing point =>
        exact isFinal_recordWriter
          (Writer.resume_idle h.closed (hheld.call id _ hcall) hquiet now signal)
      | closing point => exact isFinal_recordCloser (hgrants.passes_closer hcall).idle

/-- A read that is called on a closed stream is refused at once. -/
theorem snd_read_of_closed (h : s.stream.closed = true) (id : Nat) (buffer : Bytes) :
    (s.read id buffer).2 = .returns id (.failed .streamClosed) := by
  unfold read
  rw [Reader.begin_of_closed h]
  rfl

/-- So is a write. -/
theorem snd_write_of_closed (h : s.stream.closed = true) (now id : Nat) (message : Bytes) :
    (s.write now id message).2 = .returns id (.failed .streamClosed) := by
  unfold write
  rw [Writer.begin_of_closed h]
  rfl

theorem isFinal_close (s : Session) (id : Nat) : (s.close id).2.IsFinal true :=
  isFinal_recordCloser (Closer.begin_passes s.shared (.call id) s.joinable).idle

/-- Nobody waits for the socket to take a datagram any more. -/
theorem Cleared.wait?_ne_sending (h : s.Cleared true) (me : Agent) (limit : Option Nat) :
    s.wait? me ≠ some (.sending limit) := by
  intro hwait
  cases me with
  | flusher =>
    obtain ⟨point, hpoint, heq⟩ := Option.map_eq_some_iff.mp hwait
    have hquiet := h.flusher point hpoint
    cases point with
    | waiting tick => cases heq
    | flushing tick flush => cases hquiet
  | call id =>
    obtain ⟨c, hcall, heq⟩ := Option.map_eq_some_iff.mp hwait
    have hquiet := h.call id c hcall
    cases c with
    | reading buffer point =>
      cases point with
      | acking datagram again => cases hquiet
      | replying datagram => cases hquiet
      | _ => cases heq
    | writing point =>
      cases point with
      | entering message => cases heq
      | _ => cases hquiet
    | closing point => cases point <;> cases heq

/-! ### The first close that returns -/

theorem recordReader_ne_closed (s : Session) (id : Nat) (buffer : Bytes)
    (r : Shared × Turn Reader Reader.Outcome) (k : Nat) :
    (s.recordReader id buffer r).2 ≠ .returns k .closed := by
  obtain ⟨x, turn⟩ := r
  rcases turn with point | ⟨point, datagram⟩ | outcome
  · exact Outcome.noConfusion
  · exact Outcome.noConfusion
  · intro heq
    rcases outcome with failure | ⟨length, message⟩ <;> cases heq

theorem recordWriter_ne_closed (s : Session) (id : Nat) (r : Shared × Turn Writer Writer.Outcome)
    (k : Nat) : (s.recordWriter id r).2 ≠ .returns k .closed := by
  obtain ⟨x, turn⟩ := r
  rcases turn with point | ⟨point, datagram⟩ | outcome
  · exact Outcome.noConfusion
  · exact Outcome.noConfusion
  · intro heq
    rcases outcome with failure | done <;> cases heq

theorem recordFlusher_ne_returns (s : Session) (r : Shared × Turn Flusher Unit) (k : Nat)
    (result : Result) : (s.recordFlusher r).2 ≠ .returns k result := by
  obtain ⟨x, turn⟩ := r
  cases turn <;> exact Outcome.noConfusion

theorem eq_returns_of_recordCloser {s : Session} {r : Shared × Turn Closer Unit} {k : Nat}
    {result : Result} (h : (s.recordCloser id r).2 = .returns k result) : r.2 = .returns () := by
  obtain ⟨x, turn⟩ := r
  cases turn with
  | returns done => rfl
  | _ => cases h

/-- **A close that returns at once** has nobody to wait for. -/
theorem Guarded.cleared_of_close (h : s.Guarded) {k : Nat} {result : Result}
    (hreturns : (s.close id).2 = .returns k result) : (s.close id).1.Cleared true :=
  h.unjoinable.cleared_of_returns (Closer.closed_begin s.shared (.call id) s.joinable)
    (Closer.begin_passes s.shared (.call id) s.joinable) False.elim
    (eq_returns_of_recordCloser hreturns)

/-- **A close that returns later** has waited for all others. -/
theorem Guarded.cleared_of_resume (h : s.Guarded) (hgrants : s.Grants me signal) {now k : Nat}
    (hreturns : (s.resume now me signal).2 = .returns k .closed) :
    (s.resume now me signal).1.Cleared true := by
  unfold Session.resume at hreturns ⊢
  cases me with
  | flusher =>
    simp only at hreturns
    split at hreturns
    · cases hreturns
    · exact absurd hreturns (recordFlusher_ne_returns _ _ _ _)
  | call id =>
    simp only at hreturns ⊢
    cases hcall : s.call? id with
    | none =>
      rw [hcall] at hreturns
      cases hreturns
    | some c =>
      rw [hcall] at hreturns
      cases c with
      | reading buffer point => exact absurd hreturns (recordReader_ne_closed _ _ _ _ _)
      | writing point => exact absurd hreturns (recordWriter_ne_closed _ _ _ _)
      | closing point =>
        have hclosed : point.Holds s.shared := h.held.call id _ hcall
        have hr := Closer.resume_settles hclosed (.call id) signal
        apply h.cleared_of_returns (hr.respects.closed hclosed) (hgrants.passes_closer hcall)
        · rintro rfl
          exact h.passed id hcall
        · exact eq_returns_of_recordCloser hreturns

end Session

end Redelivery
