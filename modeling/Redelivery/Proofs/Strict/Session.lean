import Redelivery.Proofs.Session.Attentive
import Redelivery.Proofs.Strict.Agents

/-!
# Sessions without safety nets

The steps of a session once more, with strict turns of its agents. A session is *sound* if its
stream is and all of its agents have with them what fits into segments and datagrams. The strict
steps of a sound session have the results of the plain ones, and lead to sound sessions again.

## Main definitions

* `Session.Sound`: sessions with a sound stream.
* `Session.Strict.establish`, `Session.Strict.read`, `Session.Strict.write`,
  `Session.Strict.resume`: strict steps. The steps that are left out never fail: a close and the
  turns of closers touch sections and flags only, and so does whoever abandons a call.

## Main statements

* `Session.Sound.read`, `Session.Sound.write`, `Session.Sound.resume`: strict steps have results.
* `Session.Sound.establish`, `Session.Sound.close`, `Session.Sound.cancel`: sessions are sound and
  stay so.

A session adds no operation of its own that could fail. So a strict step is a strict turn and what
is recorded of it, and `Session.Sound.succeeds_record` turns the one into the other for all kinds of
agents. What has to be kept on the way is that all calls fit, not only the one that had the turn;
the others are where they were.

That only strict steps of reads, writes and the flusher are defined is no loss: a closer's turn
leaves the stream as it is (`Closer.stream_resume`), and so does a call that is abandoned, but for
the buffer that it returns.
-/

namespace Redelivery

variable {settings : ValidSettings}

/-- What the call has with it fits. -/
def Call.Fits (settings : ValidSettings) : Call → Prop
  | reading _ _ => True
  | writing point => point.Fits settings
  | closing _ => True

theorem Call.fits_reading (buffer : Bytes) (point : Reader) :
    (Call.reading buffer point).Fits settings :=
  trivial

theorem Call.fits_writing {point : Writer} (h : point.Fits settings) :
    (Call.writing point).Fits settings :=
  h

theorem Call.fits_closing (point : Closer) : (Call.closing point).Fits settings :=
  trivial

/-! ## Closers -/

namespace Closer

theorem stream_passReading (x : Shared) (me : Agent) : (passReading x me).1.stream = x.stream := by
  unfold passReading
  split <;> rfl

theorem stream_passWriting (x : Shared) (me : Agent) : (passWriting x me).1.stream = x.stream := by
  unfold passWriting
  split
  · exact stream_passReading x me
  · rfl

theorem stream_begin (x : Shared) (me : Agent) (joins : Bool) :
    (begin x me joins).1.stream = x.stream.shut := by
  unfold begin
  cases joins with
  | true => rfl
  | false => exact stream_passWriting { x with stream := x.stream.shut } me

/-- A closer that goes on does nothing to the stream. -/
theorem stream_resume (x : Shared) (me : Agent) (point : Closer) (signal : Signal) :
    (resume x me point signal).1.stream = x.stream := by
  unfold resume
  split
  · exact stream_passWriting x me
  · exact stream_passReading (x.leaveWriting me) me
  · rfl
  · rfl

end Closer

/-! ## Sessions -/

namespace Session

/-- The stream is sound, and what its agents have with them fits. -/
structure Sound (settings : ValidSettings) (s : Session) : Prop where
  /-- The stream. -/
  stream : s.stream.Sound settings
  /-- The calls. -/
  calls : ∀ id c, s.call? id = some c → c.Fits settings
  /-- The flusher. -/
  flusher : ∀ point, s.flusher = some point → point.Fits settings

namespace Strict

/-- The session of a stream that is established now. -/
def establish (stream : Stream) (now : Nat) : Option Session := do
  let flusher ← Flusher.Strict.begin stream.settings now
  some { shared := { stream := stream }, flusher := some flusher }

/-- A read into a buffer, as a call with the given number. -/
def read (s : Session) (id : Nat) (buffer : Bytes) : Option (Session × Outcome) :=
  (Reader.Strict.begin s.shared (.call id) buffer).map (s.recordReader id buffer)

/-- A write, as a call with the given number. -/
def write (s : Session) (now id : Nat) (message : Bytes) : Option (Session × Outcome) :=
  (Writer.Strict.begin s.shared (.call id) now message).map (s.recordWriter id)

/-- The turn that a signal gives to an agent. -/
def resume (s : Session) (now : Nat) (me : Agent) (signal : Signal) :
    Option (Session × Outcome) :=
  match me with
  | .flusher =>
    match s.flusher with
    | none => some (s, .waits)
    | some point => (Flusher.Strict.resume s.shared now point signal).map s.recordFlusher
  | .call id =>
    match s.call? id with
    | none => some (s, .waits)
    | some (.reading buffer point) =>
      (Reader.Strict.resume s.shared me buffer now point signal).map (s.recordReader id buffer)
    | some (.writing point) =>
      (Writer.Strict.resume s.shared me now point signal).map (s.recordWriter id)
    | some (.closing point) => some (s.recordCloser id (Closer.resume s.shared me point signal))

end Strict

/-- The strict step has the result of the plain step, which leaves a sound session. The datagram
that is handed to the socket is proper. -/
structure Succeeds (settings : ValidSettings) (strict : Option (Session × Outcome))
    (plain : Session × Outcome) : Prop where
  /-- The results are the same. -/
  eq : strict = some plain
  /-- The session is sound. -/
  sound : plain.1.Sound settings
  /-- The datagram is proper. -/
  proper : ∀ d, plain.2.handed? = some d → d.Proper settings

namespace Sound

variable {s : Session}

/-- A session stays sound by what is recorded of a turn. -/
theorem record (h : s.Sound settings) (id : Nat) {x : Shared} {turn : Turn Call Result}
    (hstream : x.stream.Sound settings)
    (hfits : ∀ c, turn.point? = some c → c.Fits settings) :
    (s.record id x turn).1.Sound settings where
  stream := by rwa [stream_record]
  calls j c hc := by
    by_cases hj : j = id
    · rw [hj, call?_record] at hc
      exact hfits c hc
    · rw [call?_record_of_ne _ hj] at hc
      exact h.calls j c hc
  flusher point hpoint := by
    rw [flusher_record] at hpoint
    exact h.flusher point hpoint

/-- A turn that succeeds is recorded as a step that succeeds. -/
theorem succeeds_record {π ρ : Type} {fits : π → Prop} {strict : Option (Shared × Turn π ρ)}
    {plain : Shared × Turn π ρ} (h : s.Sound settings) (id : Nat)
    (hturn : Redelivery.Succeeds settings fits strict plain) {f : π → Call} {g : ρ → Result}
    (hf : ∀ point, fits point → (f point).Fits settings)
    {recordTurn : Shared × Turn π ρ → Session × Outcome}
    (hrecord : ∀ r, recordTurn r = s.record id r.1 (r.2.map f g)) :
    Succeeds settings (strict.map recordTurn) (recordTurn plain) where
  eq := by rw [hturn.eq, Option.map_some]
  sound := by
    rw [hrecord]
    refine h.record id hturn.sound fun c hc => ?_
    obtain ⟨point, hpoint, rfl⟩ := Turn.point?_map_eq_some_iff.mp hc
    exact hf point (hturn.fits point hpoint)
  proper d hd := by
    rw [hrecord, handed?_record, Turn.handed?_map] at hd
    exact hturn.proper d hd

/-- **A call of read** succeeds. -/
theorem read (h : s.Sound settings) (id : Nat) (buffer : Bytes) :
    Succeeds settings (Strict.read s id buffer) (s.read id buffer) :=
  h.succeeds_record id (Reader.begin_succeeds h.stream (.call id) buffer)
    (fun point _ => Call.fits_reading buffer point) fun _ => rfl

/-- **A call of write** succeeds. -/
theorem write (h : s.Sound settings) (now id : Nat) (message : Bytes) :
    Succeeds settings (Strict.write s now id message) (s.write now id message) :=
  h.succeeds_record id (Writer.begin_succeeds h.stream (.call id) now message)
    (fun _ hpoint => Call.fits_writing hpoint) fun _ => rfl

/-- What is recorded of a closer's turn succeeds. Closers hand nothing to the socket. -/
theorem recordCloser (h : s.Sound settings) (id : Nat) {turn : Shared × Turn Closer Unit}
    (hstream : turn.1.stream.Sound settings) (hhanded : turn.2.handed? = none) :
    Succeeds settings (some (s.recordCloser id turn)) (s.recordCloser id turn) where
  eq := rfl
  sound := h.record id hstream fun c hc => by
    obtain ⟨point, -, rfl⟩ := Turn.point?_map_eq_some_iff.mp hc
    exact Call.fits_closing point
  proper d hd := by
    unfold Session.recordCloser at hd
    rw [handed?_record, Turn.handed?_map, hhanded] at hd
    cases hd

/-- **A call of close** succeeds. -/
theorem close (h : s.Sound settings) (id : Nat) :
    Succeeds settings (some (s.close id)) (s.close id) := by
  have hstream := h.stream
  have hunjoinable : ({ s with joinable := false } : Session).Sound settings :=
    ⟨h.stream, h.calls, h.flusher⟩
  refine hunjoinable.recordCloser id ?_ (Closer.begin_yields s.shared (.call id) s.joinable).2
  rw [Closer.stream_begin]
  exact hstream.congr rfl rfl rfl hstream.size_le

/-- Whoever abandons a call leaves a session sound. -/
theorem cancel (h : s.Sound settings) (id : Nat) : (s.cancel id).Sound settings := by
  have hstream := h.stream
  unfold Session.cancel
  cases hcall : s.call? id with
  | none => exact h
  | some c =>
    refine ⟨hstream.congr rfl rfl rfl hstream.size_le, fun j d hd => ?_, h.flusher⟩
    rw [call?_forget] at hd
    obtain ⟨-, hd⟩ := Option.ite_none_left_eq_some.mp hd
    exact h.calls j d hd

/-- What is recorded of a turn of the flusher that succeeds does so, too. -/
theorem recordFlusher (h : s.Sound settings) {strict : Option (Shared × Turn Flusher Unit)}
    {plain : Shared × Turn Flusher Unit}
    (hturn : Redelivery.Succeeds settings (Flusher.Fits settings) strict plain) :
    Succeeds settings (strict.map s.recordFlusher) (s.recordFlusher plain) where
  eq := by rw [hturn.eq, Option.map_some]
  sound :=
    { stream := by
        show (s.recordFlusher plain).1.shared.stream.Sound settings
        rw [shared_recordFlusher]
        exact hturn.sound
      calls := fun j c hc => by
        rw [call?_recordFlusher] at hc
        exact h.calls j c hc
      flusher := fun p hp => by
        rw [flusher_recordFlusher] at hp
        exact hturn.fits p hp }
  proper d hd := by
    obtain ⟨x, turn⟩ := plain
    cases turn with
    | waits point => cases hd
    | hands point datagram => exact hturn.proper d hd
    | returns result => cases hd

/-- **A turn of an agent** succeeds, whatever signal it gets. -/
theorem resume (h : s.Sound settings) (now : Nat) (me : Agent) (signal : Signal) :
    Succeeds settings (Strict.resume s now me signal) (s.resume now me signal) := by
  have hstay : Succeeds settings (some (s, .waits)) (s, .waits) :=
    ⟨rfl, h, fun d hd => by cases hd⟩
  cases me with
  | flusher =>
    unfold Strict.resume Session.resume
    cases hpoint : s.flusher with
    | none => exact hstay
    | some point =>
      exact h.recordFlusher (Flusher.resume_succeeds h.stream now (h.flusher point hpoint) signal)
  | call id =>
    unfold Strict.resume Session.resume
    cases hcall : s.call? id with
    | none =>
      simp only [hcall]
      exact hstay
    | some c =>
      have hfits := h.calls id c hcall
      simp only [hcall]
      cases c with
      | reading buffer point =>
        exact h.succeeds_record id
          (Reader.resume_succeeds h.stream (.call id) buffer now point signal)
          (fun p _ => Call.fits_reading buffer p) fun _ => rfl
      | writing point =>
        exact h.succeeds_record id
          (Writer.resume_succeeds h.stream (.call id) now hfits signal)
          (fun _ hp => Call.fits_writing hp) fun _ => rfl
      | closing point =>
        refine h.recordCloser id ?_ (Closer.resume_yields s.shared (.call id) point signal).2
        rw [Closer.stream_resume]
        exact h.stream

/-- A session starts sound. -/
theorem establish (pool : Pool) (traffic : Traffic) (now : Nat) :
    (Session.establish { Stream.establish settings pool with traffic := traffic } now).Sound
      settings where
  stream :=
    have hstream := Stream.Sound.establish settings pool
    hstream.congr rfl rfl rfl hstream.size_le
  calls _ _ hc := by cases hc
  flusher point hpoint := by
    cases hpoint
    exact fun d hd => absurd hd List.not_mem_nil

end Sound

/-- **A session starts**, with its stream. -/
theorem Strict.establish_eq (settings : ValidSettings) (pool : Pool) (now : Nat) :
    (do establish (← Stream.Strict.establish settings pool) now)
      = some (Session.establish (Stream.establish settings pool) now) := by
  unfold establish
  rw [Stream.Strict.establish_eq]
  simp only [Flusher.begin_strict, Option.bind_eq_bind, Option.bind_some]
  rfl

end Session

end Redelivery
