import Mathlib.Logic.Relation
import Redelivery.Proofs.Session.Flush
import Redelivery.Proofs.Session.Orderly
import Redelivery.Proofs.Stream.Effects
import Redelivery.Proofs.Strict.Session

/-!
# The steps that a stream can take

There are only a few things that are ever done to a stream. This file names them, and shows that
whatever an agent does in a turn is a row of them. So what they all keep is kept by all agents, at
all times. Only a reader ever gets on with a message: what the others do are chores.

## Main definitions

* `Stream.Step`: one thing that is done to a stream.
* `Stream.Evolves`: several of them, one after the other.
* `Stream.Withholds`, `Stream.Chores`: the same, and nothing gets to a reader.

## Main statements

* `Stream.Evolves.invariant`: what every step keeps is kept by all of them.
* `Session.evolves_read`, `Session.evolves_write`, `Session.evolves_close`,
  `Session.evolves_resume`, `Session.evolves_cancel`: whatever happens to a session is a row of
  steps.
* `Session.chores_resume`: it is a row of chores unless a reader has the turn.

A step of a stream is something like: a datagram is taken in, a segment is inserted, the stream is
closed, a buffer goes back to the pool. Each function of an agent is a row of such steps, and there
is one lemma for each function, which only names them. An invariant of streams is then shown for ten
or so steps and not for every function of every agent; `Evolves.invariant` is the induction, done
once.

`Chores` keeps a second account along the way: that nothing has got to a reader. It is closed under
composition like `Evolves`, and all agents but readers get by with it.
-/

namespace Redelivery

namespace Stream

/-- One thing that is done to a stream. -/
inductive Step (s : Stream) : Stream → Prop
  /-- A datagram is taken in. -/
  | receives (now : Nat) (raw : Bytes) : Step s (s.receive now raw).1
  /-- The next message gets on on its way to a reader. -/
  | delivers (buffer : Bytes) : Step s (s.deliver buffer).1
  /-- A new segment is added to the send window. -/
  | inserts {now : Nat} {body : Buffer} {more : Bool} {s' : Stream}
      (h : s.insert? now body more = some s') : Step s s'
  /-- The new segment was sent. -/
  | commits (piggybacked : Nat) : Step s (s.commit piggybacked)
  /-- The new segment is given up. -/
  | abandons : Step s s.abandon
  /-- The stream is closed. -/
  | shuts : Step s s.shut
  /-- The recent minimum of the round trips is remembered. -/
  | remembers : Step s { s with roundTrips := s.roundTrips.remember }
  /-- Buffers come and go, flags are set and cleared, and something is counted. -/
  | notes (pool : Pool) (ackDue roomFreed sentSinceTick : Bool) (traffic : Traffic) :
      Step s
        { s with
          pool := pool
          ackDue := ackDue
          roomFreed := roomFreed
          sentSinceTick := sentSinceTick
          traffic := traffic }

/-- The stream can come to another one, step by step. -/
def Evolves : Stream → Stream → Prop :=
  Relation.ReflTransGen Step

variable {s s' t : Stream}

namespace Evolves

theorem refl (s : Stream) : s.Evolves s :=
  Relation.ReflTransGen.refl

theorem trans (h : s.Evolves t) (h' : t.Evolves s') : s.Evolves s' :=
  Relation.ReflTransGen.trans h h'

theorem of_step (h : s.Step s') : s.Evolves s' :=
  Relation.ReflTransGen.single h

/-- **What every step keeps is kept** by all of them. -/
theorem invariant {P : Stream → Prop} (h : s.Evolves s') (hs : P s)
    (hkeeps : ∀ t u, P t → t.Step u → P u) : P s' := by
  induction h with
  | refl => exact hs
  | tail _ hstep ih => exact hkeeps _ _ ih hstep

end Evolves

/-- Nothing gets to a reader between the two states: no segment is taken out of the receive window,
and the message that is put together stays as it is. -/
structure Withholds (s s' : Stream) : Prop where
  /-- The settings. -/
  settings : s'.settings = s.settings
  /-- The serial number of the next segment to be taken out. -/
  base : s'.receiveWindow.base = s.receiveWindow.base
  /-- The part of the next message. -/
  assembled : s'.assembled = s.assembled
  /-- Whether that is whole. -/
  complete : s'.complete = s.complete
  /-- The end of the stream is final. -/
  closed : s.closed = true → s'.closed = true

namespace Withholds

theorem refl (s : Stream) : s.Withholds s :=
  ⟨rfl, rfl, rfl, rfl, id⟩

theorem trans (h : s.Withholds t) (h' : t.Withholds s') : s.Withholds s' where
  settings := h'.settings.trans h.settings
  base := h'.base.trans h.base
  assembled := h'.assembled.trans h.assembled
  complete := h'.complete.trans h.complete
  closed hclosed := h'.closed (h.closed hclosed)

theorem of_alike (h : s.Alike s') : s.Withholds s' :=
  ⟨h.settings, congrArg Window.base h.receiveWindow, h.assembled, h.complete, h.closed⟩

theorem insert? {now : Nat} {body : Buffer} {more : Bool} (h : s.insert? now body more = some s') :
    s.Withholds s' := by
  unfold Stream.insert? at h
  split at h
  · cases h
    exact ⟨rfl, rfl, rfl, rfl, id⟩
  · cases h
    exact of_alike (s.alike_giveBack body)
  · cases h

theorem abandon (s : Stream) : s.Withholds s.abandon := by
  unfold Stream.abandon
  split
  · exact ⟨rfl, rfl, rfl, rfl, fun _ => rfl⟩
  · exact of_alike s.alike_shut

/-- What arrives waits in the receive window. -/
theorem receive (s : Stream) (now : Nat) (raw : Bytes) : s.Withholds (s.receive now raw).1 := by
  rw [receive_eq]
  refine (of_alike (s.alike_taking raw)).trans ?_
  unfold process
  cases Header.ofDatagram? (raw.take s.settings.mtu) with
  | none => exact ⟨rfl, rfl, rfl, rfl, id⟩
  | some found =>
    obtain ⟨header, payload⟩ := found
    cases header with
    | data =>
      -- only segments get to the receive window, and none of them moves its base
      obtain ⟨_, _, found, pool, -, -, heq⟩ := (s.taking raw).exists_processData_eq now payload
      simp only [heq]
      exact ⟨rfl, Window.base_offerAll _ _, rfl, rfl, id⟩
    | _ => exact ⟨rfl, rfl, rfl, rfl, id⟩

end Withholds

/-- The stream can come to another one, step by step, and nothing gets to a reader in that. -/
structure Chores (s s' : Stream) : Prop where
  /-- There are steps that lead there. -/
  evolves : s.Evolves s'
  /-- None of them gets on with a message. -/
  withholds : s.Withholds s'

namespace Chores

theorem refl (s : Stream) : s.Chores s :=
  ⟨.refl s, .refl s⟩

theorem trans (h : s.Chores t) (h' : t.Chores s') : s.Chores s' :=
  ⟨h.evolves.trans h'.evolves, h.withholds.trans h'.withholds⟩

theorem of_step (h : s.Step s') (hwithholds : s.Withholds s') : s.Chores s' :=
  ⟨.of_step h, hwithholds⟩

theorem receive (s : Stream) (now : Nat) (raw : Bytes) : s.Chores (s.receive now raw).1 :=
  .of_step (.receives now raw) (.receive s now raw)

theorem insert? {now : Nat} {body : Buffer} {more : Bool} (h : s.insert? now body more = some s') :
    s.Chores s' :=
  .of_step (.inserts h) (.insert? h)

theorem commit (s : Stream) (piggybacked : Nat) : s.Chores (s.commit piggybacked) :=
  .of_step (.commits piggybacked) ⟨rfl, rfl, rfl, rfl, id⟩

theorem abandon (s : Stream) : s.Chores s.abandon :=
  .of_step .abandons (.abandon s)

theorem shut (s : Stream) : s.Chores s.shut :=
  .of_step .shuts (.of_alike s.alike_shut)

theorem notes (s : Stream) (pool : Pool) (ackDue roomFreed sentSinceTick : Bool)
    (traffic : Traffic) :
    s.Chores
      { s with
        pool := pool
        ackDue := ackDue
        roomFreed := roomFreed
        sentSinceTick := sentSinceTick
        traffic := traffic } :=
  .of_step (.notes pool ackDue roomFreed sentSinceTick traffic) ⟨rfl, rfl, rfl, rfl, id⟩

theorem countSent (s : Stream) (datagram : Bytes) : s.Chores (s.countSent datagram) :=
  .notes s s.pool s.ackDue s.roomFreed s.sentSinceTick _

theorem pooled (s : Stream) (pool : Pool) : s.Chores { s with pool := pool } :=
  .notes s pool s.ackDue s.roomFreed s.sentSinceTick s.traffic

theorem control (s : Stream) (header : Header) : s.Chores (s.control header).2 :=
  .pooled s _

theorem acknowledge (s : Stream) : s.Chores s.acknowledge.2 :=
  .notes s _ false s.roomFreed s.sentSinceTick s.traffic

theorem flushDatagrams (s : Stream) (now : Nat) : s.Chores (s.flushDatagrams now).2 := by
  obtain ⟨pool, heq⟩ := s.snd_flushDatagrams now
  rw [heq]
  exact (of_step .remembers ⟨rfl, rfl, rfl, rfl, id⟩).trans (.pooled _ pool)

theorem segmentDatagram (s : Stream) : s.Chores s.segmentDatagram.2 := by
  obtain ⟨pool, heq⟩ := s.snd_segmentDatagram
  rw [heq]
  exact .pooled s pool

end Chores

end Stream

variable {s : Stream} {x x' : Shared} {me : Agent} {now : Nat}

/-! ## Readers -/

namespace Reader

theorem evolves_acknowledge (h : s.Evolves x.stream) (again : Bool) :
    s.Evolves (acknowledge x again).1.stream := by
  rw [acknowledge_eq_hands]
  exact h.trans (Stream.Chores.acknowledge x.stream).evolves

theorem evolves_proceed (h : s.Evolves x.stream) (me : Agent) (buffer : Bytes) :
    s.Evolves (proceed x me buffer).1.stream := by
  have hdeliver := h.trans (.of_step (.delivers buffer))
  unfold proceed
  split
  · exact h
  · split <;> rename_i heq <;> rw [heq] at hdeliver
    · exact hdeliver
    · exact hdeliver
    · exact evolves_acknowledge (x := { x with stream := _ }) hdeliver true
    · simp only
      split
      · exact evolves_acknowledge (x := { x with stream := _ }) hdeliver false
      · exact hdeliver

theorem evolves_accept (x : Shared) (me : Agent) (buffer : Bytes) (now : Nat) (arrival : Arrival) :
    x.stream.Evolves (accept x me buffer now arrival).1.stream := by
  cases arrival with
  | fault reason => exact .refl _
  | datagram raw =>
    have hreceive := (Stream.Chores.receive x.stream now raw).evolves
    unfold accept
    simp only
    split
    · rename_i s' heq
      rw [heq] at hreceive
      exact evolves_proceed (x := { x with stream := s' }) hreceive me buffer
    · rename_i s' header heq
      rw [heq] at hreceive
      have hcontrol := hreceive.trans (Stream.Chores.control s' header).evolves
      split <;> rename_i heq' <;> rw [heq'] at hcontrol
      · exact hcontrol
      · exact evolves_proceed (x := { x with stream := _ }) hcontrol me buffer

theorem evolves_begin (x : Shared) (me : Agent) (buffer : Bytes) :
    x.stream.Evolves (begin x me buffer).1.stream := by
  unfold begin
  split
  · exact .refl _
  · simp only
    split
    · exact evolves_proceed (x := { x with reading := x.reading.enter me }) (.refl _) me buffer
    · exact .refl _

/-- **A turn of a reader** is a row of steps. -/
theorem evolves_resume (x : Shared) (me : Agent) (buffer : Bytes) (now : Nat) (point : Reader)
    (signal : Signal) : x.stream.Evolves (resume x me buffer now point signal).1.stream := by
  -- two ways to go on: at once, or after a datagram was counted that has gone out
  have hself : x.stream.Evolves (proceed x me buffer).1.stream :=
    evolves_proceed (.refl _) me buffer
  have hsent (datagram : Bytes) : x.stream.Evolves
      (proceed { x with stream := x.stream.countSent datagram } me buffer).1.stream :=
    evolves_proceed (x := { x with stream := _ })
      (Stream.Chores.countSent x.stream datagram).evolves me buffer
  unfold resume
  split
  · exact hself
  · rename_i datagram again
    cases again with
    | true => exact hsent datagram
    | false => exact (Stream.Chores.countSent x.stream datagram).evolves
  · rename_i again _
    cases again with
    | true => exact hself
    | false => exact .refl _
  · exact evolves_accept x me buffer now _
  · exact .refl _
  · exact hsent _
  · exact hself
  · exact .refl _

end Reader

/-! ## Flushes -/

namespace Flush

theorem chores_begin (s : Stream) (now : Nat) : s.Chores (begin s now).1 := by
  have h := Stream.Chores.flushDatagrams s now
  unfold begin
  split <;> rename_i heq <;> rwa [heq] at h

theorem chores_sent (f : Flush) (s : Stream) : s.Chores (f.sent s).1 := by
  unfold sent
  simp only
  split
  · exact .notes s s.pool s.ackDue s.roomFreed s.sentSinceTick _
  · exact .countSent s f.current

end Flush

/-! ## Writers -/

namespace Writer

variable {job : Job}

theorem chores_fail (h : s.Chores x.stream) (me : Agent) (begun : Bool) (failure : Failure) :
    s.Chores (fail x me begun failure).1.stream := by
  unfold fail
  cases begun with
  | false => exact h
  | true => exact h.trans (.shut x.stream)

theorem chores_failWith (h : s.Chores x.stream) (me : Agent) (job : Job) (failure : Failure) :
    s.Chores (failWith x me job failure).1.stream :=
  chores_fail (x := { x with stream := _ }) (h.trans (.pooled x.stream _)) me job.begun failure

theorem chores_flushed (h : s.Chores x.stream) (me : Agent) (now : Nat) (job : Job)
    (progress : Flush.Progress) : s.Chores (flushed x me now job progress).1.stream := by
  cases progress with
  | done => exact h
  | going flush => exact h
  | failed failure => exact chores_failWith h me job failure

theorem chores_polled (h : s.Chores x.stream) (me : Agent) (now : Nat) (job : Job) :
    s.Chores (polled x me now job).1.stream := by
  unfold polled
  split
  · exact chores_failWith h me job _
  · exact chores_flushed (x := { x with stream := _ }) (h.trans (Flush.chores_begin x.stream now))
      me now job _

theorem chores_poll (h : s.Chores x.stream) (me : Agent) (now : Nat) (job : Job) :
    s.Chores (poll x me now job).1.stream := by
  have hclear := h.trans (.notes x.stream x.stream.pool x.stream.ackDue false
    x.stream.sentSinceTick x.stream.traffic)
  unfold poll
  simp only
  split
  · exact hclear
  · exact chores_polled (x := { x with stream := _ }) hclear me now job

theorem chores_attempt (h : s.Chores x.stream) (me : Agent) (now : Nat) (job : Job) :
    s.Chores (attempt x me now job).1.stream := by
  unfold attempt
  split
  · rename_i s' hinsert
    have hmade := (h.trans (.insert? hinsert)).trans (.segmentDatagram s')
    split <;> rename_i heq <;> rw [heq] at hmade
    · exact hmade
    · exact chores_fail (x := { x with stream := _ }) hmade me job.begun _
  · split
    · exact chores_failWith h me job _
    · exact chores_poll h me now job

theorem chores_retry (h : s.Chores x.stream) (me : Agent) (now : Nat) (job : Job) :
    s.Chores (retry x me now job).1.stream := by
  unfold retry
  split
  · exact chores_failWith h me job _
  · exact chores_attempt h me now job

theorem chores_proceed (h : s.Chores x.stream) (me : Agent) (now : Nat) (begun : Bool)
    (pieces : List Bytes) : s.Chores (proceed x me now begun pieces).1.stream := by
  unfold proceed
  split
  · exact h
  · split
    · exact chores_fail h me begun _
    · exact chores_attempt (x := { x with stream := _ }) (h.trans (.pooled x.stream _)) me now _

theorem chores_leavePolling (h : s.Chores x.stream) (me : Agent) (now : Nat) (job : Job) :
    s.Chores (leavePolling x me now job).1.stream :=
  chores_polled (x := x.leaveReading me) h me now job

theorem chores_accept (x : Shared) (me : Agent) (now : Nat) (job : Job) (limit : Nat)
    (arrival : Arrival) : x.stream.Chores (accept x me now job limit arrival).1.stream := by
  cases arrival with
  | fault reason => exact chores_leavePolling (.refl _) me now job
  | datagram raw =>
    have hreceive := Stream.Chores.receive x.stream now raw
    unfold accept
    simp only
    split
    · rename_i s' heq
      rw [heq] at hreceive
      exact chores_leavePolling (x := { x with stream := s' }) hreceive me now job
    · rename_i s' header heq
      rw [heq] at hreceive
      have hcontrol := hreceive.trans (.control s' header)
      split <;> rename_i heq' <;> rw [heq'] at hcontrol
      · exact hcontrol
      · exact chores_leavePolling (x := { x with stream := _ }) hcontrol me now job

theorem chores_begin (x : Shared) (me : Agent) (now : Nat) (message : Bytes) :
    x.stream.Chores (begin x me now message).1.stream := by
  rcases begin_cases x me now message with ⟨outcome, heq, -⟩ | ⟨-, -, -, heq⟩
  · rw [heq]
    exact .refl _
  · rw [heq]
    split
    · exact chores_proceed (x := { x with writing := x.writing.enter me }) (.refl _) me now false _
    · exact .refl _

/-- **A turn of a writer** is a row of chores. -/
theorem chores_resume (x : Shared) (me : Agent) (now : Nat) (point : Writer) (signal : Signal) :
    x.stream.Chores (resume x me now point signal).1.stream := by
  have hleave (job : Job) : x.stream.Chores (leavePolling x me now job).1.stream :=
    chores_leavePolling (.refl _) me now job
  unfold resume
  split
  · exact chores_proceed (.refl _) me now false _
  · exact chores_accept x me now _ _ _
  · exact hleave _
  · exact hleave _
  · exact chores_leavePolling (x := { x with stream := _ }) (.countSent x.stream _) me now _
  · exact hleave _
  · exact hleave _
  · exact chores_flushed (x := { x with stream := _ }) (Flush.chores_sent _ x.stream) me now _ _
  · exact chores_flushed (x := { x with stream := _ }) (.shut x.stream) me now _ _
  · exact chores_retry (.refl _) me now _
  · exact chores_retry (.refl _) me now _
  · exact chores_proceed (x := { x with stream := _ })
      ((Stream.Chores.countSent x.stream _).trans (.commit _ _)) me now true _
  · exact chores_fail (x := { x with stream := _ }) (.abandon x.stream) me false _
  · exact .refl _

end Writer

/-! ## The flusher -/

namespace Flusher

theorem chores_flushed (h : s.Chores x.stream) (tick : Nat) (progress : Flush.Progress) :
    s.Chores (flushed x tick progress).1.stream := by
  cases progress with
  | done => exact h
  | going flush => exact h
  | failed failure => exact h

theorem chores_tick (x : Shared) (now next : Nat) :
    x.stream.Chores (tick x now next).1.stream := by
  unfold tick
  split
  · exact .notes x.stream x.stream.pool x.stream.ackDue x.stream.roomFreed false x.stream.traffic
  · split
    · exact .refl _
    · simp only
      split
      · exact .refl _
      · exact chores_flushed (x := { x with stream := _, writing := _ })
          (Flush.chores_begin x.stream now) next _

/-- **A turn of the flusher** is a row of chores. -/
theorem chores_resume (x : Shared) (now : Nat) (point : Flusher) (signal : Signal) :
    x.stream.Chores (resume x now point signal).1.stream := by
  unfold resume
  split
  · exact chores_tick x now _
  · exact .refl _
  · exact chores_flushed (x := { x with stream := _ }) (Flush.chores_sent _ x.stream) _ _
  · exact chores_flushed (x := { x with stream := _ }) (.shut x.stream) _ _
  · exact .refl _

end Flusher

/-! ## Sessions -/

namespace Session

variable (s : Session)

theorem evolves_read (id : Nat) (buffer : Bytes) :
    s.stream.Evolves (s.read id buffer).1.stream := by
  unfold read recordReader
  rw [stream_record]
  exact Reader.evolves_begin s.shared (.call id) buffer

theorem chores_write (now id : Nat) (message : Bytes) :
    s.stream.Chores (s.write now id message).1.stream := by
  unfold write recordWriter
  rw [stream_record]
  exact Writer.chores_begin s.shared (.call id) now message

theorem chores_close (id : Nat) : s.stream.Chores (s.close id).1.stream := by
  unfold close recordCloser
  rw [stream_record, Closer.stream_begin]
  exact .shut s.stream

theorem chores_cancel (id : Nat) : s.stream.Chores (s.cancel id).stream := by
  unfold cancel
  cases s.call? id with
  | none => exact .refl _
  | some c => exact .pooled s.stream _

/-- **Only readers get on with a message**: the turn of any other agent is a row of chores. -/
theorem chores_resume {s : Session} {me : Agent} (now : Nat) (signal : Signal)
    (hother : ∀ id buffer point, me = .call id → s.call? id ≠ some (.reading buffer point)) :
    s.stream.Chores (s.resume now me signal).1.stream := by
  unfold resume
  cases me with
  | flusher =>
    cases s.flusher with
    | none => exact .refl _
    | some point =>
      show s.stream.Chores (s.recordFlusher _).1.shared.stream
      rw [shared_recordFlusher]
      exact Flusher.chores_resume s.shared now point signal
  | call id =>
    cases hcall : s.call? id with
    | none =>
      simp only [hcall]
      exact .refl _
    | some c =>
      simp only [hcall]
      cases c with
      | reading buffer point => exact absurd hcall (hother id buffer point rfl)
      | writing point =>
        unfold recordWriter
        rw [stream_record]
        exact Writer.chores_resume s.shared (.call id) now point signal
      | closing point =>
        unfold recordCloser
        rw [stream_record, Closer.stream_resume]
        exact .refl _

theorem evolves_write (now id : Nat) (message : Bytes) :
    s.stream.Evolves (s.write now id message).1.stream :=
  (s.chores_write now id message).evolves

theorem evolves_close (id : Nat) : s.stream.Evolves (s.close id).1.stream :=
  (s.chores_close id).evolves

theorem evolves_cancel (id : Nat) : s.stream.Evolves (s.cancel id).stream :=
  (s.chores_cancel id).evolves

/-- **A turn of an agent** is a row of steps. -/
theorem evolves_resume (now : Nat) (me : Agent) (signal : Signal) :
    s.stream.Evolves (s.resume now me signal).1.stream := by
  by_cases hreader : ∃ id buffer point, me = .call id ∧ s.call? id = some (.reading buffer point)
  · obtain ⟨id, buffer, point, rfl, hcall⟩ := hreader
    rw [resume_reading hcall]
    unfold recordReader
    rw [stream_record]
    exact Reader.evolves_resume s.shared (.call id) buffer now point signal
  · -- only readers take steps that are no chores
    refine (chores_resume now signal fun id buffer point hme hcall => hreader ?_).evolves
    exact ⟨id, buffer, point, hme, hcall⟩

end Session

end Redelivery
