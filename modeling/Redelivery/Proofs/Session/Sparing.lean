import Redelivery.Proofs.Session.Reader
import Redelivery.Session

/-!
# Turns that spare the sending half

Of all that happens to a stream, only writers and acknowledgements touch what is to be sent. All
other agents leave the send window and the next serial number as they are, and if the writer that
waits for room has been notified, it stays so. Here this is shown for streams, for flushes and for
all agents but writers; a datagram that an agent receives in its turn is looked at before.

## Main definitions

* `Stream.Spares`: the sending half is the same, and no notice is lost.
* `Stream.ack?`: the acknowledgement in a datagram.
* `Stream.heard`: the stream after what comes with a signal was taken in.

## Main statements

* `Stream.spares_receive`, `Stream.receive_of_ack?`: the effect of a datagram on the sending half.
* `Flush.begin_spares`, `Flush.sent_spares`, `Flush.unsent_spares`: flushes.
* `Reader.begin_spares`, `Reader.resume_spares`, `Closer.begin_spares`, `Closer.resume_spares`,
  `Flusher.resume_spares`: the turns of agents.

`Stream.ack?` finds an acknowledgement before the stream looks at the datagram, and so divides
arrivals in two: without one, the sending half is spared (`spares_receive`); with one,
`receive_of_ack?` tells what becomes of the send window, of the next serial number and of the
notice. No other lemma in the later files opens a datagram to see what it does to the sending half.

For an agent, what comes with the signal is split off by `Stream.heard`: its turn spares the sending
half of the stream that has heard it. The three agents share the lemmas on flushes and on the
stream's own functions, so each of them takes a few lines.
-/

namespace Redelivery

namespace Stream

/-- The two states agree on what is to be sent, and no notice of room has been lost in between. -/
structure Spares (s s' : Stream) : Prop where
  /-- The settings. -/
  settings : s'.settings = s.settings
  /-- The send window. -/
  sendWindow : s'.sendWindow = s.sendWindow
  /-- The next serial number. -/
  next : s'.next = s.next
  /-- The writer that has been notified stays so. -/
  roomFreed : s.roomFreed = true → s'.roomFreed = true

namespace Spares

theorem refl (s : Stream) : s.Spares s :=
  ⟨rfl, rfl, rfl, id⟩

theorem trans {s t u : Stream} (h : s.Spares t) (h' : t.Spares u) : s.Spares u where
  settings := h'.settings.trans h.settings
  sendWindow := h'.sendWindow.trans h.sendWindow
  next := h'.next.trans h.next
  roomFreed hfreed := h'.roomFreed (h.roomFreed hfreed)

end Spares

theorem spares_shut (s : Stream) : s.Spares s.shut :=
  ⟨rfl, rfl, rfl, fun _ => rfl⟩

theorem spares_countSent (s : Stream) (datagram : Bytes) : s.Spares (s.countSent datagram) :=
  ⟨rfl, rfl, rfl, id⟩

theorem spares_compose (s : Stream) (write : Buffer → Except Failure Buffer) :
    s.Spares (s.compose write).2 :=
  ⟨rfl, rfl, rfl, id⟩

theorem spares_control (s : Stream) (header : Header) : s.Spares (s.control header).2 :=
  s.spares_compose _

theorem spares_acknowledge (s : Stream) : s.Spares s.acknowledge.2 :=
  ⟨rfl, rfl, rfl, id⟩

theorem spares_flushDatagrams (s : Stream) (now : Nat) : s.Spares (s.flushDatagrams now).2 := by
  obtain ⟨pool, heq⟩ := s.snd_flushDatagrams now
  rw [heq]
  exact ⟨rfl, rfl, rfl, id⟩

/-- What a reader takes out of the receive window is not to be sent. -/
theorem spares_deliver (s : Stream) (buffer : Bytes) : s.Spares (s.deliver buffer).1 := by
  have hdelivers := s.deliver_delivers buffer
  generalize s.deliver buffer = r at hdelivers ⊢
  cases hdelivers with
  | keeps => exact Spares.refl s
  | empties => exact ⟨rfl, rfl, rfl, id⟩
  | starves => exact Spares.refl s
  | overflows => exact ⟨rfl, rfl, rfl, fun _ => rfl⟩
  | advances => exact ⟨rfl, rfl, rfl, id⟩

/-! ### What is received -/

/-- The acknowledgement that a stream finds in a datagram, if that is one. -/
def ack? (s : Stream) (raw : Bytes) : Option (Serial × UInt32) :=
  match Header.ofDatagram? (s.pool.intake s.settings.mtu raw).1 with
  | some (.ack next received, _) => some (next, received)
  | _ => none

/-- A stream finds the acknowledgement that was sent. -/
theorem ack?_datagram (s : Stream) (next : Serial) (received : UInt32) :
    s.ack? ((Header.ack next received).datagram []) = some (next, received) := by
  unfold ack?
  rw [intake_of_length_le (s.length_datagram_nil_le _), Header.ofDatagram?_datagram]

theorem spares_storeSegment (s : Stream) (t : Segment Bytes) : s.Spares (s.storeSegment t) := by
  obtain ⟨u, pool, heq, -⟩ := s.storeSegment_eq t
  rw [heq]
  exact ⟨rfl, rfl, rfl, id⟩

theorem spares_foldl_storeSegment (s : Stream) (segments : List (Segment Bytes)) :
    s.Spares (segments.foldl storeSegment s) := by
  induction segments generalizing s with
  | nil => exact Spares.refl s
  | cons t rest ih => exact (s.spares_storeSegment t).trans (ih _)

/-- **Nothing but an acknowledgement** touches the sending half. -/
theorem spares_receive {s : Stream} {raw : Bytes} (h : s.ack? raw = none) (now : Nat) :
    s.Spares (s.receive now raw).1 := by
  show s.Spares ((s.taking raw).process now (s.pool.intake s.settings.mtu raw).1).1
  have htaking : s.Spares (s.taking raw) := ⟨rfl, rfl, rfl, id⟩
  unfold ack? at h
  unfold process
  cases hheader : Header.ofDatagram? (s.pool.intake s.settings.mtu raw).1 with
  | none => exact ⟨rfl, rfl, rfl, id⟩
  | some found =>
    obtain ⟨header, payload⟩ := found
    cases header with
    | data =>
      have hstored := htaking.trans (spares_foldl_storeSegment (s.taking raw)
        ((Segment.decodeAll (s.taking raw).settings.maxSegment now payload).1.map (·.1)))
      exact ⟨hstored.settings, hstored.sendWindow, hstored.next, hstored.roomFreed⟩
    | ack next received =>
      rw [hheader] at h
      cases h
    | dial => exact htaking
    | dialAck => exact htaking

/-- **An acknowledgement** goes to the send window, and notifies the writer that waits for room if
it removes anything. -/
theorem receive_of_ack? {s : Stream} {raw : Bytes} {next : Serial} {received : UInt32}
    (h : s.ack? raw = some (next, received)) (now : Nat) :
    (s.receive now raw).1.settings = s.settings ∧ (s.receive now raw).1.next = s.next
      ∧ (s.receive now raw).1.sendWindow = (s.sendWindow.acknowledge next received).window
      ∧ (s.receive now raw).1.roomFreed
        = (s.roomFreed || !(s.sendWindow.acknowledge next received).removed.toList.isEmpty) := by
  show ((s.taking raw).process now (s.pool.intake s.settings.mtu raw).1).1.settings = _
    ∧ ((s.taking raw).process now (s.pool.intake s.settings.mtu raw).1).1.next = _
    ∧ ((s.taking raw).process now (s.pool.intake s.settings.mtu raw).1).1.sendWindow = _
    ∧ ((s.taking raw).process now (s.pool.intake s.settings.mtu raw).1).1.roomFreed = _
  unfold ack? at h
  unfold process
  split at h
  · rename_i found bits rest hheader
    cases h
    rw [hheader]
    exact ⟨rfl, rfl, rfl, rfl⟩
  · cases h

/-- The stream after what comes with a signal was taken in. -/
def heard (s : Stream) (now : Nat) : Signal → Stream
  | .arrived (.datagram raw) => (s.receive now raw).1
  | _ => s

theorem heard_of_ne {s : Stream} {signal : Signal} (h : ∀ arrival, signal ≠ .arrived arrival)
    (now : Nat) : s.heard now signal = s := by
  cases signal with
  | arrived arrival => exact absurd rfl (h arrival)
  | _ => rfl

end Stream

/-! ## Flushes -/

namespace Flush

theorem begin_spares (s : Stream) (now : Nat) : s.Spares (begin s now).1 := by
  have h := s.spares_flushDatagrams now
  unfold begin
  split <;> rename_i heq <;> rwa [heq] at h

theorem sent_spares (f : Flush) (s : Stream) : s.Spares (f.sent s).1 := by
  unfold sent
  simp only
  split <;> exact ⟨rfl, rfl, rfl, id⟩

theorem unsent_spares (f : Flush) (s : Stream) (reason : String) :
    s.Spares (f.unsent s reason).1 :=
  s.spares_shut

end Flush

/-! ## Readers -/

namespace Reader

variable {s : Stream} {x : Shared} {me : Agent} {buffer : Bytes}

theorem acknowledge_spares (h : s.Spares x.stream) (again : Bool) :
    s.Spares (acknowledge x again).1.stream := by
  have hack := h.trans x.stream.spares_acknowledge
  unfold acknowledge
  split <;> rename_i heq <;> rwa [heq] at hack

theorem proceed_spares (h : s.Spares x.stream) (me : Agent) (buffer : Bytes) :
    s.Spares (proceed x me buffer).1.stream := by
  have hdeliver := h.trans (x.stream.spares_deliver buffer)
  unfold proceed
  split
  · exact h
  · split
    · rename_i heq
      rw [heq] at hdeliver
      exact hdeliver
    · rename_i heq
      rw [heq] at hdeliver
      exact hdeliver
    · rename_i s' heq
      rw [heq] at hdeliver
      exact acknowledge_spares (x := { x with stream := s' }) hdeliver true
    · rename_i s' heq
      rw [heq] at hdeliver
      simp only
      split
      · exact acknowledge_spares (x := { x with stream := s' }) hdeliver false
      · exact hdeliver

/-- What a reader receives is taken in; the rest of its turn spares the sending half. -/
theorem accept_spares (x : Shared) (me : Agent) (buffer : Bytes) (now : Nat) (arrival : Arrival) :
    (x.stream.heard now (.arrived arrival)).Spares (accept x me buffer now arrival).1.stream := by
  cases arrival with
  | fault reason => exact Stream.Spares.refl x.stream
  | datagram raw =>
    show (x.stream.receive now raw).1.Spares _
    unfold accept
    simp only
    split
    · rename_i s' heq
      rw [heq]
      exact proceed_spares (x := { x with stream := s' }) (.refl s') me buffer
    · rename_i s' header heq
      rw [heq]
      have hcontrol := s'.spares_control header
      split
      · rename_i datagram s'' heq'
        rwa [heq'] at hcontrol
      · rename_i failure s'' heq'
        rw [heq'] at hcontrol
        exact proceed_spares (x := { x with stream := s'' }) hcontrol me buffer

theorem begin_spares (x : Shared) (me : Agent) (buffer : Bytes) :
    x.stream.Spares (begin x me buffer).1.stream := by
  unfold begin
  split
  · exact Stream.Spares.refl x.stream
  · simp only
    split
    · exact proceed_spares (x := { x with reading := x.reading.enter me }) (.refl x.stream) me
        buffer
    · exact Stream.Spares.refl x.stream

/-- **A turn of a reader** spares the sending half, but for what it receives. -/
theorem resume_spares (x : Shared) (me : Agent) (buffer : Bytes) (now : Nat) {point : Reader}
    {signal : Signal} (hpoint : ∀ arrival, signal = .arrived arrival → point = .receiving) :
    (x.stream.heard now signal).Spares (resume x me buffer now point signal).1.stream := by
  have hproceed (datagram : Bytes) : x.stream.Spares
      (proceed { x with stream := x.stream.countSent datagram } me buffer).1.stream :=
    proceed_spares (x := { x with stream := x.stream.countSent datagram })
      (x.stream.spares_countSent datagram) me buffer
  have hself : x.stream.Spares (proceed x me buffer).1.stream :=
    proceed_spares (.refl x.stream) me buffer
  cases signal with
  | arrived arrival =>
    rw [hpoint arrival rfl]
    exact accept_spares x me buffer now arrival
  | sent =>
    cases point with
    | acking datagram again =>
      cases again with
      | true => exact hproceed datagram
      | false => exact x.stream.spares_countSent datagram
    | replying datagram => exact hproceed datagram
    | _ => exact Stream.Spares.refl x.stream
  | unsent reason =>
    cases point with
    | acking datagram again =>
      cases again with
      | true => exact hself
      | false => exact Stream.Spares.refl x.stream
    | replying datagram => exact hself
    | _ => exact Stream.Spares.refl x.stream
  | granted =>
    cases point with
    | entering => exact hself
    | _ => exact Stream.Spares.refl x.stream
  | _ => cases point <;> exact Stream.Spares.refl x.stream

end Reader

/-! ## Closers -/

namespace Closer

variable {s : Stream} {x : Shared}

theorem passReading_spares (h : s.Spares x.stream) (me : Agent) :
    s.Spares (passReading x me).1.stream := by
  unfold passReading
  split <;> exact h

theorem passWriting_spares (h : s.Spares x.stream) (me : Agent) :
    s.Spares (passWriting x me).1.stream := by
  unfold passWriting
  split
  · exact passReading_spares h me
  · exact h

theorem begin_spares (x : Shared) (me : Agent) (joins : Bool) :
    x.stream.Spares (begin x me joins).1.stream := by
  unfold begin
  simp only
  split
  · exact x.stream.spares_shut
  · exact passWriting_spares (x := { x with stream := x.stream.shut }) x.stream.spares_shut me

/-- **A turn of a closer** spares the sending half. -/
theorem resume_spares (x : Shared) (me : Agent) (point : Closer) (signal : Signal) :
    x.stream.Spares (resume x me point signal).1.stream := by
  unfold resume
  split
  · exact passWriting_spares (.refl x.stream) me
  · exact passReading_spares (x := x.leaveWriting me) (.refl x.stream) me
  · exact Stream.Spares.refl x.stream
  · exact Stream.Spares.refl x.stream

end Closer

/-! ## The flusher -/

namespace Flusher

variable {s : Stream} {x : Shared}

theorem flushed_spares (h : s.Spares x.stream) (tick : Nat) (progress : Flush.Progress) :
    s.Spares (flushed x tick progress).1.stream := by
  cases progress <;> exact h

theorem tick_spares (x : Shared) (now next : Nat) :
    x.stream.Spares (tick x now next).1.stream := by
  unfold tick
  split
  · exact ⟨rfl, rfl, rfl, id⟩
  · split
    · exact Stream.Spares.refl x.stream
    · rename_i writing hwriting
      simp only
      split
      · exact Stream.Spares.refl x.stream
      · exact flushed_spares (Flush.begin_spares x.stream now) next _

/-- **A turn of the flusher** spares the sending half. -/
theorem resume_spares (x : Shared) (now : Nat) (point : Flusher) (signal : Signal) :
    x.stream.Spares (resume x now point signal).1.stream := by
  unfold resume
  split
  · exact tick_spares x now _
  · exact Stream.Spares.refl x.stream
  · rename_i next flush
    exact flushed_spares (flush.sent_spares x.stream) next _
  · rename_i next flush reason
    exact flushed_spares (flush.unsent_spares x.stream reason) next _
  · exact Stream.Spares.refl x.stream

end Flusher

end Redelivery
