import Redelivery.Proofs.Session.Orderly
import Redelivery.Proofs.Session.Sparing
import Redelivery.Proofs.Window.Acknowledgement

/-!
# Why a writer waits

A writer begins to wait when the send window has no room for its segment, and forgets then what it
was notified of before. While it receives and flushes, and until it is notified again, the window
should not have got room. Such a stream is *heeded*: the writer that waits may go on waiting.

## Main definitions

* `Stream.IsFull`: there is no room for the next segment.
* `Stream.Heeded`: whoever waits for room has been notified, or there is none.
* `Session.Alert`: the stream is heeded whenever a writer waits inside the section.

## Main statements

* `Stream.Heeded.receive`: an acknowledgement leaves a stream heeded if it removes something, or
  does not move the window.
* `Writer.start_heeds`, `Writer.resume_heeds`: a writer that waits after its turn has a reason to.

Why the window stays full is an argument about serial numbers. Whether there is room depends on the
next number, on the base and on what stands in that one place (`Window.write_eq_full_congr`). A
datagram that notifies nobody removes nothing (`sendWindow_of_not_roomFreed`), but it may move the
base, and only then a full window can have got room. `Heeded.receive` asks that this does not
happen.

A writer that finds no room forgets the notice it had (`poll_heeds`) only after it has looked, so no
notice is lost between the look and the wait. That is where the order of the two matters.
-/

namespace Redelivery

/-! ## Streams -/

/-- Whether there is room for a segment depends on its serial number only. -/
theorem Window.write_eq_full_congr {β : Type} {w : Window β} {s t : Segment β} (h : s.seq = t.seq) :
    w.write s = .full ↔ w.write t = .full := by
  unfold Window.write
  rw [h]
  split
  · rfl
  · split
    · split
      · simp
      · split <;> rfl
    · rfl

namespace Stream

variable {s s' : Stream}

/-- There is no room in the send window for the next segment, whatever it carries. -/
def IsFull (s : Stream) : Prop :=
  ∀ now body more, s.insert? now body more = none

/-- The writer that waits for room has been notified, or there is no room. -/
def Heeded (s : Stream) : Prop :=
  s.roomFreed = true ∨ s.IsFull

theorem insert?_eq_none_iff {now : Nat} {body : Buffer} {more : Bool} :
    s.insert? now body more = none
      ↔ s.sendWindow.write ⟨s.next, more, body, now⟩ = .full := by
  unfold insert?
  split <;> rename_i heq <;> simp [heq]

theorem isFull_of_insert?_eq_none {now : Nat} {body : Buffer} {more : Bool}
    (h : s.insert? now body more = none) : s.IsFull := by
  intro now' body' more'
  rw [insert?_eq_none_iff] at h ⊢
  refine (Window.write_eq_full_congr ?_).mp h
  rfl

theorem IsFull.congr (h : s.IsFull) (hwindow : s'.sendWindow = s.sendWindow)
    (hnext : s'.next = s.next) : s'.IsFull := by
  intro now body more
  have hnone := h now body more
  rw [insert?_eq_none_iff] at hnone ⊢
  rwa [hwindow, hnext]

theorem Heeded.spares (h : s.Heeded) (hspares : s.Spares s') : s'.Heeded := by
  rcases h with hfreed | hfull
  · exact Or.inl (hspares.roomFreed hfreed)
  · exact Or.inr (hfull.congr hspares.sendWindow hspares.next)

/-- What is received leaves the notice of room alone, or gives it. -/
theorem roomFreed_receive (s : Stream) (now : Nat) (raw : Bytes) (h : s.roomFreed = true) :
    (s.receive now raw).1.roomFreed = true := by
  cases hack : s.ack? raw with
  | none => exact (spares_receive hack now).roomFreed h
  | some found =>
    obtain ⟨-, -, -, hfreed⟩ := receive_of_ack? hack now
    rw [hfreed, h, Bool.true_or]

/-- **A datagram that notifies nobody** removes nothing from the send window: at most the base
moves. The next serial number stays in any case. -/
theorem sendWindow_of_not_roomFreed {now : Nat} {raw : Bytes}
    (h : (s.receive now raw).1.roomFreed = false) :
    (s.receive now raw).1.sendWindow
        = { s.sendWindow with base := (s.receive now raw).1.sendWindow.base }
      ∧ (s.receive now raw).1.next = s.next := by
  cases hack : s.ack? raw with
  | none =>
    have hspares := spares_receive hack now
    rw [hspares.sendWindow, hspares.next]
    exact ⟨rfl, rfl⟩
  | some found =>
    obtain ⟨-, hnext, hwindow, hfreed⟩ := receive_of_ack? hack now
    rw [hfreed, Bool.or_eq_false_iff, Bool.not_eq_false', List.isEmpty_iff,
      Array.toList_eq_nil_iff] at h
    rw [hwindow, hnext]
    exact ⟨Window.acknowledge_of_removed_eq h.2, rfl⟩

/-- **A datagram leaves a stream heeded** if it notifies the writer or does not move the send
window. -/
theorem Heeded.receive (h : s.Heeded) {now : Nat} {raw : Bytes}
    (hmoves : (s.receive now raw).1.roomFreed = true
      ∨ (s.receive now raw).1.sendWindow.base = s.sendWindow.base) :
    (s.receive now raw).1.Heeded := by
  by_cases hfreed : (s.receive now raw).1.roomFreed = true
  · exact Or.inl hfreed
  · have hquiet := Bool.eq_false_of_not_eq_true hfreed
    obtain ⟨hwindow, hnext⟩ := sendWindow_of_not_roomFreed hquiet
    -- nobody was notified, so the window is the very same, and nobody had been notified before
    rw [hmoves.resolve_left hfreed] at hwindow
    have hfull : s.IsFull :=
      h.resolve_left fun hbefore => hfreed (s.roomFreed_receive now raw hbefore)
    exact Or.inr (hfull.congr hwindow hnext)

end Stream

/-! ## Writers -/

namespace Writer

/-- If a writer still waits for room after its turn, the stream is heeded. -/
def Heeds (r : Shared × Turn Writer Outcome) : Prop :=
  ∀ w, r.2.point? = some w → w.isInside = true → w.isSending = false → r.1.stream.Heeded

section

variable {x : Shared} {me : Agent} {now : Nat} {job : Job}

theorem heeds_of_heeded {r : Shared × Turn Writer Outcome} (h : r.1.stream.Heeded) : Heeds r :=
  fun _ _ _ _ => h

theorem heeds_of_point?_eq_none {r : Shared × Turn Writer Outcome} (h : r.2.point? = none) :
    Heeds r := by
  intro w hw
  rw [h] at hw
  cases hw

theorem flushed_heeds (h : x.stream.Heeded) (progress : Flush.Progress) :
    Heeds (flushed x me now job progress) := by
  cases progress with
  | done => exact heeds_of_heeded h
  | going flush => exact heeds_of_heeded h
  | failed failure => exact heeds_of_point?_eq_none rfl

theorem polled_heeds (h : x.stream.Heeded) : Heeds (polled x me now job) := by
  unfold polled
  split
  · exact heeds_of_point?_eq_none rfl
  · exact flushed_heeds (x := { x with stream := (Flush.begin x.stream now).1 })
      (h.spares (Flush.begin_spares x.stream now)) _

theorem leavePolling_heeds (h : x.stream.Heeded) : Heeds (leavePolling x me now job) :=
  polled_heeds (x := x.leaveReading me) h

/-- A writer that has found the window full forgets what it was notified of before. -/
theorem poll_heeds (h : x.stream.IsFull) : Heeds (poll x me now job) := by
  have hheeded : ({ x.stream with roomFreed := false } : Stream).Heeded := Or.inr (h.congr rfl rfl)
  unfold poll
  simp only
  split
  · exact heeds_of_heeded hheeded
  · exact polled_heeds (x := { x with stream := { x.stream with roomFreed := false } }) hheeded

theorem attempt_heeds : Heeds (attempt x me now job) := by
  unfold attempt
  split
  · split
    · intro w hw _ hsending
      cases hw
      cases hsending
    · exact heeds_of_point?_eq_none rfl
  · rename_i hnone
    split
    · exact heeds_of_point?_eq_none rfl
    · exact poll_heeds (Stream.isFull_of_insert?_eq_none hnone)

theorem retry_heeds : Heeds (retry x me now job) := by
  unfold retry
  split
  · exact heeds_of_point?_eq_none rfl
  · exact attempt_heeds

theorem proceed_heeds (begun : Bool) (bodies : List Bytes) :
    Heeds (proceed x me now begun bodies) := by
  unfold proceed
  split
  · exact heeds_of_point?_eq_none rfl
  · rename_i piece rest
    split
    · exact heeds_of_point?_eq_none rfl
    · exact attempt_heeds (x := { x with stream := (x.stream.prepare piece).2 })

/-- **A writer that waits for room** when it has started with its message has found none. -/
theorem start_heeds (message : Bytes) : Heeds (start x me now message) :=
  proceed_heeds false _

/-- A writer that finds room hands over the datagram with its segment. -/
theorem attempt_hands (hready : x.stream.Ready) (hroom : ¬ x.stream.IsFull) (now : Nat)
    (hfit : job.body.content.length ≤ x.stream.settings.maxSegment) :
    ∃ x' w datagram, attempt x me now job = (x', .hands w datagram) := by
  unfold attempt
  rcases hready.insert?_eq now job.body (!job.rest.isEmpty) rfl with hnone | ⟨-, hsome⟩
  · exact absurd (Stream.isFull_of_insert?_eq_none hnone) hroom
  · rw [hsome]
    simp only
    obtain ⟨datagram, piggybacked, hok, -⟩ := hready.segmentDatagram_eq_ok
      (u := ⟨x.stream.next, !job.rest.isEmpty, job.body, now⟩) rfl hfit
    split
    · exact ⟨_, _, _, rfl⟩
    · rename_i heq
      rw [heq] at hok
      cases hok

/-- **The start of a message on an open stream that has room**: the first segment is on its way. -/
theorem start_hands (hready : x.stream.Ready) (hopen : x.stream.closed = false)
    (hroom : ¬ x.stream.IsFull) (now : Nat) {message : Bytes} (hmessage : message ≠ []) :
    ∃ x' w datagram, start x me now message = (x', .hands w datagram) := by
  have hchunks := Bytes.chunks_ne_nil x.stream.settings.maxSegment_pos hmessage
  unfold start proceed
  split
  · rename_i hnil
    exact absurd hnil hchunks
  · rename_i piece rest heq
    rw [if_neg (by rw [hopen]; decide)]
    have hpiece : piece.length ≤ x.stream.settings.maxSegment :=
      Bytes.length_le_of_mem_chunks (heq ▸ List.mem_cons_self)
    refine attempt_hands (x := { x with stream := (x.stream.prepare piece).2 })
      ⟨hready.fresh, hready.body_le⟩ (fun hfull => hroom (hfull.congr rfl rfl)) now ?_
    exact (Nat.le_of_eq (congrArg List.length (content_prepare hpiece))).trans hpiece

theorem accept_heeds {limit : Nat} {arrival : Arrival}
    (h : (x.stream.heard now (.arrived arrival)).Heeded) :
    Heeds (accept x me now job limit arrival) := by
  cases arrival with
  | fault reason => exact leavePolling_heeds h
  | datagram raw =>
    change (x.stream.receive now raw).1.Heeded at h
    unfold accept
    simp only
    split
    · rename_i s heq
      rw [heq] at h
      exact leavePolling_heeds (x := { x with stream := s }) h
    · rename_i s header heq
      rw [heq] at h
      have hcontrol := h.spares (s.spares_control header)
      split
      · rename_i datagram s' heq'
        rw [heq'] at hcontrol
        exact heeds_of_heeded hcontrol
      · rename_i failure s' heq'
        rw [heq'] at hcontrol
        exact leavePolling_heeds (x := { x with stream := s' }) hcontrol

/-- **A writer that waits for room** after a turn has found none since it was notified. -/
theorem resume_heeds (x : Shared) (me : Agent) (now : Nat) {point : Writer} {signal : Signal}
    (hsignal : ∀ arrival, signal = .arrived arrival → ∃ job limit, point = .polling job limit)
    (hgranted : ∀ message, point = .entering message → signal = .granted)
    (h : point.isInside = true → point.isSending = false → (x.stream.heard now signal).Heeded) :
    Heeds (resume x me now point signal) := by
  have hleave (job : Job) (h : x.stream.Heeded) (datagram : Bytes) :
      Heeds (leavePolling { x with stream := x.stream.countSent datagram } me now job) :=
    leavePolling_heeds (x := { x with stream := x.stream.countSent datagram })
      (h.spares (x.stream.spares_countSent datagram))
  cases point with
  | entering message =>
    rw [hgranted message rfl]
    exact start_heeds message
  | sending rest datagram piggybacked =>
    cases signal with
    | sent => exact proceed_heeds true rest
    | unsent reason => exact heeds_of_point?_eq_none rfl
    | _ =>
      intro w hw _ hsending
      cases hw
      cases hsending
  | polling job limit =>
    have hheard := h rfl rfl
    cases signal with
    | arrived arrival => exact accept_heeds hheard
    | closed => exact leavePolling_heeds hheard
    | due => exact leavePolling_heeds hheard
    | _ => exact heeds_of_heeded hheard
  | replying job limit datagram =>
    have hheard := h rfl rfl
    cases signal with
    | arrived arrival =>
      obtain ⟨_, _, hpoint⟩ := hsignal arrival rfl
      cases hpoint
    | sent => exact hleave job hheard datagram
    | unsent reason => exact leavePolling_heeds hheard
    | due => exact leavePolling_heeds hheard
    | _ => exact heeds_of_heeded hheard
  | flushing job flush =>
    have hheard := h rfl rfl
    cases signal with
    | arrived arrival =>
      obtain ⟨_, _, hpoint⟩ := hsignal arrival rfl
      cases hpoint
    | sent =>
      exact flushed_heeds (x := { x with stream := (flush.sent x.stream).1 })
        (Stream.Heeded.spares hheard (flush.sent_spares x.stream)) _
    | unsent reason => exact heeds_of_point?_eq_none rfl
    | _ => exact heeds_of_heeded hheard
  | awaiting job limit =>
    have hheard := h rfl rfl
    cases signal with
    | arrived arrival =>
      obtain ⟨_, _, hpoint⟩ := hsignal arrival rfl
      cases hpoint
    | room => exact retry_heeds
    | due => exact retry_heeds
    | _ => exact heeds_of_heeded hheard

end

end Writer

/-! ## Sessions -/

/-- Whenever a writer waits inside the section for anything but the fate of its segment, the stream
is heeded. -/
def Session.Alert (s : Session) : Prop :=
  ∀ id w, s.call? id = some (.writing w) → w.isInside = true → w.isSending = false →
    s.stream.Heeded

end Redelivery
