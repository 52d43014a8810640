import Redelivery.Proofs.Session.Closing
import Redelivery.Proofs.Strict.Session

/-!
# What a write leaves behind

As long as a write waits for room for its first segment, it has done nothing to what is to be sent:
it repeats what others have written, and it takes in acknowledgements. This file follows a writer
through its turns and tells this part of a write from what comes after it, when a failure closes the
stream. The stream is sound, so whatever is to be sent comes out as a datagram, and nothing fails
between a segment's place in the send window and the socket.

Nobody else touches the sending half while a writer is inside the section for writing.

## Main definitions

* `Bytes.IsControl`: datagrams that are only a header.
* `Stream.told?`: the acknowledgement that comes with a signal.
* `Writer.Course`: what a writer's turn can come to.
* `Session.SparesCall`: a turn of somebody else.

## Main statements

* `Stream.find?_abandon`: a segment that could not be sent is given up.
* `Writer.start_course`, `Writer.resume_course`, `Writer.exists_course`: the turns of a writer.
* `Writer.begin_resends`, `Writer.resume_resends`: what is still to be sent of a flush.
* `Session.sparesCall_write`, `Session.sparesCall_reader`, `Session.Held.sparesCall_flusher`: what
  others do while a writer is inside.

`Writer.Course` differs from `Writer.Move` in what it leaves out. It does not say what is in the
segments, and it does not ask that the number of the next one is free; in return it holds whatever
has arrived, forged acknowledgements included. What it needs is that a datagram comes out when a
segment was added (`Sound.exists_announcement`). Otherwise a write could fail with its segment in
the window and nothing sent, and that would be neither all nor nothing.

For the others, `Session.SparesCall` says that the call which is inside stays where it is, and that
whatever they hand over is no segment. The flusher is the interesting one: it does flush, but not
while somebody has the section (`Held.sparesCall_flusher`).
-/

namespace Redelivery

/-- The datagram is only a header, and carries no segments. -/
def Bytes.IsControl (datagram : Bytes) : Prop :=
  ∃ header, header ≠ Header.data ∧ datagram = header.datagram []

theorem Bytes.isControl_dialAck : (Header.dialAck.datagram []).IsControl :=
  ⟨.dialAck, Header.noConfusion, rfl⟩

theorem Window.isControl_ackDatagram (w : Window Buffer) : w.ackDatagram.IsControl :=
  ⟨_, Header.noConfusion, rfl⟩

/-! ## Streams -/

namespace Window

/-- The window after an acknowledgement. -/
def hear (w : Window Buffer) (ack : Serial × UInt32) : Window Buffer :=
  (w.acknowledge ack.1 ack.2).window

/-- Acknowledgements add nothing to a window. -/
theorem find?_of_foldl_hear {acks : List (Serial × UInt32)} {w : Window Buffer} {q : Serial}
    {u : Segment Buffer} (h : (acks.foldl hear w).find? q = some u) : w.find? q = some u := by
  induction acks generalizing w with
  | nil => exact h
  | cons ack rest ih => exact find?_of_acknowledge (ih h)

end Window

namespace Stream

variable {settings : ValidSettings} {s s' : Stream}

/-- The acknowledgement that comes with a signal, if there is one. -/
def told? (s : Stream) : Signal → Option (Serial × UInt32)
  | .arrived (.datagram raw) => s.ack? raw
  | _ => none

/-- **Nothing but an acknowledgement** that comes with a signal touches the sending half. -/
theorem heard_told (s : Stream) (now : Nat) (signal : Signal) :
    (s.heard now signal).settings = s.settings ∧ (s.heard now signal).next = s.next
      ∧ (s.heard now signal).sendWindow
        = (s.told? signal).toList.foldl Window.hear s.sendWindow := by
  cases signal with
  | arrived arrival =>
    cases arrival with
    | fault reason => exact ⟨rfl, rfl, rfl⟩
    | datagram raw =>
      show (s.receive now raw).1.settings = s.settings ∧ (s.receive now raw).1.next = s.next
        ∧ (s.receive now raw).1.sendWindow = (s.ack? raw).toList.foldl Window.hear s.sendWindow
      cases hack : s.ack? raw with
      | none =>
        have hspares := spares_receive hack now
        exact ⟨hspares.settings, hspares.next, hspares.sendWindow⟩
      | some ack =>
        obtain ⟨hsettings, hnext, hwindow, -⟩ := receive_of_ack? hack now
        exact ⟨hsettings, hnext, hwindow⟩
  | _ => exact ⟨rfl, rfl, rfl⟩

/-- **A segment that could not be sent is given up**: it is not in the send window, and its number
is the next one again. -/
theorem find?_abandon (s : Stream) :
    s.abandon.next = s.next ∧ s.abandon.sendWindow.find? s.next = none := by
  unfold abandon Window.clear
  cases hremove : s.sendWindow.remove? s.next with
  | none => exact ⟨rfl, Window.remove?_eq_none_iff.mp hremove⟩
  | some found =>
    obtain ⟨u, w⟩ := found
    obtain ⟨hfind, rfl⟩ := Window.remove?_eq_some_iff.mp hremove
    refine ⟨rfl, ?_⟩
    show (s.sendWindow.put s.next none (s.sendWindow.size - 1)).find? s.next = none
    rw [Window.find?_put_none hfind, if_pos rfl]

/-- **The datagram for a new segment comes out**, and that segment is the first one in it. -/
theorem Sound.exists_announcement (h : s.Sound settings)
    (hfind : (s.sendWindow.find? s.next).isSome = true) :
    ∃ t extra piggybacked s',
      s.segmentDatagram = (.ok (Header.data.datagram (t :: extra), piggybacked), s')
        ∧ t.seq = s'.next := by
  obtain ⟨datagram, piggybacked, s', hok, -, -, -⟩ := h.exists_segmentDatagram hfind
  have halike := s.alike_segmentDatagram
  obtain ⟨segment, hsegment⟩ := Option.isSome_iff_exists.mp hfind
  rw [hok] at halike
  have hmade := hok
  unfold segmentDatagram at hmade
  simp only [hsegment] at hmade
  split at hmade
  · rename_i d last heq
    cases hmade
    obtain ⟨rfl, -⟩ := of_dataDatagram_eq_ok (congrArg Prod.fst heq)
    have hseq : segment.wire.seq = s'.next :=
      (Window.seq_of_find? hsegment).trans halike.next.symm
    exact ⟨_, _, _, _, hok, hseq⟩
  · cases hmade

end Stream

/-! ## Writers -/

namespace Writer

/-- What a turn of a writer can come to. The stream is `s` after what came with the turn's signal
was taken in. `D` is what is known of the datagrams of a flush. -/
inductive Course (D : Bytes → Prop) (s : Stream) (begun : Bool) :
    Shared × Turn Writer Outcome → Prop
  /-- The writer waits. -/
  | rests {x' : Shared} {w : Writer} (halike : s.Alike x'.stream) (hin : w.isInside = true)
      (hsending : w.isSending = false) (hbegun : w.begun = begun)
      (hresends : ∀ d ∈ w.resends, D d) : Course D s begun (x', .waits w)
  /-- The writer hands over a datagram without a segment of its message. -/
  | repeats {x' : Shared} {w : Writer} {d : Bytes} (halike : s.Alike x'.stream)
      (hin : w.isInside = true) (hsending : w.isSending = false) (hbegun : w.begun = begun)
      (hresends : ∀ d ∈ w.resends, D d) (hd : d.IsControl ∨ D d) :
      Course D s begun (x', .hands w d)
  /-- The writer hands over a datagram with its next segment. -/
  | announces {x' : Shared} {t : Segment Bytes} {extra : List (Segment Bytes)} {rest : List Bytes}
      {piggybacked : Nat} (hseq : t.seq = x'.stream.next) :
      Course D s begun (x', .hands
        (sending rest (Header.data.datagram (t :: extra)) piggybacked)
        (Header.data.datagram (t :: extra)))
  /-- The write fails. The stream is closed, or nothing of the message was sent. -/
  | fails {x' : Shared} {failure : Failure}
      (hfails : x'.stream.closed = true ∨ begun = false ∧ s.Alike x'.stream) :
      Course D s begun (x', .returns (.error failure))
  /-- The message was sent. -/
  | finishes {x' : Shared} : Course D s begun (x', .returns (.ok ()))

section

variable {settings : ValidSettings} {D : Bytes → Prop} {s : Stream} {x : Shared}

theorem fail_course (h : s.Alike x.stream) (me : Agent) (begun : Bool) (failure : Failure) :
    Course D s begun (fail x me begun failure) := by
  cases begun with
  | true => exact .fails (Or.inl rfl)
  | false => exact .fails (Or.inr ⟨rfl, h⟩)

theorem failWith_course (h : s.Alike x.stream) (me : Agent) (job : Job) (failure : Failure) :
    Course D s job.begun (failWith x me job failure) :=
  fail_course (x := { x with stream := x.stream.giveBack job.body })
    (h.trans (x.stream.alike_giveBack job.body)) me job.begun failure

theorem flushed_course (h : s.Alike x.stream) (me : Agent) (now : Nat) (job : Job)
    {progress : Flush.Progress} (hall : progress.All D) :
    Course D s job.begun (flushed x me now job progress) := by
  cases progress with
  | done => exact .rests h rfl rfl rfl fun d hd => absurd hd List.not_mem_nil
  | going flush => exact .repeats h rfl rfl rfl hall.2 (Or.inr hall.1)
  | failed failure => exact failWith_course h me job failure

theorem polled_course (h : s.Alike x.stream) (hD : ∀ d, s.Sends d → D d) (me : Agent) (now : Nat)
    (job : Job) : Course D s job.begun (polled x me now job) := by
  unfold polled
  split
  · exact failWith_course h me job _
  · have hall := Flush.all_begin x.stream now
    -- what the flush sends is in the send window, and of that `D` is known
    have hall' : (Flush.begin x.stream now).2.All D := by
      generalize (Flush.begin x.stream now).2 = progress at hall
      cases progress with
      | done => trivial
      | going flush =>
        exact ⟨hD _ (hall.1.congr h), fun d hd => hD d ((hall.2 d hd).congr h)⟩
      | failed => trivial
    exact flushed_course (x := { x with stream := (Flush.begin x.stream now).1 })
      (h.trans (Flush.begin_alike x.stream now)) me now job hall'

theorem leavePolling_course (h : s.Alike x.stream) (hD : ∀ d, s.Sends d → D d) (me : Agent)
    (now : Nat) (job : Job) : Course D s job.begun (leavePolling x me now job) :=
  polled_course (x := x.leaveReading me) h hD me now job

theorem poll_course (h : s.Alike x.stream) (hD : ∀ d, s.Sends d → D d) (me : Agent) (now : Nat)
    (job : Job) : Course D s job.begun (poll x me now job) := by
  have hforgets : s.Alike { x.stream with roomFreed := false } :=
    h.trans ⟨rfl, rfl, rfl, rfl, rfl, rfl, id⟩
  unfold poll
  simp only
  split
  · exact .rests hforgets rfl rfl rfl fun d hd => absurd hd List.not_mem_nil
  · exact polled_course (x := { x with stream := { x.stream with roomFreed := false } }) hforgets
      hD me now job

/-- The datagram with a new segment comes out, so only the want of room makes a writer wait or
fail. -/
theorem attempt_course (hsound : x.stream.Sound settings) (h : s.Alike x.stream)
    (hD : ∀ d, s.Sends d → D d) (me : Agent) (now : Nat) (job : Job)
    (hfit : job.body.content.length ≤ settings.maxSegment) :
    Course D s job.begun (attempt x me now job) := by
  unfold attempt
  cases hinsert : x.stream.insert? now job.body (!job.rest.isEmpty) with
  | none =>
    simp only
    split
    · exact failWith_course h me job _
    · exact poll_course h hD me now job
  | some s' =>
    obtain ⟨hsound', hfind⟩ := hsound.of_insert? hfit hinsert
    obtain ⟨t, extra, piggybacked, last, hmade, hseq⟩ := hsound'.exists_announcement hfind
    simp only [hmade]
    exact .announces hseq

theorem retry_course (hsound : x.stream.Sound settings) (h : s.Alike x.stream)
    (hD : ∀ d, s.Sends d → D d) (me : Agent) (now : Nat) (job : Job)
    (hfit : job.body.content.length ≤ settings.maxSegment) :
    Course D s job.begun (retry x me now job) := by
  unfold retry
  split
  · exact failWith_course h me job _
  · exact attempt_course hsound h hD me now job hfit

theorem proceed_course (hsound : x.stream.Sound settings) (hD : ∀ d, x.stream.Sends d → D d)
    (me : Agent) (now : Nat) (begun : Bool) {bodies : List Bytes}
    (hfit : ∀ b ∈ bodies, b.length ≤ settings.maxSegment) :
    Course D x.stream begun (proceed x me now begun bodies) := by
  unfold proceed
  split
  · exact .finishes
  · rename_i body rest
    split
    · exact fail_course (.refl _) me begun _
    · have hbody := hfit body List.mem_cons_self
      have hcontent := content_prepare (s := x.stream) (by rw [hsound.settings_eq]; exact hbody)
      have hprepared : (x.stream.prepare body).2.Sound settings :=
        hsound.congr rfl rfl rfl hsound.size_le
      exact attempt_course (x := { x with stream := (x.stream.prepare body).2 }) hprepared
        (x.stream.alike_prepare body) hD me now ⟨(x.stream.prepare body).1, rest, begun, _⟩
        (by rw [hcontent]; exact hbody)

/-- **The start of a message.** -/
theorem start_course (hsound : x.stream.Sound settings) (hD : ∀ d, x.stream.Sends d → D d)
    (me : Agent) (now : Nat) (message : Bytes) :
    Course D x.stream false (start x me now message) := by
  refine proceed_course hsound hD me now false fun b hb => ?_
  rw [← hsound.settings_eq]
  exact Bytes.length_le_of_mem_chunks hb

/-- A writer takes in what the socket delivered. -/
theorem accept_course (now : Nat) (arrival : Arrival)
    (hD : ∀ d, (x.stream.heard now (.arrived arrival)).Sends d → D d) (me : Agent) (job : Job)
    (limit : Nat) :
    Course D (x.stream.heard now (.arrived arrival)) job.begun
      (accept x me now job limit arrival) := by
  cases arrival with
  | fault reason => exact leavePolling_course (.refl _) hD me now job
  | datagram raw =>
    change ∀ d, (x.stream.receive now raw).1.Sends d → D d at hD
    show Course D (x.stream.receive now raw).1 job.begun _
    unfold accept
    simp only
    split
    · rename_i s' heq
      exact leavePolling_course (x := { x with stream := s' }) (by rw [heq]; exact .refl s') hD me
        now job
    · rename_i s' header heq
      have hheader : header = .dialAck := Stream.reply_of_receive (by rw [heq])
      -- an answer is a header and nothing else, so it always comes out
      have hok := s'.control_eq_ok header
      have halike := s'.alike_control header
      rw [heq]
      split
      · rename_i datagram last hcontrol
        rw [hcontrol] at hok halike
        cases hok
        rw [hheader]
        exact .repeats halike rfl rfl rfl (fun d hd => absurd hd List.not_mem_nil)
          (Or.inl Bytes.isControl_dialAck)
      · rename_i failure last hcontrol
        rw [hcontrol] at hok
        cases hok

/-- **A turn of a writer** that does not wait for the socket to take a new segment. -/
theorem resume_course (hsound : x.stream.Sound settings) {point : Writer}
    (hin : point.isInside = true) (hsending : point.isSending = false)
    (hfit : ∀ b ∈ point.bodies, b.length ≤ settings.maxSegment) (now : Nat) {signal : Signal}
    (hD : ∀ d, (x.stream.heard now signal).Sends d → D d) (hresends : ∀ d ∈ point.resends, D d)
    (hpoint : ∀ arrival, signal = .arrived arrival → ∃ job limit, point = .polling job limit)
    (me : Agent) :
    Course D (x.stream.heard now signal) point.begun (resume x me now point signal) := by
  by_cases harrived : ∃ arrival, signal = .arrived arrival
  · obtain ⟨arrival, rfl⟩ := harrived
    obtain ⟨job, limit, rfl⟩ := hpoint arrival rfl
    exact accept_course now arrival hD me job limit
  · have hheard := Stream.heard_of_ne (s := x.stream) (fun a ha => harrived ⟨a, ha⟩) now
    rw [hheard] at hD ⊢
    have hstay : Course D x.stream point.begun (x, .waits point) :=
      .rests (.refl _) hin hsending rfl hresends
    have hleave (job : Job) : Course D x.stream job.begun (leavePolling x me now job) :=
      leavePolling_course (.refl _) hD me now job
    -- only at some points does a signal lead anywhere; at the others the writer waits on
    cases point with
    | entering message => cases hin
    | polling job limit =>
      cases signal with
      | arrived arrival => exact absurd ⟨arrival, rfl⟩ harrived
      | closed => exact hleave job
      | due => exact hleave job
      | _ => exact hstay
    | replying job limit datagram =>
      cases signal with
      | sent =>
        exact leavePolling_course (x := { x with stream := x.stream.countSent datagram })
          (x.stream.alike_countSent datagram) hD me now job
      | unsent reason => exact hleave job
      | due => exact hleave job
      | _ => exact hstay
    | flushing job flush =>
      cases signal with
      | sent =>
        exact flushed_course (x := { x with stream := (flush.sent x.stream).1 })
          (flush.sent_alike x.stream) me now job (Flush.all_sent hresends x.stream)
      | unsent reason =>
        exact flushed_course (x := { x with stream := (flush.unsent x.stream reason).1 })
          (flush.unsent_alike x.stream reason) me now job (flush.all_unsent x.stream reason)
      | _ => exact hstay
    | awaiting job limit =>
      have hjob := hfit _ List.mem_cons_self
      cases signal with
      | room => exact retry_course hsound (.refl _) hD me now job hjob
      | due => exact retry_course hsound (.refl _) hD me now job hjob
      | _ => exact hstay
    | sending rest datagram piggybacked => cases hsending

/-- **A turn of a writer**, whatever it waits for. -/
theorem exists_course (hsound : x.stream.Sound settings) {point : Writer}
    (hin : point.isInside = true) (hfit : ∀ b ∈ point.bodies, b.length ≤ settings.maxSegment)
    (now : Nat) {signal : Signal} (hD : ∀ t d, Stream.Sends t d → D d)
    (hresends : ∀ d ∈ point.resends, D d)
    (hpoint : ∀ arrival, signal = .arrived arrival → ∃ job limit, point = .polling job limit)
    (hsending : point.isSending = true → signal = .sent ∨ ∃ reason, signal = .unsent reason)
    (me : Agent) :
    ∃ s, Course D s point.begun (resume x me now point signal) := by
  cases hquiet : point.isSending with
  | false => exact ⟨_, resume_course hsound hin hquiet hfit now (hD _) hresends hpoint me⟩
  | true =>
    cases point with
    | sending rest datagram piggybacked =>
      rcases hsending rfl with rfl | ⟨reason, rfl⟩
      · have hcommitted : ((x.stream.countSent datagram).commit piggybacked).Sound settings :=
          hsound.congr rfl rfl rfl hsound.size_le
        exact ⟨_, proceed_course
          (x := { x with stream := (x.stream.countSent datagram).commit piggybacked }) hcommitted
          (hD _) me now true hfit⟩
      · exact ⟨x.stream, .fails (Or.inl x.stream.closed_abandon)⟩
    | _ => cases hquiet

/-- What a writer still has to send of a flush is as the rest of that was. -/
theorem Course.resends {begun : Bool} {r : Shared × Turn Writer Outcome} (h : Course D s begun r)
    {w : Writer} (hpoint : r.2.point? = some w) : ∀ d ∈ w.resends, D d := by
  cases h with
  | rests halike hin hsending hbegun hresends =>
    cases hpoint
    exact hresends
  | repeats halike hin hsending hbegun hresends =>
    cases hpoint
    exact hresends
  | announces =>
    cases hpoint
    exact fun d hd => absurd hd List.not_mem_nil
  | fails => cases hpoint
  | finishes => cases hpoint

theorem begin_resends (hsound : x.stream.Sound settings) (hD : ∀ t d, Stream.Sends t d → D d)
    (me : Agent) (now : Nat) (message : Bytes) {w : Writer}
    (hpoint : (begin x me now message).2.point? = some w) : ∀ d ∈ w.resends, D d := by
  rcases begin_cases x me now message with ⟨outcome, heq, -⟩ | ⟨-, -, -, heq⟩
  · rw [heq] at hpoint
    cases hpoint
  · rw [heq] at hpoint
    split at hpoint
    · exact (start_course (x := { x with writing := x.writing.enter me }) hsound (hD _) me now
        message).resends hpoint
    · cases hpoint
      exact fun d hd => absurd hd List.not_mem_nil

theorem resume_resends (hsound : x.stream.Sound settings) {point : Writer}
    (hfits : point.Fits settings) (now : Nat) {signal : Signal}
    (hD : ∀ t d, Stream.Sends t d → D d) (hresends : ∀ d ∈ point.resends, D d)
    (hpoint : ∀ arrival, signal = .arrived arrival → ∃ job limit, point = .polling job limit)
    (hsending : point.isSending = true → signal = .sent ∨ ∃ reason, signal = .unsent reason)
    (me : Agent) {w : Writer} (hw : (resume x me now point signal).2.point? = some w) :
    ∀ d ∈ w.resends, D d := by
  by_cases hin : point.isInside = true
  · obtain ⟨s, hcourse⟩ := exists_course hsound hin hfits.length_le now hD hresends hpoint hsending
      me
    exact hcourse.resends hw
  · cases point with
    | entering message =>
      cases signal with
      | granted => exact (start_course hsound (hD _) me now message).resends hw
      | _ =>
        cases hw
        exact hresends
    | _ => exact absurd rfl hin

/-- A writer that waits for the socket to take a new segment has handed over a datagram that begins
with that segment, and the segment has the next number. -/
theorem Course.announced {begun : Bool} {r : Shared × Turn Writer Outcome}
    (h : Course D s begun r) {rest : List Bytes} {d : Bytes} {piggybacked : Nat}
    (hpoint : r.2.point? = some (sending rest d piggybacked)) :
    ∃ t extra, d = Header.data.datagram (t :: extra) ∧ t.seq = r.1.stream.next := by
  cases h with
  | rests halike hin hsending =>
    cases hpoint
    cases hsending
  | repeats halike hin hsending =>
    cases hpoint
    cases hsending
  | announces hseq =>
    cases hpoint
    exact ⟨_, _, rfl, hseq⟩
  | fails => cases hpoint
  | finishes => cases hpoint

end

end Writer

/-! ## The turns of all others -/

/-- A reader hands over acknowledgements and replies. -/
theorem Reader.Move.isControl {x : Shared} {buffer : Bytes}
    {r : Shared × Turn Reader Reader.Outcome} (h : Reader.Move x buffer r) {d : Bytes}
    (hd : r.2.handed? = some d) : d.IsControl := by
  cases h with
  | replies =>
    cases hd
    exact Bytes.isControl_dialAck
  | advances =>
    cases hd
    exact Window.isControl_ackDatagram _
  | starves =>
    cases hd
    exact Window.isControl_ackDatagram _
  | _ => cases hd

theorem Reader.resume_isControl (x : Shared) (me : Agent) (buffer : Bytes) (now : Nat)
    {point : Reader} {signal : Signal}
    (hpoint : ∀ arrival, signal = .arrived arrival → point = .receiving) {d : Bytes}
    (hd : (resume x me buffer now point signal).2.handed? = some d) : d.IsControl := by
  by_cases hsignal : ∃ raw, signal = .arrived (.datagram raw)
  · obtain ⟨raw, rfl⟩ := hsignal
    rw [hpoint _ rfl] at hd
    exact (resume_move_arrived x me buffer now raw).isControl hd
  · exact (resume_move x me buffer now point fun raw heq => hsignal ⟨raw, heq⟩).isControl hd

/-- The flusher does not get into a section that is taken. -/
theorem Flusher.handed?_resume {x : Shared} {point : Flusher} (hpoint : point.isFlushing = false)
    (htaken : x.writing.isFree = false) (now : Nat) (signal : Signal) :
    (resume x now point signal).2.handed? = none := by
  cases point with
  | flushing next flush => cases hpoint
  | waiting time =>
    have htick (next : Nat) : (tick x now next).2.handed? = none := by
      unfold tick
      split
      · rfl
      · split
        · rfl
        · rename_i writing henter
          rw [(Section.tryEnter?_eq_some_iff.mp henter).1] at htaken
          cases htaken
    cases signal with
    | due => exact htick _
    | _ => rfl

namespace Session

variable {s : Session} {id k : Nat} {heard : Stream}

/-- A turn in which nobody touches the sending half, and the call `id` stays where it is. The stream
was `heard` after the arrival that came with the turn's signal. -/
structure SparesCall (id : Nat) (heard : Stream) (s : Session) (turn : Session × Outcome) :
    Prop where
  /-- The call. -/
  call : turn.1.call? id = s.call? id
  /-- The sending half. -/
  stream : heard.Spares turn.1.stream
  /-- No segments are handed over. -/
  control : ∀ d, turn.2.handed? = some d → d.IsControl

theorem SparesCall.record {x : Shared} {turn : Turn Call Result} (hk : k ≠ id)
    (hstream : heard.Spares x.stream) (hcontrol : ∀ d, turn.handed? = some d → d.IsControl) :
    s.SparesCall id heard (s.record k x turn) where
  call := call?_record_of_ne s hk.symm x turn
  stream := by
    rw [stream_record]
    exact hstream
  control := by
    rw [handed?_record]
    exact hcontrol

theorem handed?_recordFlusher (s : Session) (r : Shared × Turn Flusher Unit) :
    (s.recordFlusher r).2.handed? = r.2.handed? := by
  obtain ⟨x, turn⟩ := r
  cases turn <;> rfl

/-- A read. -/
theorem sparesCall_read (hk : k ≠ id) (buffer : Bytes) :
    s.SparesCall id s.stream (s.read k buffer) := by
  refine .record hk (Reader.begin_spares s.shared (.call k) buffer) fun d hd => ?_
  rw [Turn.handed?_map] at hd
  exact (Reader.begin_move s.shared (.call k) buffer).isControl hd

/-- A write finds the section taken. -/
theorem sparesCall_write (hk : k ≠ id) (howner : s.shared.writing.owner = some (.call id))
    (now : Nat) (message : Bytes) : s.SparesCall id s.stream (s.write now k message) := by
  have hne : (s.shared.writing.enter (.call k)).owner ≠ some (.call k) := by
    rw [Section.owner_enter_of_owner howner]
    intro heq
    cases heq
    exact hk rfl
  have hbegin : s.stream.Spares (Writer.begin s.shared (.call k) now message).1.stream
      ∧ (Writer.begin s.shared (.call k) now message).2.handed? = none := by
    rcases Writer.begin_cases s.shared (.call k) now message with
      ⟨outcome, heq, -⟩ | ⟨-, -, -, heq⟩
    · rw [heq]
      exact ⟨.refl _, rfl⟩
    · rw [heq, if_neg hne]
      exact ⟨.refl _, rfl⟩
  refine .record hk hbegin.1 fun d hd => ?_
  rw [Turn.handed?_map, hbegin.2] at hd
  cases hd

/-- A close. -/
theorem sparesCall_close (hk : k ≠ id) : s.SparesCall id s.stream (s.close k) := by
  have hhanded := (Closer.begin_yields s.shared (.call k) s.joinable).2
  have hrecord : ({ s with joinable := false } : Session).SparesCall id s.stream (s.close k) := by
    refine .record hk (Closer.begin_spares s.shared (.call k) s.joinable) fun d hd => ?_
    rw [Turn.handed?_map, hhanded] at hd
    cases hd
  exact ⟨hrecord.call, hrecord.stream, hrecord.control⟩

/-- A reader goes on. -/
theorem sparesCall_reader (hk : k ≠ id) {buffer : Bytes} {point : Reader} {signal : Signal}
    (hpoint : ∀ arrival, signal = .arrived arrival → point = .receiving) (now : Nat) :
    s.SparesCall id (s.stream.heard now signal)
      (s.recordReader k buffer (Reader.resume s.shared (.call k) buffer now point signal)) := by
  refine .record hk (Reader.resume_spares s.shared (.call k) buffer now hpoint) ?_
  intro d hd
  rw [Turn.handed?_map] at hd
  exact Reader.resume_isControl s.shared (.call k) buffer now hpoint hd

/-- A closer goes on. -/
theorem sparesCall_closer (hk : k ≠ id) (point : Closer) (signal : Signal) :
    s.SparesCall id s.stream
      (s.recordCloser k (Closer.resume s.shared (.call k) point signal)) := by
  have hhanded := (Closer.resume_yields s.shared (.call k) point signal).2
  refine .record hk (Closer.resume_spares s.shared (.call k) point signal) ?_
  intro d hd
  rw [Turn.handed?_map, hhanded] at hd
  cases hd

/-- The flusher finds the section taken. -/
theorem Held.sparesCall_flusher (h : s.Held) (howner : s.shared.writing.owner = some (.call id))
    {point : Flusher} (hpoint : s.flusher = some point) (now : Nat) (signal : Signal) :
    s.SparesCall id s.stream (s.recordFlusher (Flusher.resume s.shared now point signal)) := by
  have htaken : s.shared.writing.isFree = false := by
    rw [Bool.eq_false_iff]
    intro hfree
    rw [(Section.isFree_iff_owner_eq_none _).mp hfree] at howner
    cases howner
  have hwaiting : point.isFlushing = false := by
    rw [Bool.eq_false_iff]
    intro hflushing
    rw [(h.flusher point hpoint).owner hflushing] at howner
    cases howner
  refine ⟨call?_recordFlusher s _ id, ?_, ?_⟩
  · show s.stream.Spares (s.recordFlusher _).1.shared.stream
    rw [shared_recordFlusher]
    exact Flusher.resume_spares s.shared now point signal
  · intro d hd
    rw [handed?_recordFlusher, Flusher.handed?_resume hwaiting htaken] at hd
    cases hd

end Session

end Redelivery
