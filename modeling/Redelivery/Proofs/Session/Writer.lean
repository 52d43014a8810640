import Redelivery.Proofs.Pieces
import Redelivery.Proofs.Session.Flush
import Redelivery.Proofs.Stream.Receiving
import Redelivery.Session.Writer

/-!
# What a writer does in a turn

A turn of a writer goes through many functions, but there are few things that it can come to: the
writer rests, it hands over a datagram of a flush or a reply, it numbers its next segment and hands
over the datagram with it, it fails or it is done. This file says so, once for all turns; what a
turn does to a stream is then read off from there.

## Main definitions

* `Writer.bodies`, `Writer.begun`, `Writer.resends`: what a writer has yet to send.
* `Stream.Ready`: the stream can take a new segment.
* `Writer.Move`: what a writer's turn can come to.

## Main statements

* `Writer.start_move`, `Writer.resume_move`, `Writer.resume_move_arrived`,
  `Writer.resume_move_sent`: the turns of a writer.

The functions of a writer call each other in circles: a flush that ends leads to a wait, a wait to
another attempt, an attempt to a flush again. But each call that goes round waits in between, so
within a turn there is an order, and the lemmas follow it from the inside out: `fail_move`,
`flushed_move`, `polled_move`, `poll_move`, `attempt_move`, `retry_move`, `proceed_move`. Each of
them says that the function comes to one of the cases of `Writer.Move`, and nothing else; the turns
then have one line for each point at which a writer may be.

Two cases carry a hypothesis that others rely on. Where a segment is numbered, the window had room
and held no other with that number, which is what `Stream.Ready` is for. Where the write fails with
a part of its message under way, the stream is closed; `begun` is the flag by which a writer knows
that.
-/

namespace Redelivery

/-! ## What a writer is about -/

/-- The bodies of the segments that are to be sent for a job. -/
def Job.bodies (job : Job) : List Bytes :=
  job.body.content :: job.rest

namespace Writer

/-- Whether the writer has got hold of the section. -/
def isInside : Writer → Bool
  | entering _ => false
  | polling _ _ => true
  | replying _ _ _ => true
  | flushing _ _ => true
  | awaiting _ _ => true
  | sending _ _ _ => true

/-- Whether the writer waits for the socket to take a new segment. -/
def isSending : Writer → Bool
  | sending _ _ _ => true
  | entering _ => false
  | polling _ _ => false
  | replying _ _ _ => false
  | flushing _ _ => false
  | awaiting _ _ => false

/-- The bodies of the segments that have yet to get a number. -/
def bodies : Writer → List Bytes
  | entering _ => []
  | polling job _ => job.bodies
  | replying job _ _ => job.bodies
  | flushing job _ => job.bodies
  | awaiting job _ => job.bodies
  | sending rest _ _ => rest

/-- Whether a segment of the message has got a number. -/
def begun : Writer → Bool
  | entering _ => false
  | polling job _ => job.begun
  | replying job _ _ => job.begun
  | flushing job _ => job.begun
  | awaiting job _ => job.begun
  | sending _ _ _ => true

/-- The datagrams of a flush that are still to be handed over. -/
def resends : Writer → List Bytes
  | flushing _ flush => flush.rest
  | entering _ => []
  | polling _ _ => []
  | replying _ _ _ => []
  | awaiting _ _ => []
  | sending _ _ _ => []

end Writer

/-! ## New segments -/

/-- The stream can take a new segment: none with its serial number is there yet, and those that are
there fit into datagrams. -/
structure Stream.Ready (s : Stream) : Prop where
  /-- The next serial number is new. -/
  fresh : s.sendWindow.find? s.next = none
  /-- Segments are short enough. -/
  body_le : ∀ u : Segment Buffer, s.sendWindow.find? u.seq = some u →
    u.wire.body.length ≤ s.settings.maxSegment

/-- The stream with a segment in its send window. -/
def Stream.holding (s : Stream) (u : Segment Buffer) : Stream :=
  { s with sendWindow := s.sendWindow.store u }

namespace Window

variable {β : Type}

theorem find?_ne_none_of_write_eq_present {w : Window β} {s : Segment β}
    (h : w.write s = .present) : w.find? s.seq ≠ none := by
  unfold write at h
  split at h
  · cases h
  · split at h
    · split at h
      · cases h
      · rename_i other hother
        split at h
        · rename_i hseq
          rw [find?_eq_some_iff.mpr ⟨hother, hseq⟩]
          exact Option.some_ne_none other
        · cases h
    · cases h

end Window

/-- A new segment is added to the send window or there is no room for it. -/
theorem Stream.Ready.insert?_eq {s : Stream} (h : s.Ready) (now : Nat) (body : Buffer) (more : Bool)
    {u : Segment Buffer} (hu : u = { seq := s.next, more := more, body := body, sentAt := now }) :
    s.insert? now body more = none
      ∨ s.sendWindow.write u = .added (s.sendWindow.store u)
        ∧ s.insert? now body more = some (s.holding u) := by
  subst hu
  unfold insert?
  split
  · rename_i w hwrite
    obtain ⟨rfl, -⟩ := Window.store_of_write hwrite
    exact Or.inr ⟨hwrite, rfl⟩
  · -- a fresh serial number is not there already
    rename_i hpresent
    exact absurd h.fresh (Window.find?_ne_none_of_write_eq_present hpresent)
  · exact Or.inl rfl

/-- The datagram for a new segment comes out. -/
theorem Stream.Ready.segmentDatagram_eq_ok {s : Stream} (h : s.Ready) {u : Segment Buffer}
    (hseq : u.seq = s.next) (hbody : u.wire.body.length ≤ s.settings.maxSegment) :
    ∃ datagram piggybacked, (s.holding u).segmentDatagram.1 = .ok (datagram, piggybacked)
      ∧ (s.holding u).Sends datagram := by
  have hfind : (s.holding u).sendWindow.find? (s.holding u).next = some u := by
    show (s.sendWindow.store u).find? s.next = some u
    rw [Window.find?_store, if_pos hseq.symm]
  apply Stream.segmentDatagram_eq_ok hfind
  · intro v hv
    change (s.sendWindow.store u).find? v.seq = some v at hv
    rw [Window.find?_store] at hv
    split at hv
    · cases hv
      exact hbody
    · -- any other segment was there before, unless it had to go
      split at hv
      · cases hv
      · exact h.body_le v hv

/-! ## The outcomes of a turn -/

namespace Writer

/-- What a turn of a writer can come to that has the given `bodies` still to send. `D` is what is
known of the datagrams of a flush. -/
inductive Move (D : Bytes → Prop) (me : Agent) (x : Shared) (begun : Bool) (bodies : List Bytes) :
    Shared × Turn Writer Outcome → Prop
  /-- The writer waits. -/
  | rests {x' : Shared} {w : Writer} (halike : x.Alike x') (hin : w.isInside = true)
      (hsending : w.isSending = false) (hbodies : w.bodies = bodies) (hbegun : w.begun = begun)
      (hresends : ∀ d ∈ w.resends, D d) : Move D me x begun bodies (x', .waits w)
  /-- The writer answers a request for a stream. -/
  | replies {x' : Shared} {job : Job} {limit : Nat} (halike : x.Alike x')
      (hbodies : job.bodies = bodies) (hbegun : job.begun = begun) :
      Move D me x begun bodies
        (x', .hands (replying job limit (Header.dialAck.datagram [])) (Header.dialAck.datagram []))
  /-- The writer is in the middle of a flush. -/
  | resends {x' : Shared} {job : Job} {flush : Flush} (halike : x.Alike x')
      (hbodies : job.bodies = bodies) (hbegun : job.begun = begun) (hcurrent : D flush.current)
      (hrest : ∀ d ∈ flush.rest, D d) :
      Move D me x begun bodies (x', .hands (flushing job flush) flush.current)
  /-- The next segment has got a number. -/
  | numbers {x' : Shared} {u : Segment Buffer} {body datagram : Bytes} {rest : List Bytes}
      {piggybacked : Nat} (hbodies : bodies = body :: rest) (hseq : u.seq = x.stream.next)
      (hpiece : u.wire.piece = ⟨!rest.isEmpty, body⟩)
      (hwrite : x.stream.sendWindow.write u = .added (x.stream.sendWindow.store u))
      (halike : { x with stream := x.stream.holding u }.Alike x')
      (hsends : (x.stream.holding u).Sends datagram) :
      Move D me x begun bodies (x', .hands (sending rest datagram piggybacked) datagram)
  /-- The write fails with a part of the message left. If another part was sent, the stream is
  closed. -/
  | fails {x' : Shared} {failure : Failure} (hbodies : bodies ≠ [])
      (halike : x.stream.Alike x'.stream) (hwriting : x'.writing = x.writing.leave me)
      (hclosed : begun = true → x'.stream.closed = true) :
      Move D me x begun bodies (x', .returns (.error failure))
  /-- The message was sent. -/
  | finishes {x' : Shared} (hbodies : bodies = []) (halike : x.stream.Alike x'.stream)
      (hwriting : x'.writing = x.writing.leave me) :
      Move D me x begun bodies (x', .returns (.ok ()))

section

variable {D : Bytes → Prop} {me : Agent} {x x' : Shared} {begun : Bool} {bodies : List Bytes}
  {job : Job}

theorem Move.of_alike (h : x.Alike x') {r : Shared × Turn Writer Outcome}
    (hmove : Move D me x' begun bodies r) : Move D me x begun bodies r := by
  cases hmove with
  | rests halike hin hsending hbodies hbegun hresends =>
    exact .rests (h.trans halike) hin hsending hbodies hbegun hresends
  | replies halike hbodies hbegun => exact .replies (h.trans halike) hbodies hbegun
  | resends halike hbodies hbegun hcurrent hrest =>
    exact .resends (h.trans halike) hbodies hbegun hcurrent hrest
  | @numbers x'' u body datagram rest piggybacked hbodies hseq hpiece hwrite halike hsends =>
    have hwindow := h.stream.sendWindow
    have hmid : (x.stream.holding u).Alike (x'.stream.holding u) :=
      { h.stream with sendWindow := by rw [Stream.holding, Stream.holding, hwindow] }
    rw [h.stream.next] at hseq
    rw [hwindow] at hwrite
    exact .numbers hbodies hseq hpiece hwrite
      ⟨hmid.trans halike.stream, halike.writing.trans h.writing⟩ (hsends.congr hmid)
  | fails hbodies halike hwriting hclosed =>
    exact .fails hbodies (h.stream.trans halike) (by rw [hwriting, h.writing]) hclosed
  | finishes hbodies halike hwriting =>
    exact .finishes hbodies (h.stream.trans halike) (by rw [hwriting, h.writing])

/-- A writer does not move the send window. -/
theorem Move.base_eq {r : Shared × Turn Writer Outcome} (h : Move D me x begun bodies r) :
    r.1.stream.sendWindow.base = x.stream.sendWindow.base := by
  cases h with
  | rests halike => exact congrArg Window.base halike.stream.sendWindow
  | replies halike => exact congrArg Window.base halike.stream.sendWindow
  | resends halike => exact congrArg Window.base halike.stream.sendWindow
  | numbers _ _ _ _ halike =>
    exact (congrArg Window.base halike.stream.sendWindow).trans (Window.base_store _ _)
  | fails _ halike => exact congrArg Window.base halike.sendWindow
  | finishes _ halike => exact congrArg Window.base halike.sendWindow

theorem fail_move (x : Shared) (failure : Failure) (hbodies : bodies ≠ []) :
    Move D me x begun bodies (fail x me begun failure) := by
  unfold fail
  cases begun with
  | false => exact .fails hbodies (Stream.Alike.refl _) rfl (by simp)
  | true => exact .fails hbodies x.stream.alike_shut rfl fun _ => rfl

theorem failWith_move (x : Shared) (failure : Failure) (hbodies : job.bodies = bodies)
    (hbegun : job.begun = begun) : Move D me x begun bodies (failWith x me job failure) := by
  subst hbodies hbegun
  exact (fail_move _ failure (List.cons_ne_nil _ _)).of_alike
    (.of_stream (x.stream.alike_giveBack job.body))

/-! ### From function to function -/

theorem flushed_move (h : x.Alike x') (now : Nat) (hbodies : job.bodies = bodies)
    (hbegun : job.begun = begun) {progress : Flush.Progress} (hall : progress.All D) :
    Move D me x begun bodies (flushed x' me now job progress) := by
  unfold flushed
  split
  · exact .rests h rfl rfl hbodies hbegun (by simp [Writer.resends])
  · exact .resends h hbodies hbegun hall.1 hall.2
  · exact (failWith_move x' _ hbodies hbegun).of_alike h

theorem polled_move (hD : ∀ d, x.stream.Sends d → D d) (now : Nat) (hbodies : job.bodies = bodies)
    (hbegun : job.begun = begun) : Move D me x begun bodies (polled x me now job) := by
  unfold polled
  split
  · exact failWith_move x _ hbodies hbegun
  · have hall := Flush.all_begin x.stream now
    -- what the flush sends is in the send window, and of that `D` is known
    have hall' : (Flush.begin x.stream now).2.All D := by
      generalize (Flush.begin x.stream now).2 = progress at hall
      cases progress with
      | done => trivial
      | going flush => exact ⟨hD _ hall.1, fun d hd => hD d (hall.2 d hd)⟩
      | failed => trivial
    exact flushed_move (.of_stream (Flush.begin_alike x.stream now)) now hbodies hbegun hall'

theorem leavePolling_move (h : x.Alike x') (hD : ∀ d, x.stream.Sends d → D d) (now : Nat)
    (hbodies : job.bodies = bodies) (hbegun : job.begun = begun) :
    Move D me x begun bodies (leavePolling x' me now job) := by
  have hleft : x.Alike (x'.leaveReading me) := ⟨h.stream, h.writing⟩
  exact (polled_move (fun d hd => hD d (hd.congr hleft.stream)) now hbodies hbegun).of_alike hleft

theorem poll_move (hD : ∀ d, x.stream.Sends d → D d) (now : Nat) (hbodies : job.bodies = bodies)
    (hbegun : job.begun = begun) : Move D me x begun bodies (poll x me now job) := by
  have halike : x.Alike { x with stream := { x.stream with roomFreed := false } } :=
    .of_stream ⟨rfl, rfl, rfl, rfl, rfl, rfl, id⟩
  unfold poll
  simp only
  split
  · exact .rests ⟨halike.stream, rfl⟩ rfl rfl hbodies hbegun (by simp [Writer.resends])
  · apply Move.of_alike halike
    exact polled_move (fun d hd => hD d (hd.congr halike.stream)) now hbodies hbegun

theorem attempt_move (hready : x.stream.Ready) (hD : ∀ d, x.stream.Sends d → D d) (now : Nat)
    (hfit : job.body.content.length ≤ x.stream.settings.maxSegment) (hbodies : job.bodies = bodies)
    (hbegun : job.begun = begun) : Move D me x begun bodies (attempt x me now job) := by
  unfold attempt
  -- there is room and the segment gets a number, or there is not and the writer has to wait
  rcases hready.insert?_eq now job.body (!job.rest.isEmpty) rfl with hnone | ⟨hwrite, hsome⟩
  · rw [hnone]
    simp only
    split
    · exact failWith_move x _ hbodies hbegun
    · exact poll_move hD now hbodies hbegun
  · rw [hsome]
    simp only
    generalize hu : (⟨x.stream.next, !job.rest.isEmpty, job.body, now⟩ : Segment Buffer) = u
    have hseq : u.seq = x.stream.next := by rw [← hu]
    have hpiece : u.wire.piece = ⟨!job.rest.isEmpty, job.body.content⟩ := by rw [← hu]; rfl
    have hbody : u.wire.body.length ≤ x.stream.settings.maxSegment := by rw [← hu]; exact hfit
    rw [hu] at hwrite
    obtain ⟨datagram, piggybacked, hok, hsends⟩ := hready.segmentDatagram_eq_ok hseq hbody
    have halike := (x.stream.holding u).alike_segmentDatagram
    split
    · rename_i d p s heq
      rw [heq] at hok halike
      cases hok
      exact .numbers hbodies.symm hseq hpiece hwrite ⟨halike, rfl⟩ hsends
    · rename_i failure s heq
      rw [heq] at hok
      cases hok

theorem retry_move (hready : x.stream.Ready) (hD : ∀ d, x.stream.Sends d → D d) (now : Nat)
    (hfit : job.body.content.length ≤ x.stream.settings.maxSegment) (hbodies : job.bodies = bodies)
    (hbegun : job.begun = begun) : Move D me x begun bodies (retry x me now job) := by
  unfold retry
  split
  · exact failWith_move x _ hbodies hbegun
  · exact attempt_move hready hD now hfit hbodies hbegun

theorem content_prepare {s : Stream} {piece : Bytes} (h : piece.length ≤ s.settings.maxSegment) :
    (s.prepare piece).1.content = piece := by
  have hcapacity := Pool.capacity_take s.pool s.settings.maxSegment
  rw [← hcapacity] at h
  exact Buffer.content_load_of_length_le h

theorem proceed_move (hready : x.stream.Ready) (hD : ∀ d, x.stream.Sends d → D d) (now : Nat)
    (hfit : ∀ b ∈ bodies, b.length ≤ x.stream.settings.maxSegment) :
    Move D me x begun bodies (proceed x me now begun bodies) := by
  unfold proceed
  split
  · exact .finishes rfl (Stream.Alike.refl _) rfl
  · rename_i body rest
    split
    · exact fail_move x _ (List.cons_ne_nil body rest)
    · -- to put the body into a buffer changes nothing but the pool
      have halike := x.stream.alike_prepare body
      have hcontent := content_prepare (hfit body List.mem_cons_self)
      have hready' : (x.stream.prepare body).2.Ready := ⟨hready.fresh, hready.body_le⟩
      let job : Job :=
        { body := (x.stream.prepare body).1, rest := rest, begun := begun
          deadline := now + (x.stream.prepare body).2.settings.writeTimeout }
      have hjob : job.bodies = body :: rest := by rw [Job.bodies, hcontent]
      have hmove : Move D me { x with stream := (x.stream.prepare body).2 } begun (body :: rest)
          (attempt { x with stream := (x.stream.prepare body).2 } me now job) :=
        attempt_move hready' (fun d hd => hD d (hd.congr halike)) now
          (by rw [hcontent]; exact hfit body List.mem_cons_self) hjob rfl
      exact hmove.of_alike (.of_stream halike)

/-- **The start of a message.** -/
theorem start_move (me : Agent) (hready : x.stream.Ready) (hD : ∀ d, x.stream.Sends d → D d)
    (now : Nat) (message : Bytes) :
    Move D me x false (message.chunks x.stream.settings.maxSegment) (start x me now message) :=
  proceed_move hready hD now fun _ => Bytes.length_le_of_mem_chunks

/-- The start of a message on a stream that is closed fails. -/
theorem start_of_closed (me : Agent) (hclosed : x.stream.closed = true) (now : Nat)
    {message : Bytes} (hmessage : message ≠ []) :
    start x me now message = (x.leaveWriting me, .returns (.error .streamClosed)) := by
  have hchunks := Bytes.chunks_ne_nil x.stream.settings.maxSegment_pos hmessage
  unfold start proceed
  split
  · rename_i hnil
    exact absurd hnil hchunks
  · exact if_pos hclosed

/-- **The start of a write**: it is refused, it begins with its message, or it waits. -/
theorem begin_cases (x : Shared) (me : Agent) (now : Nat) (message : Bytes) :
    (∃ outcome, begin x me now message = (x, .returns outcome)
        ∧ ¬ (x.stream.closed = false ∧ message.length ≤ x.stream.settings.maxMessage
          ∧ message ≠ []))
      ∨ x.stream.closed = false ∧ message.length ≤ x.stream.settings.maxMessage ∧ message ≠ []
        ∧ begin x me now message
          = if (x.writing.enter me).owner = some me then
              start { x with writing := x.writing.enter me } me now message
            else
              ({ x with writing := x.writing.enter me }, .waits (entering message)) := by
  unfold begin
  by_cases hclosed : x.stream.closed = true
  · rw [if_pos hclosed]
    exact Or.inl ⟨_, rfl, fun h => by rw [h.1] at hclosed; cases hclosed⟩
  · rw [if_neg hclosed]
    by_cases hlength : x.stream.settings.maxMessage < message.length
    · rw [if_pos hlength]
      exact Or.inl ⟨_, rfl, fun h => Nat.not_le_of_lt hlength h.2.1⟩
    · rw [if_neg hlength]
      by_cases hempty : message.isEmpty = true
      · rw [if_pos hempty]
        exact Or.inl ⟨_, rfl, fun h => h.2.2 (List.isEmpty_iff.mp hempty)⟩
      · rw [if_neg hempty]
        refine Or.inr ⟨Bool.eq_false_of_not_eq_true hclosed, Nat.le_of_not_lt hlength, ?_, rfl⟩
        intro hnil
        exact hempty (List.isEmpty_iff.mpr hnil)

/-! ### Turns -/

/-- **A turn of a writer** that neither takes in a datagram nor learns what became of a segment. -/
theorem resume_move {point : Writer} (hin : point.isInside = true)
    (hsending : point.isSending = false) (hready : x.stream.Ready)
    (hD : ∀ d, x.stream.Sends d → D d) (hresends : ∀ d ∈ point.resends, D d) (now : Nat)
    (hfit : ∀ b ∈ point.bodies, b.length ≤ x.stream.settings.maxSegment) {signal : Signal}
    (hsignal : ∀ raw, signal ≠ .arrived (.datagram raw)) :
    Move D me x point.begun point.bodies (resume x me now point signal) := by
  have hleave (job : Job) : Move D me x job.begun job.bodies (leavePolling x me now job) :=
    leavePolling_move (.refl x) hD now rfl rfl
  have hretry (job : Job) (hjob : ∀ b ∈ job.bodies, b.length ≤ x.stream.settings.maxSegment) :
      Move D me x job.begun job.bodies (retry x me now job) :=
    retry_move hready hD now (hjob _ List.mem_cons_self) rfl rfl
  have hstay : Move D me x point.begun point.bodies (x, .waits point) :=
    .rests (.refl x) hin hsending rfl rfl hresends
  -- only at some points does a signal lead anywhere; at the others the writer waits on
  cases point with
  | entering message => cases hin
  | polling job limit =>
    cases signal with
    | arrived arrival =>
      cases arrival with
      | datagram raw => exact absurd rfl (hsignal raw)
      | fault reason => exact hleave job
    | closed => exact hleave job
    | due => exact hleave job
    | _ => exact hstay
  | replying job limit datagram =>
    cases signal with
    | sent =>
      exact leavePolling_move (.of_stream (x.stream.alike_countSent datagram)) hD now rfl rfl
    | unsent reason => exact hleave job
    | due => exact hleave job
    | _ => exact hstay
  | flushing job flush =>
    cases signal with
    | sent =>
      exact flushed_move (.of_stream (flush.sent_alike x.stream)) now rfl rfl
        (Flush.all_sent hresends x.stream)
    | unsent reason =>
      exact flushed_move (.of_stream (flush.unsent_alike x.stream reason)) now rfl rfl
        (flush.all_unsent x.stream reason)
    | _ => exact hstay
  | awaiting job limit =>
    cases signal with
    | room => exact hretry job hfit
    | due => exact hretry job hfit
    | _ => exact hstay
  | sending rest datagram piggybacked => cases hsending

/-- **A writer takes in a datagram**: what it does then, it does with the stream after that. -/
theorem resume_move_arrived {job : Job} {limit now : Nat} {raw : Bytes}
    (hD : ∀ d, (x.stream.receive now raw).1.Sends d → D d) :
    Move D me { x with stream := (x.stream.receive now raw).1 } job.begun job.bodies
      (resume x me now (polling job limit) (.arrived (.datagram raw))) := by
  show Move D me _ job.begun job.bodies (accept x me now job limit (.datagram raw))
  have hleave {s : Stream} (halike : (x.stream.receive now raw).1.Alike s) :
      Move D me { x with stream := (x.stream.receive now raw).1 } job.begun job.bodies
        (leavePolling { x with stream := s } me now job) := by
    have hx : ({ x with stream := (x.stream.receive now raw).1 } : Shared).Alike
        { x with stream := s } := ⟨halike, rfl⟩
    exact leavePolling_move hx hD now rfl rfl
  unfold accept
  simp only
  split
  · rename_i s heq
    exact hleave (by rw [heq]; exact Stream.Alike.refl s)
  · rename_i s header heq
    have hheader : header = .dialAck := Stream.reply_of_receive (by rw [heq])
    have hok := s.control_eq_ok header
    have halike := s.alike_control header
    rw [hheader] at hok halike ⊢
    split
    · rename_i datagram s' hcontrol
      rw [hcontrol] at hok halike
      cases hok
      exact .replies ⟨by rw [heq]; exact halike, rfl⟩ rfl rfl
    · rename_i failure s' hcontrol
      rw [hcontrol] at hok
      cases hok

/-- **A segment was sent**: the writer gets on with what is left of the message. -/
theorem resume_move_sent {rest : List Bytes} {datagram : Bytes} {piggybacked now : Nat} {s : Stream}
    (hs : s = (x.stream.countSent datagram).commit piggybacked) (hready : s.Ready)
    (hD : ∀ d, s.Sends d → D d) (hfit : ∀ b ∈ rest, b.length ≤ s.settings.maxSegment) :
    Move D me { x with stream := s } true rest
      (resume x me now (sending rest datagram piggybacked) .sent) := by
  have hmove : Move D me { x with stream := s } true rest
      (proceed { x with stream := s } me now true rest) := proceed_move hready hD now hfit
  rwa [hs] at hmove ⊢

end

end Writer

end Redelivery
