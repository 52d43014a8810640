import Redelivery.Proofs.Session.Flush
import Redelivery.Proofs.Stream.Receiving
import Redelivery.Session.Reader

/-!
# What a reader does in a turn

A reader takes at most one segment out of the receive window in a turn, and it makes at most one
acknowledgement, after all that.

## Main definitions

* `Stream.emptied`, `Stream.advanced`, `Stream.popped`: what a reader makes of a stream.
* `Stream.Delivers`: what the next step on the way of a message can come to.
* `Reader.Move`: what a reader's turn can come to.

## Main statements

* `Reader.proceed_move`, `Reader.resume_move`, `Reader.resume_move_arrived`: the turns of a reader.
* `Reader.proceed_hands`: an acknowledgement that is due is handed over.

The functions of a reader call each other in a row, and there is a lemma for each of them, from the
last to the first: `deliver_delivers` for the stream, `proceed_move` for what the reader makes of
it, and the turns on top of that. A turn in which something arrives has two halves, and only the
second one is the reader's own: `resume_arrived_eq` says that the reader goes on with the stream
after the arrival as if that had been there before. So an arrival is looked at once, for all agents,
and not in each of their turns.

Of the cases of `Reader.Move` the one of a message that becomes too long cannot be excluded here.
Whether it occurs depends on what the peer has sent.
-/

namespace Redelivery

/-- The datagram that acknowledges what is in a window. -/
def Window.ackDatagram (w : Window Buffer) : Bytes :=
  (Header.ack w.base w.received).datagram []

namespace Stream

/-- The stream after the message that was whole is handed over. -/
def emptied (s : Stream) : Stream :=
  { s with assembled := #[], complete := false }

/-- The stream after its receive window is left as `w`. -/
def popped (s : Stream) (w : Window Buffer) : Stream :=
  { s with receiveWindow := w }

/-- The stream after the segment `u` was taken out of its receive window, which is left as `w`. -/
def advanced (s : Stream) (u : Segment Buffer) (w : Window Buffer) : Stream :=
  { s with
    receiveWindow := w
    assembled := s.assembled ++ u.body.content
    complete := !u.more }

namespace Alike

variable {s s' : Stream}

theorem emptied (h : s.Alike s') : s.emptied.Alike s'.emptied :=
  { h with assembled := rfl, complete := rfl }

theorem popped (h : s.Alike s') (w : Window Buffer) : (s.popped w).Alike (s'.popped w) :=
  { h with receiveWindow := rfl }

theorem advanced (h : s.Alike s') (u : Segment Buffer) (w : Window Buffer) :
    (s.advanced u w).Alike (s'.advanced u w) :=
  { h with
    receiveWindow := rfl
    assembled := by rw [Stream.advanced, Stream.advanced, h.assembled]
    complete := rfl }

end Alike

/-- What the next step on the way of a message into a reader's buffer can come to. -/
inductive Delivers (s : Stream) (buffer : Bytes) : Stream × Delivery → Prop
  /-- The message is whole, and stays since the buffer is too small for it. -/
  | keeps (hcomplete : s.complete = true) (hlength : buffer.length < s.assembled.size) :
      Delivers s buffer (s, .failed (.readBufferTooSmall s.assembled.size buffer.length))
  /-- The message is whole, and is handed over. -/
  | empties (hcomplete : s.complete = true) (hlength : s.assembled.size ≤ buffer.length) :
      Delivers s buffer
        (s.emptied, .message s.assembled.size (buffer.overwrite s.assembled.toList))
  /-- The next segment is not there. -/
  | starves (hcomplete : s.complete = false) (hpop : s.receiveWindow.pop? = none) :
      Delivers s buffer (s, .starved)
  /-- The next segment makes the message too long. -/
  | overflows {u : Segment Buffer} {w : Window Buffer} (hcomplete : s.complete = false)
      (hpop : s.receiveWindow.pop? = some (u, w))
      (hlength : s.settings.maxMessage < s.assembled.size + u.body.length) :
      Delivers s buffer
        (({ s.popped w with pool := s.pool.give u.body } : Stream).shut,
          .failed (.messageTooLarge (s.assembled.size + u.body.length) s.settings.maxMessage))
  /-- The next segment is appended to the message. -/
  | advances {u : Segment Buffer} {w : Window Buffer} (hcomplete : s.complete = false)
      (hpop : s.receiveWindow.pop? = some (u, w))
      (hlength : s.assembled.size + u.body.length ≤ s.settings.maxMessage) :
      Delivers s buffer ({ s.advanced u w with pool := s.pool.give u.body }, .advanced)

theorem deliver_delivers (s : Stream) (buffer : Bytes) : s.Delivers buffer (s.deliver buffer) := by
  unfold deliver
  by_cases hcomplete : s.complete = true
  · rw [if_pos hcomplete]
    simp only
    by_cases hlength : buffer.length < s.assembled.size
    · rw [if_pos hlength]
      exact .keeps hcomplete hlength
    · rw [if_neg hlength]
      exact .empties hcomplete (Nat.not_lt.mp hlength)
  · rw [if_neg hcomplete]
    have hpart : s.complete = false := Bool.eq_false_of_not_eq_true hcomplete
    cases hpop : s.receiveWindow.pop? with
    | none => exact .starves hpart hpop
    | some popped =>
      obtain ⟨u, w⟩ := popped
      simp only
      by_cases hlength : s.settings.maxMessage < s.assembled.size + u.body.length
      · rw [if_pos hlength]
        exact .overflows hpart hpop hlength
      · rw [if_neg hlength]
        exact .advances hpart hpop (Nat.not_lt.mp hlength)

end Stream

namespace Reader

/-- What a turn of a reader can come to. -/
inductive Move (x : Shared) (buffer : Bytes) : Shared × Turn Reader Outcome → Prop
  /-- The reader waits. -/
  | rests {x' : Shared} {r : Reader} (halike : x.Alike x') : Move x buffer (x', .waits r)
  /-- The reader answers a request for a stream. -/
  | replies {x' : Shared} {r : Reader} (halike : x.Alike x') :
      Move x buffer (x', .hands r (Header.dialAck.datagram []))
  /-- The read fails. -/
  | fails {x' : Shared} {failure : Failure} (halike : x.Alike x') :
      Move x buffer (x', .returns (.error failure))
  /-- The message that is whole is handed over. -/
  | delivers {x' : Shared} (hcomplete : x.stream.complete = true)
      (halike : { x with stream := x.stream.emptied }.Alike x') :
      Move x buffer
        (x', .returns (.ok (x.stream.assembled.size,
          buffer.overwrite x.stream.assembled.toList)))
  /-- A segment is taken out, and what is there now is acknowledged. -/
  | advances {x' : Shared} {r : Reader} {u : Segment Buffer} {w : Window Buffer}
      (hcomplete : x.stream.complete = false) (hpop : x.stream.receiveWindow.pop? = some (u, w))
      (halike : { x with stream := x.stream.advanced u w }.Alike x') :
      Move x buffer (x', .hands r w.ackDatagram)
  /-- A segment is taken out that makes the message too long. -/
  | overflows {x' : Shared} {failure : Failure} {u : Segment Buffer} {w : Window Buffer}
      (hcomplete : x.stream.complete = false) (hpop : x.stream.receiveWindow.pop? = some (u, w))
      (hlength : x.stream.settings.maxMessage < x.stream.assembled.size + u.body.length)
      (halike : { x with stream := x.stream.popped w }.Alike x') :
      Move x buffer (x', .returns (.error failure))
  /-- The next segment is not there, and what is there is acknowledged. -/
  | starves {x' : Shared} {r : Reader} (hpop : x.stream.receiveWindow.pop? = none)
      (halike : x.Alike x') : Move x buffer (x', .hands r x.stream.receiveWindow.ackDatagram)

variable {x x' : Shared} {me : Agent} {buffer : Bytes}

theorem acknowledge_eq_hands (x : Shared) (again : Bool) : acknowledge x again
    = ({ x with stream := x.stream.acknowledge.2 },
      .hands (acking x.stream.receiveWindow.ackDatagram again)
        x.stream.receiveWindow.ackDatagram) := by
  have hok : x.stream.acknowledge.1 = .ok x.stream.receiveWindow.ackDatagram :=
    Stream.control_eq_ok _ _
  unfold acknowledge
  split
  · rename_i datagram s heq
    rw [heq] at hok ⊢
    cases hok
    rfl
  · rename_i failure s heq
    rw [heq] at hok
    cases hok

theorem acknowledge_eq (x : Shared) (again : Bool) :
    ∃ x', acknowledge x again
        = (x', .hands (acking x.stream.receiveWindow.ackDatagram again)
            x.stream.receiveWindow.ackDatagram)
      ∧ x.Alike x' :=
  ⟨_, acknowledge_eq_hands x again, .of_stream x.stream.alike_acknowledge⟩

theorem Move.of_alike (h : x.Alike x') {r : Shared × Turn Reader Outcome}
    (hmove : Move x' buffer r) : Move x buffer r := by
  have hwindow := h.stream.receiveWindow
  cases hmove with
  | rests halike => exact .rests (h.trans halike)
  | replies halike => exact .replies (h.trans halike)
  | fails halike => exact .fails (h.trans halike)
  | delivers hcomplete halike =>
    -- what a message is made of is the same in both states
    rw [h.stream.complete] at hcomplete
    rw [h.stream.assembled]
    exact .delivers hcomplete
      ⟨h.stream.emptied.trans halike.stream, halike.writing.trans h.writing⟩
  | advances hcomplete hpop halike =>
    rw [h.stream.complete] at hcomplete
    rw [hwindow] at hpop
    exact .advances hcomplete hpop
      ⟨(h.stream.advanced _ _).trans halike.stream, halike.writing.trans h.writing⟩
  | overflows hcomplete hpop hlength halike =>
    rw [h.stream.complete] at hcomplete
    rw [hwindow] at hpop
    rw [h.stream.settings, h.stream.assembled] at hlength
    exact .overflows hcomplete hpop hlength
      ⟨(h.stream.popped _).trans halike.stream, halike.writing.trans h.writing⟩
  | starves hpop halike =>
    rw [hwindow] at hpop ⊢
    exact .starves hpop (h.trans halike)

/-- A reader leaves the send window alone. -/
theorem Move.sendWindow_eq {r : Shared × Turn Reader Outcome} (h : Move x buffer r) :
    r.1.stream.sendWindow = x.stream.sendWindow := by
  cases h with
  | rests halike => exact halike.stream.sendWindow
  | replies halike => exact halike.stream.sendWindow
  | fails halike => exact halike.stream.sendWindow
  | delivers _ halike => exact halike.stream.sendWindow
  | advances _ _ halike => exact halike.stream.sendWindow
  | overflows _ _ _ halike => exact halike.stream.sendWindow
  | starves _ halike => exact halike.stream.sendWindow

/-- A reader leaves the section for writing alone. -/
theorem Move.writing_eq {r : Shared × Turn Reader Outcome} (h : Move x buffer r) :
    r.1.writing = x.writing := by
  cases h with
  | rests halike => exact halike.writing
  | replies halike => exact halike.writing
  | fails halike => exact halike.writing
  | delivers _ halike => exact halike.writing
  | advances _ _ halike => exact halike.writing
  | overflows _ _ _ halike => exact halike.writing
  | starves _ halike => exact halike.writing

theorem fails_finish (h : x.Alike x') (failure : Failure) :
    Move x buffer (finish x' me (.error failure)) :=
  .fails ⟨h.stream, h.writing⟩

/-- **A reader gets on with the message.** -/
theorem proceed_move (x : Shared) (me : Agent) (buffer : Bytes) :
    Move x buffer (proceed x me buffer) := by
  unfold proceed
  split
  · exact fails_finish (.refl x) _
  · rename_i hclosed
    have hdeliver := x.stream.deliver_delivers buffer
    generalize x.stream.deliver buffer = r at hdeliver ⊢
    cases hdeliver with
    | keeps => exact fails_finish (.refl x) _
    | empties hcomplete => exact .delivers hcomplete ⟨.refl _, rfl⟩
    | starves _ hpop =>
      simp only
      split
      · obtain ⟨x', heq, halike⟩ := acknowledge_eq x false
        rw [heq]
        exact .starves hpop halike
      · exact .rests (.refl x)
    | overflows hcomplete hpop hlength =>
      exact .overflows hcomplete hpop hlength
        ⟨⟨rfl, rfl, rfl, rfl, rfl, rfl, fun h => absurd h hclosed⟩, rfl⟩
    | @advances u w hcomplete hpop =>
      -- the acknowledgement is made of the window as it is after the segment was taken out
      obtain ⟨x', heq, halike⟩ := acknowledge_eq
        { x with stream := { x.stream.advanced u w with pool := x.stream.pool.give u.body } } true
      have hmid : ({ x with stream := x.stream.advanced u w } : Shared).Alike
          { x with stream := { x.stream.advanced u w with pool := x.stream.pool.give u.body } } :=
        ⟨⟨rfl, rfl, rfl, rfl, rfl, rfl, id⟩, rfl⟩
      show Move x buffer (acknowledge _ true)
      rw [heq]
      exact .advances hcomplete hpop (hmid.trans halike)

/-- **A reader acknowledges** what is due before it receives again, if it has no message to hand
over and none gets too long. -/
theorem proceed_hands (me : Agent) (buffer : Bytes) (hopen : x.stream.closed = false)
    (hcomplete : x.stream.complete = false) (hdue : x.stream.ackDue = true)
    (hfits : ∀ u w, x.stream.receiveWindow.pop? = some (u, w) →
      x.stream.assembled.size + u.body.length ≤ x.stream.settings.maxMessage) :
    ∃ x' again, proceed x me buffer
      = (x', .hands (acking x'.stream.receiveWindow.ackDatagram again)
          x'.stream.receiveWindow.ackDatagram) := by
  have hack (mid : Shared) (again : Bool) : ∃ x', acknowledge mid again
      = (x', .hands (acking x'.stream.receiveWindow.ackDatagram again)
          x'.stream.receiveWindow.ackDatagram) := by
    obtain ⟨x', heq, halike⟩ := acknowledge_eq mid again
    rw [← halike.stream.receiveWindow] at heq
    exact ⟨x', heq⟩
  unfold proceed
  rw [hopen, if_neg Bool.false_ne_true]
  have hdeliver := x.stream.deliver_delivers buffer
  generalize x.stream.deliver buffer = r at hdeliver ⊢
  cases hdeliver with
  | keeps h =>
    rw [hcomplete] at h
    cases h
  | empties h =>
    rw [hcomplete] at h
    cases h
  | starves =>
    simp only
    rw [if_pos hdue]
    obtain ⟨x', heq⟩ := hack x false
    exact ⟨x', false, heq⟩
  | overflows _ hpop hlength => exact absurd (hfits _ _ hpop) (Nat.not_le_of_lt hlength)
  | advances =>
    obtain ⟨x', heq⟩ := hack _ true
    exact ⟨x', true, heq⟩

/-- **The start of a read.** -/
theorem begin_move (x : Shared) (me : Agent) (buffer : Bytes) :
    Move x buffer (begin x me buffer) := by
  unfold begin
  split
  · exact .fails (.refl x)
  · have halike : x.Alike { x with reading := x.reading.enter me } := ⟨.refl _, rfl⟩
    simp only
    split
    · exact (proceed_move _ me buffer).of_alike halike
    · exact .rests halike

/-- **A turn of a reader** that does not take in a datagram. -/
theorem resume_move (x : Shared) (me : Agent) (buffer : Bytes) (now : Nat) (point : Reader)
    {signal : Signal} (hsignal : ∀ raw, signal ≠ .arrived (.datagram raw)) :
    Move x buffer (resume x me buffer now point signal) := by
  have hstay : Move x buffer (x, .waits point) := .rests (.refl x)
  have hcount (datagram : Bytes) : x.Alike { x with stream := x.stream.countSent datagram } :=
    .of_stream (x.stream.alike_countSent datagram)
  cases point with
  | entering =>
    cases signal with
    | granted => exact proceed_move x me buffer
    | _ => exact hstay
  | acking datagram again =>
    cases signal with
    | sent =>
      cases again with
      | true => exact (proceed_move _ me buffer).of_alike (hcount datagram)
      | false => exact .rests (hcount datagram)
    | unsent reason =>
      cases again with
      | true => exact proceed_move x me buffer
      | false => exact .rests (.refl x)
    | _ => exact hstay
  | receiving =>
    cases signal with
    | arrived arrival =>
      cases arrival with
      | datagram raw => exact absurd rfl (hsignal raw)
      | fault reason => exact fails_finish (.refl x) _
    | closed => exact fails_finish (.refl x) _
    | _ => exact hstay
  | replying datagram =>
    cases signal with
    | sent => exact (proceed_move _ me buffer).of_alike (hcount datagram)
    | unsent reason => exact proceed_move x me buffer
    | _ => exact hstay

/-- A reader goes on as soon as it has taken in a datagram that asks for no reply. -/
theorem resume_arrived_eq {now : Nat} {raw : Bytes} (me : Agent) (buffer : Bytes)
    (hreply : (x.stream.receive now raw).2 = none) :
    resume x me buffer now receiving (.arrived (.datagram raw))
      = proceed { x with stream := (x.stream.receive now raw).1 } me buffer := by
  show accept x me buffer now (.datagram raw) = _
  unfold accept
  simp only
  split
  · rename_i s heq
    rw [heq]
  · rename_i s header heq
    rw [heq] at hreply
    cases hreply

/-- A reader answers what it has taken in, if that asks for a reply. -/
theorem resume_arrived_eq_of_reply {now : Nat} {raw : Bytes} (me : Agent) (buffer : Bytes)
    {header : Header} (hreply : (x.stream.receive now raw).2 = some header) :
    resume x me buffer now receiving (.arrived (.datagram raw))
      = ({ x with stream := ((x.stream.receive now raw).1.control .dialAck).2 },
        .hands (replying (Header.dialAck.datagram [])) (Header.dialAck.datagram [])) := by
  obtain rfl := Stream.reply_of_receive hreply
  show accept x me buffer now (.datagram raw) = _
  unfold accept
  simp only
  split
  · rename_i s heq
    rw [heq] at hreply
    cases hreply
  · rename_i s header heq
    rw [heq] at hreply ⊢
    cases hreply
    have hok := s.control_eq_ok .dialAck
    split
    · rename_i datagram s' hcontrol
      rw [hcontrol] at hok ⊢
      cases hok
      rfl
    · rename_i failure s' hcontrol
      rw [hcontrol] at hok
      cases hok

/-- **A reader takes in a datagram**: what it does then, it does with the stream after that. -/
theorem resume_move_arrived (x : Shared) (me : Agent) (buffer : Bytes) (now : Nat) (raw : Bytes) :
    Move { x with stream := (x.stream.receive now raw).1 } buffer
      (resume x me buffer now receiving (.arrived (.datagram raw))) := by
  cases hreply : (x.stream.receive now raw).2 with
  | none =>
    rw [resume_arrived_eq me buffer hreply]
    exact proceed_move _ me buffer
  | some header =>
    rw [resume_arrived_eq_of_reply me buffer hreply]
    exact .replies ⟨Stream.alike_control _ _, rfl⟩

theorem writing_resume (x : Shared) (me : Agent) (buffer : Bytes) (now : Nat) {point : Reader}
    {signal : Signal} (hpoint : ∀ arrival, signal = .arrived arrival → point = .receiving) :
    (resume x me buffer now point signal).1.writing = x.writing := by
  by_cases hsignal : ∃ raw, signal = .arrived (.datagram raw)
  · obtain ⟨raw, rfl⟩ := hsignal
    rw [hpoint _ rfl]
    exact (resume_move_arrived x me buffer now raw).writing_eq
  · exact (resume_move x me buffer now point fun raw heq => hsignal ⟨raw, heq⟩).writing_eq

end Reader

end Redelivery
