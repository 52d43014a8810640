import Redelivery.Proofs.Network.Sides
import Redelivery.Proofs.Network.Sufficiency

/-!
# What others do while a writer is inside

A writer inside the section for writing is the only one who adds segments and sends them. Whatever
happens at its side in which it has no turn leaves the send window and the next serial number as
they are, but for acknowledgements, and no segments are handed to the socket in it.

## Main definitions

* `Network.Regular`: what is known of a peer wherever a network may have come to.
* `Network.Passes`: an incident that does not concern the writer.
* `Network.Fate`: what becomes of the writer.

## Main statements

* `Network.Leads.regular`, `Network.Regular.step`: peers are regular, whatever has happened.
* `Network.Regular.closed`: a closed stream stays closed.
* `Network.Regular.fate`: every incident is one of three to the writer.

`Regular` collects what is needed of a peer to know that only one agent is inside, and it is all
that is needed: it holds from the start on, in every incident, without regard to what arrives
(`Regular.step`). With it, `Regular.sparesCall_resume` goes through the agents: readers and closers
never touch the send window; a writer that is not inside is refused or waits; and the flusher finds
the section taken. What remains is an acknowledgement that one of them takes in, and so `Passes`
leaves just that open.

`Regular.fate` is the form in which later files use this: an incident is the writer's own turn, or
the end of the writer, or it passes.
-/

namespace Redelivery

/-- Whoever is not inside the section stands in line for it. -/
theorem Writer.inside_or_entering (w : Writer) :
    w.isInside = true ∨ ∃ message, w = entering message := by
  cases w with
  | entering message => exact Or.inr ⟨message, rfl⟩
  | _ => exact Or.inl rfl

namespace Session

variable {s : Session} {me : Agent} {signal : Signal}

/-! ## A closed stream stays closed -/

theorem closed_record (s : Session) (id : Nat) {x : Shared} (h : x.stream.closed = true)
    (turn : Turn Call Result) : (s.record id x turn).1.stream.closed = true := by
  rw [stream_record]
  exact h

theorem closed_perform (h : s.stream.closed = true) (now id : Nat) (operation : Operation) :
    (s.perform now id operation).1.stream.closed = true := by
  cases operation with
  | read buffer =>
    have hrespects := (Reader.begin_settles s.shared (.call id) buffer).respects
    exact closed_record s id (hrespects.closed h) _
  | write message =>
    have hrespects := (Writer.begin_settles s.shared (.call id) now message).respects
    exact closed_record s id (hrespects.closed h) _
  | close =>
    have hclosed := Closer.closed_begin s.shared (.call id) s.joinable
    exact closed_record { s with joinable := false } id hclosed _

theorem Held.closed_resume (hheld : s.Held) (hgrants : s.Grants me signal)
    (h : s.stream.closed = true) (now : Nat) :
    (s.resume now me signal).1.stream.closed = true := by
  unfold resume
  cases me with
  | flusher =>
    simp only
    split
    · exact h
    · rename_i point hpoint
      show (s.recordFlusher _).1.shared.stream.closed = true
      rw [shared_recordFlusher]
      exact (Flusher.resume_settles (hheld.flusher point hpoint) now signal).respects.closed h
  | call id =>
    simp only
    split
    · exact h
    · rename_i buffer point hcall
      have hrespects := (hheld.settles_reader hcall hgrants now).respects
      exact closed_record s id (hrespects.closed h) _
    · rename_i point hcall
      have hrespects := (hheld.settles_writer hcall hgrants now).respects
      exact closed_record s id (hrespects.closed h) _
    · rename_i point hcall
      have hholds : point.Holds s.shared := hheld.call id _ hcall
      have hrespects := (Closer.resume_settles hholds (.call id) signal).respects
      exact closed_record s id (hrespects.closed h) _

end Session

namespace Network

variable {settings : ValidSettings} {start n n' : Network} {x : Side} {i : Incident} {id : Nat}

/-! ## What others do while a writer is inside -/

/-- What is known of a peer wherever a network may have come to. -/
structure Regular (settings : ValidSettings) (n : Network) (side : Side) : Prop where
  /-- Agents have what goes with the points at which they wait. -/
  guarded : (n.peer side).session.Guarded
  /-- Nothing can go wrong. -/
  sound : (n.peer side).session.Sound settings
  /-- Calls have numbers. -/
  call_lt : ∀ id c, (n.peer side).session.call? id = some c → id < (n.peer side).calls

/-- The incident leaves the call `id` where it is, and does nothing to what is to be sent, but for
an acknowledgement. -/
structure Passes (n : Network) (side : Side) (id : Nat) (i : Incident) (n' : Network) : Prop where
  /-- The call. -/
  call : (n'.peer side).session.call? id = (n.peer side).session.call? id
  /-- The next serial number. -/
  next : (n'.peer side).stream.next = (n.peer side).stream.next
  /-- The send window. -/
  sendWindow : (n'.peer side).stream.sendWindow
    = (n.ack? side i).toList.foldl Window.hear (n.peer side).stream.sendWindow
  /-- No segments are handed over. -/
  handed : ∀ d, n.handed? side i = some d → d.IsControl

/-- A turn of somebody else, as seen from outside. -/
theorem Passes.of_sparesCall {heard : Stream} {turn : Session × Outcome}
    (h : (n.peer x).session.SparesCall id heard turn)
    (hnext : heard.next = (n.peer x).stream.next)
    (hwindow : heard.sendWindow
      = (n.ack? x i).toList.foldl Window.hear (n.peer x).stream.sendWindow)
    (hsession : (n'.peer x).session = turn.1) (houtcome : n.outcome? x i = some turn.2) :
    n.Passes x id i n' where
  call := by rw [hsession, h.call]
  next := by
    show (n'.peer x).session.stream.next = _
    rw [hsession, h.stream.next, hnext]
  sendWindow := by
    show (n'.peer x).session.stream.sendWindow = _
    rw [hsession, h.stream.sendWindow, hwindow]
  handed d hd := by
    unfold handed? at hd
    rw [houtcome] at hd
    exact h.control d hd

section

variable {me : Agent} {signal : Signal}

/-- A writer that waits for the socket to take a new segment hears from the socket. -/
theorem sending_of_allows {w : Writer}
    (hcall : (n.peer x).session.call? id = some (.writing w))
    (h : n.allows x (.call id) signal = true) (hsending : w.isSending = true) :
    signal = .sent ∨ ∃ reason, signal = .unsent reason := by
  have hwait := Session.wait?_of_call? hcall
  cases w with
  | sending rest d piggybacked =>
    cases signal with
    | sent => exact Or.inl rfl
    | unsent reason => exact Or.inr ⟨reason, rfl⟩
    | _ => simp [allows, hwait, Call.wait, Writer.wait] at h
  | _ => cases hsending

/-- **Nobody else touches the sending half** while a writer is inside the section. -/
theorem Regular.sparesCall_resume (h : n.Regular settings x)
    (howner : (n.peer x).session.shared.writing.owner = some (.call id))
    (hallows : n.allows x me signal = true) (hme : me ≠ .call id) :
    (n.peer x).session.SparesCall id ((n.peer x).stream.heard n.now signal)
      ((n.peer x).session.resume n.now me signal) := by
  have hheld := h.guarded.held
  have hwaits := wait?_ne_none_of_allows hallows
  unfold Session.resume
  cases me with
  | flusher =>
    rw [Stream.heard_of_ne (ne_arrived_of_flusher hallows)]
    cases hpoint : (n.peer x).session.flusher with
    | none => simp [Session.wait?, hpoint] at hwaits
    | some point => exact hheld.sparesCall_flusher howner hpoint n.now signal
  | call k =>
    have hk : k ≠ id := by
      rintro rfl
      exact hme rfl
    simp only
    cases hcall : (n.peer x).session.call? k with
    | none => simp [Session.wait?, hcall] at hwaits
    | some c =>
      cases c with
      | reading buffer point =>
        exact Session.sparesCall_reader hk (receiving_of_allows hcall hallows) n.now
      | writing point =>
        -- another writer is not inside, and it is not its turn to get there
        exfalso
        apply hk
        rcases point.inside_or_entering with hin | ⟨message, rfl⟩
        · have hother : point.Holds (.call k) (n.peer x).session.shared := hheld.call k _ hcall
          simpa [hother.owner hin] using howner
        · have hother := (owner_of_allows hallows (Session.wait?_of_call? hcall)).2
          simpa [hother] using howner
      | closing point =>
        rw [Stream.heard_of_ne (ne_arrived_of_closing hcall hallows)]
        exact Session.sparesCall_closer hk point signal

end

/-- What becomes of a writer inside the section in an incident. -/
inductive Fate (n : Network) (side : Side) (id : Nat) (w : Writer) (i : Incident)
    (n' : Network) : Prop where
  /-- It has a turn. -/
  | resumes {signal : Signal} (hallows : n.allows side (.call id) signal = true)
      (hsession : (n'.peer side).session = ((n.peer side).session.recordWriter id
        (Writer.resume (n.peer side).session.shared (.call id) n.now w signal)).1)
      (houtcome : n.outcome? side i = some ((n.peer side).session.recordWriter id
        (Writer.resume (n.peer side).session.shared (.call id) n.now w signal)).2)
      (hack : n.ack? side i = (n.peer side).stream.told? signal)
  /-- Something else happens, and it does not concern it. -/
  | passes (h : n.Passes side id i n')
  /-- It is abandoned. -/
  | abandoned (hcall : (n'.peer side).session.call? id = none) (houtcome : n.outcome? side i = none)

/-- **A writer inside the section** has a turn, or it is abandoned, or nothing is done to what is to
be sent. -/
theorem Regular.fate (h : n.Regular settings x) (hstep : n.undergo? i = some n') {w : Writer}
    (hcall : (n.peer x).session.call? id = some (.writing w)) (hin : w.isInside = true) :
    n.Fate x id w i n' := by
  have hholds : w.Holds (.call id) (n.peer x).session.shared := h.guarded.held.call id _ hcall
  have howner := hholds.owner hin
  cases happens hstep x with
  | elsewhere hpeer houtcome hack =>
    refine .passes ⟨by rw [hpeer], by rw [hpeer], by rw [hpeer, hack]; rfl, fun d hd => ?_⟩
    simp [handed?, houtcome] at hd
  | @called operation refusal hincident hsession hcalls houtcome hack =>
    have hk : (n.peer x).calls ≠ id := (Nat.ne_of_lt (h.call_lt id _ hcall)).symm
    have hspares : (n.peer x).session.SparesCall id (n.peer x).stream
        ((n.peer x).session.perform n.now (n.peer x).calls operation) := by
      cases operation with
      | read buffer => exact Session.sparesCall_read hk buffer
      | write message => exact Session.sparesCall_write hk howner n.now message
      | close => exact Session.sparesCall_close hk
    exact .passes (.of_sparesCall hspares rfl (by rw [hack]; rfl) hsession houtcome)
  | @turned me signal refusal hincident hallows hsession hcalls houtcome hack =>
    by_cases hme : me = .call id
    · subst hme
      rw [Session.resume_writing hcall] at hsession houtcome
      exact .resumes hallows hsession houtcome hack
    · obtain ⟨-, hnext, hwindow⟩ := (n.peer x).stream.heard_told n.now signal
      rw [← hack] at hwindow
      exact .passes (.of_sparesCall (h.sparesCall_resume howner hallows hme) hnext hwindow hsession
        houtcome)
  | cancelled k hsession hcalls houtcome hack =>
    have hcancel := Session.call?_cancel_eq (n.peer x).session k id
    rw [← hsession] at hcancel
    by_cases hid : id = k
    · rw [if_pos hid] at hcancel
      exact .abandoned hcancel houtcome
    · rw [if_neg hid] at hcancel
      have halike := (n.peer x).session.alike_cancel k
      rw [← hsession] at halike
      refine .passes ⟨hcancel, halike.next, ?_, fun d hd => ?_⟩
      · rw [hack]
        exact halike.sendWindow
      · simp [handed?, houtcome] at hd

theorem Regular.step (h : n.Regular settings x) (hstep : n.undergo? i = some n') :
    n'.Regular settings x :=
  ⟨guarded_undergo h.guarded hstep, session_sound_undergo h.sound hstep,
    (happens hstep x).call_lt h.call_lt⟩

theorem Leads.regular {rule : Rule} (h : start.Leads rule n) (hstart : start.IsStart settings)
    (x : Side) : n.Regular settings x :=
  ⟨h.guarded hstart x, h.session_sound hstart x, h.call_lt hstart x⟩

theorem Regular.closed (h : n.Regular settings x) (hstep : n.undergo? i = some n')
    (hclosed : (n.peer x).stream.closed = true) : (n'.peer x).stream.closed = true := by
  show (n'.peer x).session.stream.closed = true
  cases happens hstep x with
  | elsewhere hpeer =>
    rw [hpeer]
    exact hclosed
  | called hincident hsession =>
    rw [hsession]
    exact Session.closed_perform hclosed n.now _ _
  | turned hincident hallows hsession =>
    rw [hsession]
    exact h.guarded.held.closed_resume (grants_of_allows hallows) hclosed n.now
  | cancelled k hsession =>
    rw [hsession]
    exact ((n.peer x).session.alike_cancel k).closed hclosed

end Network

end Redelivery
