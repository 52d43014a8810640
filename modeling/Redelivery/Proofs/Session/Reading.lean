import Redelivery.Proofs.Session.Orderly
import Redelivery.Proofs.Session.Sparing

/-!
# What an agent does in the section for reading

Only the owner of the section for reading receives from the socket and takes segments out of the
receive window. What it takes out it acknowledges in the same turn, and a reader does not wait for
the socket again before all is done that can be done: the next segment is not there, no message
waits to be handed over, and no acknowledgement is due.

## Main definitions

* `Stream.Retains`: what is received and not yet delivered stays as it is.
* `Stream.Drained`: there is nothing to deliver and nothing to acknowledge.
* `Stream.Answers`: what is taken out is acknowledged.
* `Conduct`: what an agent does in a turn to the section for reading, and to what it protects.
* `Shared.Yields`: what agents do that stay outside.

## Main statements

* `Reader.begin_conduct`, `Reader.resume_conduct`: the turns of a reader.
* `Conduct.of_yields`: a turn outside the section.

`Conduct` is one structure for all agents, so that sessions can treat them alike: it names the
points at which an agent is inside the section and those at which it rests there, and says that
whoever rests has left the stream drained. For agents that stay outside this is empty, and
`Conduct.of_yields` makes a conduct of the fact that they leave alone what the section protects.

For a reader the heart of it is `proceed_conduct`. A reader that goes back to the socket has found
no message, no next segment and no acknowledgement to send, in this order, and nobody can have
changed that since. If it takes a segment out, it acknowledges in the same turn, so `Stream.Answers`
holds between the two states, with the datagram that was handed over. Where the next segment makes
the message too long this fails, and so the lemma asks for `Stream.Fits`.
-/

namespace Redelivery

/-- Whether a datagram is an acknowledgement. -/
def Bytes.isAck (datagram : Bytes) : Bool :=
  match Header.ofDatagram? datagram with
  | some (.ack _ _, _) => true
  | _ => false

theorem Bytes.isAck_data (segments : List (Segment Bytes)) :
    (Header.data.datagram segments).isAck = false := by
  unfold isAck
  rw [Header.ofDatagram?_datagram]

/-- The datagram carries segments. -/
def Bytes.IsData (datagram : Bytes) : Prop :=
  ∃ segments, datagram = Header.data.datagram segments

theorem Bytes.IsData.isAck_eq {datagram : Bytes} (h : datagram.IsData) :
    datagram.isAck = false := by
  obtain ⟨segments, rfl⟩ := h
  exact isAck_data segments

theorem Bytes.isAck_dialAck : (Header.dialAck.datagram []).isAck = false := by
  unfold isAck
  rw [Header.ofDatagram?_datagram]

theorem Window.isAck_ackDatagram (w : Window Buffer) : w.ackDatagram.isAck = true := by
  unfold Bytes.isAck ackDatagram
  rw [Header.ofDatagram?_datagram]

/-! ## Streams -/

namespace Stream

/-- The two states agree on what is received and not yet delivered, and on what of it is to be
acknowledged. -/
structure Retains (s s' : Stream) : Prop where
  /-- The receive window. -/
  receiveWindow : s'.receiveWindow = s.receiveWindow
  /-- Whether a message waits to be handed over. -/
  complete : s'.complete = s.complete
  /-- Whether an acknowledgement is due. -/
  ackDue : s'.ackDue = s.ackDue

/-- There is nothing to deliver and nothing to acknowledge. -/
structure Drained (s : Stream) : Prop where
  /-- No message waits to be handed over. -/
  complete : s.complete = false
  /-- The next segment is not there. -/
  pop?_eq : s.receiveWindow.pop? = none
  /-- No acknowledgement is due. -/
  ackDue : s.ackDue = false

/-- What is done to the receive window between two states is told to the peer, by the datagram that
is handed over then. -/
inductive Answers (s s' : Stream) (handed : Option Bytes) : Prop where
  /-- There is nothing to tell. -/
  | silent (hwindow : s'.receiveWindow = s.receiveWindow) (hdue : s'.ackDue = s.ackDue)
      (hhanded : ∀ d, handed = some d → d.isAck = false)
  /-- At most one segment is taken out, and what is there afterwards is acknowledged. -/
  | acknowledges (hwindow : s'.receiveWindow = s.receiveWindow
        ∨ ∃ u, s.receiveWindow.pop? = some (u, s'.receiveWindow))
      (hhanded : handed = some s'.receiveWindow.ackDatagram)

theorem answers_none {s s' : Stream} (hwindow : s'.receiveWindow = s.receiveWindow)
    (hdue : s'.ackDue = s.ackDue) : s.Answers s' none :=
  .silent hwindow hdue fun _ hd => by cases hd

/-- The next segment does not make the message too long. -/
def Fits (s : Stream) : Prop :=
  s.complete = false → ∀ u w, s.receiveWindow.pop? = some (u, w) →
    s.assembled.size + u.body.length ≤ s.settings.maxMessage

variable {s s' : Stream}

namespace Retains

theorem refl (s : Stream) : s.Retains s :=
  ⟨rfl, rfl, rfl⟩

theorem trans {t : Stream} (h : s.Retains s') (h' : s'.Retains t) : s.Retains t :=
  ⟨h'.receiveWindow.trans h.receiveWindow, h'.complete.trans h.complete, h'.ackDue.trans h.ackDue⟩

theorem drained (h : s.Retains s') (hs : s.Drained) : s'.Drained :=
  ⟨h.complete.trans hs.complete, by rw [h.receiveWindow, hs.pop?_eq], h.ackDue.trans hs.ackDue⟩

end Retains

theorem retains_flushDatagrams (s : Stream) (now : Nat) : s.Retains (s.flushDatagrams now).2 := by
  obtain ⟨pool, heq⟩ := s.snd_flushDatagrams now
  rw [heq]
  exact ⟨rfl, rfl, rfl⟩

theorem retains_segmentDatagram (s : Stream) : s.Retains s.segmentDatagram.2 := by
  obtain ⟨pool, heq⟩ := s.snd_segmentDatagram
  rw [heq]
  exact ⟨rfl, rfl, rfl⟩

theorem retains_insert? {now : Nat} {body : Buffer} {more : Bool}
    (h : s.insert? now body more = some s') : s.Retains s' := by
  unfold insert? at h
  split at h
  · cases h
    exact ⟨rfl, rfl, rfl⟩
  · cases h
    exact ⟨rfl, rfl, rfl⟩
  · cases h

theorem retains_abandon (s : Stream) : s.Retains s.abandon := by
  unfold abandon
  split <;> exact ⟨rfl, rfl, rfl⟩

theorem Sends.isData {s : Stream} {datagram : Bytes} (h : s.Sends datagram) :
    datagram.IsData := by
  obtain ⟨segments, heq, -⟩ := h
  exact ⟨segments, heq⟩

theorem isData_of_segmentDatagram {s : Stream} {datagram : Bytes} {piggybacked : Nat}
    (h : s.segmentDatagram.1 = .ok (datagram, piggybacked)) : datagram.IsData := by
  unfold segmentDatagram at h
  split at h
  · cases h
  · simp only at h
    split at h
    · rename_i d s' heq
      cases h
      exact ⟨_, (of_dataDatagram_eq_ok (congrArg Prod.fst heq)).1⟩
    · cases h

/-- What is answered at once is answered with `dialAck`. -/
theorem control_of_reply {now : Nat} {raw : Bytes} {header : Header}
    (h : (s.receive now raw).2 = some header) (s' : Stream) :
    ∃ t, s'.control header = (.ok (Header.dialAck.datagram []), t) ∧ s'.Retains t := by
  obtain rfl := reply_of_receive h
  exact ⟨_, Prod.ext (s'.control_eq_ok .dialAck) rfl, rfl, rfl, rfl⟩

/-- An acknowledgement is due after data arrived, and after anything else, if one was due before. -/
theorem ackDue_receive (s : Stream) (now : Nat) (raw : Bytes) :
    (s.receive now raw).1.ackDue = true
      ∨ (s.receive now raw).1.receiveWindow = s.receiveWindow
        ∧ (s.receive now raw).1.ackDue = s.ackDue := by
  show ((s.taking raw).process now (s.pool.intake s.settings.mtu raw).1).1.ackDue = true
    ∨ ((s.taking raw).process now (s.pool.intake s.settings.mtu raw).1).1.receiveWindow = _
      ∧ ((s.taking raw).process now (s.pool.intake s.settings.mtu raw).1).1.ackDue = _
  unfold process
  cases Header.ofDatagram? (s.pool.intake s.settings.mtu raw).1 with
  | none => exact Or.inr ⟨rfl, rfl⟩
  | some found =>
    obtain ⟨header, payload⟩ := found
    cases header with
    | data => exact Or.inl rfl
    | _ => exact Or.inr ⟨rfl, rfl⟩

theorem ackDue_heard (s : Stream) (now : Nat) (signal : Signal) :
    (s.heard now signal).ackDue = true
      ∨ (s.heard now signal).receiveWindow = s.receiveWindow
        ∧ (s.heard now signal).ackDue = s.ackDue := by
  cases signal with
  | arrived arrival =>
    cases arrival with
    | fault reason => exact Or.inr ⟨rfl, rfl⟩
    | datagram raw => exact s.ackDue_receive now raw
  | _ => exact Or.inr ⟨rfl, rfl⟩

end Stream

namespace Flush

theorem begin_retains (s : Stream) (now : Nat) : s.Retains (begin s now).1 := by
  have h := s.retains_flushDatagrams now
  unfold begin
  split <;> rename_i heq <;> rwa [heq] at h

theorem sent_retains (f : Flush) (s : Stream) : s.Retains (f.sent s).1 := by
  unfold sent
  simp only
  split <;> exact ⟨rfl, rfl, rfl⟩

theorem begin_isData (s : Stream) (now : Nat) : (begin s now).2.All Bytes.IsData := by
  have h := all_begin s now
  generalize (begin s now).2 = progress at h ⊢
  cases progress with
  | done => trivial
  | going flush => exact ⟨h.1.isData, fun d hd => (h.2 d hd).isData⟩
  | failed failure => trivial

end Flush

/-! ## Turns -/

/-- The datagram that is handed over in a turn. -/
def Turn.handed? {π ρ : Type} : Turn π ρ → Option Bytes
  | waits _ => none
  | hands _ datagram => some datagram
  | returns _ => none

theorem Turn.handed?_map {π π' ρ ρ' : Type} (f : π → π') (g : ρ → ρ') (turn : Turn π ρ) :
    (turn.map f g).handed? = turn.handed? := by
  cases turn <;> rfl

/-- What the agent `me` does to the section for reading in a turn, and to what that protects. The
stream is `heard` after the arrival that comes with the turn's signal, and the points are told apart
by whether they are `inside` the section and by whether the agent is `resting` there. -/
structure Conduct {π ρ : Type} (me : Agent) (x : Shared) (heard : Stream)
    (inside resting : π → Bool) (r : Shared × Turn π ρ) : Prop where
  /-- If it is another agent's, it stays so, and nothing of what it protects is touched. -/
  others : ∀ agent, agent ≠ me → x.reading.owner = some agent →
    r.1.reading.owner = some agent ∧ x.stream.Retains r.1.stream
  /-- An agent that waits inside owns it. -/
  inside : ∀ p, r.2.point? = some p → inside p = true → r.1.reading.owner = some me
  /-- An agent that rests has left nothing undone. -/
  resting : ∀ p, r.2.point? = some p → resting p = true → r.1.stream.Drained
  /-- What is taken out of the receive window is acknowledged. -/
  answers : heard.Answers r.1.stream r.2.handed?

namespace Conduct

variable {π π' ρ ρ' : Type} {me : Agent} {x : Shared} {heard : Stream} {inside resting : π → Bool}
  {r : Shared × Turn π ρ}

/-- The points may be seen as something else. -/
theorem map (h : Conduct me x heard inside resting r) (f : π → π') (g : ρ → ρ')
    {inside' resting' : π' → Bool} (hinside : ∀ p, inside' (f p) = inside p)
    (hresting : ∀ p, resting' (f p) = resting p) :
    Conduct me x heard inside' resting' (r.1, r.2.map f g) where
  others := h.others
  inside p hp hin := by
    obtain ⟨q, hq, rfl⟩ := Turn.point?_map_eq_some_iff.mp hp
    exact h.inside q hq ((hinside q).symm.trans hin)
  resting p hp hrest := by
    obtain ⟨q, hq, rfl⟩ := Turn.point?_map_eq_some_iff.mp hp
    exact h.resting q hq ((hresting q).symm.trans hrest)
  answers := by
    rw [Turn.handed?_map]
    exact h.answers

/-- If no other agent has the section, it does not matter to others what becomes of it. -/
theorem of_mine (hmine : ∀ agent, x.reading.owner = some agent → agent = me)
    (hinside : ∀ p, r.2.point? = some p → inside p = true → r.1.reading.owner = some me)
    (hresting : ∀ p, r.2.point? = some p → resting p = true → r.1.stream.Drained)
    (hanswers : heard.Answers r.1.stream r.2.handed?) : Conduct me x heard inside resting r where
  others agent hne howner := absurd (hmine agent howner) hne
  inside := hinside
  resting := hresting
  answers := hanswers

end Conduct

/-- An agent leaves alone what the section for reading protects, and does not drive another one out
of it. -/
structure Shared.Yields (me : Agent) (x x' : Shared) : Prop where
  /-- What is received and not yet delivered. -/
  stream : x.stream.Retains x'.stream
  /-- Whoever else owns the section keeps it. -/
  owner : ∀ agent, agent ≠ me → x.reading.owner = some agent → x'.reading.owner = some agent

namespace Shared.Yields

variable {me : Agent} {x x' : Shared}

theorem refl (me : Agent) (x : Shared) : x.Yields me x :=
  ⟨.refl _, fun _ _ h => h⟩

theorem trans {y : Shared} (h : x.Yields me x') (h' : x'.Yields me y) : x.Yields me y :=
  ⟨h.stream.trans h'.stream, fun agent hne howner => h'.owner agent hne (h.owner agent hne howner)⟩

theorem of_retains {s : Stream} (h : x.stream.Retains s) : x.Yields me { x with stream := s } :=
  ⟨h, fun _ _ howner => howner⟩

theorem leaveReading (x : Shared) (me : Agent) : x.Yields me (x.leaveReading me) :=
  ⟨.refl _, fun _ hne howner => Section.owner_leave_of_ne howner hne⟩

end Shared.Yields

/-- An agent that does not get into the section for reading, and acknowledges nothing. -/
theorem Conduct.of_yields {π ρ : Type} {me : Agent} {x : Shared} {r : Shared × Turn π ρ}
    (h : x.Yields me r.1) (hhanded : ∀ d, r.2.handed? = some d → d.isAck = false) :
    Conduct me x x.stream (fun _ => false) (fun _ => false) r where
  others agent hne howner := ⟨h.owner agent hne howner, h.stream⟩
  inside _ _ hin := by cases hin
  resting _ _ hrest := by cases hrest
  answers := .silent h.stream.receiveWindow h.stream.ackDue hhanded

/-! ## Readers -/

namespace Reader

/-- Whether the reader has got hold of the section. -/
def isInside : Reader → Bool
  | entering => false
  | acking _ _ => true
  | receiving => true
  | replying _ => true

/-- Whether the reader waits for the socket to deliver something, or will do so as soon as an
acknowledgement is sent. -/
def isResting : Reader → Bool
  | acking _ again => !again
  | receiving => true
  | entering => false
  | replying _ => false

theorem isInside_of_isResting {r : Reader} (h : r.isResting = true) : r.isInside = true := by
  cases r with
  | entering => cases h
  | _ => rfl

variable {me : Agent} {x x₀ : Shared} {heard : Stream} {buffer : Bytes}

theorem finish_conduct (hmine : ∀ agent, x₀.reading.owner = some agent → agent = me)
    (hwindow : x.stream.receiveWindow = heard.receiveWindow)
    (hdue : x.stream.ackDue = heard.ackDue) (outcome : Outcome) :
    Conduct me x₀ heard isInside isResting (finish x me outcome) :=
  .of_mine hmine (fun _ hp => by cases hp) (fun _ hp => by cases hp)
    (Stream.answers_none hwindow hdue)

/-- A reader acknowledges what is left after it has taken out a segment, or because there is none
to take out. -/
theorem acknowledge_conduct (hmine : ∀ agent, x₀.reading.owner = some agent → agent = me)
    (howner : x.reading.owner = some me) {again : Bool}
    (hwindow : x.stream.receiveWindow = heard.receiveWindow
      ∨ ∃ u, heard.receiveWindow.pop? = some (u, x.stream.receiveWindow))
    (hdone : again = false → x.stream.complete = false ∧ x.stream.receiveWindow.pop? = none) :
    Conduct me x₀ heard isInside isResting (acknowledge x again) := by
  rw [acknowledge_eq_hands]
  refine .of_mine hmine (fun _ _ _ => howner) ?_ (.acknowledges hwindow rfl)
  intro p hp hrest
  cases hp
  obtain ⟨hcomplete, hpop⟩ := hdone (by simpa [isResting] using hrest)
  exact ⟨hcomplete, hpop, rfl⟩

/-- **A reader gets on with the message.** -/
theorem proceed_conduct (hmine : ∀ agent, x₀.reading.owner = some agent → agent = me)
    (howner : x.reading.owner = some me) (hwindow : x.stream.receiveWindow = heard.receiveWindow)
    (hdue : x.stream.ackDue = heard.ackDue) (hfits : x.stream.Fits) :
    Conduct me x₀ heard isInside isResting (proceed x me buffer) := by
  unfold proceed
  split
  · exact finish_conduct hmine hwindow hdue _
  · have hdeliver := x.stream.deliver_delivers buffer
    generalize x.stream.deliver buffer = r at hdeliver ⊢
    cases hdeliver with
    | keeps => exact finish_conduct hmine hwindow hdue _
    | empties =>
      exact finish_conduct (x := { x with stream := x.stream.emptied }) hmine hwindow hdue _
    | starves hcomplete hpop =>
      simp only
      split
      · exact acknowledge_conduct hmine howner (Or.inl hwindow) fun _ => ⟨hcomplete, hpop⟩
      · rename_i hquiet
        have hquiet' := Bool.eq_false_of_not_eq_true hquiet
        exact .of_mine hmine (fun _ _ _ => howner) (fun _ _ _ => ⟨hcomplete, hpop, hquiet'⟩)
          (Stream.answers_none hwindow hdue)
    | overflows hcomplete hpop hlength =>
      exact absurd hlength (Nat.not_lt_of_le (hfits hcomplete _ _ hpop))
    | @advances u w _ hpop =>
      rw [hwindow] at hpop
      exact acknowledge_conduct
        (x := { x with stream := { x.stream.advanced u w with pool := x.stream.pool.give u.body } })
        hmine howner (Or.inr ⟨u, hpop⟩) fun hagain => by cases hagain

/-- **The start of a read.** It only matters whether the next segment fits if the reader gets hold
of the section. -/
theorem begin_conduct (x : Shared) (me : Agent) (buffer : Bytes)
    (hfits : x.stream.closed = false → (x.reading.enter me).owner = some me → x.stream.Fits) :
    Conduct me x x.stream isInside isResting (begin x me buffer) := by
  unfold begin
  split
  · exact
      { others := fun _ _ howner => ⟨howner, .refl _⟩
        inside := fun _ hp => by cases hp
        resting := fun _ hp => by cases hp
        answers := Stream.answers_none rfl rfl }
  · rename_i hopen
    simp only
    split
    · rename_i howner
      refine proceed_conduct (x := { x with reading := x.reading.enter me }) ?_ howner rfl rfl
        (hfits (Bool.eq_false_of_not_eq_true hopen) howner)
      -- had another one been there, the reader would have to wait
      intro agent hagent
      rw [Section.owner_enter_of_owner hagent] at howner
      exact Option.some.inj howner
    · exact
        { others := fun _ _ howner => ⟨Section.owner_enter_of_owner howner me, .refl _⟩
          inside := fun _ hp hin => by cases hp; cases hin
          resting := fun _ hp hrest => by cases hp; cases hrest
          answers := Stream.answers_none rfl rfl }

/-- A reader that has taken in a datagram gets on with the message, or answers a request first. -/
theorem accept_conduct (howner : x.reading.owner = some me) (now : Nat) (arrival : Arrival)
    (hfits : (x.stream.heard now (.arrived arrival)).Fits) :
    Conduct me x (x.stream.heard now (.arrived arrival)) isInside isResting
      (accept x me buffer now arrival) := by
  have hmine : ∀ agent, x.reading.owner = some agent → agent = me :=
    fun agent hagent => Option.some.inj (hagent.symm.trans howner)
  cases arrival with
  | fault reason => exact finish_conduct hmine rfl rfl _
  | datagram raw =>
    change (x.stream.receive now raw).1.Fits at hfits
    show Conduct me x (x.stream.receive now raw).1 _ _ _
    unfold accept
    simp only
    split
    · rename_i s heq
      rw [heq] at hfits ⊢
      exact proceed_conduct (x := { x with stream := s }) hmine howner rfl rfl hfits
    · rename_i s header heq
      obtain ⟨s', hcontrol, hretains⟩ := Stream.control_of_reply (congrArg Prod.snd heq) s
      rw [heq, hcontrol]
      refine .of_mine hmine (fun _ _ _ => howner) (fun p hp hrest => ?_)
        (.silent hretains.receiveWindow hretains.ackDue fun d hd => ?_)
      · cases hp
        cases hrest
      · cases hd
        exact Bytes.isAck_dialAck

/-- A reader that gets a signal it does not wait for. -/
theorem stay_conduct {point : Reader} (howner : point.isInside = true → x.reading.owner = some me)
    (hrest : point.isResting = true → x.stream.Drained) :
    Conduct me x x.stream isInside isResting
      ((x, .waits point) : Shared × Turn Reader Outcome) where
  others _ _ hagent := ⟨hagent, .refl _⟩
  inside _ hp hin := by
    cases hp
    exact howner hin
  resting _ hp hresting := by
    cases hp
    exact hrest hresting
  answers := Stream.answers_none rfl rfl

/-- **A turn of a reader.** -/
theorem resume_conduct {now : Nat} {point : Reader} {signal : Signal}
    (howner : point.isInside = true ∨ signal = .granted → x.reading.owner = some me)
    (hrest : point.isResting = true → x.stream.Drained)
    (hpoint : ∀ arrival, signal = .arrived arrival → point = .receiving)
    (hfits : (x.stream.heard now signal).Fits) :
    Conduct me x (x.stream.heard now signal) isInside isResting
      (resume x me buffer now point signal) := by
  have hmine (h : x.reading.owner = some me) : ∀ agent, x.reading.owner = some agent → agent = me :=
    fun agent hagent => Option.some.inj (hagent.symm.trans h)
  have hstay : Conduct me x x.stream isInside isResting
      ((x, .waits point) : Shared × Turn Reader Outcome) :=
    stay_conduct (fun hin => howner (Or.inl hin)) hrest
  have hproceed (h : x.reading.owner = some me) (hfits : x.stream.Fits) :
      Conduct me x x.stream isInside isResting (proceed x me buffer) :=
    proceed_conduct (hmine h) h rfl rfl hfits
  have hcounted (h : x.reading.owner = some me) (hfits : x.stream.Fits) (datagram : Bytes) :
      Conduct me x x.stream isInside isResting
        (proceed { x with stream := x.stream.countSent datagram } me buffer) :=
    proceed_conduct (hmine h) h rfl rfl hfits
  have hwaits (h : x.reading.owner = some me) (hdrained : x.stream.Drained) (s : Stream)
      (hs : x.stream.Retains s) :
      Conduct me x x.stream isInside isResting
        (({ x with stream := s }, .waits receiving) : Shared × Turn Reader Outcome) :=
    .of_mine (hmine h) (fun _ _ _ => h) (fun _ _ _ => hs.drained hdrained)
      (Stream.answers_none hs.receiveWindow hs.ackDue)
  cases signal with
  | arrived arrival =>
    obtain rfl := hpoint arrival rfl
    exact accept_conduct (howner (Or.inl rfl)) now arrival hfits
  | granted =>
    cases point with
    | entering => exact hproceed (howner (Or.inr rfl)) hfits
    | _ => exact hstay
  | sent =>
    cases point with
    | acking datagram again =>
      cases again with
      | true => exact hcounted (howner (Or.inl rfl)) hfits datagram
      | false => exact hwaits (howner (Or.inl rfl)) (hrest rfl) _ ⟨rfl, rfl, rfl⟩
    | replying datagram => exact hcounted (howner (Or.inl rfl)) hfits datagram
    | _ => exact hstay
  | unsent reason =>
    cases point with
    | acking datagram again =>
      cases again with
      | true => exact hproceed (howner (Or.inl rfl)) hfits
      | false => exact hwaits (howner (Or.inl rfl)) (hrest rfl) _ (.refl _)
    | replying datagram => exact hproceed (howner (Or.inl rfl)) hfits
    | _ => exact hstay
  | closed =>
    cases point with
    | receiving => exact finish_conduct (hmine (howner (Or.inl rfl))) rfl rfl _
    | _ => exact hstay
  | _ => cases point <;> exact hstay

end Reader

end Redelivery
