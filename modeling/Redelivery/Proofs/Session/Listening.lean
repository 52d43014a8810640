import Redelivery.Proofs.Session.Closing
import Redelivery.Proofs.Session.Trying

/-!
# Readers that listen

A reader that waits for the socket to deliver something has done all that can be done. The next
segment is not there, and the peer knows all that is. That holds whatever arrives, and it does not
matter who took in what arrived: a writer that polls leaves it to the next reader to acknowledge.

The one way to take a segment out without telling the peer is a message that becomes too long. But
that closes the stream, and nobody reads from it any more.

## Main definitions

* `Stream.brought?`: the data that comes with a signal.
* `Reader.isListening`: points at which a reader waits for the next datagram.
* `Session.Prompt`: readers that listen have left nothing undone.
* `Session.Over`: nobody will read any more.

## Main statements

* `Reader.resume_conducts`: in a turn, a reader minds its duties or gives up.
* `Session.Prompt.recordReader`, `Session.Prompt.recordWriter`, `Session.Prompt.recordCloser`,
  `Session.Prompt.recordFlusher`: turns keep sessions prompt.
* `Session.Over.perform`, `Session.Over.resume`, `Session.Over.cancel`: what is over stays so.

A reader that *listens* is at a point from which it takes in the next datagram, or it answers a
request that it has just taken in. Both points are reached only through a stream that is drained:
the first because a reader looks for work before it receives, the second because a request leaves
the receiving half alone (`drained_of_replying`). Unlike a session that is attentive, a prompt one
is meant for runs in which somebody may forge: `proceed_givesUp` deals with a message that becomes
too long, and the session is then `Over`, where nobody listens.

`Minds` is what a turn adds to a session that is prompt: it is prompt again, and either the peer is
told what was taken out or nobody will ever read on. The four lemmas `recordReader`, `recordWriter`,
`recordCloser` and `recordFlusher` are all by `of_conduct`, with the conduct of the agent as it was
shown before.
-/

namespace Redelivery

/-! ## Streams -/

namespace Stream

variable {s s' : Stream}

/-- The payload of a datagram, if that is data. -/
def data? (s : Stream) (raw : Bytes) : Option Bytes :=
  match Header.ofDatagram? (s.pool.intake s.settings.mtu raw).1 with
  | some (.data, payload) => some payload
  | _ => none

/-- The payload of the data that comes with a signal, if there is any. -/
def brought? (s : Stream) : Signal → Option Bytes
  | .arrived (.datagram raw) => s.data? raw
  | _ => none

theorem Drained.fits (h : s.Drained) : s.Fits := by
  intro _ u w hpop
  rw [h.pop?_eq] at hpop
  cases hpop

/-- An acknowledgement is due after data arrived. Nothing else touches the receiving half. -/
theorem receive_data? (s : Stream) (now : Nat) (raw : Bytes) :
    (∃ payload, s.data? raw = some payload) ∧ (s.receive now raw).1.ackDue = true
        ∧ (s.receive now raw).2 = none
      ∨ s.data? raw = none ∧ s.Retains (s.receive now raw).1 := by
  show _ ∧ ((s.taking raw).process now (s.pool.intake s.settings.mtu raw).1).1.ackDue = true
      ∧ ((s.taking raw).process now (s.pool.intake s.settings.mtu raw).1).2 = none
    ∨ _ ∧ s.Retains ((s.taking raw).process now (s.pool.intake s.settings.mtu raw).1).1
  unfold data? process
  cases Header.ofDatagram? (s.pool.intake s.settings.mtu raw).1 with
  | none => exact Or.inr ⟨rfl, rfl, rfl, rfl⟩
  | some found =>
    obtain ⟨header, payload⟩ := found
    cases header with
    | data => exact Or.inl ⟨⟨payload, rfl⟩, rfl, rfl⟩
    | _ => exact Or.inr ⟨rfl, rfl, rfl, rfl⟩

theorem heard_brought? (s : Stream) (now : Nat) (signal : Signal) :
    (∃ payload, s.brought? signal = some payload) ∧ (s.heard now signal).ackDue = true
      ∨ s.brought? signal = none ∧ s.Retains (s.heard now signal) := by
  cases signal with
  | arrived arrival =>
    cases arrival with
    | fault reason => exact Or.inr ⟨rfl, .refl s⟩
    | datagram raw => exact (s.receive_data? now raw).imp_left fun ⟨hdata, hdue, _⟩ => ⟨hdata, hdue⟩
  | _ => exact Or.inr ⟨rfl, .refl s⟩

/-- What is answered at once is not data. -/
theorem retains_of_reply {now : Nat} {raw : Bytes} {header : Header}
    (h : (s.receive now raw).2 = some header) : s.Retains (s.receive now raw).1 := by
  rcases s.receive_data? now raw with ⟨-, -, hnone⟩ | ⟨-, hretains⟩
  · rw [hnone] at h
    cases h
  · exact hretains

end Stream

/-! ## Readers -/

namespace Reader

/-- Whether the reader waits for the socket to deliver something, or replies to what that has just
delivered. -/
def isListening : Reader → Bool
  | entering => false
  | acking _ _ => false
  | receiving => true
  | replying _ => true

/-- The reader gives up, and so will all others: the stream is closed. -/
structure GivesUp (me : Agent) (x : Shared) (r : Shared × Turn Reader Outcome) : Prop where
  /-- Nobody else had the section. -/
  mine : ∀ agent, x.reading.owner = some agent → agent = me
  /-- The read has ended. -/
  point?_eq : r.2.point? = none
  /-- Nothing is handed over. -/
  handed?_eq : r.2.handed? = none
  /-- The stream is closed. -/
  closed : r.1.stream.closed = true

variable {me : Agent} {x x₀ : Shared} {buffer : Bytes}

theorem isInside_of_isListening {r : Reader} (h : r.isListening = true) : r.isInside = true := by
  cases r with
  | entering => cases h
  | _ => rfl

/-- **A message that becomes too long** is the end. -/
theorem proceed_givesUp (hmine : ∀ agent, x₀.reading.owner = some agent → agent = me)
    (hlong : ¬ x.stream.Fits) : GivesUp me x₀ (proceed x me buffer) := by
  unfold proceed
  split
  · rename_i hclosed
    exact ⟨hmine, rfl, rfl, hclosed⟩
  · have hdeliver := x.stream.deliver_delivers buffer
    generalize x.stream.deliver buffer = r at hdeliver ⊢
    cases hdeliver with
    | keeps hcomplete =>
      exact absurd (fun h => absurd (hcomplete.symm.trans h) (by decide)) hlong
    | empties hcomplete =>
      exact absurd (fun h => absurd (hcomplete.symm.trans h) (by decide)) hlong
    | starves hcomplete hpop =>
      refine absurd (fun _ u w hsome => ?_) hlong
      rw [hpop] at hsome
      cases hsome
    | overflows => exact ⟨hmine, rfl, rfl, rfl⟩
    | advances hcomplete hpop hlength =>
      refine absurd (fun _ u w hsome => ?_) hlong
      rw [hpop] at hsome
      cases hsome
      exact hlength

/-- A reader that gets on with the message does not reply to anything. -/
theorem point?_proceed_ne (x : Shared) (me : Agent) (buffer datagram : Bytes) :
    (proceed x me buffer).2.point? ≠ some (replying datagram) := by
  unfold proceed
  split
  · exact fun h => by cases h
  · cases hdeliver : x.stream.deliver buffer with
    | mk s delivery =>
      cases delivery with
      | message length filled => exact fun h => by cases h
      | failed failure => exact fun h => by cases h
      | advanced =>
        simp only [acknowledge_eq_hands]
        exact fun h => by cases h
      | starved =>
        simp only [acknowledge_eq_hands]
        split <;> exact fun h => by cases h

theorem point?_begin_ne (x : Shared) (me : Agent) (buffer datagram : Bytes) :
    (begin x me buffer).2.point? ≠ some (replying datagram) := by
  unfold begin
  simp only
  split
  · exact fun h => by cases h
  · split
    · exact point?_proceed_ne _ me buffer datagram
    · exact fun h => by cases h

/-- **The start of a read.** -/
theorem begin_conducts (x : Shared) (me : Agent) (buffer : Bytes) :
    Conduct me x x.stream isInside isResting (begin x me buffer)
      ∨ GivesUp me x (begin x me buffer) := by
  by_cases hfits : x.stream.closed = false → (x.reading.enter me).owner = some me → x.stream.Fits
  · exact Or.inl (begin_conduct x me buffer hfits)
  · simp only [Classical.not_imp] at hfits
    obtain ⟨hopen, howner, hlong⟩ := hfits
    have hbegin : begin x me buffer
        = proceed { x with reading := x.reading.enter me } me buffer := by
      unfold begin
      rw [if_neg (by simp [hopen])]
      exact if_pos howner
    rw [hbegin]
    refine Or.inr (proceed_givesUp (fun agent hagent => ?_) hlong)
    rw [Section.owner_enter_of_owner hagent] at howner
    exact Option.some.inj howner

/-- **A turn of a reader.** -/
theorem resume_conducts {now : Nat} {point : Reader} {signal : Signal}
    (howner : point.isInside = true ∨ signal = .granted → x.reading.owner = some me)
    (hrest : point.isResting = true ∨ point.isListening = true → x.stream.Drained)
    (hpoint : ∀ arrival, signal = .arrived arrival → point = .receiving) :
    Conduct me x (x.stream.heard now signal) isInside isResting
        (resume x me buffer now point signal)
      ∨ GivesUp me x (resume x me buffer now point signal) := by
  by_cases hfits : (x.stream.heard now signal).Fits
  · exact Or.inl (resume_conduct howner (fun h => hrest (Or.inl h)) hpoint hfits)
  have hmine (h : x.reading.owner = some me) : ∀ agent, x.reading.owner = some agent → agent = me :=
    fun agent hagent => Option.some.inj (hagent.symm.trans h)
  have hstay : Conduct me x x.stream isInside isResting
      ((x, .waits point) : Shared × Turn Reader Outcome) :=
    stay_conduct (fun hin => howner (Or.inl hin)) fun h => hrest (Or.inl h)
  -- a reader that has left nothing undone can only have got too much just now
  have hbusy (h : ∀ arrival, signal ≠ .arrived arrival) : ¬ x.stream.Drained := by
    rw [Stream.heard_of_ne h] at hfits
    exact fun hdrained => hfits hdrained.fits
  cases point with
  | entering =>
    cases signal with
    | arrived arrival => cases hpoint arrival rfl
    | granted => exact Or.inr (proceed_givesUp (hmine (howner (Or.inr rfl))) hfits)
    | _ => exact Or.inl hstay
  | acking datagram again =>
    have hne : ∀ arrival, signal ≠ .arrived arrival := fun arrival h => by cases hpoint arrival h
    have hown := hmine (howner (Or.inl rfl))
    cases again with
    | false => exact absurd (hrest (Or.inl rfl)) (hbusy hne)
    | true =>
      cases signal with
      | arrived arrival => exact absurd rfl (hne arrival)
      | sent =>
        exact Or.inr (proceed_givesUp (x := { x with stream := x.stream.countSent datagram }) hown
          hfits)
      | unsent reason => exact Or.inr (proceed_givesUp hown hfits)
      | _ => exact Or.inl hstay
  | receiving =>
    have hdrained := hrest (Or.inl rfl)
    by_cases hdatagram : ∃ raw, signal = .arrived (.datagram raw)
    · obtain ⟨raw, rfl⟩ := hdatagram
      cases hreply : (x.stream.receive now raw).2 with
      | none =>
        rw [resume_arrived_eq me buffer hreply]
        exact Or.inr (proceed_givesUp (x := { x with stream := (x.stream.receive now raw).1 })
          (hmine (howner (Or.inl rfl))) hfits)
      | some header =>
        exact absurd ((Stream.retains_of_reply hreply).drained hdrained).fits hfits
    · have hsame : x.stream.heard now signal = x.stream := by
        cases signal with
        | arrived arrival =>
          cases arrival with
          | fault reason => rfl
          | datagram raw => exact absurd ⟨raw, rfl⟩ hdatagram
        | _ => rfl
      rw [hsame] at hfits
      exact absurd hdrained.fits hfits
  | replying datagram =>
    have hne : ∀ arrival, signal ≠ .arrived arrival := fun arrival h => by cases hpoint arrival h
    exact absurd (hrest (Or.inr rfl)) (hbusy hne)

/-- **A reader replies only to what is not data**, so it has left nothing undone meanwhile. -/
theorem drained_of_replying {now : Nat} {point : Reader} {signal : Signal}
    (hrest : point.isListening = true → x.stream.Drained) {datagram : Bytes}
    (h : (resume x me buffer now point signal).2.point? = some (replying datagram)) :
    (resume x me buffer now point signal).1.stream.Drained := by
  have hgone (y : Shared) : (proceed y me buffer).2.point? ≠ some (replying datagram) :=
    point?_proceed_ne y me buffer datagram
  cases point with
  | entering =>
    cases signal with
    | granted => exact absurd h (hgone _)
    | _ => cases h
  | acking d again =>
    cases signal with
    | sent =>
      cases again with
      | true => exact absurd h (hgone _)
      | false => cases h
    | unsent reason =>
      cases again with
      | true => exact absurd h (hgone _)
      | false => cases h
    | _ => cases h
  | receiving =>
    cases signal with
    | arrived arrival =>
      cases arrival with
      | fault reason => cases h
      | datagram raw =>
        cases hreply : (x.stream.receive now raw).2 with
        | none =>
          rw [resume_arrived_eq me buffer hreply] at h
          exact absurd h (hgone _)
        | some header =>
          rw [resume_arrived_eq_of_reply me buffer hreply]
          have hreplied : (x.stream.receive now raw).1.Retains
              ((x.stream.receive now raw).1.control .dialAck).2 := ⟨rfl, rfl, rfl⟩
          exact ((Stream.retains_of_reply hreply).trans hreplied).drained (hrest rfl)
    | closed => cases h
    | _ => cases h
  | replying d =>
    cases signal with
    | sent => exact absurd h (hgone _)
    | unsent reason => exact absurd h (hgone _)
    | _ => exact hrest rfl

end Reader

/-! ## The flusher -/

/-- What the flusher still has to send is as the rest of its flush was. -/
theorem Flusher.resume_resends {D : Bytes → Prop} {x : Shared} (hD : ∀ d, x.stream.Sends d → D d)
    (now : Nat) {point : Flusher} (hresends : ∀ d ∈ point.resends, D d) {signal : Signal}
    {p : Flusher} (hp : (resume x now point signal).2.point? = some p) : ∀ d ∈ p.resends, D d := by
  have hmove := resume_move hD now hresends signal
  generalize resume x now point signal = r at hmove hp
  cases hmove with
  | stays =>
    cases hp
    exact hresends
  | rests halike hturn =>
    rcases hturn with rfl | ⟨time, rfl⟩
    · cases hp
    · cases hp
      exact fun d hd => absurd hd List.not_mem_nil
  | resends halike hcurrent hrest =>
    cases hp
    exact hrest

/-! ## Sessions -/

namespace Call

/-- Whether the call is a read that waits for the socket to deliver something, or replies to what
that has just delivered. -/
def isListening : Call → Bool
  | reading _ point => point.isListening
  | writing _ => false
  | closing _ => false

theorem isReading_of_isListening {c : Call} (h : c.isListening = true) : c.isReading = true := by
  cases c with
  | reading buffer point => exact Reader.isInside_of_isListening h
  | _ => cases h

end Call

namespace Session

variable {s s' : Session} {heard : Stream} {id : Nat}

/-- Readers that listen have left nothing undone, and what is still to be sent of a flush is
data. -/
structure Prompt (s : Session) : Prop extends Attentive s where
  /-- Readers that listen have left nothing undone. -/
  listening : ∀ id c, s.call? id = some c → c.isListening = true → s.stream.Drained
  /-- What writers have still to send of a flush is data. -/
  resends : ∀ id point, s.call? id = some (.writing point) → ∀ d ∈ point.resends, d.IsData
  /-- What the flusher has still to send is data. -/
  flusher : ∀ point, s.flusher = some point → ∀ d ∈ point.resends, d.IsData

/-- Nobody will read any more: the stream is closed, and no reader has the section. -/
structure Over (s : Session) : Prop where
  /-- The stream is closed. -/
  closed : s.stream.closed = true
  /-- No reader is inside. -/
  outside : ∀ id buffer point, s.call? id = some (.reading buffer point) → point.isInside = false

/-- A session is prompt after a turn, and what was done in it to the receive window is told to the
peer, unless nobody will read any more. The stream was `heard` after the arrival that came with the
turn's signal. -/
structure Minds (heard : Stream) (turn : Session × Outcome) : Prop where
  /-- The session is prompt. -/
  prompt : turn.1.Prompt
  /-- What was done is told. -/
  told : heard.Answers turn.1.stream turn.2.handed? ∨ turn.2.handed? = none ∧ turn.1.Over

namespace Prompt

/-- **A turn of an agent** keeps a session prompt. -/
theorem of_conduct (h : s.Prompt) {me : Agent} {π ρ : Type} {inside resting : π → Bool}
    {r : Shared × Turn π ρ} (hr : Conduct me s.shared heard inside resting r)
    (hattentive : s'.Attentive) (hshared : s'.shared = r.1)
    (hothers : ∀ j, .call j ≠ me → s'.call? j = s.call? j)
    (hlistening : ∀ id c, me = .call id → s'.call? id = some c → c.isListening = true →
      r.1.stream.Drained)
    (hresends : ∀ id point, me = .call id → s'.call? id = some (.writing point) →
      ∀ d ∈ point.resends, d.IsData)
    (hflusher : ∀ point, s'.flusher = some point → ∀ d ∈ point.resends, d.IsData) :
    s'.Prompt where
  toAttentive := hattentive
  listening j c hcall hlisten := by
    show s'.shared.stream.Drained
    rw [hshared]
    by_cases hj : .call j = me
    · exact hlistening j c hj.symm hcall hlisten
    · -- whoever listens is inside, so nothing of what it has left is touched
      rw [hothers j hj] at hcall
      have howner := h.owner j c hcall (Call.isReading_of_isListening hlisten)
      exact (hr.others _ hj howner).2.drained (h.listening j c hcall hlisten)
  resends j point hcall := by
    by_cases hj : .call j = me
    · exact hresends j point hj.symm hcall
    · rw [hothers j hj] at hcall
      exact h.resends j point hcall
  flusher := hflusher

/-- A turn of a call, when what matters about it is known. -/
theorem record (h : s.Prompt) {x : Shared} {turn : Turn Call Result}
    (hr : Conduct (.call id) s.shared heard Call.isReading Call.isResting (x, turn))
    (hlistening : ∀ c, turn.point? = some c → c.isListening = true → x.stream.Drained)
    (hresends : ∀ point, turn.point? = some (.writing point) → ∀ d ∈ point.resends, d.IsData) :
    Minds heard (s.record id x turn) := by
  have hserves := h.toAttentive.record hr
  refine ⟨h.of_conduct hr hserves.attentive (shared_record s id x turn) ?_ ?_ ?_ ?_,
    Or.inl hserves.answers⟩
  · intro j hj
    exact call?_record_of_ne s (fun heq => hj (congrArg Agent.call heq)) x turn
  · intro j c hj hcall hlisten
    cases hj
    rw [call?_record] at hcall
    exact hlistening c hcall hlisten
  · intro j point hj hcall
    cases hj
    rw [call?_record] at hcall
    exact hresends point hcall
  · intro point hpoint
    rw [flusher_record] at hpoint
    exact h.flusher point hpoint

/-- When a reader gives up, nobody else is inside. -/
theorem givesUp (h : s.Prompt) {buffer : Bytes} {r : Shared × Turn Reader Reader.Outcome}
    (hr : Reader.GivesUp (.call id) s.shared r) :
    (s.recordReader id buffer r).1.Prompt ∧ (s.recordReader id buffer r).1.Over := by
  have hbefore (j : Nat) (c : Call) (hcall : (s.recordReader id buffer r).1.call? j = some c) :
      j ≠ id ∧ s.call? j = some c := by
    by_cases hj : j = id
    · rw [hj, Session.recordReader, call?_record, Turn.point?_map, hr.point?_eq] at hcall
      cases hcall
    · exact ⟨hj, (call?_record_of_ne s hj _ _).symm.trans hcall⟩
  have houtside (j : Nat) (c : Call)
      (hcall : (s.recordReader id buffer r).1.call? j = some c) : c.isReading ≠ true := by
    obtain ⟨hj, hcall⟩ := hbefore j c hcall
    exact fun hin => hj (Agent.call.inj (hr.mine _ (h.owner j c hcall hin)))
  constructor
  · exact
      { owner := fun j c hcall hin => absurd hin (houtside j c hcall)
        drained := fun j c hcall hrest =>
          absurd (Call.isReading_of_isResting hrest) (houtside j c hcall)
        listening := fun j c hcall hlisten =>
          absurd (Call.isReading_of_isListening hlisten) (houtside j c hcall)
        resends := fun j point hcall => h.resends j point (hbefore j _ hcall).2
        flusher := fun point hpoint => h.flusher point ((flusher_record ..).symm.trans hpoint) }
  · refine ⟨?_, fun j buffer' point hcall => Bool.eq_false_of_not_eq_true (houtside j _ hcall)⟩
    rw [Session.recordReader, stream_record]
    exact hr.closed

/-- **A turn of a reader.** -/
theorem recordReader (h : s.Prompt) {buffer : Bytes} {r : Shared × Turn Reader Reader.Outcome}
    (hr : Conduct (.call id) s.shared heard Reader.isInside Reader.isResting r
      ∨ Reader.GivesUp (.call id) s.shared r)
    (hreplying : ∀ d, r.2.point? = some (.replying d) → r.1.stream.Drained) :
    Minds heard (s.recordReader id buffer r) := by
  rcases hr with hr | hr
  · refine h.record (hr.map _ _ (fun _ => rfl) fun _ => rfl) ?_ ?_
    · intro c hpoint hlisten
      obtain ⟨point, hpoint', rfl⟩ := Turn.point?_map_eq_some_iff.mp hpoint
      cases point with
      | receiving => exact hr.resting _ hpoint' rfl
      | replying d => exact hreplying d hpoint'
      | _ => cases hlisten
    · intro point hpoint
      obtain ⟨point', -, heq⟩ := Turn.point?_map_eq_some_iff.mp hpoint
      cases heq
  · obtain ⟨hprompt, hover⟩ := h.givesUp hr
    refine ⟨hprompt, Or.inr ⟨?_, hover⟩⟩
    rw [Session.recordReader, handed?_record, Turn.handed?_map]
    exact hr.handed?_eq

/-- **A turn of a writer.** -/
theorem recordWriter (h : s.Prompt) {r : Shared × Turn Writer Writer.Outcome}
    (hr : Conduct (.call id) s.shared heard Writer.isReading (fun _ => false) r)
    (hresends : ∀ point, r.2.point? = some point → ∀ d ∈ point.resends, d.IsData) :
    Minds heard (s.recordWriter id r) := by
  refine h.record (hr.map _ _ (fun _ => rfl) fun _ => rfl) ?_ ?_
  · intro c hpoint hlisten
    obtain ⟨point, -, rfl⟩ := Turn.point?_map_eq_some_iff.mp hpoint
    cases hlisten
  · intro point hpoint
    obtain ⟨point', hpoint', heq⟩ := Turn.point?_map_eq_some_iff.mp hpoint
    cases heq
    exact hresends point hpoint'

/-- **A turn of a closer.** -/
theorem recordCloser (h : s.Prompt) {r : Shared × Turn Closer Unit}
    (hr : Conduct (.call id) s.shared heard (fun _ => false) (fun _ => false) r) :
    Minds heard (s.recordCloser id r) := by
  refine h.record (hr.map _ _ (fun _ => rfl) fun _ => rfl) ?_ ?_
  · intro c hpoint hlisten
    obtain ⟨point, -, rfl⟩ := Turn.point?_map_eq_some_iff.mp hpoint
    cases hlisten
  · intro point hpoint
    obtain ⟨point', -, heq⟩ := Turn.point?_map_eq_some_iff.mp hpoint
    cases heq

/-- **A turn of the flusher.** -/
theorem recordFlusher (h : s.Prompt) {r : Shared × Turn Flusher Unit}
    (hr : Conduct .flusher s.shared heard (fun _ => false) (fun _ => false) r)
    (hresends : ∀ point, r.2.point? = some point → ∀ d ∈ point.resends, d.IsData) :
    Minds heard (s.recordFlusher r) := by
  have hserves := h.toAttentive.recordFlusher hr
  refine ⟨h.of_conduct hr hserves.attentive (shared_recordFlusher s r)
    (fun j _ => call?_recordFlusher s r j) ?_ ?_ ?_, Or.inl hserves.answers⟩
  · exact fun _ _ hme => by cases hme
  · exact fun _ _ hme => by cases hme
  · intro point hpoint
    rw [flusher_recordFlusher] at hpoint
    exact hresends point hpoint

end Prompt

end Session

end Redelivery
