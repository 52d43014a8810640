import Redelivery.Proofs.Network.Closers
import Redelivery.Proofs.Network.Delivery
import Redelivery.Proofs.Network.Incidents
import Redelivery.Proofs.Network.Steady
import Redelivery.Proofs.Session.Waiting

/-!
# Forged datagrams

Somebody else may put datagrams on the wire, and the two ends take them for each other's. The send
window guards itself by its width only: it takes any acknowledgement that is not further ahead, and
an acknowledgement of what was never sent moves it past the next serial number, where no segment is
ever taken again. As long as nobody does that, the sending half stays in order, whatever else is
forged.

## Main definitions

* `Network.forges`: any datagram may be forged.
* `Network.truthful`: the same, but nobody acknowledges what was not sent.
* `Peer.Passes`: no write is blocked.

## Main statements

* `Network.exists_outrun`: a forged acknowledgement blocks a stream for good.
* `Network.passes_of_truthful`: truthful ones never push the send window past what was sent.

`exists_outrun` is a run to be computed. The other statement rides on `Leads.steady`: both peers are
steady in every run by the rule. One turn is `steady_resume`, and of its cases only the writer's
takes some work, as it may take in a datagram, learn what became of its segment, and begin with the
next one in a single turn; the lemmas `Steady.writer_arrived`, `Steady.writer_quiet`,
`Steady.writer_sent` and `Steady.writer_unsent` are one for each of the signals that it may get.

From a steady peer to a write that is not blocked it is a short way. Where the send window starts at
the next serial number it has room (`Steady.not_isFull`), so a write hands over its first datagram
at once (`Steady.passes`). And from everywhere else one justified acknowledgement leads there
(`Steady.ack_all`), namely that of all that was sent. Whether the other end makes it is not said
here; in an honest network, recovery says so.

No call is abandoned by either rule, since a write that is abandoned while the socket takes its
segment does not learn what becomes of that. What comes of abandoned writes is the subject of a file
of its own.
-/

namespace Redelivery

namespace Peer

variable {settings : ValidSettings} {p p' : Peer} {id now : Nat} {signal : Signal}

/-! ## Turns -/

section

variable (h : p.Steady settings) (hcalls : p'.calls = p.calls)
  (hverdict : ∀ agent, agent ≠ .call id → p'.verdict agent = p.verdict agent)

include h hcalls hverdict

/-- A turn of a reader. -/
theorem Steady.reader {buffer : Bytes} {r : Shared × Turn Reader Reader.Outcome}
    (houtside : ¬ p.session.Inside (.call id)) (hid : id < p.calls)
    (hspares : p.stream.Spares r.1.stream) (hwriting : r.1.writing = p.session.shared.writing)
    (hsession : p'.session = (p.session.recordReader id buffer r).1) : p'.Steady settings := by
  refine h.outside_turn houtside hid ?_ ?_ hspares hsession hcalls hverdict
  · intro w hw
    rw [Turn.point?_map] at hw
    simp at hw
  · intro agent _ howner
    rw [hwriting, howner]

/-- A turn of a closer. -/
theorem Steady.closer {granted : Prop} {r : Shared × Turn Closer Unit}
    (houtside : ¬ p.session.Inside (.call id)) (hid : id < p.calls)
    (hspares : p.stream.Spares r.1.stream)
    (hmove : Closer.Move (.call id) p.session.shared granted r)
    (hsession : p'.session = (p.session.recordCloser id r).1) : p'.Steady settings := by
  refine h.outside_turn houtside hid ?_ ?_ hspares hsession hcalls hverdict
  · intro w hw
    rw [Turn.point?_map] at hw
    simp at hw
  · intro agent hne howner
    exact hmove.owner_eq hne howner

/-- A write that is refused, or has to wait for the section. -/
theorem Steady.writer_outside {r : Shared × Turn Writer Writer.Outcome}
    (houtside : ¬ p.session.Inside (.call id)) (hid : id < p.calls)
    (hspares : p.stream.Spares r.1.stream) (hpoint : ∀ w, r.2.point? = some w → w.isInside = false)
    (howner : ∀ agent, p.session.shared.writing.owner = some agent →
      r.1.writing.owner = some agent)
    (hsession : p'.session = (p.session.recordWriter id r).1) : p'.Steady settings := by
  refine h.outside_turn houtside hid ?_ (fun agent _ => howner agent) hspares hsession hcalls
    hverdict
  intro w hw
  rw [Turn.point?_map] at hw
  obtain ⟨v, hv, heq⟩ := Option.map_eq_some_iff.mp hw
  cases heq
  exact hpoint w hv

end

theorem not_inside_of_call? {s : Session} {c : Call} (hcall : s.call? id = some c)
    (hc : ∀ w, c ≠ .writing w) : ¬ s.Inside (.call id) := by
  rintro ⟨w, hw, -⟩
  exact hc w (Option.some.inj (hcall.symm.trans hw))

/-- A call that is made now is outside. -/
theorem Steady.not_inside_calls (h : p.Steady settings) : ¬ p.session.Inside (.call p.calls) := by
  rintro ⟨w, hw, -⟩
  exact absurd (h.call_lt _ _ hw) (Nat.lt_irrefl _)

/-- What is recorded of a turn does not depend on the stream before it. -/
theorem recordWriter_atStream (p : Peer) (s : Stream) (id : Nat)
    (r : Shared × Turn Writer Writer.Outcome) :
    (p.atStream s).session.recordWriter id r = p.session.recordWriter id r :=
  Session.record_withShared ..

/-- The start of a message, by a write that has got hold of the section. -/
theorem Steady.writer_start (h : p.Steady settings) {writing : Section Agent}
    (howner : writing.owner = some (.call id))
    (hkeeps : ∀ agent, p.session.shared.writing.owner = some agent → writing.owner = some agent)
    (hid : id < p.calls) (houtside : ¬ p.session.Inside (.call id)) (message : Bytes)
    (hcalls : p'.calls = p.calls)
    (hsession : p'.session = (p.session.recordWriter id
      (Writer.start (p.atSection writing).session.shared (.call id) now message)).1) :
    p'.Steady settings := by
  have hbusy := h.busy_start howner hkeeps hid houtside message
  have hmove : Writer.Move (fun _ => True) (.call id) (p.atSection writing).session.shared false
      (message.chunks (p.atSection writing).stream.settings.maxSegment) _ :=
    Writer.start_move (.call id) hbusy.ready (fun _ _ => trivial) now message
  rw [hbusy.settings_eq] at hmove
  have hrecord := Session.record_withShared p.session (p.atSection writing).session.shared id
  exact hbusy.steady (hsession.trans (congrArg Prod.fst (hrecord ..).symm)) hcalls hmove

section

variable (h : p.Steady settings) (hcalls : p'.calls = p.calls)

include h hcalls

/-- **A writer takes in a datagram.** -/
theorem Steady.writer_arrived {job : Job} {limit : Nat} {raw : Bytes}
    (hcall : p.session.call? id = some (.writing (.polling job limit)))
    (hjustified : p.isJustified raw = true)
    (hsession : p'.session = (p.session.recordWriter id (Writer.resume p.session.shared (.call id)
      now (.polling job limit) (.arrived (.datagram raw)))).1) : p'.Steady settings := by
  have hbusy := (h.receive hjustified now).busy_of_quiet hcall rfl rfl
  rw [← recordWriter_atStream p (p.stream.receive now raw).1] at hsession
  exact hbusy.steady hsession hcalls
    (Writer.resume_move_arrived (D := fun _ => True) fun _ _ => trivial)

/-- **A writer goes on** without a datagram, and without news of a segment. -/
theorem Steady.writer_quiet {w : Writer} (hcall : p.session.call? id = some (.writing w))
    (hin : w.isInside = true) (hquiet : w.isSending = false)
    (hsignal : ∀ raw, signal ≠ .arrived (.datagram raw))
    (hsession : p'.session = (p.session.recordWriter id
      (Writer.resume p.session.shared (.call id) now w signal)).1) : p'.Steady settings := by
  have hbusy := h.busy_of_quiet hcall hin hquiet
  have hfit : ∀ b ∈ w.bodies, b.length ≤ p.stream.settings.maxSegment := by
    rw [h.settings_eq]
    exact h.fits id w hcall
  exact hbusy.steady hsession hcalls (Writer.resume_move (D := fun _ => True) hin hquiet
    hbusy.ready (fun _ _ => trivial) (fun _ _ => trivial) now hfit hsignal)

/-- **A writer learns that its segment was sent.** -/
theorem Steady.writer_sent {rest : List Bytes} {datagram : Bytes} {piggybacked : Nat}
    (hcall : p.session.call? id = some (.writing (.sending rest datagram piggybacked)))
    (hsession : p'.session = (p.session.recordWriter id (Writer.resume p.session.shared (.call id)
      now (.sending rest datagram piggybacked) .sent)).1) : p'.Steady settings := by
  have hbusy := h.busy_sent hcall
  rw [← recordWriter_atStream p ((p.stream.countSent datagram).commit piggybacked)] at hsession
  have hfit : ∀ b ∈ rest, b.length ≤ p.stream.settings.maxSegment := by
    rw [h.settings_eq]
    exact hbusy.body_le
  exact hbusy.steady hsession hcalls (Writer.resume_move_sent (D := fun _ => True) rfl
    hbusy.ready (fun _ _ => trivial) hfit)

/-- **A writer learns that its segment was not sent.** -/
theorem Steady.writer_unsent {rest : List Bytes} {datagram : Bytes} {piggybacked : Nat}
    {reason : String}
    (hcall : p.session.call? id = some (.writing (.sending rest datagram piggybacked)))
    (hverdict : p.verdict (.call id) = .unsent reason)
    (hsession : p'.session = (p.session.recordWriter id (Writer.resume p.session.shared (.call id)
      now (.sending rest datagram piggybacked) (.unsent reason))).1) : p'.Steady settings := by
  have hbusy := h.busy_unsent hcall hverdict
  rw [← recordWriter_atStream p p.stream.abandon] at hsession
  exact hbusy.steady_of_quiet hsession hcalls (.refl _) (fun hsome => absurd rfl hsome)
    fun w hw => by cases hw

end

end Peer

namespace Network

variable {settings : ValidSettings} {start n n' : Network} {z : Side} {me : Agent}
  {signal : Signal} {p' : Peer} {id : Nat}

/-- **A turn of a writer** keeps a peer steady. -/
theorem steady_writer (h : (n.peer z).Steady settings) {w : Writer}
    (hcall : (n.peer z).session.call? id = some (.writing w))
    (hallows : n.allows z (.call id) signal = true)
    (hjustified : ∀ raw, signal = .arrived (.datagram raw) → (n.peer z).isJustified raw = true)
    (hcalls : p'.calls = (n.peer z).calls)
    (hsession : p'.session = ((n.peer z).session.recordWriter id
      (Writer.resume (n.peer z).session.shared (.call id) n.now w signal)).1) :
    p'.Steady settings := by
  have hwait := Session.wait?_of_call? hcall
  by_cases hsending : w.isSending = true
  · -- it learns the fate of its segment
    cases w with
    | sending rest datagram piggybacked =>
      cases signal with
      | sent => exact h.writer_sent hcalls hcall hsession
      | unsent reason =>
        have hverdict : (n.peer z).verdict (.call id) = .unsent reason := by
          simpa [allows, hwait, Call.wait, Writer.wait] using hallows
        exact h.writer_unsent hcalls hcall hverdict hsession
      | _ => simp [allows, hwait, Call.wait, Writer.wait] at hallows
    | _ => cases hsending
  · have hquiet := Bool.eq_false_of_not_eq_true hsending
    by_cases hin : w.isInside = true
    · by_cases hsignal : ∃ raw, signal = .arrived (.datagram raw)
      · obtain ⟨raw, rfl⟩ := hsignal
        obtain ⟨job, time, rfl⟩ := polling_of_allows hcall hallows _ rfl
        exact h.writer_arrived hcalls hcall (hjustified raw rfl) hsession
      · exact h.writer_quiet hcalls hcall hin hquiet (fun raw heq => hsignal ⟨raw, heq⟩) hsession
    · cases w with
      | entering message =>
        obtain ⟨rfl, howner⟩ := owner_of_allows hallows hwait
        refine h.writer_start howner (fun _ hagent => hagent) (h.call_lt id _ hcall) ?_ message
          hcalls hsession
        rintro ⟨v, hv, hinside⟩
        cases hcall.symm.trans hv
        cases hinside
      | _ => exact absurd rfl hin

/-- **A turn** keeps a peer steady, if what arrives is justified. -/
theorem steady_resume (h : (n.peer z).Steady settings) (hallows : n.allows z me signal = true)
    (hjustified : ∀ raw, signal = .arrived (.datagram raw) → (n.peer z).isJustified raw = true)
    (hcalls : p'.calls = (n.peer z).calls)
    (hverdict : ∀ agent, agent ≠ me → p'.verdict agent = (n.peer z).verdict agent)
    (hsession : p'.session = ((n.peer z).session.resume n.now me signal).1) :
    p'.Steady settings := by
  have hwait := wait?_ne_none_of_allows hallows
  unfold Session.resume at hsession
  cases me with
  | flusher =>
    cases hpoint : (n.peer z).session.flusher with
    | none => exact absurd (congrArg (Option.map Flusher.wait) hpoint) hwait
    | some point =>
      simp only [hpoint] at hsession
      have hmove : Flusher.Move (fun _ => True) (n.peer z).session.shared point _ :=
        Flusher.resume_move (fun _ _ => trivial) n.now (fun _ _ => trivial) signal
      refine h.flusher ?_ (fun j => ?_) ?_ hcalls hverdict
      · rw [hsession]
        exact h.orderly.recordFlusher hpoint hmove
      · rw [hsession, Session.call?_recordFlusher]
      · show (n.peer z).stream.Spares p'.session.shared.stream
        rw [hsession, Session.shared_recordFlusher]
        exact Flusher.resume_spares _ _ _ _
  | call id =>
    cases hcall : (n.peer z).session.call? id with
    | none => exact absurd (congrArg (Option.map Call.wait) hcall) hwait
    | some call =>
      simp only [hcall] at hsession
      have hid := h.call_lt id call hcall
      cases call with
      | reading buffer point =>
        have hpoint := receiving_of_allows hcall hallows
        -- what it receives is taken in first
        have hturn : p'.session
            = (((n.peer z).atStream ((n.peer z).stream.heard n.now signal)).session.recordReader id
              buffer (Reader.resume (n.peer z).session.shared (.call id) buffer n.now point
                signal)).1 :=
          hsession.trans (congrArg Prod.fst (Session.record_withShared ..).symm)
        exact (h.hears hjustified n.now).reader hcalls hverdict
          (Peer.not_inside_of_call? hcall fun w => Call.noConfusion) hid
          (Reader.resume_spares _ _ _ _ hpoint) (Reader.writing_resume _ _ _ _ hpoint) hturn
      | writing w => exact steady_writer h hcall hallows hjustified hcalls hsession
      | closing point =>
        exact h.closer hcalls hverdict
          (Peer.not_inside_of_call? hcall fun w => Call.noConfusion) hid
          (Closer.resume_spares _ _ _ _) (Closer.resume_move _ _ _ _) hsession

/-- **A write is called.** -/
theorem steady_write (h : (n.peer z).Steady settings) (message : Bytes)
    (hcalls : p'.calls = (n.peer z).calls + 1)
    (hverdict : ∀ agent, agent ≠ .call (n.peer z).calls →
      p'.verdict agent = (n.peer z).verdict agent)
    (hsession : p'.session
      = ((n.peer z).session.write n.now (n.peer z).calls message).1) : p'.Steady settings := by
  have hnext := h.nextCall (n.peer z).session.joinable
  have hid : (n.peer z).calls < ((n.peer z).nextCall (n.peer z).session.joinable).calls :=
    Nat.lt_succ_self _
  have houtside := h.not_inside_calls
  unfold Session.write at hsession
  rcases Writer.begin_cases (n.peer z).session.shared (.call (n.peer z).calls) n.now message
    with ⟨outcome, heq, -⟩ | ⟨-, -, -, heq⟩
  · rw [heq] at hsession
    exact hnext.writer_outside hcalls hverdict houtside hid (.refl _) (fun w hw => by cases hw)
      (fun _ hagent => hagent) hsession
  · rw [heq] at hsession
    by_cases howner : ((n.peer z).session.shared.writing.enter (.call (n.peer z).calls)).owner
        = some (.call (n.peer z).calls)
    · rw [if_pos howner] at hsession
      exact hnext.writer_start howner (fun _ hagent => Section.owner_enter_of_owner hagent _) hid
        houtside message hcalls hsession
    · rw [if_neg howner] at hsession
      refine hnext.writer_outside hcalls hverdict houtside hid (.refl _) (fun w hw => ?_)
        (fun _ hagent => Section.owner_enter_of_owner hagent _) hsession
      cases hw
      rfl

/-- **A call** keeps a peer steady. -/
theorem steady_called (h : (n.peer z).Steady settings) (operation : Operation)
    (hcalls : p'.calls = (n.peer z).calls + 1)
    (hverdict : ∀ agent, agent ≠ .call (n.peer z).calls →
      p'.verdict agent = (n.peer z).verdict agent)
    (hsession : p'.session = (n.called z operation).1.session) : p'.Steady settings := by
  have hid (joinable : Bool) : (n.peer z).calls < ((n.peer z).nextCall joinable).calls :=
    Nat.lt_succ_self _
  cases operation with
  | read buffer =>
    exact (h.nextCall (n.peer z).session.joinable).reader hcalls hverdict h.not_inside_calls (hid _)
      (Reader.begin_spares _ _ _) (Reader.begin_move _ _ _).writing_eq hsession
  | write message => exact steady_write h message hcalls hverdict hsession
  | close =>
    have hmove : Closer.Move (.call (n.peer z).calls) (n.peer z).session.shared False _ :=
      Closer.begin_move _ _ (n.peer z).session.joinable
    exact (h.nextCall false).closer hcalls hverdict h.not_inside_calls (hid _)
      (Closer.begin_spares _ _ _) hmove hsession

/-! ## Runs -/

/-- Everything may happen, and any datagram may be forged, but no call is abandoned. -/
def forges : Rule := fun _ i =>
  match i with
  | .cancel _ _ => false
  | _ => true

/-- The same, but no acknowledgement of what was not sent is received. -/
def truthful : Rule := fun n i =>
  match i with
  | .event (.turn side _ (.arrived (.datagram raw)) _) => (n.peer side).isJustified raw
  | .cancel _ _ => false
  | _ => true

/-- **An event** keeps both peers steady. -/
theorem steady_step (h : ∀ y, (n.peer y).Steady settings) {e : Event}
    (hrule : truthful n (.event e) = true) (hstep : n.step? e = some n') (y : Side) :
    (n'.peer y).Steady settings := by
  cases stepAt hstep y with
  | elsewhere hpeer hflights =>
    rw [hpeer]
    exact h y
  | called operation refusal =>
    obtain ⟨verdict, heq, hverdict⟩ := peer_commit n y _ (n.called y operation).1 _ refusal
    rw [heq]
    refine steady_called (h y) operation ?_ ?_ rfl
    · cases operation <;> rfl
    · intro agent hne
      refine (hverdict agent hne).trans ?_
      cases operation with
      | write message =>
        obtain ⟨entered, hlet⟩ := (n.peer y).letIn_eq (n.peer y).calls message
        show ((n.peer y).letIn (n.peer y).calls message).verdict agent = _
        rw [hlet]
      | _ => rfl
  | @turned me signal refusal hallows =>
    obtain ⟨verdict, heq, hverdict⟩ := peer_commit n y me (n.turned y me signal).1 _ refusal
    obtain ⟨entered, assigned, hsignalled⟩ := (n.peer y).signalled_eq me signal
    rw [heq]
    refine steady_resume (h y) hallows ?_ ?_ ?_ rfl
    · rintro raw rfl
      exact hrule
    · show ((n.peer y).signalled me signal).calls = _
      rw [hsignalled]
    · intro agent hne
      refine (hverdict agent hne).trans ?_
      show ((n.peer y).signalled me signal).verdict agent = _
      rw [hsignalled]

/-- A peer that has just got its stream is steady. -/
theorem IsStart.steady (h : n.IsStart settings) (y : Side) : (n.peer y).Steady settings := by
  obtain ⟨pool, traffic, now, heq⟩ := h.peer_eq y
  rw [heq]
  exact
    { settings_eq := rfl
      orderly := orderly_establish _ now
      call_lt := fun _ _ hc => by cases hc
      fits := fun _ _ hw => by cases hw
      stock := ⟨0, 0, (Serial.add_zero _).symm, Nat.zero_le _,
        Window.capacity_empty settings.windowSize_pos,
        .empty settings.windowSize_pos settings.windowSize_dvd settings.two_mul_windowSize_le⟩ }

/-- **Both peers are steady**, whatever has happened by the rule. -/
theorem Leads.steady (h : start.Leads truthful n) (hstart : start.IsStart settings) (y : Side) :
    (n.peer y).Steady settings := by
  refine h.invariant (P := fun m => ∀ y, (m.peer y).Steady settings) hstart.steady ?_ y
  intro mid i next hsteady hrule hstep
  cases i with
  | event e => exact steady_step hsteady hrule hstep
  | cancel side id => cases hrule
  | forge side datagram =>
    cases hstep
    exact hsteady

end Network

/-! ## Room to write -/

namespace Peer

variable {settings : ValidSettings} {p : Peer}

/-- No write is blocked: the next one hands over its first datagram at once, if the stream is open
and nobody else is at work in the section for writing. -/
def Passes (p : Peer) : Prop :=
  p.stream.closed = false → p.session.shared.writing.isFree = true →
    ∀ now message, message ≠ [] → message.length ≤ p.stream.settings.maxMessage →
      ∃ datagram, (p.session.write now p.calls message).2 = .hands datagram

section

variable (h : p.Steady settings) (hquiet : p.isSending = false)

include h hquiet

/-- The counts between which the send window stands while no segment is on its way. -/
theorem Steady.stock_of_quiet : ∃ lo count, p.stream.next = settings.initialSerial + count
    ∧ lo ≤ count ∧ Stock settings p.stream.sendWindow lo count := by
  obtain ⟨lo, count, hnext, hlo, hstock⟩ := h.stock
  rw [launched_of_not_isSending hquiet] at hlo
  rw [pending_of_not_isSending hquiet] at hstock
  exact ⟨lo, count, hnext, hlo, hstock⟩

/-- Where the send window starts at the next serial number, there is room. -/
theorem Steady.not_isFull (hbase : p.stream.sendWindow.base = p.stream.next) :
    ¬ p.stream.IsFull := by
  intro hfull
  obtain ⟨lo, count, hnext, hlo, -, hspans⟩ := h.stock_of_quiet hquiet
  have hhi := hspans.hi_le
  have hnarrow := hspans.narrow
  have hcapacity := p.stream.sendWindow.capacity_pos
  have heq : lo = count := by
    rw [hspans.base_eq, hnext] at hbase
    exact Serial.add_left_cancel hbase (by omega) (by omega)
  have hwrite := hspans.write_eq (s := ⟨p.stream.next, false, .zeroed 0, 0⟩) hlo hnext
  rw [if_pos (by omega)] at hwrite
  cases hwrite.symm.trans (Stream.insert?_eq_none_iff.mp (hfull 0 (.zeroed 0) false))

/-- **Where the send window starts at the next serial number**, no write is blocked. -/
theorem Steady.passes (hbase : p.stream.sendWindow.base = p.stream.next) : p.Passes := by
  intro hopen hfree now message hmessage hlength
  have howner := Section.owner_enter_of_isFree hfree (.call p.calls)
  have hready := ((h.nextCall p.session.joinable).busy_start howner
    (fun _ hagent => Section.owner_enter_of_owner hagent _) (Nat.lt_succ_self _)
    h.not_inside_calls message).ready
  unfold Session.write
  rcases Writer.begin_cases p.session.shared (.call p.calls) now message
    with ⟨-, -, hrefused⟩ | ⟨-, -, -, heq⟩
  · exact absurd ⟨hopen, hlength, hmessage⟩ hrefused
  · rw [heq, if_pos howner]
    obtain ⟨x', w, datagram, hstart⟩ := Writer.start_hands
      (x := { p.session.shared with writing := p.session.shared.writing.enter (.call p.calls) })
      hready hopen (h.not_isFull hquiet hbase) now hmessage
    rw [hstart]
    exact ⟨datagram, rfl⟩

/-- While no segment is on its way, the next serial number is at most the width of the window ahead
of where that starts. -/
theorem Steady.ahead : ∃ ahead, ahead ≤ settings.windowSize
    ∧ p.stream.next.offsetFrom? p.stream.sendWindow.base = some ahead := by
  obtain ⟨lo, count, hnext, hlo, hcapacity, hspans⟩ := h.stock_of_quiet hquiet
  have hhi := hspans.hi_le
  have hnarrow := hspans.narrow
  rw [hspans.base_eq, hnext]
  exact ⟨count - lo, by omega, Serial.offsetFrom?_add_add hlo (by omega)⟩

/-- **The acknowledgement of all that was sent** is justified, and takes the send window to the next
serial number. -/
theorem Steady.ack_all : p.isJustified ((Header.ack p.stream.next 0).datagram []) = true
    ∧ ∀ now, (p.stream.receive now ((Header.ack p.stream.next 0).datagram [])).1.sendWindow.base
      = p.stream.next := by
  obtain ⟨lo, count, hnext, hlo, -, hspans⟩ := h.stock_of_quiet hquiet
  have hhi := hspans.hi_le
  have hnarrow := hspans.narrow
  refine ⟨?_, fun now => ?_⟩
  · have hoffset : p.stream.next.offsetFrom? p.stream.sendWindow.base = some (count - lo) := by
      rw [hspans.base_eq, hnext, Serial.offsetFrom?_add_add hlo (by omega)]
    have hfrontier : p.frontier = p.stream.next := by
      rw [frontier, launched_of_not_isSending hquiet, Serial.add_zero]
    have hdistance := (Serial.offsetFrom?_eq_some_iff.mp hoffset).1
    simp only [isJustified, p.stream.ack?_datagram, hoffset, hfrontier, hdistance, Nat.le_refl,
      decide_true, Bool.or_true]
  · obtain ⟨-, -, hwindow, -⟩ := Stream.receive_of_ack? (p.stream.ack?_datagram p.stream.next 0) now
    obtain ⟨-, hafter, -⟩ := hspans.acknowledge 0 hlo (Nat.le_refl count)
    rw [hwindow, hnext, hafter.base_eq]

end

end Peer

namespace Network

variable {settings : ValidSettings} {start n : Network}

/-! ## Acknowledgements of what was not sent -/

/-- The first datagram that a reader receives acknowledges a segment that nobody has written yet.
Then a write waits for room until its time is over. -/
def outrun : List Incident :=
  let ack := (Header.ack ⟨0⟩ 0).datagram []
  [.event (.call .a (.read [0]) none), .forge .b ack,
    .event (.turn .a (.call 0) (.arrived (.datagram ack)) none),
    .event (.call .a (.write [7]) none), .event (.elapse narrowSettings.writeTimeout),
    .event (.turn .a (.call 1) .due none)]

/-- **A forged acknowledgement blocks a stream for good**: it takes the send window past the next
serial number, and on the open stream, with nothing to send, there is no room for any segment. -/
theorem exists_outrun : ∃ n, narrowStart.Leads forges n
    ∧ (n.peer .a).stream.closed = false ∧ (n.peer .a).isSending = false
    ∧ (n.peer .a).stream.next.offsetFrom? (n.peer .a).stream.sendWindow.base = none
    ∧ (n.peer .a).stream.sendWindow.size = 0 ∧ (n.peer .a).failed = [1]
    ∧ (n.peer .a).stream.IsFull := by
  have hrun : (narrowStart.follow? forges outrun).map (fun n =>
      ((n.peer .a).stream.closed, (n.peer .a).isSending,
        (n.peer .a).stream.next.offsetFrom? (n.peer .a).stream.sendWindow.base,
        (n.peer .a).failed, (n.peer .a).stream.sendWindow.size == 0
          && ((n.peer .a).stream.insert? 0 (.zeroed 0) false).isNone))
      = some (false, false, none, [1], true) := by
    decide +kernel
  obtain ⟨n, hn, hview⟩ := exists_leads _ hrun
  obtain ⟨hopen, hview⟩ := Prod.mk.inj hview
  obtain ⟨hquiet, hview⟩ := Prod.mk.inj hview
  obtain ⟨hbehind, hview⟩ := Prod.mk.inj hview
  obtain ⟨hfailed, hview⟩ := Prod.mk.inj hview
  obtain ⟨hsize, hnone⟩ := Bool.and_eq_true_iff.mp hview
  exact ⟨n, hn, hopen, hquiet, hbehind, eq_of_beq hsize, hfailed,
    Stream.isFull_of_insert?_eq_none (Option.isNone_iff_eq_none.mp hnone)⟩

/-- **No datagram pushes the send window past what was sent**, if it does not acknowledge what was
not sent. While no segment is on its way, the next serial number is not behind the send window, and
at most its width ahead. If the window starts there, no write is blocked; and an acknowledgement of
all that was sent brings it there, so that no other one blocks writes for good. -/
theorem passes_of_truthful (hstart : start.IsStart settings) (h : start.Leads truthful n) (x : Side)
    (hquiet : (n.peer x).isSending = false) :
    (∃ ahead, ahead ≤ settings.windowSize
        ∧ (n.peer x).stream.next.offsetFrom? (n.peer x).stream.sendWindow.base = some ahead)
      ∧ ((n.peer x).stream.sendWindow.base = (n.peer x).stream.next → (n.peer x).Passes)
      ∧ let ack := (Header.ack (n.peer x).stream.next 0).datagram []
        (n.peer x).isJustified ack = true
          ∧ ∀ now, ((n.peer x).atStream ((n.peer x).stream.receive now ack).1).Passes := by
  have hsteady := h.steady hstart x
  obtain ⟨hjustified, hbase⟩ := hsteady.ack_all hquiet
  refine ⟨hsteady.ahead hquiet, hsteady.passes hquiet, hjustified, fun now => ?_⟩
  have hafter := hsteady.receive hjustified now
  have hnext : ((n.peer x).stream.receive now
      ((Header.ack (n.peer x).stream.next 0).datagram [])).1.next = (n.peer x).stream.next :=
    (Stream.receive_of_ack? ((n.peer x).stream.ack?_datagram _ _) now).2.1
  exact hafter.passes hquiet ((hbase now).trans hnext.symm)

/-- The first segment is acknowledged, though it has never arrived, and then another one that is far
beyond the window. -/
def outOfReach : List Incident :=
  let ack := (Header.ack ⟨0⟩ 0).datagram []
  let far := (Header.ack ⟨9⟩ 0xFFFFFFFF).datagram []
  [.event (.call .a (.read [0]) none), .event (.call .a (.write [7]) none),
    .event (.turn .a (.call 1) .sent none), .forge .b ack, .forge .b far,
    .event (.turn .a (.call 0) (.arrived (.datagram ack)) none),
    .event (.turn .a (.call 0) (.arrived (.datagram far)) none)]

/-- The stream goes on after that. -/
theorem passes_of_outOfReach : ∃ n, narrowStart.Leads truthful n
    ∧ (n.peer .a).stream.sendWindow.base = ⟨0⟩ ∧ (n.peer .a).stream.next = ⟨0⟩
    ∧ (n.peer .a).Passes := by
  have hrun : (narrowStart.follow? truthful outOfReach).map (fun n =>
      ((n.peer .a).isSending, (n.peer .a).stream.sendWindow.base, (n.peer .a).stream.next))
      = some (false, ⟨0⟩, ⟨0⟩) := by
    decide +kernel
  obtain ⟨n, hn, hview⟩ := exists_leads _ hrun
  obtain ⟨hquiet, hview⟩ := Prod.mk.inj hview
  obtain ⟨hbase, hnext⟩ := Prod.mk.inj hview
  obtain ⟨-, hpasses, -⟩ := passes_of_truthful narrowStart_isStart hn .a hquiet
  exact ⟨n, hn, hbase, hnext, hpasses (hbase.trans hnext.symm)⟩

end Network

end Redelivery
