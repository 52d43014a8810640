import Redelivery.Proofs.Network.Outside

/-!
# Turns of closers and of the flusher

A closer hands over no datagram, and it is in the section for writing only to leave it at once. The
flusher works inside the section, but it numbers nothing: what it sends was sent before.

## Main statements

* `Network.Sound.close`, `Network.Sound.closer_resume`: the network is sound after a close is
  called, and after each of its turns.
* `Network.Sound.flusher_resume`: the network is sound after a turn of the flusher.

Both halves follow the same plan. `Closer.Move` and `Flusher.Move` say what a turn may be;
`afterCloser` and `afterFlusher` say what is left of the peer then; and as neither agent changes the
windows or the books, the peer has the same sending half and the same receiving half as before.

A closer is a call outside the section, so `Sound.closer_turn` is `Sound.outside` with little to
add: that it takes the section away from nobody (`Closer.Move.owner_eq`), and hands over nothing.
The flusher is inside, and what has to be shown of it is that its datagrams may fly.
`Flusher.Move.resends_eq` keeps what is known of those that are left, from the moment at which the
flush began, and `Sound.after_flusher` says that the others do not notice. That the datagrams of a
flush carry what was numbered is where the flush begins, not here: `Link.Sound.carries_of_sends`.
-/

namespace Redelivery

/-! ## Closers -/

namespace Closer

variable {me : Agent} {x : Shared} {granted : Prop} {r : Shared × Turn Closer Unit}

theorem Move.alike (h : Move me x granted r) : x.stream.Alike r.1.stream := by
  cases h with
  | passes halike => exact halike.stream
  | enters halike => exact halike
  | leaves _ halike => exact halike

theorem Move.ne_hands (h : Move me x granted r) (point : Closer) (datagram : Bytes) :
    r.2 ≠ .hands point datagram := by
  cases h with
  | passes _ hturn => exact hturn point datagram
  | enters => simp
  | leaves _ _ _ hturn => exact hturn point datagram

/-- Whoever else owns the section for writing keeps it. -/
theorem Move.owner_eq (h : Move me x granted r) {agent : Agent} (hne : agent ≠ me)
    (howner : x.writing.owner = some agent) : r.1.writing.owner = some agent := by
  cases h with
  | passes halike => rw [halike.writing, howner]
  | enters _ _ hwriting => rw [hwriting, Section.owner_enter_of_owner howner]
  | leaves _ _ hwriting => rw [hwriting, Section.owner_leave_of_ne howner hne]

end Closer

namespace Peer

variable {p : Peer} {id : Nat} {r : Shared × Turn Closer Unit}

/-- The peer after the turn of a closer. -/
def afterCloser (p : Peer) (id : Nat) (r : Shared × Turn Closer Unit) : Peer :=
  p.record (.call id) (p.session.recordCloser id r)

theorem stream_afterCloser : (p.afterCloser id r).stream = r.1.stream :=
  congrArg Shared.stream (Session.shared_record _ id r.1 _)

theorem call?_afterCloser_ne (w : Writer) :
    (p.afterCloser id r).session.call? id ≠ some (.writing w) := by
  rw [show (p.afterCloser id r).session.call? id = r.2.point?.map .closing from
    (Session.call?_record _ id r.1 _).trans (Turn.point?_map _ _ r.2)]
  simp

theorem outside_afterCloser {granted : Prop} (hapart : p.Apart id)
    (hmove : Closer.Move (.call id) p.session.shared granted r) :
    Outside p (p.afterCloser id r) id where
  apart := hapart
  others j hj := Session.call?_record_of_ne _ hj r.1 _
  after := by
    rintro ⟨w, hw, -⟩
    exact call?_afterCloser_ne w hw
  entering message hcall := absurd hcall (call?_afterCloser_ne _)
  flusher := Session.flusher_record _ id r.1 _
  owner agent hne howner := by
    rw [show (p.afterCloser id r).session.shared = r.1 from Session.shared_record _ id r.1 _]
    exact hmove.owner_eq hne howner
  calls := rfl
  entered := Or.inl rfl
  failed := by
    obtain ⟨x, turn⟩ := r
    cases turn <;> exact Or.inl rfl

theorem assigned_afterCloser : (p.afterCloser id r).assigned = p.assigned := by
  apply assigned_record
  apply numbered?_eq_none
  intro j w hj hw
  cases hj
  exact absurd hw (call?_afterCloser_ne w)

theorem passed_afterCloser (halike : p.stream.Alike r.1.stream) :
    (p.afterCloser id r).passed = p.passed := by
  apply passed_record .flusher
  show (p.afterCloser id r).stream.sendWindow = _
  rw [stream_afterCloser, halike.sendWindow]

theorem taken_afterCloser (halike : p.stream.Alike r.1.stream) :
    (p.afterCloser id r).taken = p.taken := by
  apply taken_record
  show (p.afterCloser id r).stream.receiveWindow = _
  rw [stream_afterCloser, halike.receiveWindow]

theorem delivered_afterCloser : (p.afterCloser id r).delivered = p.delivered := by
  obtain ⟨x, turn⟩ := r
  cases turn <;> rfl

end Peer

namespace Network

variable {settings : ValidSettings} {n : Network} {acks : Side → List Ack} {z : Side} {id : Nat}

/-- **A turn of a closer** leaves the network sound. -/
theorem Sound.closer_turn (h : n.Sound settings acks) (hapart : (n.peer z).Apart id)
    {granted : Prop} {r : Shared × Turn Closer Unit}
    (hmove : Closer.Move (.call id) (n.peer z).session.shared granted r)
    (refusal : Option String) :
    (n.commit z (.call id) ((n.peer z).afterCloser id r)
      ((n.peer z).session.recordCloser id r).2 refusal).Sound settings acks := by
  -- a closer hands nothing to the socket
  have hquiet (d : Bytes) : ((n.peer z).session.recordCloser id r).2 ≠ .hands d := by
    have hne := hmove.ne_hands
    obtain ⟨x, turn⟩ := r
    cases turn with
    | hands point datagram => exact absurd rfl (hne point datagram)
    | waits point => exact Outcome.noConfusion
    | returns result => exact Outcome.noConfusion
  have halike := hmove.alike
  apply Sound.commit_quiet hquiet
  apply h.outside (Peer.outside_afterCloser hapart hmove)
  · rw [Peer.stream_afterCloser]
    exact halike
  · exact Peer.assigned_afterCloser
  · exact Peer.passed_afterCloser halike
  · exact Peer.taken_afterCloser halike
  · exact Peer.delivered_afterCloser
  · intro _ _
    rfl

/-- **A close is called.** -/
theorem Sound.close (h : n.Sound settings acks) (z : Side) (refusal : Option String) :
    (n.commit z (.call (n.peer z).calls) (n.called z .close).1 (n.called z .close).2
      refusal).Sound settings acks := by
  have hnext := h.nextCall z false
  have hapart := (h.peer z).booked.apart_nextCall false
  have hmove : Closer.Move (.call (n.peer z).calls) (n.peer z).session.shared False _ :=
    Closer.begin_move _ _ (n.peer z).session.joinable
  have hturn := hnext.closer_turn (by rwa [peer_withPeer]) (by rw [peer_withPeer]; exact hmove)
    refusal
  rw [commit_withPeer, peer_withPeer] at hturn
  exact hturn

/-- **A close goes on.** -/
theorem Sound.closer_resume (h : n.Sound settings acks) {point : Closer}
    (hcall : (n.peer z).session.call? id = some (.closing point)) (signal : Signal)
    (refusal : Option String) :
    (n.commit z (.call id) (n.turned z (.call id) signal).1 (n.turned z (.call id) signal).2
      refusal).Sound settings acks := by
  have hapart := (h.peer z).booked.apart hcall fun w hw => by cases hw
  have hturn := h.closer_turn hapart
    (Closer.resume_move (n.peer z).session.shared (.call id) point signal) refusal
  unfold turned Session.resume Peer.signalled
  simp only [hcall]
  exact hturn

end Network

/-! ## The flusher -/

namespace Flusher

variable {D : Bytes → Prop} {x : Shared} {point : Flusher} {r : Shared × Turn Flusher Unit}

theorem Move.alike (h : Move D x point r) : x.stream.Alike r.1.stream := by
  cases h with
  | stays => exact .refl _
  | rests halike => exact halike
  | resends halike => exact halike

/-- Whoever else owns the section for writing keeps it. -/
theorem Move.owner_eq (h : Move D x point r) {agent : Agent} (hne : agent ≠ .flusher)
    (howner : x.writing.owner = some agent) : r.1.writing.owner = some agent := by
  cases h with
  | stays => exact howner
  | rests _ _ hwriting =>
    rw [hwriting]
    split
    · exact Section.owner_leave_of_ne howner hne
    · exact howner
  | resends _ _ _ hwriting =>
    split at hwriting
    · rw [hwriting, howner]
    · -- the flusher does not stand in line, so nobody was there
      have hfree := (Section.isFree_iff_owner_eq_none _).mp hwriting.1
      rw [howner] at hfree
      cases hfree

/-- In the middle of a flush the flusher owns the section for writing. -/
theorem Move.owner_of_flushing (h : Move D x point r)
    (hbefore : point.isFlushing = true → x.writing.owner = some .flusher) {next : Flusher}
    (hnext : r.2.point? = some next) (hin : next.isFlushing = true) :
    r.1.writing.owner = some .flusher := by
  cases h with
  | stays =>
    cases hnext
    exact hbefore hin
  | rests _ hturn _ =>
    rcases hturn with rfl | ⟨time, rfl⟩
    · cases hnext
    · cases hnext
      cases hin
  | resends _ _ _ hwriting =>
    split at hwriting
    · rename_i hflushing
      rw [hwriting, hbefore hflushing]
    · rw [hwriting.2, Section.owner_enter_of_isFree hwriting.1]

/-- What is known of the datagrams of a flush is known of those that are left. -/
theorem Move.resends_eq (h : Move D x point r) (hbefore : ∀ d ∈ point.resends, D d)
    {next : Flusher} (hnext : r.2.point? = some next) : ∀ d ∈ next.resends, D d := by
  intro d hd
  cases h with
  | stays =>
    cases hnext
    exact hbefore d hd
  | rests _ hturn _ =>
    rcases hturn with rfl | ⟨time, rfl⟩
    · cases hnext
    · cases hnext
      cases hd
  | resends _ _ hrest _ =>
    cases hnext
    exact hrest d hd

/-- A datagram is handed over in the middle of a flush, and is one of it. -/
theorem Move.of_hands (h : Move D x point r) {next : Flusher} {datagram : Bytes}
    (hr : r.2 = .hands next datagram) : D datagram ∧ next.isFlushing = true := by
  cases h with
  | stays => cases hr
  | rests _ hturn _ =>
    rcases hturn with rfl | ⟨time, rfl⟩
    · cases hr
    · cases hr
  | resends _ hcurrent _ _ =>
    cases hr
    exact ⟨hcurrent, rfl⟩

end Flusher

namespace Session

theorem of_recordFlusher_eq_hands {s : Session} {r : Shared × Turn Flusher Unit} {datagram : Bytes}
    (h : (s.recordFlusher r).2 = .hands datagram) : ∃ next, r.2 = .hands next datagram := by
  obtain ⟨x, turn⟩ := r
  cases turn with
  | waits next => cases h
  | hands next d =>
    cases h
    exact ⟨next, rfl⟩
  | returns result => cases h

/-- A turn of the flusher keeps a session orderly. -/
theorem Orderly.recordFlusher {s : Session} (h : s.Orderly) {D : Bytes → Prop} {point : Flusher}
    (hpoint : s.flusher = some point) {r : Shared × Turn Flusher Unit}
    (hmove : Flusher.Move D s.shared point r) : (s.recordFlusher r).1.Orderly := by
  apply h.update .flusher
  · intro agent hne hin
    -- a turn of the flusher leaves all calls as they are
    cases agent with
    | call id =>
      obtain ⟨w, hw, hinside⟩ := hin
      rw [call?_recordFlusher] at hw
      exact ⟨w, hw, hinside⟩
    | flusher => exact absurd rfl hne
  · intro agent hne howner
    rw [shared_recordFlusher]
    exact hmove.owner_eq hne howner
  · rintro ⟨next, hnext, hin⟩
    rw [flusher_recordFlusher] at hnext
    rw [shared_recordFlusher]
    apply hmove.owner_of_flushing _ hnext hin
    intro hflushing
    exact h .flusher ⟨point, hpoint, hflushing⟩

end Session

namespace Peer

variable {settings : ValidSettings} {p : Peer} {point : Flusher} {r : Shared × Turn Flusher Unit}
  {D : Bytes → Prop}

/-- The peer after the turn of the flusher, whatever the socket makes of its datagram. -/
def afterFlusher (p : Peer) (r : Shared × Turn Flusher Unit) (verdict : Agent → Signal) : Peer :=
  (p.record .flusher (p.session.recordFlusher r)).judged verdict

theorem stream_afterFlusher {verdict : Agent → Signal} :
    (p.afterFlusher r verdict).stream = r.1.stream :=
  congrArg Shared.stream (Session.shared_recordFlusher p.session r)

theorem failed_afterFlusher {verdict : Agent → Signal} :
    (p.afterFlusher r verdict).failed = p.failed := by
  obtain ⟨x, turn⟩ := r
  cases turn <;> rfl

theorem booked_afterFlusher {verdict : Agent → Signal} (h : p.Booked) :
    (p.afterFlusher r verdict).Booked := by
  have hcall := Session.call?_recordFlusher p.session r
  refine ⟨⟨fun id c hc => h.call_lt id c (by rwa [← hcall]), h.entered_lt, ?_, h.nodup, ?_⟩, ?_⟩
  · rw [failed_afterFlusher]
    exact h.failed_lt
  · intro id c hc
    rw [failed_afterFlusher]
    exact h.not_failed id c (by rwa [← hcall])
  · intro entry hentry c hc
    obtain ⟨w, hw, hin⟩ := h.inside entry hentry c (by rwa [← hcall])
    exact ⟨w, by rw [← hw]; exact hcall entry.1, hin⟩

theorem sameReceiver_afterFlusher {verdict : Agent → Signal}
    (halike : p.stream.Alike r.1.stream) : SameReceiver p (p.afterFlusher r verdict) where
  receiveWindow := by rw [stream_afterFlusher, halike.receiveWindow]
  assembled := by rw [stream_afterFlusher, halike.assembled]
  complete := by rw [stream_afterFlusher, halike.complete]
  taken := by
    apply taken_record .flusher
    show (p.session.recordFlusher r).1.shared.stream.receiveWindow = _
    rw [Session.shared_recordFlusher]
    exact halike.receiveWindow
  delivered := by
    obtain ⟨x, turn⟩ := r
    cases turn <;> rfl

theorem sameSender_afterFlusher {verdict : Agent → Signal} (hp : p.Sound settings)
    (horderly : (p.afterFlusher r verdict).session.Orderly)
    (halike : p.stream.Alike r.1.stream)
    (hverdict : ∀ id, verdict (.call id) = p.verdict (.call id)) :
    SameSender p (p.afterFlusher r verdict) := by
  have hstream := congrArg Shared.stream (Session.shared_recordFlusher p.session r)
  -- the calls are where they were, and so is the writer among them
  have hwriter : (p.afterFlusher r verdict).session.writer? = p.session.writer? :=
    Session.writer?_congr hp.orderly horderly fun id w _ => by
      rw [show (p.afterFlusher r verdict).session.call? id = p.session.call? id from
        Session.call?_recordFlusher p.session r id]
  refine
    { settings := by rw [stream_afterFlusher, halike.settings]
      sendWindow := by rw [stream_afterFlusher, halike.sendWindow]
      next := by rw [stream_afterFlusher, halike.next]
      closed := by rw [stream_afterFlusher]; exact halike.closed
      assigned := assigned_record rfl
      passed := passed_record .flusher
        ((congrArg Stream.sendWindow hstream).trans halike.sendWindow)
      entered := fun _ => rfl
      accepted := ?_
      writer := hwriter
      refused := ?_ }
  · unfold accepted
    rw [failed_afterFlusher]
    rfl
  · unfold isRefused
    rw [hwriter]
    cases p.session.writer? with
    | none => rfl
    | some found =>
      show (_ && decide (verdict (.call found.1) ≠ .sent)) = _
      rw [hverdict]

end Peer

namespace Network

variable {settings : ValidSettings} {n : Network} {acks : Side → List Ack} {z : Side}

/-- The network after a turn of the flusher, whatever the socket makes of its datagram: the flusher
does not learn this now. -/
theorem Sound.after_flusher (h : n.Sound settings acks) {point : Flusher}
    (hpoint : (n.peer z).session.flusher = some point) {r : Shared × Turn Flusher Unit}
    (hmove : Flusher.Move (Carries settings (n.peer z).assigned (n.peer z).assigned.length
      (n.peer z).assigned.length) (n.peer z).session.shared point r) {verdict : Agent → Signal}
    (hverdict : ∀ id, verdict (.call id) = (n.peer z).verdict (.call id)) :
    (n.withPeer z ((n.peer z).afterFlusher r verdict)).Sound settings acks := by
  have hp := h.peer z
  have horderly : ((n.peer z).afterFlusher r verdict).session.Orderly :=
    hp.orderly.recordFlusher hpoint hmove
  have hsame := Peer.sameSender_afterFlusher hp horderly hmove.alike hverdict
  have hreceiver : Peer.SameReceiver (n.peer z) ((n.peer z).afterFlusher r verdict) :=
    Peer.sameReceiver_afterFlusher hmove.alike
  have hentering : ((n.peer z).afterFlusher r verdict).Entering settings := fun id message hid =>
    hp.entering id message ((Session.call?_recordFlusher _ r id).symm.trans hid)
  apply h.sameSender (fun _ => List.Subset.refl _) rfl hsame
  · apply hp.of_sameSender hsame horderly (Peer.booked_afterFlusher hp.booked) hentering
    · intro next hnext
      apply hmove.resends_eq (hp.flusher_resends point hpoint)
      rw [← Session.flusher_recordFlusher (n.peer z).session r]
      exact hnext
    · exact hreceiver.delivery hp.delivery
  · rw [hreceiver.link_eq]
    exact h.link_other z

/-- **A turn of the flusher** leaves the network sound. -/
theorem Sound.flusher_turn (h : n.Sound settings acks) {point : Flusher}
    (hpoint : (n.peer z).session.flusher = some point) {r : Shared × Turn Flusher Unit}
    (hmove : Flusher.Move (Carries settings (n.peer z).assigned (n.peer z).assigned.length
      (n.peer z).assigned.length) (n.peer z).session.shared point r) (refusal : Option String) :
    (n.commit z .flusher
      ((n.peer z).record .flusher ((n.peer z).session.recordFlusher r))
      ((n.peer z).session.recordFlusher r).2 refusal).Sound settings acks := by
  apply Sound.commit
  · intro _
    exact h.after_flusher hpoint hmove fun _ => rfl
  · intro d signal _ _
    apply h.after_flusher hpoint hmove
    intro id
    exact Function.update_of_ne Agent.noConfusion _ _
  · intro d hd
    obtain ⟨next, hr⟩ := Session.of_recordFlusher_eq_hands hd
    obtain ⟨hcarries, hin⟩ := hmove.of_hands hr
    -- while the flusher is inside, no writer is, so nothing is in the balance
    have hnext : ((n.peer z).session.recordFlusher r).1.flusher = some next := by
      rw [Session.flusher_recordFlusher, hr]
      rfl
    have hwriter := ((h.peer z).orderly.recordFlusher hpoint hmove).writer?_eq_none_of_flushing
      hnext hin
    have hassigned : ((n.peer z).record .flusher ((n.peer z).session.recordFlusher r)).assigned
        = (n.peer z).assigned := Peer.assigned_record rfl
    apply flies_of_carries n acks
    rw [← hassigned] at hcarries
    rw [Peer.exposed_of_not_isSending (Peer.isSending_of_writer?_eq_none hwriter)]
    exact hcarries

/-- **The flusher goes on.** -/
theorem Sound.flusher_resume (h : n.Sound settings acks) {point : Flusher}
    (hpoint : (n.peer z).session.flusher = some point) (signal : Signal)
    (refusal : Option String) :
    (n.commit z .flusher (n.turned z .flusher signal).1 (n.turned z .flusher signal).2
      refusal).Sound settings acks := by
  have hp := h.peer z
  have hmove := Flusher.resume_move
    (fun d hd => (h.link z).expose.carries_of_sends rfl hp.settings_eq rfl hd) n.now
    (hp.flusher_resends point hpoint) signal
  have hturn := h.flusher_turn hpoint hmove refusal
  unfold turned Session.resume Peer.signalled
  simp only [hpoint]
  exact hturn

end Network

end Redelivery
