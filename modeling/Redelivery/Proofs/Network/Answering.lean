import Redelivery.Proofs.Network.Delivery
import Redelivery.Proofs.Session.Attentive

/-!
# What an end has received, it keeps and reports

A segment that has arrived stays where it is until a reader takes it out, whatever else arrives. And
what an end has received is either still to be acknowledged, or the last acknowledgement that was
sent says what is there now. So when a reader waits for the socket again, the last acknowledgement
tells all.

## Main definitions

* `Link.Holds`, `Peer.Holds`: a segment has arrived.
* `Network.lastAck?`: the last acknowledgement that was sent from a side.
* `Network.Reported`: it says what is there now, or another one is due.

## Main statements

* `Network.Reachable.attentive`: sessions are attentive, whatever has happened.
* `Network.Sound.holds_heard`, `Network.Sound.holds_step`: what has arrived is kept.
* `Network.reported_commit`: what is there is reported, if the socket takes what it is handed.

That what has arrived is kept is a matter of the receive window alone: `Link.Sound.holds_offer` and
`Link.Sound.holds_pop` are the two ways in which it changes, and `Sound.holds_step` is one of them,
whoever has the turn. That it is reported is a matter of the agents. `Session.Attentive` says that a
reader which rests has left nothing undone: all was taken out that could be, and no acknowledgement
is due. `Sound.serves_turned` and `Sound.serves_called` keep that in the turns of all agents, and
say that what is taken out in a turn is acknowledged in it; `Reachable.attentive` is what comes of
it.

`lastAck?` is the last acknowledgement that the socket took. So `reported_commit` needs that the
socket takes what it is handed in this turn. A socket that refuses an acknowledgement leaves the
peer unreported, and nothing is claimed then until the next one is made. Runs in which sockets may
refuse whatever they like are the subject of the file on listening, where it is the attempt that
counts.
-/

namespace Redelivery

namespace Link

variable {l : Link} {width : Nat}

/-- The segment with count `k` has arrived: it was taken out of the receive window, or it is
there. -/
def Holds (l : Link) (k : Nat) : Prop :=
  k < l.taken.length ∨ (l.receiveWindow.find? (l.first + k)).isSome = true

namespace Sound

/-- What has arrived is kept when another segment arrives, and that one has arrived then as
well. -/
theorem holds_offer (h : l.Sound width) {s : Segment Buffer} {j k : Nat}
    (hseq : s.seq = l.first + k) (hk : k < l.exposed)
    (hfresh : l.log.length < k + width + 2 ^ 31) (hj : j < l.log.length)
    (hheld : l.Holds j ∨ s.seq = l.first + j) :
    ({ l with receiveWindow := l.receiveWindow.offer s } : Link).Holds j := by
  obtain ⟨hab, hbe, hen, hna⟩ := h.order
  have hcap := h.receive_width
  have hnarrow := h.two_mul_width_le
  rcases Nat.lt_or_ge j l.taken.length with hlt | hge
  · exact Or.inl hlt
  -- the numbers are close enough for their counts to be told apart
  have hsame : s.seq = l.first + j → j = k := fun heq =>
    Serial.add_left_cancel (heq.symm.trans hseq) (by omega) (by omega)
  have hfind : (l.receiveWindow.find? (l.first + j)).isSome = true ∨ j = k :=
    hheld.imp (fun hheld => hheld.resolve_left (Nat.not_lt.mpr hge)) hsame
  apply Or.inr
  show ((l.receiveWindow.offer s).find? (l.first + j)).isSome = true
  rcases Nat.lt_or_ge k l.taken.length with hstale | hlo
  · rw [h.receive.offer_stale hseq hstale (by omega)]
    exact hfind.resolve_right (by omega)
  · have hstored : ((l.receiveWindow.store s).find? (l.first + j)).isSome = true := by
      rw [h.receive.find?_store hseq hlo (by omega)]
      split
      · rfl
      · rename_i hne
        refine hfind.resolve_right ?_
        rintro rfl
        exact hne rfl
    unfold Window.offer
    rw [h.receive.accept_eq hseq hlo (by omega)]
    cases hcopy : l.receiveWindow.find? (l.first + k) with
    | none => exact hstored
    | some copy =>
      by_cases hbase : k = l.taken.length
      · simp only [if_pos hbase]
        exact hstored
      · -- a segment is refused only for a copy of itself
        simp only [if_neg hbase]
        rcases hfind with hfind | rfl
        · exact hfind
        · rw [hcopy]
          rfl

/-- What has arrived is kept when the next segment is taken out. -/
theorem holds_pop (h : l.Sound width) {u : Segment Buffer} {w : Window Buffer}
    (hpop : l.receiveWindow.pop? = some (u, w)) {j : Nat} (hj : j < l.log.length)
    (hheld : l.Holds j) (piece : Piece) :
    ({ l with taken := l.taken ++ [piece], receiveWindow := w } : Link).Holds j := by
  obtain ⟨hab, hbe, hen, hna⟩ := h.order
  have hnarrow := h.two_mul_width_le
  obtain ⟨-, -, -, hfind⟩ := h.receive.pop?_eq_some hpop
  unfold Holds
  rw [List.length_append, List.length_singleton]
  rcases Nat.lt_or_ge l.taken.length j with hlater | hle
  · apply Or.inr
    show (w.find? (l.first + j)).isSome = true
    rw [hfind, if_neg]
    · exact hheld.resolve_left (by omega)
    · intro heq
      have hcount := Serial.add_left_cancel heq (by omega) (by omega)
      omega
  · exact Or.inl (by omega)

end Sound

end Link

namespace Peer

/-- The segment with count `k` has arrived at the peer. -/
def Holds (settings : ValidSettings) (p : Peer) (k : Nat) : Prop :=
  k < p.taken.length ∨ (p.stream.receiveWindow.find? (settings.initialSerial + k)).isSome = true

end Peer

namespace Network

variable {settings : ValidSettings} {n n' : Network} {acks : Side → List Ack} {z : Side}
  {me : Agent} {signal : Signal}

/-! ## Arrivals -/

/-- Segments that are stored one after the other have arrived, and what had arrived before is
kept. -/
theorem holds_foldl_storeSegment {l : Link} (segments : List (Segment Bytes)) {s : Stream}
    (hwindow : s.receiveWindow = l.receiveWindow) (h : l.Sound settings.windowSize)
    (hbody : ∀ t ∈ segments, t.body.length ≤ s.settings.maxSegment)
    (hfrom : ∀ t ∈ segments, ∃ k, k < l.exposed ∧ t.seq = l.first + k ∧ l.log[k]? = some t.piece
      ∧ l.log.length < k + settings.windowSize + 2 ^ 31)
    {j : Nat} (hj : j < l.log.length)
    (hheld : l.Holds j ∨ ∃ t ∈ segments, t.seq = l.first + j) :
    ({ l with receiveWindow := (segments.foldl Stream.storeSegment s).receiveWindow } : Link).Holds
      j := by
  induction segments generalizing s l with
  | nil =>
    rw [List.foldl_nil, hwindow]
    exact hheld.resolve_right fun ⟨t, ht, _⟩ => List.not_mem_nil ht
  | cons t rest ih =>
    obtain ⟨u, pool, hstore, hseq, hpiece⟩ := s.storeSegment_eq t
    obtain ⟨k, hk, htseq, hlog, hfresh⟩ := hfrom t List.mem_cons_self
    have hu : Link.Logged l.log k u := by
      rw [Link.Logged, hpiece (hbody t List.mem_cons_self), hlog]
    have haccept := h.accept (hseq.trans htseq) hk hu hfresh
    have hnext : ({ l with receiveWindow := l.receiveWindow.offer u } : Link).Holds j
        ∨ ∃ v ∈ rest, v.seq = l.first + j := by
      rcases hheld with hheld | ⟨v, hv, hvseq⟩
      · exact Or.inl (h.holds_offer (hseq.trans htseq) hk hfresh hj (Or.inl hheld))
      · rcases List.mem_cons.mp hv with rfl | hv
        · exact Or.inl (h.holds_offer (hseq.trans htseq) hk hfresh hj (Or.inr (hseq.trans hvseq)))
        · exact Or.inr ⟨v, hv, hvseq⟩
    exact ih (s := s.storeSegment t) (l := { l with receiveWindow := l.receiveWindow.offer u })
      (by rw [hstore, ← hwindow]) haccept
      (by rw [hstore]; exact fun v hv => hbody v (List.mem_cons_of_mem t hv))
      (fun v hv => hfrom v (List.mem_cons_of_mem t hv)) hj hnext

/-- The network after what comes with a signal was taken in. -/
theorem Sound.heard (h : n.Sound settings acks) (hallows : n.allows z me signal = true) :
    (n.withPeer z ((n.peer z).withStream ((n.peer z).stream.heard n.now signal))).Sound
        settings acks
      ∧ ((n.peer z).stream.heard n.now signal).receiveWindow.base
        = (n.peer z).stream.receiveWindow.base := by
  have hsame : (n.withPeer z ((n.peer z).withStream (n.peer z).stream)).Sound settings acks :=
    h.withStream_of_alike (.refl _)
  cases signal with
  | arrived arrival =>
    cases arrival with
    | fault reason => exact ⟨hsame, rfl⟩
    | datagram raw =>
      obtain ⟨-, f, hf, hfresh, rfl⟩ := of_allows_datagram hallows
      obtain ⟨hsound, hbase, -⟩ := h.receive n.now hf hfresh
      exact ⟨hsound, hbase⟩
  | _ => exact ⟨hsame, rfl⟩

/-- **What has arrived is kept** when something else arrives, and what is found in that has arrived
then. -/
theorem Sound.holds_heard (h : n.Sound settings acks) (hallows : n.allows z me signal = true)
    {j : Nat} (hj : j < (n.peer z.other).assigned.length)
    (hheld : (n.peer z).Holds settings j
      ∨ ∃ raw, signal = .arrived (.datagram raw)
        ∧ ∃ t ∈ (n.peer z).stream.arrivals n.now raw, t.seq = settings.initialSerial + j) :
    ((n.peer z).withStream ((n.peer z).stream.heard n.now signal)).Holds settings j := by
  obtain ⟨-, hbase⟩ := h.heard hallows
  unfold Peer.Holds
  rw [Peer.taken_withStream hbase]
  by_cases hsignal : ∃ raw, signal = .arrived (.datagram raw)
  · obtain ⟨raw, rfl⟩ := hsignal
    obtain ⟨-, f, hf, hfresh, rfl⟩ := of_allows_datagram hallows
    have halike := (n.peer z).stream.alike_taking f.datagram
    have hnumbered (t : Segment Bytes) (ht : t ∈ (n.peer z).stream.arrivals n.now f.datagram) :=
      have hcarries := h.carries_of_mem_arrivals hf ht
      h.of_mem_arrivals hcarries (lt_of_isFresh hcarries hfresh) ht
    show j < (n.peer z).taken.length
      ∨ (((n.peer z).stream.receive n.now f.datagram).1.receiveWindow.find? _).isSome = true
    rw [Stream.receiveWindow_receive]
    refine holds_foldl_storeSegment (l := (n.peer z.other).link settings (n.peer z) (acks z.other))
      _ halike.receiveWindow (h.link_other z) ?_ ?_ hj ?_
    · intro t ht
      rw [halike.settings, (h.peer z).settings_eq]
      exact (hnumbered t ht).1
    · exact fun t ht => (hnumbered t ht).2
    · refine hheld.imp_right ?_
      rintro ⟨raw, heq, t, ht, hseq⟩
      cases heq
      exact ⟨t, ht, hseq⟩
  · -- no datagram comes with any other signal
    have hsame : (n.peer z).stream.heard n.now signal = (n.peer z).stream := by
      cases signal with
      | arrived arrival =>
        cases arrival with
        | fault reason => rfl
        | datagram raw => exact absurd ⟨raw, rfl⟩ hsignal
      | _ => rfl
    show j < (n.peer z).taken.length
      ∨ (((n.peer z).stream.heard n.now signal).receiveWindow.find? _).isSome = true
    rw [hsame]
    exact hheld.resolve_right fun ⟨raw, heq, _⟩ => hsignal ⟨raw, heq⟩

/-- What has arrived is kept in a turn that acknowledges what it takes out. -/
theorem holds_of_answers {s : Stream} {p : Peer}
    (hheard : (n.withPeer z ((n.peer z).withStream s)).Sound settings acks)
    (hbase : s.receiveWindow.base = (n.peer z).stream.receiveWindow.base)
    (htaken : p.taken = (n.peer z).taken ++ (Peer.taken? (n.peer z).stream p.stream).toList)
    {handed : Option Bytes} (hanswers : s.Answers p.stream handed) {j : Nat}
    (hj : j < (n.peer z.other).assigned.length)
    (hheld : ((n.peer z).withStream s).Holds settings j) : p.Holds settings j := by
  have hsame (hwindow : p.stream.receiveWindow = s.receiveWindow) : p.Holds settings j := by
    have hnone : Peer.taken? (n.peer z).stream p.stream = none :=
      Peer.taken?_eq_none (by rw [hwindow, hbase])
    rw [hnone, Option.toList_none, List.append_nil] at htaken
    unfold Peer.Holds at hheld ⊢
    rw [Peer.taken_withStream hbase] at hheld
    rw [htaken, hwindow]
    exact hheld
  cases hanswers with
  | silent hwindow => exact hsame hwindow
  | acknowledges hwindow =>
    rcases hwindow with hwindow | ⟨u, hpop⟩
    · exact hsame hwindow
    · -- the base has moved, so a segment was taken out
      have hlink := hheard.link_other z
      rw [peer_withPeer, peer_withPeer_other] at hlink
      have hmoved : p.stream.receiveWindow.base ≠ (n.peer z).stream.receiveWindow.base := by
        rw [← hbase]
        exact hlink.base_ne_of_pop hpop
      have hone : ∃ piece, Peer.taken? (n.peer z).stream p.stream = some piece :=
        ⟨_, if_neg hmoved⟩
      obtain ⟨piece, hone⟩ := hone
      rw [hone, Option.toList_some] at htaken
      have hholds := hlink.holds_pop hpop hj hheld piece
      unfold Link.Holds Peer.link at hholds
      rw [Peer.taken_withStream hbase] at hholds
      unfold Peer.Holds
      rw [htaken]
      exact hholds

/-! ## Turns -/

/-- No message gets too long on the way. -/
theorem Sound.fits (h : n.Sound settings acks) (z : Side) : (n.peer z).stream.Fits := by
  intro hcomplete u w hpop
  rw [(h.peer z).settings_eq]
  exact h.reader_fits hcomplete hpop

theorem Sound.fits_heard (h : n.Sound settings acks) (hallows : n.allows z me signal = true) :
    ((n.peer z).stream.heard n.now signal).Fits := by
  have hfits := (h.heard hallows).1.fits z
  rwa [peer_withPeer] at hfits

/-- What was numbered and may be sent again is data. -/
theorem isData_of_carries {log : List Piece} {exposed stamp : Nat} {datagram : Bytes}
    (h : Carries settings log exposed stamp datagram) : datagram.IsData := by
  obtain ⟨segments, heq, -⟩ := h
  exact ⟨segments, heq⟩

/-- Whoever waits for the section for reading goes on when it owns that. -/
theorem reading_of_allows (hallows : n.allows z me signal = true) (hsignal : signal = .granted)
    (hwait : (n.peer z).session.wait? me = some .reading) :
    (n.peer z).session.shared.reading.owner = some me := by
  subst hsignal
  simpa [allows, hwait] using hallows

/-- **A turn** leaves a session attentive, and what is taken out in it is acknowledged. -/
theorem Sound.serves_turned (h : n.Sound settings acks) (hatt : (n.peer z).session.Attentive)
    (hallows : n.allows z me signal = true) :
    Session.Serves ((n.peer z).stream.heard n.now signal)
      ((n.peer z).session.resume n.now me signal) := by
  have hp := h.peer z
  have hfits := h.fits_heard hallows
  have hsome := wait?_ne_none_of_allows hallows
  unfold Session.resume
  cases me with
  | flusher =>
    simp only
    cases hpoint : (n.peer z).session.flusher with
    | none => exact absurd (congrArg (Option.map Flusher.wait) hpoint) hsome
    | some point =>
      rw [Stream.heard_of_ne (ne_arrived_of_flusher hallows)]
      refine hatt.recordFlusher (Flusher.resume_conduct _ _ _ fun d hd => ?_)
      exact isData_of_carries (hp.flusher_resends point hpoint d hd)
  | call id =>
    simp only
    cases hcall : (n.peer z).session.call? id with
    | none => exact absurd (congrArg (Option.map Call.wait) hcall) hsome
    | some call =>
      have hwait := Session.wait?_of_call? hcall
      cases call with
      | reading buffer point =>
        refine hatt.recordReader (Reader.resume_conduct ?_ (hatt.drained id _ hcall)
          (receiving_of_allows hcall hallows) hfits)
        intro hcase
        by_cases hin : point.isInside = true
        · exact hatt.owner id _ hcall hin
        · cases point with
          | entering => exact reading_of_allows hallows (hcase.resolve_left hin) hwait
          | _ => exact absurd rfl hin
      | writing point =>
        refine hatt.recordWriter (Writer.resume_conduct (hatt.owner id _ hcall)
          (polling_of_allows hcall hallows) fun d hd => ?_)
        by_cases hin : point.isInside = true
        · exact isData_of_carries (hp.resends id point (hp.orderly.writer?_eq hcall hin) d hd)
        · cases point with
          | entering message => exact absurd hd List.not_mem_nil
          | _ => exact absurd rfl hin
      | closing point =>
        rw [Stream.heard_of_ne (ne_arrived_of_closing hcall hallows)]
        exact hatt.recordCloser (Closer.resume_conduct _ _ _ _)

/-- **The first turn of a call** leaves a session attentive, and what is taken out in it is
acknowledged. -/
theorem Sound.serves_called (h : n.Sound settings acks) (hatt : (n.peer z).session.Attentive)
    (operation : Operation) :
    Session.Serves (n.peer z).stream
      ((n.called z operation).1.session, (n.called z operation).2) := by
  cases operation with
  | read buffer => exact hatt.recordReader (Reader.begin_conduct _ _ _ fun _ _ => h.fits z)
  | write message =>
    have hwrite : Session.Serves (n.peer z).stream
        ((n.peer z).session.write n.now (n.peer z).calls message) :=
      hatt.recordWriter (Writer.begin_conduct _ _ _ _)
    exact hwrite
  | close =>
    have hatt' : ({ (n.peer z).session with joinable := false } : Session).Attentive :=
      ⟨hatt.owner, hatt.drained⟩
    exact hatt'.recordCloser (Closer.begin_conduct _ _ _)

/-- **An event** keeps both sessions attentive. -/
theorem Sound.attentive_step (h : n.Sound settings acks)
    (hatt : ∀ y, (n.peer y).session.Attentive) {e : Event} (hstep : n.step? e = some n')
    (y : Side) : (n'.peer y).session.Attentive := by
  cases stepAt hstep y with
  | elsewhere hpeer hflights =>
    rw [hpeer]
    exact hatt y
  | called operation refusal =>
    rw [session_commit]
    exact (h.serves_called (hatt y) operation).attentive
  | turned refusal hallows =>
    rw [session_commit]
    exact (h.serves_turned (hatt y) hallows).attentive

/-- **Both sessions are attentive**, whatever has happened. -/
theorem Reachable.attentive (h : Reachable settings n) (y : Side) :
    (n.peer y).session.Attentive := by
  induction h generalizing y with
  | start hstart =>
    -- nobody has called yet
    obtain ⟨pool, traffic, now, heq⟩ := hstart.peer_eq y
    rw [heq]
    refine ⟨fun _ _ hcall => ?_, fun _ _ hcall => ?_⟩ <;> cases hcall
  | step e hreach hstep ih =>
    obtain ⟨acks, hsound⟩ := hreach.sound
    exact hsound.attentive_step ih hstep y

/-! ## What is kept -/

theorem taken_called (z : Side) (operation : Operation) :
    (n.called z operation).1.taken = (n.peer z).taken
      ++ (Peer.taken? (n.peer z).stream (n.called z operation).1.stream).toList := by
  cases operation with
  | read buffer => rfl
  | close => rfl
  | write message =>
    obtain ⟨entered, hlet⟩ := (n.peer z).letIn_eq (n.peer z).calls message
    show ((n.peer z).letIn (n.peer z).calls message).taken
      ++ (Peer.taken? ((n.peer z).letIn (n.peer z).calls message).stream _).toList = _
    rw [hlet]
    rfl

theorem taken_turned (z : Side) (me : Agent) (signal : Signal) :
    (n.turned z me signal).1.taken = (n.peer z).taken
      ++ (Peer.taken? (n.peer z).stream (n.turned z me signal).1.stream).toList := by
  obtain ⟨entered, assigned, hsignalled⟩ := (n.peer z).signalled_eq me signal
  show ((n.peer z).signalled me signal).taken
    ++ (Peer.taken? ((n.peer z).signalled me signal).stream _).toList = _
  rw [hsignalled]
  rfl

/-- **What has arrived is kept**, whatever happens. -/
theorem Sound.holds_step (h : n.Sound settings acks) (hatt : ∀ y, (n.peer y).session.Attentive)
    {e : Event} (hstep : n.step? e = some n') {z : Side} {j : Nat}
    (hj : j < (n.peer z.other).assigned.length) (hheld : (n.peer z).Holds settings j) :
    (n'.peer z).Holds settings j := by
  cases stepAt hstep z with
  | elsewhere hpeer hflights =>
    rw [hpeer]
    exact hheld
  | called operation refusal =>
    have hsame : (n.withPeer z ((n.peer z).withStream (n.peer z).stream)).Sound settings acks :=
      h.withStream_of_alike (.refl _)
    obtain ⟨verdict, heq, -⟩ := peer_commit n z _ (n.called z operation).1 _ refusal
    rw [heq]
    refine holds_of_answers hsame rfl (taken_called z operation)
      (h.serves_called (hatt z) operation).answers hj ?_
    unfold Peer.Holds
    rw [Peer.taken_withStream rfl]
    exact hheld
  | @turned me signal refusal hallows =>
    obtain ⟨hheard, hbase⟩ := h.heard hallows
    obtain ⟨verdict, heq, -⟩ := peer_commit n z me (n.turned z me signal).1 _ refusal
    rw [heq]
    exact holds_of_answers hheard hbase (taken_turned z me signal)
      (h.serves_turned (hatt z) hallows).answers hj (h.holds_heard hallows hj (Or.inl hheld))

/-! ## What is reported -/

/-- The last acknowledgement that was sent from a side. -/
def lastAck? (n : Network) (side : Side) : Option Flight :=
  (n.flights side).find? fun f => f.datagram.isAck

/-- The last acknowledgement from a side says what is in the receive window there now, and all that
is acknowledged by it had numbers when it was sent; or another one is due. -/
def Reported (n : Network) (z : Side) : Prop :=
  (n.peer z).stream.ackDue = true
    ∨ ∃ f, n.lastAck? z = some f ∧ f.datagram = (n.peer z).stream.receiveWindow.ackDatagram
      ∧ f.stamp z.other = (n.peer z.other).assigned.length

/-- What the socket takes is under way. -/
theorem flights_commit (n : Network) (z : Side) (me : Agent) (p : Peer) (outcome : Outcome) :
    (outcome.handed? = none ∧ (n.commit z me p outcome none).flights z = n.flights z)
      ∨ ∃ d stamp, outcome.handed? = some d
        ∧ (n.commit z me p outcome none).flights z = ⟨d, stamp⟩ :: n.flights z
        ∧ stamp z.other = (n.peer z.other).assigned.length := by
  cases outcome with
  | waits => exact Or.inl ⟨rfl, rfl⟩
  | returns id result => exact Or.inl ⟨rfl, rfl⟩
  | hands d =>
    refine Or.inr ⟨d, _, rfl, Function.update_self .., ?_⟩
    simp only [peer_withPeer_other]

/-- **What is there is reported** after a turn whose datagram the socket takes. -/
theorem reported_commit {s : Stream} {p : Peer} {outcome : Outcome}
    (hanswers : s.Answers p.stream outcome.handed?)
    (hheard : s.ackDue = true ∨ s.receiveWindow = (n.peer z).stream.receiveWindow
      ∧ s.ackDue = (n.peer z).stream.ackDue ∧ n.Reported z) :
    (n.commit z me p outcome none).Reported z := by
  obtain ⟨verdict, hpeer, -⟩ := peer_commit n z me p outcome none
  unfold Reported
  rw [hpeer, peer_commit_other]
  show p.stream.ackDue = true
    ∨ ∃ f : Flight, _ ∧ f.datagram = p.stream.receiveWindow.ackDatagram ∧ _
  unfold lastAck?
  cases hanswers with
  | silent hwindow hdue hhanded =>
    rcases hheard with hheard | ⟨hsame, hquiet, hreported⟩
    · exact Or.inl (hdue.trans hheard)
    · rcases hreported with hreported | ⟨f, hlast, hdatagram, hstamp⟩
      · exact Or.inl (hdue.trans (hquiet.trans hreported))
      · -- what is sent now, if anything, is no acknowledgement
        refine Or.inr ⟨f, ?_, by rw [hdatagram, hwindow, hsame], hstamp⟩
        rcases flights_commit n z me p outcome with ⟨-, hflights⟩ | ⟨d, stamp, hd, hflights, -⟩
        · rwa [hflights]
        · rw [hflights, List.find?_cons_of_neg (by simp [hhanded d hd])]
          exact hlast
  | acknowledges hwindow hhanded =>
    rcases flights_commit n z me p outcome with ⟨hnone, -⟩ | ⟨d, stamp, hd, hflights, hstamp⟩
    · cases hnone.symm.trans hhanded
    · cases hd.symm.trans hhanded
      refine Or.inr ⟨⟨p.stream.receiveWindow.ackDatagram, stamp⟩, ?_, rfl, hstamp⟩
      rw [hflights]
      exact List.find?_cons_of_pos (Window.isAck_ackDatagram p.stream.receiveWindow)

end Network

end Redelivery
