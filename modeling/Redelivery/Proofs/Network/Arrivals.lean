import Redelivery.Proofs.Network.Sound

/-!
# A datagram arrives

Whatever may still be delivered finds the receiving end in a state in which it does no harm: its
segments are stored or dropped, its acknowledgement moves the send window no further than the other
end has come.

## Main definitions

* `Peer.withStream`: a peer with a new state of its stream.

## Main statements

* `Peer.observe_withStream`: what is observed in two steps is observed in one.
* `Network.Sound.receive`: the network is sound after a datagram has arrived.

A datagram under way is of one of the three kinds of `Network.Flies`, and each kind is settled by
itself:

* Segments: those of the datagram were numbered (`Sound.of_mem_arrivals`), not so long ago that
  their serial numbers could be taken for others (`lt_of_isFresh`). `Sound.storing` follows the
  receive window while they are stored one after the other, by `sound_foldl_storeSegment`, and
  `Sound.receive_data` is what comes of it. The sender's half of the peer stays as it was.
* An acknowledgement: `Sound.receive_ack`. It is one that was made at the other end, so all that it
  removes has arrived there, and the base that it names has been passed there.
* A request or an answer of the handshake changes nothing that decides about the way of a message,
  and so does noise: `Sound.withStream_of_alike`.

Freshness is used in one place only. Without it a segment could come so late that its serial number
has come up again, and the receive window would take the old segment for the new one.
-/

namespace Redelivery

namespace Peer

/-- The peer with a new state of its stream. -/
def withStream (p : Peer) (s : Stream) : Peer :=
  p.observe { p.session with shared := { p.session.shared with stream := s } }

variable {settings : ValidSettings} {p q : Peer} {s : Stream}

/-- Nothing is taken out of a receive window that stays where it is. -/
theorem taken?_eq_none {s s' : Stream} (h : s'.receiveWindow.base = s.receiveWindow.base) :
    taken? s s' = none :=
  if_pos h

theorem taken_withStream (h : s.receiveWindow.base = p.stream.receiveWindow.base) :
    (p.withStream s).taken = p.taken := by
  show p.taken ++ (taken? p.stream s).toList = p.taken
  rw [taken?_eq_none h, Option.toList_none, List.append_nil]

theorem distanceFrom_self (s : Serial) : s.distanceFrom s = 0 := by
  have h := Serial.distanceFrom_add_add (s := s) (Nat.le_refl 0)
  rwa [Serial.add_zero] at h

theorem passed_withStream (h : s.sendWindow.base = p.stream.sendWindow.base) :
    (p.withStream s).passed = p.passed := by
  show p.passed + s.sendWindow.base.distanceFrom p.stream.sendWindow.base = p.passed
  rw [h, distanceFrom_self, Nat.add_zero]

/-- The sender's direction, if the send window stays where it is. -/
theorem link_withStream (h : s.sendWindow.base = p.stream.sendWindow.base) (acks : List Ack) :
    (p.withStream s).link settings q acks
      = { p.link settings q acks with sendWindow := s.sendWindow } := by
  unfold link
  rw [passed_withStream h]
  rfl

/-- The receiver's direction, if the receive window stays where it is. -/
theorem link_withStream_right (h : s.receiveWindow.base = p.stream.receiveWindow.base)
    (acks : List Ack) :
    q.link settings (p.withStream s) acks
      = { q.link settings p acks with receiveWindow := s.receiveWindow } := by
  unfold link
  rw [taken_withStream h]
  rfl

/-- What is observed in two steps is observed in one, if the first step takes nothing out of the
receive window, and the second does not move the send window. -/
theorem observe_withStream (hbase : s.receiveWindow.base = p.stream.receiveWindow.base)
    (hassembled : s.assembled = p.stream.assembled) {session : Session}
    (hsend : session.stream.sendWindow.base = s.sendWindow.base) :
    (p.withStream s).observe session = p.observe session := by
  have htaken : taken? s session.stream = taken? p.stream session.stream := by
    unfold taken?
    rw [hbase, hassembled]
  have hpassed : (p.withStream s).passed + session.stream.sendWindow.base.distanceFrom
        s.sendWindow.base
      = p.passed + session.stream.sendWindow.base.distanceFrom p.stream.sendWindow.base := by
    rw [hsend, distanceFrom_self, Nat.add_zero]
    rfl
  show ({ p.withStream s with session := session, taken := _, passed := _ } : Peer) = _
  rw [show (p.withStream s).stream = s from rfl, htaken, hpassed, taken_withStream hbase]
  rfl

/-- A peer stays sound if nothing but the windows of its stream changes, and the receive window
stays where it is. -/
theorem Sound.withStream (h : p.Sound settings) (hsettings : s.settings = p.stream.settings)
    (hnext : s.next = p.stream.next) (hassembled : s.assembled = p.stream.assembled)
    (hcomplete : s.complete = p.stream.complete)
    (hclosed : p.stream.closed = true → s.closed = true)
    (hbase : s.receiveWindow.base = p.stream.receiveWindow.base) :
    (p.withStream s).Sound settings where
  settings_eq := hsettings.trans h.settings_eq
  orderly := h.orderly
  booked := ⟨⟨h.booked.call_lt, h.booked.entered_lt, h.booked.failed_lt, h.booked.nodup,
    h.booked.not_failed⟩, h.booked.inside⟩
  entering := h.entering
  ledger := by
    have hsame : (p.withStream s).session.writer? = p.session.writer? := rfl
    -- the books say nothing of the windows, and the stream may only have been closed
    cases hw : p.session.writer? with
    | none =>
      obtain ⟨last, begun, hspells, hbegun⟩ := (ledger_iff_idle hw).mp h.ledger
      refine (ledger_iff_idle (hsame.trans hw)).mpr ⟨last, begun, hspells, ?_⟩
      rcases hbegun with hbegun | ⟨hclosed', hne⟩
      · exact Or.inl hbegun
      · exact Or.inr ⟨hclosed hclosed', hne⟩
    | some found =>
      exact (ledger_iff_working (hsame.trans hw)).mpr ((ledger_iff_working hw).mp h.ledger)
  next_eq := hnext.trans h.next_eq
  resends := h.resends
  flusher_resends := h.flusher_resends
  delivery := by
    unfold Consumed
    rw [taken_withStream hbase, h.delivery, ← hcomplete, ← hassembled]
    rfl

end Peer

namespace Network

variable {settings : ValidSettings} {n : Network} {acks : Side → List Ack}

/-- Segments that are stored one after the other, all of them fresh, leave the receiving end
sound. -/
theorem sound_foldl_storeSegment {l : Link} (segments : List (Segment Bytes)) {s : Stream}
    (hwindow : s.receiveWindow = l.receiveWindow) (h : l.Sound settings.windowSize)
    (hbody : ∀ t ∈ segments, t.body.length ≤ s.settings.maxSegment)
    (hfrom : ∀ t ∈ segments, ∃ k, k < l.exposed ∧ t.seq = l.first + k ∧ l.log[k]? = some t.piece
      ∧ l.log.length < k + settings.windowSize + 2 ^ 31) :
    (s.popped (segments.foldl Stream.storeSegment s).receiveWindow).Alike
        (segments.foldl Stream.storeSegment s)
      ∧ Link.Sound
        { l with receiveWindow := (segments.foldl Stream.storeSegment s).receiveWindow }
        settings.windowSize := by
  induction segments generalizing s l with
  | nil =>
    refine ⟨Stream.Alike.refl s, ?_⟩
    rw [List.foldl_nil, hwindow]
    exact h
  | cons t rest ih =>
    obtain ⟨u, pool, hstore, hseq, hpiece⟩ := s.storeSegment_eq t
    obtain ⟨k, hk, htseq, hlog, hfresh⟩ := hfrom t List.mem_cons_self
    have hu : Link.Logged l.log k u := by
      rw [Link.Logged, hpiece (hbody t List.mem_cons_self), hlog]
    have haccept := h.accept (hseq.trans htseq) hk hu hfresh
    rw [← hwindow] at haccept
    -- after the first segment the link is sound again, and the rest is as fresh as before
    obtain ⟨halike, hsound⟩ := ih (s := s.storeSegment t) (by rw [hstore]) haccept
      (by rw [hstore]; exact fun v hv => hbody v (List.mem_cons_of_mem t hv))
      fun v hv => hfrom v (List.mem_cons_of_mem t hv)
    refine ⟨.trans ?_ halike, hsound⟩
    rw [List.foldl_cons, hstore]
    exact ⟨rfl, rfl, rfl, rfl, rfl, rfl, id⟩

/-- What an end finds in a datagram that carries segments are segments that were numbered, and not
so long ago that their numbers are about to come up again. -/
theorem Sound.of_mem_arrivals (h : n.Sound settings acks) {z : Side} {f : Flight} {now : Nat}
    (hcarries : Carries settings (n.peer z.other).assigned (n.peer z.other).exposed
      (f.stamp z.other) f.datagram)
    (hfresh : (n.peer z.other).assigned.length < f.stamp z.other + 2 ^ 31) {t : Segment Bytes}
    (ht : t ∈ (n.peer z).stream.arrivals now f.datagram) :
    t.body.length ≤ settings.maxSegment
      ∧ ∃ k, k < (n.peer z.other).exposed ∧ t.seq = settings.initialSerial + k
        ∧ (n.peer z.other).assigned[k]? = some t.piece
        ∧ (n.peer z.other).assigned.length < k + settings.windowSize + 2 ^ 31 := by
  obtain ⟨segments, hdatagram, hlen, hfrom⟩ := hcarries
  have hbody : ∀ u ∈ segments, u.body.length ≤ settings.maxSegment := by
    intro u hu
    obtain ⟨k, -, -, -, -, hlog⟩ := hfrom u hu
    exact (h.peer z.other).body_le (List.mem_of_getElem? hlog)
  have hsettings := (h.peer z).settings_eq
  rw [hdatagram] at hlen ht
  rw [Stream.arrivals_data (by rwa [hsettings]) (by rwa [hsettings])] at ht
  obtain ⟨u, hu, rfl⟩ := List.mem_map.mp ht
  obtain ⟨k, hk, -, hwidth, hseq, hlog⟩ := hfrom u hu
  exact ⟨hbody u hu, k, hk, hseq, hlog, by omega⟩

/-- What was numbered is fresh if its numbers are not about to come up again. -/
theorem lt_of_isFresh {x : Side} {f : Flight} {log : List Piece} {exposed stamp : Nat}
    (hcarries : Carries settings log exposed stamp f.datagram) (hfresh : n.isFresh x f = true) :
    (n.peer x).assigned.length < f.stamp x + 2 ^ 31 := by
  obtain ⟨segments, heq, -⟩ := hcarries
  rw [isFresh, heq, Header.ofDatagram?_datagram] at hfresh
  exact of_decide_eq_true hfresh

/-- Only what was numbered has segments in it. -/
theorem Sound.carries_of_mem_arrivals (h : n.Sound settings acks) {z : Side} {f : Flight}
    (hf : f ∈ n.flights z.other) {now : Nat} {t : Segment Bytes}
    (ht : t ∈ (n.peer z).stream.arrivals now f.datagram) :
    Carries settings (n.peer z.other).assigned (n.peer z.other).exposed (f.stamp z.other)
      f.datagram := by
  have hnone {header : Header} (hne : header ≠ .data) (heq : f.datagram = header.datagram []) :
      t ∉ (n.peer z).stream.arrivals now f.datagram := by
    rw [heq, Stream.arrivals_of_ne_data _ _ hne]
    exact List.not_mem_nil
  rcases h.flights z.other f hf with hcarries | ⟨ack, -, -, heq⟩ | ⟨header, hheader, heq⟩
  · exact hcarries
  · exact absurd ht (hnone Header.noConfusion heq)
  · have hne : header ≠ .data := by
      rcases hheader with rfl | rfl <;> exact Header.noConfusion
    exact absurd ht (hnone hne heq)

/-- The receive window while the segments of a datagram are stored, some of them already. -/
theorem Sound.storing (h : n.Sound settings acks) {z : Side} {f : Flight} (now : Nat)
    (hcarries : Carries settings (n.peer z.other).assigned (n.peer z.other).exposed
      (f.stamp z.other) f.datagram)
    (hfresh : (n.peer z.other).assigned.length < f.stamp z.other + 2 ^ 31)
    {segments : List (Segment Bytes)}
    (hsub : segments ⊆ (n.peer z).stream.arrivals now f.datagram) :
    (((n.peer z).stream.taking f.datagram).popped
        (segments.foldl Stream.storeSegment
          ((n.peer z).stream.taking f.datagram)).receiveWindow).Alike
        (segments.foldl Stream.storeSegment ((n.peer z).stream.taking f.datagram))
      ∧ Link.Sound
        { (n.peer z.other).link settings (n.peer z) (acks z.other) with
          receiveWindow := (segments.foldl Stream.storeSegment
            ((n.peer z).stream.taking f.datagram)).receiveWindow }
        settings.windowSize := by
  have halike := (n.peer z).stream.alike_taking f.datagram
  have hlink := h.link_other z
  apply sound_foldl_storeSegment segments halike.receiveWindow hlink
  · intro t ht
    rw [halike.settings, (h.peer z).settings_eq]
    exact (h.of_mem_arrivals hcarries hfresh (hsub ht)).1
  · intro t ht
    exact (h.of_mem_arrivals hcarries hfresh (hsub ht)).2

/-- The receiving end after segments have arrived, seen as a peer and as one end of both links. -/
theorem Sound.receive_data (h : n.Sound settings acks) {z : Side} {f : Flight} (now : Nat)
    (hcarries : Carries settings (n.peer z.other).assigned (n.peer z.other).exposed
      (f.stamp z.other) f.datagram)
    (hfresh : (n.peer z.other).assigned.length < f.stamp z.other + 2 ^ 31) :
    (n.withPeer z ((n.peer z).withStream ((n.peer z).stream.receive now f.datagram).1)).Sound
        settings acks
      ∧ ((n.peer z).stream.receive now f.datagram).1.receiveWindow.base
        = (n.peer z).stream.receiveWindow.base
      ∧ ((n.peer z).stream.receive now f.datagram).1.assembled
        = (n.peer z).stream.assembled := by
  have hp := h.peer z
  have hlink := h.link_other z
  have halike0 := (n.peer z).stream.alike_taking f.datagram
  obtain ⟨hfold, hsound⟩ := h.storing now hcarries hfresh (List.Subset.refl _)
  have halike : ((((n.peer z).stream.arrivals now f.datagram).foldl Stream.storeSegment
      ((n.peer z).stream.taking f.datagram))).Alike
        ((n.peer z).stream.receive now f.datagram).1 := by
    obtain ⟨segments, hdatagram, hlen, -⟩ := hcarries
    rw [← hp.settings_eq] at hlen
    rw [hdatagram] at hlen ⊢
    exact (Stream.receive_data now hlen).2.2
  generalize ((n.peer z).stream.receive now f.datagram).1 = s at halike ⊢
  have hs : ((n.peer z).stream.popped s.receiveWindow).Alike s := by
    have hwindow := halike.receiveWindow
    rw [hwindow]
    exact ((halike0.popped _).trans hfold).trans halike
  rw [← halike.receiveWindow] at hsound
  have hbase : s.receiveWindow.base = (n.peer z).stream.receiveWindow.base :=
    hsound.receive.base_eq.trans hlink.receive.base_eq.symm
  have hsend : s.sendWindow = (n.peer z).stream.sendWindow := hs.sendWindow
  refine ⟨h.withPeer (fun _ => List.Subset.refl _)
    (hp.withStream hs.settings hs.next hs.assembled hs.complete hs.closed hbase) ?_ ?_
    (Nat.le_refl _) fun _ _ => rfl, hbase, hs.assembled⟩
  · rw [Peer.link_withStream (by rw [hsend]), hsend]
    exact h.link z
  · rw [Peer.link_withStream_right hbase]
    exact hsound

/-- The sending end after an acknowledgement has arrived. -/
theorem Sound.receive_ack (h : n.Sound settings acks) {z : Side} {ack : Ack} (hack : ack ∈ acks z)
    (hfresh : (n.peer z).assigned.length < ack.stamp + 2 ^ 31) {s : Stream}
    (hs : ({ (n.peer z).stream with
      sendWindow := ((n.peer z).stream.sendWindow.acknowledge
        (settings.initialSerial + ack.next) ack.received).window } : Stream).Alike s) :
    (n.withPeer z ((n.peer z).withStream s)).Sound settings acks := by
  have hp := h.peer z
  have hlink := h.link z
  have hsound := hlink.acknowledge hack hfresh
  have hbase : s.receiveWindow.base = (n.peer z).stream.receiveWindow.base := by
    rw [hs.receiveWindow]
  have hwindow : s.sendWindow = ((n.peer z).stream.sendWindow.acknowledge
      (settings.initialSerial + ack.next) ack.received).window := hs.sendWindow
  -- the base has moved by as much as is observed
  have hnext := hlink.ack_next_le ack hack
  have hpassed : ((n.peer z).withStream s).passed = max (n.peer z).passed ack.next := by
    have hbefore : (n.peer z).stream.sendWindow.base
        = settings.initialSerial + (n.peer z).passed := hlink.send.base_eq
    have hafter : s.sendWindow.base
        = settings.initialSerial + max (n.peer z).passed ack.next := by
      rw [hwindow]
      exact hsound.send.base_eq
    have horder : ack.next ≤ (n.peer z).passed + settings.windowSize := by
      obtain ⟨hab, hbe, hen, hna⟩ := hlink.order
      exact hnext.trans (hbe.trans (hen.trans hna))
    have hnarrow := hlink.two_mul_width_le
    show (n.peer z).passed + s.sendWindow.base.distanceFrom (n.peer z).stream.sendWindow.base = _
    rw [hbefore, hafter, Serial.distanceFrom_add_add (Nat.le_max_left _ _),
      Nat.mod_eq_of_lt (by omega)]
    omega
  apply h.withPeer (fun _ => List.Subset.refl _)
    (hp.withStream hs.settings hs.next hs.assembled hs.complete hs.closed hbase) _ _
    (Nat.le_refl _) fun _ _ => rfl
  · unfold Peer.link at hsound ⊢
    rw [hpassed]
    show Link.Sound { Peer.link settings (n.peer z) (n.peer z.other) (acks z) with
      sendWindow := s.sendWindow, passed := max (n.peer z).passed ack.next } settings.windowSize
    rw [hwindow]
    exact hsound
  · rw [Peer.link_withStream_right hbase, hs.receiveWindow]
    exact h.link_other z

/-- An end after nothing has changed that decides about the way of a message. -/
theorem Sound.withStream_of_alike (h : n.Sound settings acks) {z : Side} {s : Stream}
    (hs : (n.peer z).stream.Alike s) :
    (n.withPeer z ((n.peer z).withStream s)).Sound settings acks := by
  have hbase : s.receiveWindow.base = (n.peer z).stream.receiveWindow.base := by
    rw [hs.receiveWindow]
  have hsend : s.sendWindow.base = (n.peer z).stream.sendWindow.base := by
    rw [hs.sendWindow]
  apply h.withPeer (fun _ => List.Subset.refl _)
    ((h.peer z).withStream hs.settings hs.next hs.assembled hs.complete hs.closed hbase) _ _
    (Nat.le_refl _) fun _ _ => rfl
  · rw [Peer.link_withStream hsend, hs.sendWindow]
    exact h.link z
  · rw [Peer.link_withStream_right hbase, hs.receiveWindow]
    exact h.link_other z

/-- **A datagram arrives** that may still be delivered. -/
theorem Sound.receive (h : n.Sound settings acks) {z : Side} {f : Flight} (now : Nat)
    (hf : f ∈ n.flights z.other) (hfresh : n.isFresh z.other f = true) :
    (n.withPeer z ((n.peer z).withStream ((n.peer z).stream.receive now f.datagram).1)).Sound
        settings acks
      ∧ ((n.peer z).stream.receive now f.datagram).1.receiveWindow.base
        = (n.peer z).stream.receiveWindow.base
      ∧ ((n.peer z).stream.receive now f.datagram).1.assembled
        = (n.peer z).stream.assembled := by
  -- the datagram has segments, or it is an acknowledgement, or it is part of a handshake
  rcases h.flights z.other f hf with hcarries | ⟨ack, hack, hstamp, heq⟩ | ⟨header, hheader, heq⟩
  · exact h.receive_data now hcarries (lt_of_isFresh hcarries hfresh)
  · rw [isFresh, heq, Header.ofDatagram?_datagram] at hfresh
    rw [Side.other_other] at hack hstamp
    have hlt : (n.peer z).assigned.length < ack.stamp + 2 ^ 31 := by
      rw [hstamp]
      have hrecent := of_decide_eq_true hfresh
      rwa [Side.other_other] at hrecent
    have hs := ((n.peer z).stream.receive_ack now (settings.initialSerial + ack.next)
      ack.received).2
    rw [heq]
    exact ⟨h.receive_ack hack hlt hs, by rw [hs.receiveWindow], hs.assembled⟩
  · have hs := (n.peer z).stream.receive_handshake now hheader
    rw [heq]
    exact ⟨h.withStream_of_alike hs, by rw [hs.receiveWindow], hs.assembled⟩

end Network

end Redelivery
