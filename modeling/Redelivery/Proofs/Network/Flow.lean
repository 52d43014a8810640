import Redelivery.Proofs.Network.Delivery

/-!
# How far the two ends are apart

The receiver is never ahead of the sender, and the sender never more than a window's width ahead of
what it knows of the receiver. So the receiver has a place for everything that may still arrive. The
sender comes to a halt with a full window, but not for good: there is something in the window then
that it can send again, and the receiver answers that.

## Main definitions

* `Peer.Answers`: a datagram makes a peer acknowledge what it has.

## Main statements

* `Network.Reachable.order_and_welcome`: flow control, and what follows for the receive window.
* `Network.Reachable.size_pos_of_full`: a full send window is never empty, so flushes go on.

Flow control is read off the link: `Link.Sound.order` has the inequalities, in counts, and the spans
of both windows say where their bases stand. That a datagram finds a place for each of its segments
rides on `Sound.storing` from the arrivals: the receive window is as wide as ever while the segments
before this one are stored, so it welcomes all counts from its base on up to a window's width, and
by flow control the sender has numbered none beyond that.

That a full window is not the end has three steps. A write is refused only if a window's width of
segments was numbered since the base (`Link.Sound.write_eq`); then the window is not empty, because
the base stops at the first segment that was not acknowledged (`Link.Sound.size_pos_of_length_eq`);
and from some time on all that is in it is overdue, so a flush comes to something (`Sound.flushes`).
What it sends is answered by the other end even if it was received before (`Sound.answers`). Whether
an answer gets through is up to the network.
-/

namespace Redelivery

/-- A datagram that arrives at the peer is answered. It makes an acknowledgement due, and a reader
that was waiting for the socket hands one over at once, of all that is in the receive window then;
unless the stream is closed, or a whole message is waiting for a reader. -/
def Peer.Answers (p : Peer) (datagram : Bytes) : Prop :=
  ∀ now, (p.stream.receive now datagram).1.ackDue = true
    ∧ (p.stream.closed = false → p.stream.complete = false → ∀ me buffer, ∃ x again,
      Reader.resume p.session.shared me buffer now .receiving (.arrived (.datagram datagram))
        = (x, .hands (.acking x.stream.receiveWindow.ackDatagram again)
            x.stream.receiveWindow.ackDatagram))

namespace Network

variable {settings : ValidSettings} {n : Network} {acks : Side → List Ack}

/-! ## Flow control -/

/-- What is found in a datagram that may still be delivered was numbered, and what of it has not
been taken out is welcome when its turn comes to be stored. -/
theorem Sound.welcomes_of_arrivals (h : n.Sound settings acks) {z : Side} {f : Flight}
    (hf : f ∈ n.flights z.other) (hfresh : n.isFresh z.other f = true) {now : Nat}
    {before after : List (Segment Bytes)} {t : Segment Bytes}
    (hsplit : (n.peer z).stream.arrivals now f.datagram = before ++ t :: after) :
    ∃ k, k < (n.peer z.other).assigned.length ∧ t.seq = settings.initialSerial + k
      ∧ (n.peer z.other).assigned[k]? = some t.piece
      ∧ ((n.peer z).taken.length ≤ k →
        (before.foldl Stream.storeSegment
          ((n.peer z).stream.taking f.datagram)).receiveWindow.Welcomes t.seq) := by
  have hmem : t ∈ (n.peer z).stream.arrivals now f.datagram := by
    rw [hsplit]
    exact List.mem_append_right before List.mem_cons_self
  have hcarries := h.carries_of_mem_arrivals hf hmem
  have hlt := lt_of_isFresh hcarries hfresh
  obtain ⟨-, k, hk, hseq, hlog, -⟩ := h.of_mem_arrivals hcarries hlt hmem
  have hk' : k < (n.peer z.other).assigned.length := Nat.lt_of_lt_of_le hk (Peer.exposed_le _)
  refine ⟨k, hk', hseq, hlog, ?_⟩
  intro hlo
  -- the window is as wide as ever, and where it was, after the segments before this one
  have hsub : before ⊆ (n.peer z).stream.arrivals now f.datagram := by
    rw [hsplit]
    exact List.subset_append_left before _
  obtain ⟨-, hlink⟩ := h.storing now hcarries hlt hsub
  have hhi := hlink.receive.hi_le
  rw [hseq]
  exact hlink.receive.welcomes hlo (Nat.lt_of_lt_of_le hk hhi)

/-- **Flow control.** Counted without wrapping around, the send window starts no later than the
other end's receive window, that starts no later than the next number to be assigned, and this is at
most a window's width ahead of the start of the send window. The next serial number of the stream is
the one with that count; while a write waits for the socket to take a new segment, it is still the
one before. So whatever segment may still arrive, if it was not taken out already, the receive
window welcomes it when it is stored: it is never refused for being out of range, and no segment
with another serial number has to go for it. -/
theorem Reachable.order_and_welcome (h : Reachable settings n) (x : Side) :
    (n.peer x).stream.sendWindow.base = settings.initialSerial + (n.peer x).passed
      ∧ (n.peer x.other).stream.receiveWindow.base
        = settings.initialSerial + (n.peer x.other).taken.length
      ∧ (n.peer x).stream.next = settings.initialSerial + (n.peer x).committed
      ∧ (n.peer x).passed ≤ (n.peer x.other).taken.length
      ∧ (n.peer x.other).taken.length ≤ (n.peer x).assigned.length
      ∧ (n.peer x).assigned.length ≤ (n.peer x).passed + settings.windowSize
      ∧ ∀ f ∈ n.flights x, n.isFresh x f = true → ∀ now before t after,
        (n.peer x.other).stream.arrivals now f.datagram = before ++ t :: after →
        ∃ k, k < (n.peer x).assigned.length ∧ t.seq = settings.initialSerial + k
          ∧ (n.peer x).assigned[k]? = some t.piece
          ∧ ((n.peer x.other).taken.length ≤ k →
            (before.foldl Stream.storeSegment
              ((n.peer x.other).stream.taking f.datagram)).receiveWindow.Welcomes t.seq) := by
  obtain ⟨acks, hsound⟩ := h.sound
  have hlink := hsound.link x
  obtain ⟨hab, hbe, hen, hna⟩ := hlink.order
  refine ⟨hlink.send.base_eq, hlink.receive.base_eq, (hsound.peer x).next_eq, hab,
    Nat.le_trans hbe hen, hna, ?_⟩
  intro f hf hfresh now before t after hsplit
  have hother := hsound.welcomes_of_arrivals (z := x.other) (f := f)
  rw [Side.other_other] at hother
  exact hother hf hfresh hsplit

/-- After the first segment was lost and the second one has arrived, the first one is still welcome:
its place is the base of the receive window, and nothing is there. -/
theorem welcome_of_lostFirst : ∃ n, Reachable narrowSettings n
    ∧ (n.peer .b).stream.receiveWindow.Welcomes ⟨0xFFFFFFFF⟩ := by
  let first : Segment Bytes := ⟨⟨0xFFFFFFFF⟩, false, [7], 0⟩
  let datagram := Header.data.datagram [first]
  have hrun : (narrowStart.run? lostFirst).map (fun n =>
      ((n.flights .a).any fun f => f.datagram == datagram && n.isFresh .a f,
        (n.peer .b).stream.arrivals 0 datagram, (n.peer .b).taken))
      = some (true, [first], []) := by
    decide +kernel
  obtain ⟨n, hn, hview⟩ := exists_reachable narrowStart_isStart _ hrun
  obtain ⟨hflight, hview⟩ := Prod.mk.inj hview
  obtain ⟨harrivals, htaken⟩ := Prod.mk.inj hview
  obtain ⟨f, hf, hboth⟩ := List.any_eq_true.mp hflight
  obtain ⟨heq, hfresh⟩ := (Bool.and_eq_true_iff).mp hboth
  rw [← eq_of_beq heq] at harrivals
  obtain ⟨-, -, -, -, -, -, harrive⟩ := Reachable.order_and_welcome hn .a
  obtain ⟨k, -, -, -, hwelcome⟩ := harrive f hf hfresh 0 [] first [] harrivals
  refine ⟨n, hn, hwelcome ?_⟩
  show (n.peer .b).taken.length ≤ k
  rw [htaken]
  exact Nat.zero_le k

/-! ## Full windows -/

/-- **What a peer sends again is answered**, whether it arrives for the first time or not. -/
theorem Sound.answers (h : n.Sound settings acks) {z : Side} {datagram : Bytes}
    (hcarries : Carries settings (n.peer z.other).assigned (n.peer z.other).exposed
      (n.peer z.other).assigned.length datagram) : (n.peer z).Answers datagram := by
  intro now
  -- as if it had just been sent
  have harrived := (h.receive_data (z := z)
    (f := ⟨datagram, fun y => (n.peer y).assigned.length⟩) now hcarries
    (Nat.lt_add_of_pos_right (by decide))).1
  have hstream : ((n.withPeer z ((n.peer z).withStream
      ((n.peer z).stream.receive now datagram).1)).peer z).stream
        = ((n.peer z).stream.receive now datagram).1 :=
    congrArg Peer.stream (peer_withPeer n z _)
  have hsettings := (harrived.peer z).settings_eq
  rw [hstream] at hsettings
  obtain ⟨segments, heq, hlen, -⟩ := hcarries
  rw [← (h.peer z).settings_eq, heq] at hlen
  obtain ⟨hreply, hdue, -⟩ := Stream.receive_data now hlen
  rw [← heq] at hreply hdue
  obtain ⟨hclosed, hcomplete⟩ := (n.peer z).stream.flags_receive now datagram
  refine ⟨hdue, ?_⟩
  intro hopen hpart me buffer
  rw [Reader.resume_arrived_eq me buffer hreply]
  apply Reader.proceed_hands me buffer (hclosed.trans hopen) (hcomplete.trans hpart) hdue
  intro u w hpop
  have hfits := harrived.reader_fits (z := z) (u := u) (w := w)
  rw [hstream] at hfits
  show _ ≤ ((n.peer z).stream.receive now datagram).1.settings.maxMessage
  rw [hsettings]
  exact hfits (hcomplete.trans hpart) hpop

/-- The datagrams of a flush come out. -/
theorem Sound.flushDatagrams_eq (h : n.Sound settings acks) (x : Side) (now : Nat) :
    ∃ s, (n.peer x).stream.flushDatagrams now
      = (.ok ((Segment.batches (n.peer x).stream.settings.segmentRoom
          ((n.peer x).stream.overdue now)).map Header.data.datagram,
        ((n.peer x).stream.overdue now).length), s) := by
  have hp := h.peer x
  refine ⟨_, Prod.ext (Stream.flushDatagrams_eq_ok now ?_) rfl⟩
  intro t ht
  obtain ⟨j, -, -, -, hlog⟩ := (h.link x).send.stored _ t ht
  rw [hp.settings_eq]
  exact hp.body_le (List.mem_of_getElem? hlog)

/-- A flush comes to something, some time, if there is something in the send window. -/
theorem Sound.flushes (h : n.Sound settings acks) {x : Side}
    (hsize : 0 < (n.peer x).stream.sendWindow.size) (hquiet : (n.peer x).isSending = false) :
    ∃ due, ∀ now, due ≤ now → ∃ datagrams count s,
      (n.peer x).stream.flushDatagrams now = (.ok (datagrams, count), s) ∧ datagrams ≠ []
        ∧ ∀ d ∈ datagrams, (n.peer x.other).Answers d := by
  have hp := h.peer x
  have hlink := h.link x
  have hspans : (n.peer x).stream.sendWindow.Spans settings.initialSerial (n.peer x).passed
      (n.peer x).assigned.length (Link.Logged (n.peer x).assigned) := hlink.send
  have hnarrow := hspans.narrow
  -- some segment is in the window, and so it is listed
  obtain ⟨q, u, hfind⟩ := (hspans.tidy.size_pos_iff (by omega)).mp hsize
  have hentries := List.ne_nil_of_mem (hspans.mem_entries hfind)
  obtain ⟨due, hdue⟩ := Stream.exists_overdue_ne_nil hentries
  refine ⟨due, ?_⟩
  intro now hnow
  obtain ⟨s, hflush⟩ := h.flushDatagrams_eq x now
  refine ⟨_, _, s, hflush, ?_, ?_⟩
  · intro hnil
    exact Segment.batches_ne_nil (hdue now hnow) (List.map_eq_nil_iff.mp hnil)
  · intro d hd
    have hcarries := hlink.carries_of_sends rfl hp.settings_eq rfl
      (Stream.sends_of_flushDatagrams hflush d hd)
    apply h.answers (z := x.other)
    rw [Side.other_other, Peer.exposed_of_not_isSending hquiet]
    exact hcarries

/-- **A full window is not the end.** When the send window has no room for the next segment, there
is a segment in it. A flush sends such segments again, at the latest when enough time has passed,
and the other end answers each of its datagrams with an acknowledgement. -/
theorem Reachable.size_pos_of_full (h : Reachable settings n) (x : Side) {u : Segment Buffer}
    (hseq : u.seq = settings.initialSerial + (n.peer x).assigned.length)
    (hfull : (n.peer x).stream.sendWindow.write u = .full) :
    0 < (n.peer x).stream.sendWindow.size
      ∧ (∃ q s, (n.peer x).stream.sendWindow.find? q = some s)
      ∧ ((n.peer x).isSending = false → ∃ due, ∀ now, due ≤ now → ∃ datagrams count s,
        (n.peer x).stream.flushDatagrams now = (.ok (datagrams, count), s) ∧ datagrams ≠ []
          ∧ ∀ d ∈ datagrams, (n.peer x.other).Answers d) := by
  obtain ⟨acks, hsound⟩ := h.sound
  have hlink := hsound.link x
  have hwrite := hlink.write_eq hseq
  -- the window is refused only for want of room
  have hroom : ¬ (n.peer x).assigned.length < (n.peer x).passed + settings.windowSize := by
    intro hlt
    cases hfull.symm.trans (hwrite.trans (if_pos hlt))
  have hwide := hlink.length_log_le
  have hsize := hlink.size_pos_of_length_eq (Nat.le_antisymm hwide (Nat.not_lt.mp hroom))
  have hnarrow := hlink.two_mul_width_le
  have hcap := hlink.send_width
  exact ⟨hsize, (hlink.send.tidy.size_pos_iff (by omega)).mp hsize, hsound.flushes hsize⟩

/-- A third write finds the window full. It takes in the acknowledgement of the second segment,
which leaves the first one alone. -/
def blockedWrite : List Event :=
  lostFirst ++ [.call .a (.write [11]) none,
    .turn .a (.call 2) (.arrived (.datagram ackOfSecond)) none]

/-- The window is full then, with one segment in it, and flushes go on. -/
theorem size_pos_of_blockedWrite : ∃ n, Reachable narrowSettings n
    ∧ (n.peer .a).passed = 0 ∧ 0 < (n.peer .a).stream.sendWindow.size
    ∧ ∃ due, ∀ now, due ≤ now → ∃ datagrams count s,
      (n.peer .a).stream.flushDatagrams now = (.ok (datagrams, count), s) ∧ datagrams ≠ []
        ∧ ∀ d ∈ datagrams, (n.peer .b).Answers d := by
  let third : Segment Buffer := ⟨⟨1⟩, false, .zeroed 9, 0⟩
  have hrun : (narrowStart.run? blockedWrite).map (fun n =>
      (decide (third.seq = narrowSettings.initialSerial + (n.peer .a).assigned.length),
        (match (n.peer .a).stream.sendWindow.write third with | .full => true | _ => false),
        (n.peer .a).passed, (n.peer .a).isSending)) = some (true, true, 0, false) := by
    decide +kernel
  obtain ⟨n, hn, hview⟩ := exists_reachable narrowStart_isStart _ hrun
  obtain ⟨hseq, hview⟩ := Prod.mk.inj hview
  obtain ⟨hwrite, hview⟩ := Prod.mk.inj hview
  obtain ⟨hpassed, hquiet⟩ := Prod.mk.inj hview
  have hfull : (n.peer .a).stream.sendWindow.write third = .full := by
    split at hwrite
    · assumption
    · cases hwrite
  obtain ⟨hsize, -, hflush⟩ := Reachable.size_pos_of_full hn .a (of_decide_eq_true hseq) hfull
  exact ⟨n, hn, hpassed, hsize, hflush hquiet⟩

end Network

end Redelivery
