import Redelivery.Proofs.Network.Invariant

/-!
# What arrives

Whatever the network does, the messages that one end delivers are those that the other end accepted,
in the same order and none of them altered; only the latest may be missing still. And no segment is
ever lost: until it is taken out of the receive window, one of the two windows holds it.

## Main definitions

* `Network.Arrived`, `Network.Kept`: where a segment can be.
* `narrowSettings`, `narrowStart`: a network with narrow windows, whose serial numbers are about to
  wrap around.

## Main statements

* `Network.Reachable.delivered_prefix`: messages are delivered as they were accepted.
* `Network.Reachable.kept_of_assigned`: no segment is lost, and none is acknowledged that has not
  arrived.

The first statement rides on three prefixes, one behind the other: what was delivered is the
beginning of what the segments taken out add up to (`Peer.Sound.delivered_prefix_assemble`, from the
account that a reader keeps), those segments are the first of those that have numbers
(`Link.Sound.taken_prefix`), and these add up to the beginning of what was accepted
(`Peer.Sound.assemble_prefix_accepted`, from the ledger of the writers). That messages are put
together monotonically, `assemble_messages_mono`, joins them.

The second one is `Link.Sound.somewhere`, read for a network. For what an acknowledgement removes,
it is used in the state after the datagram was received: the segment is not in the send window any
more, so it is in the other place where it can be.

Neither says that anything arrives. A network may lose everything, and then nothing is delivered and
all segments stay where they are.
-/

namespace Redelivery

/-! ## Messages -/

namespace Peer.Sound

variable {settings : ValidSettings} {p : Peer}

/-- What was delivered is what the segments add up to that were taken out of the receive window. -/
theorem delivered_prefix_assemble (h : p.Sound settings) :
    p.delivered <+: (assemble p.taken).messages := by
  rw [h.delivery]
  split
  · exact List.prefix_append _ _
  · exact List.prefix_rfl

/-- What the segments add up to that have numbers are messages that were accepted. -/
theorem assemble_prefix_accepted (h : p.Sound settings) :
    (assemble p.assigned).messages <+: p.accepted := by
  -- between writes and within one, the books spell what was numbered
  cases hw : p.session.writer? with
  | none =>
    obtain ⟨last, begun, hspells, hbegun⟩ := (ledger_iff_idle hw).mp h.ledger
    rcases hbegun with rfl | ⟨-, hne⟩
    · simp [hspells.assemble_eq]
    · obtain ⟨part, -, heq⟩ := hspells.assemble_of_ne hne
      simp [heq]
  | some found =>
    obtain ⟨-, done, last, begun, -, haccepted, -, hspells, -⟩ :=
      (ledger_iff_working hw).mp h.ledger
    rw [haccepted]
    exact hspells.assemble_messages

end Peer.Sound

namespace Network

variable {settings : ValidSettings} {n : Network} {acks : Side → List Ack}

/-- **Messages are delivered as they were accepted.** Whatever has happened, the messages that reads
have returned at one end are the first of those that were accepted at the other end: no message is
lost in between, repeated, altered, cut off, or delivered out of order. -/
theorem Reachable.delivered_prefix (h : Reachable settings n) (x : Side) :
    (n.peer x.other).delivered <+: (n.peer x).accepted := by
  obtain ⟨acks, hsound⟩ := h.sound
  have hlink := hsound.link x
  have htaken : (assemble (n.peer x.other).taken).messages
      <+: (assemble (n.peer x).assigned).messages :=
    assemble_messages_mono hlink.taken_prefix
  exact ((hsound.peer x.other).delivered_prefix_assemble.trans htaken).trans
    (hsound.peer x).assemble_prefix_accepted

/-! ### A run

Windows are two segments wide here, and a datagram has room for nine bytes of a message, or for two
messages of a byte. The second segment is the one whose serial number is zero. -/

/-- Settings with narrow windows, and serial numbers that are about to wrap around. -/
def narrowSettings : ValidSettings where
  mtu := 22
  windowSize := 2
  redundancy := 1
  initialSerial := ⟨0xFFFFFFFF⟩
  fault?_eq_none := by decide +kernel

/-- Both ends have just got their streams. -/
def narrowStart : Network where
  now := 0
  peer _ := { session := .establish (.establish narrowSettings (.empty 0)) 0 }
  flights _ := []

theorem narrowStart_isStart : narrowStart.IsStart narrowSettings where
  peer_eq _ := ⟨.empty 0, {}, 0, rfl⟩
  flights_eq _ _ hf := absurd hf List.not_mem_nil

/-- A run ends somewhere, and what is seen there is seen in a network that can be reached. -/
theorem exists_reachable {α : Type} {start : Network} (hstart : start.IsStart settings)
    {events : List Event} (view : Network → α) {value : α}
    (h : (start.run? events).map view = some value) :
    ∃ n, Reachable settings n ∧ view n = value := by
  obtain ⟨n, hrun, hview⟩ := Option.map_eq_some_iff.mp h
  exact ⟨n, (Reachable.start hstart).run hrun, hview⟩

/-- The datagram with the first segment is lost. That with the second one has both, and arrives;
the first one arrives after all when both were read. -/
def repairedLoss : List Event :=
  let first : Segment Bytes := ⟨⟨0xFFFFFFFF⟩, false, [7], 0⟩
  let second : Segment Bytes := ⟨⟨0⟩, false, [9], 0⟩
  [.call .a (.write [7]) none, .turn .a (.call 0) .sent none,
    .call .a (.write [9]) none, .turn .a (.call 1) .sent none,
    .call .b (.read [0]) none,
    .turn .b (.call 0) (.arrived (.datagram (Header.data.datagram [second, first]))) none,
    .turn .b (.call 0) .sent none,
    .call .b (.read [0]) none, .turn .b (.call 1) .sent none,
    .call .b (.read [0]) none,
    .turn .b (.call 2) (.arrived (.datagram (Header.data.datagram [first]))) none]

/-- Both messages are delivered once, in the order in which they were written. -/
theorem delivered_of_repairedLoss : ∃ n, Reachable narrowSettings n
    ∧ (n.peer .b).delivered = [[7], [9]] ∧ [[7], [9]] <+: (n.peer .a).accepted := by
  have hrun : (narrowStart.run? repairedLoss).map (fun n => (n.peer .b).delivered)
      = some [[7], [9]] := by decide +kernel
  obtain ⟨n, hn, hview⟩ := exists_reachable narrowStart_isStart _ hrun
  have hfront := Reachable.delivered_prefix hn .a
  refine ⟨n, hn, hview, ?_⟩
  rw [← hview]
  exact hfront

/-! ## Segments -/

/-- The segment with count `k` that was numbered at a side has arrived at the other one, with the
given piece: it is in the receive window there, or it was taken out. -/
def Arrived (settings : ValidSettings) (n : Network) (x : Side) (k : Nat) (piece : Piece) : Prop :=
  ((n.peer x.other).taken.length ≤ k
      ∧ ∃ s, (n.peer x.other).stream.receiveWindow.find? (settings.initialSerial + k) = some s
        ∧ s.wire.piece = piece)
    ∨ (n.peer x.other).taken[k]? = some piece

/-- The segment with count `k` that was numbered at a side is in the send window there, with the
given piece, or it has arrived. -/
def Kept (settings : ValidSettings) (n : Network) (x : Side) (k : Nat) (piece : Piece) : Prop :=
  ((n.peer x).passed ≤ k
      ∧ ∃ s, (n.peer x).stream.sendWindow.find? (settings.initialSerial + k) = some s
        ∧ s.wire.piece = piece)
    ∨ n.Arrived settings x k piece

theorem Sound.kept (h : n.Sound settings acks) {x : Side} {k : Nat} {piece : Piece}
    (hpiece : (n.peer x).assigned[k]? = some piece) : n.Kept settings x k piece :=
  (h.link x).somewhere hpiece

/-- What an acknowledgement removes from the send window has arrived. -/
theorem Sound.arrived_of_removed (h : n.Sound settings acks) {x : Side} {f : Flight} {now : Nat}
    (hf : f ∈ n.flights x.other) (hfresh : n.isFresh x.other f = true) {q : Serial}
    {s : Segment Buffer} (hs : (n.peer x).stream.sendWindow.find? q = some s)
    (hgone : ((n.peer x).stream.receive now f.datagram).1.sendWindow.find? q = none) :
    ∃ k, q = settings.initialSerial + k ∧ n.Arrived settings x k s.wire.piece := by
  obtain ⟨k, -, -, hq, hlog⟩ := (h.link x).send.stored q s hs
  have hq : q = settings.initialSerial + k := hq
  refine ⟨k, hq, ?_⟩
  -- afterwards it is still somewhere, and nothing has changed at the other end
  have hlog' : ((n.withPeer x ((n.peer x).withStream
      ((n.peer x).stream.receive now f.datagram).1)).peer x).assigned[k]? = some s.wire.piece := by
    rw [peer_withPeer]
    exact hlog
  have hkept := (h.receive now hf hfresh).1.kept hlog'
  unfold Kept Arrived at hkept
  rw [peer_withPeer, peer_withPeer_other] at hkept
  rcases hkept with ⟨-, t, ht, -⟩ | harrived
  · rw [← hq] at ht
    exact absurd (ht.symm.trans hgone) (Option.some_ne_none t)
  · exact harrived

/-- **No segment is lost.** Unless a write is waiting for the socket to take a new segment, those
that have numbers are those before the next serial number. Each of them is in the send window, or it
has arrived as it was sent and is in the other end's receive window or was taken out there. An
acknowledgement never removes one from the send window that has not arrived. -/
theorem Reachable.kept_of_assigned (h : Reachable settings n) (x : Side) :
    ((n.peer x).isSending = false →
        (n.peer x).stream.next = settings.initialSerial + (n.peer x).assigned.length)
      ∧ (∀ k piece, (n.peer x).assigned[k]? = some piece → n.Kept settings x k piece)
      ∧ ∀ f ∈ n.flights x.other, n.isFresh x.other f = true → ∀ now q s,
        (n.peer x).stream.sendWindow.find? q = some s →
        ((n.peer x).stream.receive now f.datagram).1.sendWindow.find? q = none →
        ∃ k, q = settings.initialSerial + k ∧ n.Arrived settings x k s.wire.piece := by
  obtain ⟨acks, hsound⟩ := h.sound
  refine ⟨?_, fun k piece => hsound.kept, ?_⟩
  · intro hquiet
    rw [(hsound.peer x).next_eq, Peer.committed, hquiet]
    rfl
  · intro f hf hfresh now q s hs hgone
    exact hsound.arrived_of_removed hf hfresh hs hgone

/-- The first segment is lost, and the second one alone arrives. So the acknowledgement is one for
that segment only. -/
def lostFirst : List Event :=
  let second : Segment Bytes := ⟨⟨0⟩, false, [1, 2, 3, 4, 5, 6, 7, 8, 9], 0⟩
  [.call .a (.write [7]) none, .turn .a (.call 0) .sent none,
    .call .a (.write second.body) none, .turn .a (.call 1) .sent none,
    .call .b (.read [0]) none,
    .turn .b (.call 0) (.arrived (.datagram (Header.data.datagram [second]))) none,
    .turn .b (.call 0) .sent none]

/-- The acknowledgement that is under way then. -/
def ackOfSecond : Bytes :=
  (Header.ack ⟨0xFFFFFFFF⟩ 1).datagram []

/-- The first segment is kept, and the second one has arrived, which the acknowledgement removes. -/
theorem kept_of_lostFirst : ∃ n, Reachable narrowSettings n
    ∧ n.Kept narrowSettings .a 0 ⟨false, [7]⟩
    ∧ ∃ k, (⟨0⟩ : Serial) = narrowSettings.initialSerial + k
      ∧ n.Arrived narrowSettings .a k ⟨false, [1, 2, 3, 4, 5, 6, 7, 8, 9]⟩ := by
  have hrun : (narrowStart.run? lostFirst).map (fun n =>
      ((n.peer .a).assigned[0]?,
        (n.flights .b).any fun f => f.datagram == ackOfSecond && n.isFresh .b f,
        ((n.peer .a).stream.sendWindow.find? ⟨0⟩).map fun s => s.wire.piece,
        (((n.peer .a).stream.receive 0 ackOfSecond).1.sendWindow.find? ⟨0⟩).isNone))
      = some (some ⟨false, [7]⟩, true, some ⟨false, [1, 2, 3, 4, 5, 6, 7, 8, 9]⟩, true) := by
    decide +kernel
  obtain ⟨n, hn, hview⟩ := exists_reachable narrowStart_isStart _ hrun
  obtain ⟨hfirst, hview⟩ := Prod.mk.inj hview
  obtain ⟨hflight, hview⟩ := Prod.mk.inj hview
  obtain ⟨hsecond, hgone⟩ := Prod.mk.inj hview
  obtain ⟨-, hkept, hremoved⟩ := Reachable.kept_of_assigned hn .a
  obtain ⟨f, hf, hboth⟩ := List.any_eq_true.mp hflight
  obtain ⟨heq, hfresh⟩ := (Bool.and_eq_true_iff).mp hboth
  obtain ⟨s, hs, hpiece⟩ := Option.map_eq_some_iff.mp hsecond
  rw [← eq_of_beq heq] at hgone
  have harrived := hremoved f hf hfresh 0 ⟨0⟩ s hs (Option.isNone_iff_eq_none.mp hgone)
  rw [hpiece] at harrived
  exact ⟨n, hn, hkept 0 _ hfirst, harrived⟩

end Network

end Redelivery
