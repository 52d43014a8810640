import Redelivery.Proofs.Link
import Redelivery.Proofs.Network
import Redelivery.Proofs.Session.Orderly

/-!
# What holds of two ends and the network between them

The invariant of the network has three parts. Either end is sound by itself: its session is orderly,
its books are in order, and what it has numbered spells the messages that it accepted. Either
direction is a sound link. And whatever is under way was sent by one of the ends and says what was
true of it then.

## Main definitions

* `Peer.committed`, `Peer.exposed`: how many of the segments with numbers a peer is through with,
  and how many may have been on the wire.
* `Peer.Idle`, `Peer.Working`, `Peer.Ledger`: what a peer has numbered, between writes and within
  one.
* `Peer.Consumed`: what became of the segments that a peer has taken out of its receive window.
* `Peer.Counted`, `Peer.Booked`, `Peer.Sound`: what holds of a peer.
* `Carries`, `Network.Flies`: what holds of a datagram.
* `Network.Sound`: what holds of the network, with all acknowledgements that were ever made.

## Main statements

* `Link.Sound.ready`: the next segment can be numbered.
* `Link.Sound.carries_of_sends`: what a stream sends carries what it has numbered.
* `Network.Sound.withPeer`, `Network.Sound.withFlight`: the two ways in which a network changes.

The three parts speak about different things, and meet in few places. `Peer.Ledger` speaks about
messages: what the numbers that were given away spell, with the writer that is inside the section as
the one who may be in the middle of a message. `Link.Sound` speaks about counts, which do not wrap
around: which of the segments with numbers either window holds. `Network.Flies` speaks about bytes.
They meet in `Peer.link`, by which the windows of two peers and what was numbered are seen as one
direction, and in `Carries`, by which the bytes of a datagram are segments with numbers.

A writer that waits for the socket is the delicate case. Its segment has a number, but it may have
to give that back. So a peer has *committed* one segment less than it has numbered at that time,
which is where the next serial number stands; and if the socket does not take the segment, the peer
has *exposed* one less, as nobody else has seen that number. That is why a number may be given away
twice: what is on the wire is only ever about exposed ones, and `Carries.mono`, the one thing that
`Sound.withPeer` needs to know about flights, asks nothing about the others.
-/

namespace Redelivery

/-- The datagram has segments that were numbered and may have been on the wire, all of them within a
window's width of the number `stamp` of segments. -/
def Carries (settings : ValidSettings) (log : List Piece) (exposed stamp : Nat)
    (datagram : Bytes) : Prop :=
  ∃ segments, datagram = Header.data.datagram segments ∧ datagram.length ≤ settings.mtu
    ∧ ∀ t ∈ segments, ∃ k, k < exposed ∧ k < stamp ∧ stamp ≤ k + settings.windowSize
      ∧ t.seq = settings.initialSerial + k ∧ log[k]? = some t.piece

theorem Carries.mono {settings : ValidSettings} {log log' : List Piece}
    {exposed exposed' stamp : Nat} {datagram : Bytes}
    (h : Carries settings log exposed stamp datagram) (hexposed : exposed ≤ exposed')
    (hlog : ∀ k, k < exposed → log'[k]? = log[k]?) :
    Carries settings log' exposed' stamp datagram := by
  obtain ⟨segments, heq, hlen, hfrom⟩ := h
  refine ⟨segments, heq, hlen, ?_⟩
  intro t ht
  obtain ⟨k, hk, hstamp, hwidth, hseq, hpiece⟩ := hfrom t ht
  exact ⟨k, by omega, hstamp, hwidth, hseq, by rw [hlog k hk, hpiece]⟩

namespace Peer

/-! ## What a peer is through with -/

/-- Whether a writer waits for the socket to take a new segment. -/
def isSending (p : Peer) : Bool :=
  match p.session.writer? with
  | some (_, w) => w.isSending
  | none => false

/-- Whether a writer waits for the socket to take a new segment that the socket does not take. -/
def isRefused (p : Peer) : Bool :=
  match p.session.writer? with
  | some (id, w) => w.isSending && decide (p.verdict (.call id) ≠ .sent)
  | none => false

/-- The number of segments that were numbered and sent. -/
def committed (p : Peer) : Nat :=
  if p.isSending then p.assigned.length - 1 else p.assigned.length

/-- The number of segments that were numbered and may have been on the wire. -/
def exposed (p : Peer) : Nat :=
  if p.isRefused then p.assigned.length - 1 else p.assigned.length

/-- The direction from the peer `p` to the peer `q`. -/
def link (settings : ValidSettings) (p q : Peer) (acks : List Ack) : Link where
  first := settings.initialSerial
  log := p.assigned
  exposed := p.exposed
  passed := p.passed
  sendWindow := p.stream.sendWindow
  taken := q.taken
  receiveWindow := q.stream.receiveWindow
  acks := acks

/-! ## What a peer has numbered -/

/-- Between writes, what was numbered spells the messages that were accepted. Behind them there may
be the beginning of another one, which was given up; then the stream is closed. -/
def Idle (settings : ValidSettings) (p : Peer) : Prop :=
  ∃ (last : Bytes) (begun : List Piece),
    Spells settings.maxSegment settings.maxMessage p.accepted last begun p.assigned
    ∧ (begun = [] ∨ p.stream.closed = true ∧ begun ≠ Bytes.pieces settings.maxSegment last)

/-- While a write is at work, what was numbered spells the messages that were accepted before, and
the beginning of its own; what is left of that are the given bodies. -/
def Working (settings : ValidSettings) (p : Peer) (id : Nat) (started : Bool)
    (bodies : List Bytes) : Prop :=
  ∃ others done last begun, p.entered = others ++ [(id, last)] ∧ p.accepted = done ++ [last]
    ∧ last ≠ [] ∧ Spells settings.maxSegment settings.maxMessage done last begun p.assigned
    ∧ Bytes.pieces settings.maxSegment last = begun ++ Piece.ofBodies bodies
    ∧ (started = true ↔ begun ≠ [])

/-- What was numbered spells what was accepted. -/
def Ledger (settings : ValidSettings) (p : Peer) : Prop :=
  match p.session.writer? with
  | none => p.Idle settings
  | some (id, w) => p.Working settings id w.begun w.bodies

theorem ledger_iff_idle {settings : ValidSettings} {p : Peer} (h : p.session.writer? = none) :
    p.Ledger settings ↔ p.Idle settings := by
  unfold Ledger
  rw [h]

theorem ledger_iff_working {settings : ValidSettings} {p : Peer} {id : Nat} {w : Writer}
    (h : p.session.writer? = some (id, w)) :
    p.Ledger settings ↔ p.Working settings id w.begun w.bodies := by
  unfold Ledger
  rw [h]

/-- The calls, and the writes that got hold of the section or failed, are kept apart by their
numbers. -/
structure Counted (p : Peer) : Prop where
  /-- Calls have numbers. -/
  call_lt : ∀ id c, p.session.call? id = some c → id < p.calls
  /-- So have the writes that got hold of the section. -/
  entered_lt : ∀ entry ∈ p.entered, entry.1 < p.calls
  /-- So have those that failed. -/
  failed_lt : ∀ id ∈ p.failed, id < p.calls
  /-- No write got hold of the section twice. -/
  nodup : (p.entered.map (·.1)).Nodup
  /-- A call that has not returned did not fail. -/
  not_failed : ∀ id c, p.session.call? id = some c → id ∉ p.failed

/-- Calls are kept apart, and the writes that got hold of the section are where they should be. -/
structure Booked (p : Peer) : Prop extends p.Counted where
  /-- A call that got hold of the section and has not returned is inside. -/
  inside : ∀ entry ∈ p.entered, ∀ c, p.session.call? entry.1 = some c →
    p.session.Inside (.call entry.1)

/-- The messages that wait for the section are not empty, and short enough. -/
def Entering (settings : ValidSettings) (p : Peer) : Prop :=
  ∀ id message, p.session.call? id = some (.writing (.entering message)) →
    message ≠ [] ∧ message.length ≤ settings.maxMessage

/-- What was taken out of the receive window was delivered, or it is put together. -/
def Consumed (p : Peer) : Prop :=
  assemble p.taken
    = if p.stream.complete then
        { messages := p.delivered ++ [p.stream.assembled.toList] }
      else
        { messages := p.delivered, opened := p.stream.assembled.toList }

/-- What holds of a peer at any time. -/
structure Sound (settings : ValidSettings) (p : Peer) : Prop where
  /-- The settings of the stream. -/
  settings_eq : p.stream.settings = settings
  /-- Only the owner of the section for writing is inside. -/
  orderly : p.session.Orderly
  /-- Calls are kept apart. -/
  booked : p.Booked
  /-- Messages that wait for the section can be sent. -/
  entering : p.Entering settings
  /-- What was numbered spells what was accepted. -/
  ledger : p.Ledger settings
  /-- The next serial number. -/
  next_eq : p.stream.next = settings.initialSerial + p.committed
  /-- A writer that flushes repeats what was numbered. -/
  resends : ∀ id w, p.session.writer? = some (id, w) → ∀ d ∈ w.resends,
    Carries settings p.assigned p.assigned.length p.assigned.length d
  /-- So does the flusher. -/
  flusher_resends : ∀ point, p.session.flusher = some point → ∀ d ∈ point.resends,
    Carries settings p.assigned p.assigned.length p.assigned.length d
  /-- What was taken out of the receive window is accounted for. -/
  delivery : p.Consumed

/-! ### Consequences -/

theorem exposed_le (p : Peer) : p.exposed ≤ p.assigned.length := by
  unfold exposed
  split <;> omega

theorem isSending_of_writer?_eq_none {p : Peer} (h : p.session.writer? = none) :
    p.isSending = false := by
  unfold isSending
  rw [h]

theorem isRefused_of_not_isSending {p : Peer} (h : p.isSending = false) : p.isRefused = false := by
  unfold isSending at h
  unfold isRefused
  split
  · rename_i id w hw
    rw [hw] at h
    simp only at h
    rw [h, Bool.false_and]
  · rfl

theorem exposed_of_not_isSending {p : Peer} (h : p.isSending = false) :
    p.exposed = p.assigned.length := by
  rw [exposed, isRefused_of_not_isSending h]
  rfl

namespace Sound

variable {settings : ValidSettings} {p q : Peer} {acks : List Ack}

/-- What was numbered spells some messages and the beginning of another. -/
theorem spells (h : p.Sound settings) : ∃ done last begun,
    Spells settings.maxSegment settings.maxMessage done last begun p.assigned := by
  cases hw : p.session.writer? with
  | none =>
    obtain ⟨last, begun, hspells, -⟩ := (ledger_iff_idle hw).mp h.ledger
    exact ⟨_, last, begun, hspells⟩
  | some found =>
    obtain ⟨-, done, last, begun, -, -, -, hspells, -⟩ := (ledger_iff_working hw).mp h.ledger
    exact ⟨done, last, begun, hspells⟩

/-- Segments are short enough to be sent. -/
theorem body_le (h : p.Sound settings) {piece : Piece} (hmem : piece ∈ p.assigned) :
    piece.body.length ≤ settings.maxSegment := by
  obtain ⟨done, last, begun, hspells⟩ := h.spells
  exact hspells.body_le hmem

end Sound

end Peer

namespace Link.Sound

variable {settings : ValidSettings} {l : Link}

/-- **The next segment can be numbered.** -/
theorem ready (h : l.Sound settings.windowSize)
    (hbody : ∀ piece ∈ l.log, piece.body.length ≤ settings.maxSegment) {s : Stream}
    (hsettings : s.settings = settings) (hwindow : s.sendWindow = l.sendWindow)
    (hnext : s.next = l.first + l.log.length) : s.Ready where
  fresh := by
    obtain ⟨hab, hbe, hen, hna⟩ := h.order
    have hnarrow := h.two_mul_width_le
    have hpos := h.width_pos
    rw [hwindow, hnext]
    exact h.send.find?_eq_none (by omega) (by omega) (Or.inr (Nat.le_refl _))
  body_le u hu := by
    rw [hwindow] at hu
    -- what is in the window was numbered, and is as short as all that was
    obtain ⟨k, -, -, -, hlog⟩ := h.send.stored _ u hu
    rw [hsettings]
    exact hbody _ (List.mem_of_getElem? hlog)

/-- **What a stream sends carries what was numbered.** -/
theorem carries_of_sends (h : l.Sound settings.windowSize)
    (hfirst : l.first = settings.initialSerial) {s : Stream} (hsettings : s.settings = settings)
    (hwindow : s.sendWindow = l.sendWindow) {datagram : Bytes} (hsends : s.Sends datagram) :
    Carries settings l.log l.log.length l.log.length datagram := by
  have hna := h.length_log_le
  obtain ⟨segments, heq, hlen, hfrom⟩ := hsends
  rw [hsettings] at hlen
  refine ⟨segments, heq, hlen, ?_⟩
  intro t ht
  obtain ⟨u, hu, rfl⟩ := hfrom t ht
  rw [hwindow] at hu
  obtain ⟨k, hk, hkn, hseq, hlog⟩ := h.send.stored _ u hu
  exact ⟨k, hkn, hkn, by omega, by rw [← hfirst]; exact hseq, hlog⟩

end Link.Sound

/-! ## The network -/

namespace Network

@[simp]
theorem peer_withPeer (n : Network) (z : Side) (p : Peer) : (n.withPeer z p).peer z = p :=
  Function.update_self (f := n.peer) ..

@[simp]
theorem peer_withPeer_other (n : Network) (z : Side) (p : Peer) :
    (n.withPeer z p).peer z.other = n.peer z.other :=
  Function.update_of_ne (f := n.peer) z.other_ne ..

/-- The datagram that was sent from a side has segments, or it is one of the acknowledgements that
were made there, or a datagram of the handshake. -/
def Flies (settings : ValidSettings) (n : Network) (acks : Side → List Ack) (x : Side)
    (f : Flight) : Prop :=
  Carries settings (n.peer x).assigned (n.peer x).exposed (f.stamp x) f.datagram
    ∨ (∃ ack ∈ acks x.other, ack.stamp = f.stamp x.other
      ∧ f.datagram = (Header.ack (settings.initialSerial + ack.next) ack.received).datagram [])
    ∨ ∃ h : Header, (h = .dial ∨ h = .dialAck) ∧ f.datagram = h.datagram []

/-- What holds of the network at any time. The acknowledgements at a side are those for what was
sent from there. -/
structure Sound (settings : ValidSettings) (n : Network) (acks : Side → List Ack) : Prop where
  /-- The peers are sound. -/
  peer : ∀ x, (n.peer x).Sound settings
  /-- The directions are sound. -/
  link : ∀ x, ((n.peer x).link settings (n.peer x.other) (acks x)).Sound settings.windowSize
  /-- Whatever is under way was sent by a peer. -/
  flights : ∀ x, ∀ f ∈ n.flights x, n.Flies settings acks x f

variable {settings : ValidSettings} {n : Network} {acks acks' : Side → List Ack}

/-- The direction towards a peer. -/
theorem Sound.link_other (h : n.Sound settings acks) (z : Side) :
    ((n.peer z.other).link settings (n.peer z) (acks z.other)).Sound settings.windowSize := by
  have hlink := h.link z.other
  rwa [Side.other_other] at hlink

theorem Sound.withNow (h : n.Sound settings acks) (now : Nat) :
    ({ n with now := now } : Network).Sound settings acks :=
  ⟨h.peer, h.link, h.flights⟩

/-- **A peer changes.** What was on the wire before is still what it numbered. -/
theorem Sound.withPeer (h : n.Sound settings acks) {z : Side} {p : Peer}
    (hacks : ∀ x, acks x ⊆ acks' x) (hp : p.Sound settings)
    (hsender : (p.link settings (n.peer z.other) (acks' z)).Sound settings.windowSize)
    (hreceiver : ((n.peer z.other).link settings p (acks' z.other)).Sound settings.windowSize)
    (hexposed : (n.peer z).exposed ≤ p.exposed)
    (hlog : ∀ k, k < (n.peer z).exposed → p.assigned[k]? = (n.peer z).assigned[k]?) :
    (n.withPeer z p).Sound settings acks' := by
  refine ⟨?_, ?_, ?_⟩
  · intro x
    rcases z.eq_or_eq_other x with rfl | rfl
    · rwa [peer_withPeer]
    · rw [peer_withPeer_other]
      exact h.peer _
  · intro x
    rcases z.eq_or_eq_other x with rfl | rfl
    · rwa [peer_withPeer, peer_withPeer_other]
    · rw [Side.other_other, peer_withPeer, peer_withPeer_other]
      exact hreceiver
  · -- datagrams with segments are the only ones whose meaning depends on the peer
    intro x f hf
    rcases h.flights x f hf with hdata | ⟨ack, hack, hstamp, heq⟩ | hhandshake
    · apply Or.inl
      rcases z.eq_or_eq_other x with rfl | rfl
      · rw [peer_withPeer]
        exact hdata.mono hexposed hlog
      · rwa [peer_withPeer_other]
    · exact Or.inr (Or.inl ⟨ack, hacks _ hack, hstamp, heq⟩)
    · exact Or.inr (Or.inr hhandshake)

/-- A datagram with segments may fly. -/
theorem flies_of_carries (n : Network) (acks : Side → List Ack) {z : Side} {p : Peer}
    {datagram : Bytes}
    (h : Carries settings p.assigned p.exposed p.assigned.length datagram) :
    (n.withPeer z p).Flies settings acks z
      ⟨datagram, fun x => ((n.withPeer z p).peer x).assigned.length⟩ := by
  apply Or.inl
  simp only [peer_withPeer]
  exact h

/-- **A datagram is sent.** -/
theorem Sound.withFlight (h : n.Sound settings acks) {z : Side} {datagram : Bytes}
    (hflies : n.Flies settings acks z ⟨datagram, fun x => (n.peer x).assigned.length⟩) :
    (n.withFlight z datagram).Sound settings acks := by
  refine ⟨h.peer, h.link, ?_⟩
  intro x f hf
  rcases z.eq_or_eq_other x with rfl | rfl
  · have hflights : (n.withFlight x datagram).flights x
        = ⟨datagram, fun y => (n.peer y).assigned.length⟩ :: n.flights x :=
      Function.update_self x _ n.flights
    rw [hflights] at hf
    rcases List.mem_cons.mp hf with rfl | hf
    · exact hflies
    · exact h.flights x f hf
  · have hflights : (n.withFlight z datagram).flights z.other = n.flights z.other :=
      Function.update_of_ne z.other_ne _ n.flights
    rw [hflights] at hf
    exact h.flights _ f hf

end Network

end Redelivery
