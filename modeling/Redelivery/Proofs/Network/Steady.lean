import Redelivery.Proofs.Network.Outside
import Redelivery.Proofs.Session.Sparing
import Redelivery.Proofs.Window.Acknowledgement

/-!
# The sending half by itself

Whatever comes from the other end, the sending half of a peer is in order as long as nobody
acknowledges what was not sent. It is *steady*: the send window starts at or before the first number
that was not sent, and all it holds is counted from there up to the next serial number. So little
depends on the other end that this holds even if somebody else puts datagrams on the wire.

## Main definitions

* `Peer.frontier`: the first serial number that was not sent.
* `Peer.isJustified`: a datagram acknowledges nothing beyond that.
* `Peer.Steady`: the sending half is in order.
* `Peer.Busy`: the same while a writer is in the middle of a turn.

## Main statements

* `Peer.Steady.hears`: a justified datagram keeps a peer steady.
* `Peer.Steady.aside`, `Peer.Steady.flusher`: so do the turns of agents outside the section.
* `Peer.Busy.steady`: so does a turn of a writer inside.

Compared with `Network.Sound` this invariant is small, and it has to be: it must not mention the
other end, which somebody else may be posing as. What it keeps of the link is the span of the send
window (`Peer.Stock`), with what the segments carry left out. The proof goes through the turns of
the agents in the same order as there:

* whoever is outside the section spares the sending half (`Steady.of_spares`), and so does the
  flusher;
* what arrives is an acknowledgement or spares the sending half, too, and `Stock.acknowledge` is the
  case in which the hypothesis is used: the acknowledgement names nothing beyond `Peer.frontier`;
* a writer inside is `Busy` in the middle of its turn, and `Busy.steady` is by cases on what it may
  do.

The frontier is where the next serial number stands, unless a segment is on its way to the socket:
then it is one further, provided that the socket takes it.
-/

namespace Redelivery

/-- A span may be seen shorter if its last segment is not there. -/
theorem Window.Spans.of_succ {β : Type} {w : Window β} {first : Serial} {lo hi : Nat}
    {P : Nat → Segment β → Prop} (h : w.Spans first lo (hi + 1) P)
    (hgone : w.find? (first + hi) = none) : w.Spans first lo hi P := by
  have hle := h.hi_le
  refine { h with hi_le := by omega, stored := ?_ }
  intro seq s hs
  obtain ⟨k, hlo, hhi, rfl, hP⟩ := h.stored seq s hs
  have hne : k ≠ hi := by
    rintro rfl
    rw [hgone] at hs
    cases hs
  exact ⟨k, hlo, by omega, rfl, hP⟩

namespace Peer

/-! ## What was sent -/

/-- The number of segments that have the next serial number already: a write waits for the socket to
take that one. -/
def pending (p : Peer) : Nat :=
  if p.isSending then 1 else 0

/-- The number of those that the socket does take. -/
def launched (p : Peer) : Nat :=
  if p.isSending && !p.isRefused then 1 else 0

/-- The first serial number that was not sent. -/
def frontier (p : Peer) : Serial :=
  p.stream.next + p.launched

/-- Whether the datagram acknowledges nothing that was not sent, as far as the send window takes
notice of it: an acknowledgement that is behind the window, or ahead of it by more than its width,
is ignored. -/
def isJustified (p : Peer) (raw : Bytes) : Bool :=
  match p.stream.ack? raw with
  | none => true
  | some (next, _) =>
    match next.offsetFrom? p.stream.sendWindow.base with
    | none => true
    | some offset =>
      decide (p.stream.sendWindow.capacity < offset)
        || decide (offset ≤ p.frontier.distanceFrom p.stream.sendWindow.base)

variable {settings : ValidSettings} {p p' : Peer} {id : Nat}

theorem launched_le_pending (p : Peer) : p.launched ≤ p.pending := by
  unfold launched pending
  cases p.isSending <;> cases p.isRefused <;> decide

theorem pending_of_not_isSending (h : p.isSending = false) : p.pending = 0 := by
  unfold pending
  rw [h]
  rfl

theorem launched_of_not_isSending (h : p.isSending = false) : p.launched = 0 := by
  unfold launched
  rw [h]
  rfl

theorem isSending_congr (h : p'.session.writer? = p.session.writer?) :
    p'.isSending = p.isSending := by
  unfold isSending
  rw [h]

/-- The fate of a segment is a matter between its writer and the socket. -/
theorem isRefused_congr (hwriter : p'.session.writer? = p.session.writer?)
    (hverdict : ∀ j w, p.session.writer? = some (j, w) →
      p'.verdict (.call j) = p.verdict (.call j)) : p'.isRefused = p.isRefused := by
  unfold isRefused
  rw [hwriter]
  cases hw : p.session.writer? with
  | none => rfl
  | some found =>
    obtain ⟨j, w⟩ := found
    simp only [hverdict j w hw]

/-! ## The invariant -/

/-- The segments that a send window holds, for a stream with the given settings: those with counts
from `lo` up to `hi`, and all short enough to be sent. -/
def Stock (settings : ValidSettings) (w : Window Buffer) (lo hi : Nat) : Prop :=
  w.capacity = settings.windowSize
    ∧ w.Spans settings.initialSerial lo hi fun _ u => u.wire.body.length ≤ settings.maxSegment

/-- The sending half of a peer is in order. -/
structure Steady (settings : ValidSettings) (p : Peer) : Prop where
  /-- The settings of the stream. -/
  settings_eq : p.stream.settings = settings
  /-- Only the owner of the section for writing is inside. -/
  orderly : p.session.Orderly
  /-- Calls have numbers. -/
  call_lt : ∀ j c, p.session.call? j = some c → j < p.calls
  /-- Messages are cut finely enough. -/
  fits : ∀ j w, p.session.call? j = some (.writing w) →
    ∀ b ∈ w.bodies, b.length ≤ settings.maxSegment
  /-- Counted without wrapping around, the send window starts no later than what was not sent, and
  holds nothing beyond the next serial number. -/
  stock : ∃ lo count, p.stream.next = settings.initialSerial + count ∧ lo ≤ count + p.launched
    ∧ Stock settings p.stream.sendWindow lo (count + p.pending)

/-- The sending half of a peer is in order while the writer with call `id` is in the middle of a
turn: it owns the section, and it has the given bodies still to send. -/
structure Busy (settings : ValidSettings) (p : Peer) (id : Nat) (bodies : List Bytes) : Prop where
  /-- The settings of the stream. -/
  settings_eq : p.stream.settings = settings
  /-- Only the owner of the section for writing is inside. -/
  orderly : p.session.Orderly
  /-- The writer is the owner. -/
  owner : p.session.shared.writing.owner = some (.call id)
  /-- It has a number. -/
  id_lt : id < p.calls
  /-- So have all calls. -/
  call_lt : ∀ j c, p.session.call? j = some c → j < p.calls
  /-- Messages of other writers are cut finely enough. -/
  fits : ∀ j w, j ≠ id → p.session.call? j = some (.writing w) →
    ∀ b ∈ w.bodies, b.length ≤ settings.maxSegment
  /-- So is this one. -/
  body_le : ∀ b ∈ bodies, b.length ≤ settings.maxSegment
  /-- The send window holds nothing that has the next serial number, or is beyond it. -/
  stock : ∃ lo count, p.stream.next = settings.initialSerial + count ∧ lo ≤ count
    ∧ Stock settings p.stream.sendWindow lo count

/-! ## Turns outside the section -/

/-- A write that is outside the section has not cut its message yet. -/
theorem bodies_of_not_inside {s : Session} {w : Writer}
    (hcall : s.call? id = some (.writing w)) (h : ¬ s.Inside (.call id)) : w.bodies = [] := by
  cases w with
  | entering message => rfl
  | _ => exact absurd ⟨_, hcall, rfl⟩ h

/-- The sending half is in order after a turn that has spared it. -/
theorem Steady.of_spares (h : p.Steady settings) (hspares : p.stream.Spares p'.stream)
    (horderly : p'.session.Orderly)
    (hcall : ∀ j c, p'.session.call? j = some c → j < p'.calls)
    (hfits : ∀ j w, p'.session.call? j = some (.writing w) →
      ∀ b ∈ w.bodies, b.length ≤ settings.maxSegment)
    (hwriter : p'.session.writer? = p.session.writer?)
    (hverdict : ∀ j w, p.session.writer? = some (j, w) →
      p'.verdict (.call j) = p.verdict (.call j)) : p'.Steady settings where
  settings_eq := hspares.settings.trans h.settings_eq
  orderly := horderly
  call_lt := hcall
  fits := hfits
  stock := by
    have hsending := isSending_congr hwriter
    have hrefused := isRefused_congr hwriter hverdict
    rw [hspares.next, hspares.sendWindow, launched, pending, hsending, hrefused]
    exact h.stock

/-- **A turn of a call outside the section** keeps a peer steady. -/
theorem Steady.aside (h : p.Steady settings) (haside : p.session.Aside p'.session id)
    (hspares : p.stream.Spares p'.stream) (hid : id < p'.calls) (hcalls : p.calls ≤ p'.calls)
    (hverdict : ∀ agent, agent ≠ .call id → p'.verdict agent = p.verdict agent) :
    p'.Steady settings := by
  apply h.of_spares hspares (haside.orderly h.orderly)
  · intro j c hc
    by_cases hj : j = id
    · rwa [hj]
    · rw [haside.others j hj] at hc
      exact Nat.lt_of_lt_of_le (h.call_lt j c hc) hcalls
  · intro j w hw
    by_cases hj : j = id
    · subst hj
      rw [bodies_of_not_inside hw haside.after]
      exact fun b hb => absurd hb List.not_mem_nil
    · rw [haside.others j hj] at hw
      exact h.fits j w hw
  · exact haside.writer?_eq h.orderly
  · intro j w hw
    obtain ⟨-, hcall, hin⟩ := Session.writer?_eq_some hw
    -- the writer inside is another call
    refine hverdict _ fun heq => ?_
    cases heq
    exact haside.before ⟨w, hcall, hin⟩

/-- The same for what is recorded of such a turn. -/
theorem Steady.outside_turn (h : p.Steady settings) {x : Shared} {turn : Turn Call Result}
    (houtside : ¬ p.session.Inside (.call id)) (hid : id < p.calls)
    (hpoint : ∀ w, turn.point? = some (.writing w) → w.isInside = false)
    (howner : ∀ agent, agent ≠ .call id → p.session.shared.writing.owner = some agent →
      x.writing.owner = some agent)
    (hspares : p.stream.Spares x.stream) (hsession : p'.session = (p.session.record id x turn).1)
    (hcalls : p'.calls = p.calls)
    (hverdict : ∀ agent, agent ≠ .call id → p'.verdict agent = p.verdict agent) :
    p'.Steady settings := by
  have hstream : p'.stream = x.stream := by
    show p'.session.shared.stream = x.stream
    rw [hsession, Session.shared_record]
  have haside : p.session.Aside p'.session id := by
    rw [hsession]
    exact Session.aside_record houtside hpoint howner
  exact h.aside haside (by rwa [hstream]) (by rwa [hcalls]) (Nat.le_of_eq hcalls.symm) hverdict

/-- **A turn of the flusher** keeps a peer steady. -/
theorem Steady.flusher (h : p.Steady settings) (horderly : p'.session.Orderly)
    (hcall : ∀ j, p'.session.call? j = p.session.call? j) (hspares : p.stream.Spares p'.stream)
    (hcalls : p'.calls = p.calls)
    (hverdict : ∀ agent, agent ≠ .flusher → p'.verdict agent = p.verdict agent) :
    p'.Steady settings := by
  apply h.of_spares hspares horderly
  · intro j c hc
    rw [hcall] at hc
    rw [hcalls]
    exact h.call_lt j c hc
  · intro j w hw
    rw [hcall] at hw
    exact h.fits j w hw
  · exact Session.writer?_congr h.orderly horderly fun j w _ => by rw [hcall]
  · exact fun j w _ => hverdict _ Agent.noConfusion

/-! ## What arrives -/

/-- **An acknowledgement of what was sent** leaves the window in order. -/
theorem Stock.acknowledge {w : Window Buffer} {lo sent hi : Nat} (h : Stock settings w lo hi)
    (hlo : lo ≤ sent) (hsent : sent ≤ hi) {next : Serial} (received : UInt32)
    (hjustified : ∀ offset, next.offsetFrom? w.base = some offset → offset ≤ w.capacity →
      offset ≤ (settings.initialSerial + sent).distanceFrom w.base) :
    ∃ lo', lo' ≤ sent ∧ Stock settings (w.acknowledge next received).window lo' hi := by
  obtain ⟨hcapacity, hspans⟩ := h
  have hnarrow := hspans.narrow
  have hhi := hspans.hi_le
  by_cases hoffset : ∃ offset, next.offsetFrom? w.base = some offset ∧ offset ≤ w.capacity
  · obtain ⟨offset, hoffset, hle⟩ := hoffset
    have hsmall := hjustified offset hoffset hle
    rw [hspans.base_eq, Serial.distanceFrom_add_add hlo, Nat.mod_eq_of_lt (by omega)] at hsmall
    -- the acknowledgement has a count, and that is in the span
    have hnext : next = settings.initialSerial + (lo + offset) := by
      rw [← Serial.add_assoc, ← hspans.base_eq, ← (Serial.offsetFrom?_eq_some_iff.mp hoffset).1,
        Serial.add_distanceFrom]
    obtain ⟨hsame, hafter, -⟩ :=
      hspans.acknowledge (c := lo + offset) received (by omega) (by omega)
    rw [← hnext] at hsame hafter
    exact ⟨lo + offset, by omega, hsame.trans hcapacity, hafter⟩
  · have hignored : (w.acknowledge next received).window = w :=
      Window.acknowledge_of_ignored fun offset heq => by
        by_contra hle
        exact hoffset ⟨offset, heq, Nat.le_of_not_lt hle⟩
    rw [hignored]
    exact ⟨lo, hlo, hcapacity, hspans⟩

/-- The peer when its stream is brought up to date. -/
def atStream (p : Peer) (s : Stream) : Peer :=
  { p with session := { p.session with shared := { p.session.shared with stream := s } } }

/-- **A justified datagram** keeps a peer steady. -/
theorem Steady.receive (h : p.Steady settings) {raw : Bytes} (hjustified : p.isJustified raw = true)
    (now : Nat) : (p.atStream (p.stream.receive now raw).1).Steady settings := by
  obtain ⟨lo, count, hnext, hlo, hstock⟩ := h.stock
  have hwriter : (p.atStream (p.stream.receive now raw).1).session.writer? = p.session.writer? :=
    rfl
  have hlaunched : (p.atStream (p.stream.receive now raw).1).launched = p.launched := rfl
  have hpending : (p.atStream (p.stream.receive now raw).1).pending = p.pending := rfl
  cases hack : p.stream.ack? raw with
  | none =>
    exact h.of_spares (Stream.spares_receive hack now) h.orderly h.call_lt h.fits hwriter
      fun _ _ _ => rfl
  | some found =>
    obtain ⟨next, received⟩ := found
    obtain ⟨hsettings, hsame, hwindow, -⟩ := Stream.receive_of_ack? hack now
    refine ⟨hsettings.trans h.settings_eq, h.orderly, h.call_lt, h.fits, ?_⟩
    have hsent : ∀ offset, next.offsetFrom? p.stream.sendWindow.base = some offset →
        offset ≤ p.stream.sendWindow.capacity →
        offset ≤ (settings.initialSerial + (count + p.launched)).distanceFrom
          p.stream.sendWindow.base := by
      intro offset hoffset hle
      simp only [isJustified, hack, hoffset, frontier, hnext, Serial.add_assoc, Bool.or_eq_true,
        decide_eq_true_eq] at hjustified
      exact hjustified.resolve_left (Nat.not_lt_of_le hle)
    obtain ⟨lo', hlo', hstock'⟩ := hstock.acknowledge hlo
      (Nat.add_le_add_left p.launched_le_pending count) received hsent
    refine ⟨lo', count, hsame.trans hnext, by rwa [hlaunched], ?_⟩
    rw [hpending]
    show Stock settings (p.stream.receive now raw).1.sendWindow lo' (count + p.pending)
    rw [hwindow]
    exact hstock'

/-- What comes with a signal keeps a peer steady, if it is justified. -/
theorem Steady.hears (h : p.Steady settings) {signal : Signal}
    (hjustified : ∀ raw, signal = .arrived (.datagram raw) → p.isJustified raw = true) (now : Nat) :
    (p.atStream (p.stream.heard now signal)).Steady settings := by
  cases signal with
  | arrived arrival =>
    cases arrival with
    | datagram raw => exact h.receive (hjustified raw rfl) now
    | fault reason => exact h
  | _ => exact h

/-! ## Turns inside the section -/

namespace Busy

variable {bodies : List Bytes} {r : Shared × Turn Writer Writer.Outcome}

/-- The writer can number its next segment. -/
theorem ready (h : p.Busy settings id bodies) : p.stream.Ready := by
  obtain ⟨lo, count, hnext, hlo, -, hspans⟩ := h.stock
  have hhi := hspans.hi_le
  have hnarrow := hspans.narrow
  refine ⟨?_, ?_⟩
  · rw [hnext]
    exact hspans.find?_eq_none (by omega) (by omega) (Or.inr (Nat.le_refl count))
  · intro u hu
    obtain ⟨k, -, -, -, hbody⟩ := hspans.stored _ u hu
    rwa [h.settings_eq]

section

variable (hsession : p'.session = (p.session.recordWriter id r).1) (hcalls : p'.calls = p.calls)

include hsession

theorem call?_self : p'.session.call? id = r.2.point?.map .writing := by
  rw [hsession]
  exact (Session.call?_record _ id r.1 _).trans (Turn.point?_map _ _ r.2)

theorem call?_of_ne {j : Nat} (hj : j ≠ id) : p'.session.call? j = p.session.call? j := by
  rw [hsession]
  exact Session.call?_record_of_ne _ hj r.1 _

theorem stream_eq : p'.stream = r.1.stream := by
  show p'.session.shared.stream = r.1.stream
  rw [hsession]
  exact congrArg Shared.stream (Session.shared_record _ id r.1 _)

/-- Nobody else is inside after a turn of a writer. -/
theorem orderly_after (h : p.Busy settings id bodies)
    (hwriting : r.2.point? ≠ none → r.1.writing = p.session.shared.writing) :
    p'.session.Orderly := by
  rw [hsession]
  apply h.orderly.recordWriter h.owner
  rintro ⟨w, hw, -⟩
  rw [hwriting, h.owner]
  intro hnone
  rw [← hsession, call?_self hsession, hnone] at hw
  cases hw

include hcalls

/-- The calls after a turn of a writer, which has the given bodies still to send if it has not
returned. -/
theorem calls_after (h : p.Busy settings id bodies) {left : List Bytes}
    (hleft : ∀ b ∈ left, b.length ≤ settings.maxSegment)
    (hpoint : ∀ w, r.2.point? = some w → w.bodies = left) :
    (∀ j c, p'.session.call? j = some c → j < p'.calls)
      ∧ ∀ j w, p'.session.call? j = some (.writing w) →
        ∀ b ∈ w.bodies, b.length ≤ settings.maxSegment := by
  refine ⟨?_, ?_⟩
  · intro j c hc
    rw [hcalls]
    by_cases hj : j = id
    · rw [hj]
      exact h.id_lt
    · rw [call?_of_ne hsession hj] at hc
      exact h.call_lt j c hc
  · intro j w hw
    by_cases hj : j = id
    · rw [hj, call?_self hsession] at hw
      obtain ⟨v, hv, heq⟩ := Option.map_eq_some_iff.mp hw
      cases heq
      rwa [hpoint w hv]
    · rw [call?_of_ne hsession hj] at hw
      exact h.fits j w hj hw

/-- The writer waits for something else than the fate of a segment, or it has returned. -/
theorem steady_of_quiet (h : p.Busy settings id bodies) (halike : p.stream.Alike r.1.stream)
    (hwriting : r.2.point? ≠ none → r.1.writing = p.session.shared.writing)
    (hpoint : ∀ w, r.2.point? = some w → w.isSending = false ∧ w.bodies = bodies) :
    p'.Steady settings := by
  have horderly := h.orderly_after hsession hwriting
  obtain ⟨hcall, hfits⟩ := h.calls_after hsession hcalls h.body_le fun w hw => (hpoint w hw).2
  have hquiet : p'.isSending = false := by
    unfold isSending
    cases hw : p'.session.writer? with
    | none => rfl
    | some found =>
      obtain ⟨j, w⟩ := found
      obtain ⟨howner, hj, hin⟩ := Session.writer?_eq_some hw
      -- whoever is inside is the writer, for it was the owner
      by_cases heq : j = id
      · rw [heq, call?_self hsession] at hj
        obtain ⟨v, hv, hvw⟩ := Option.map_eq_some_iff.mp hj
        cases hvw
        exact (hpoint w hv).1
      · rw [call?_of_ne hsession heq] at hj
        cases h.owner.symm.trans (h.orderly (.call j) ⟨w, hj, hin⟩)
        exact absurd rfl heq
  have hstream := stream_eq hsession
  refine ⟨?_, horderly, hcall, hfits, ?_⟩
  · rw [hstream, halike.settings, h.settings_eq]
  · obtain ⟨lo, count, hnext, hlo, hstock⟩ := h.stock
    refine ⟨lo, count, ?_, ?_, ?_⟩
    · rw [hstream, halike.next, hnext]
    · rwa [launched_of_not_isSending hquiet]
    · rwa [pending_of_not_isSending hquiet, hstream, halike.sendWindow]

/-- The writer has numbered its next segment. -/
theorem steady_of_numbers {body : Bytes} {rest : List Bytes}
    (h : p.Busy settings id (body :: rest)) {x' : Shared} {u : Segment Buffer} {datagram : Bytes}
    {piggybacked : Nat} (hr : r = (x', .hands (.sending rest datagram piggybacked) datagram))
    (hseq : u.seq = p.stream.next) (hpiece : u.wire.piece = ⟨!rest.isEmpty, body⟩)
    (hwrite : p.stream.sendWindow.write u = .added (p.stream.sendWindow.store u))
    (halike : { p.session.shared with stream := p.stream.holding u }.Alike x') :
    p'.Steady settings := by
  have horderly := h.orderly_after hsession fun _ => by rw [hr]; exact halike.writing
  obtain ⟨hcall, hfits⟩ := h.calls_after hsession hcalls
    (fun b hb => h.body_le b (List.mem_cons_of_mem body hb)) fun w hw => by
      rw [hr] at hw
      cases hw
      rfl
  have hsending : p'.isSending = true := by
    have hself := call?_self hsession
    rw [hr] at hself
    unfold isSending
    rw [horderly.writer?_eq hself rfl]
    rfl
  have hstream := stream_eq hsession
  rw [hr] at hstream
  have hs := halike.stream
  refine ⟨?_, horderly, hcall, hfits, ?_⟩
  · rw [hstream, hs.settings]
    exact h.settings_eq
  · obtain ⟨lo, count, hnext, hlo, hcapacity, hspans⟩ := h.stock
    have hroom : count < lo + p.stream.sendWindow.capacity := by
      by_contra hfull
      have heq := (hspans.write_eq hlo (hseq.trans hnext)).trans (if_neg hfull)
      rw [hwrite] at heq
      cases heq
    have hbody : u.wire.body.length ≤ settings.maxSegment := by
      rw [show u.wire.body = body from congrArg Piece.body hpiece]
      exact h.body_le body List.mem_cons_self
    refine ⟨lo, count, ?_, by omega, ?_⟩
    · rw [hstream, hs.next]
      exact hnext
    · rw [pending, hsending, if_pos rfl, hstream, hs.sendWindow]
      refine ⟨(Window.capacity_store _ u).trans hcapacity, ?_⟩
      exact hspans.store (hseq.trans hnext) hlo (Nat.lt_succ_self count) (Nat.le_succ count) hroom
        hbody

/-- **A turn of a writer inside** keeps a peer steady. -/
theorem steady (h : p.Busy settings id bodies) {D : Bytes → Prop} {started : Bool}
    (hmove : Writer.Move D (.call id) p.session.shared started bodies r) : p'.Steady settings := by
  cases hmove with
  | rests halike hin hsending hbodies =>
    apply h.steady_of_quiet hsession hcalls halike.stream fun _ => halike.writing
    intro w hw
    cases hw
    exact ⟨hsending, hbodies⟩
  | replies halike hbodies =>
    apply h.steady_of_quiet hsession hcalls halike.stream fun _ => halike.writing
    intro w hw
    cases hw
    exact ⟨rfl, hbodies⟩
  | resends halike hbodies =>
    apply h.steady_of_quiet hsession hcalls halike.stream fun _ => halike.writing
    intro w hw
    cases hw
    exact ⟨rfl, hbodies⟩
  | numbers hbodies hseq hpiece hwrite halike =>
    subst hbodies
    exact h.steady_of_numbers hsession hcalls rfl hseq hpiece hwrite halike
  | fails _ halike =>
    exact h.steady_of_quiet hsession hcalls halike (fun hsome => absurd rfl hsome)
      fun w hw => by cases hw
  | finishes _ halike =>
    exact h.steady_of_quiet hsession hcalls halike (fun hsome => absurd rfl hsome)
      fun w hw => by cases hw

end

end Busy

/-! ### How a turn inside begins -/

/-- A writer inside is busy as soon as its stream is up to date. -/
theorem Steady.busy (h : p.Steady settings) {w : Writer}
    (hcall : p.session.call? id = some (.writing w)) (hin : w.isInside = true) {s : Stream}
    (hsettings : s.settings = p.stream.settings)
    (hstock : ∃ lo count, s.next = settings.initialSerial + count ∧ lo ≤ count
      ∧ Stock settings s.sendWindow lo count) : (p.atStream s).Busy settings id w.bodies where
  settings_eq := hsettings.trans h.settings_eq
  orderly := h.orderly
  owner := h.orderly (.call id) ⟨w, hcall, hin⟩
  id_lt := h.call_lt id _ hcall
  call_lt := h.call_lt
  fits j w _ hw := h.fits j w hw
  body_le := h.fits id w hcall
  stock := hstock

/-- After a wait, nothing is to be learnt about a segment. -/
theorem Steady.busy_of_quiet (h : p.Steady settings) {w : Writer}
    (hcall : p.session.call? id = some (.writing w)) (hin : w.isInside = true)
    (hquiet : w.isSending = false) : (p.atStream p.stream).Busy settings id w.bodies := by
  obtain ⟨lo, count, hnext, hlo, hstock⟩ := h.stock
  have hsending : p.isSending = false := by
    unfold isSending
    rw [h.orderly.writer?_eq hcall hin]
    exact hquiet
  rw [launched_of_not_isSending hsending] at hlo
  rw [pending_of_not_isSending hsending] at hstock
  exact h.busy hcall hin rfl ⟨lo, count, hnext, hlo, hstock⟩

section

variable {rest : List Bytes} {datagram : Bytes} {piggybacked : Nat}
  (h : p.Steady settings)
  (hcall : p.session.call? id = some (.writing (.sending rest datagram piggybacked)))

include h hcall

theorem Steady.isSending_of_sending : p.isSending = true := by
  unfold isSending
  rw [h.orderly.writer?_eq hcall rfl]
  rfl

/-- **A segment was sent.** -/
theorem Steady.busy_sent :
    (p.atStream ((p.stream.countSent datagram).commit piggybacked)).Busy settings id rest := by
  obtain ⟨lo, count, hnext, hlo, hstock⟩ := h.stock
  have hle := p.launched_le_pending
  rw [pending, h.isSending_of_sending hcall, if_pos rfl] at hle hstock
  refine h.busy hcall rfl rfl ⟨lo, count + 1, ?_, by omega, hstock⟩
  show p.stream.next.next = _
  rw [hnext, Serial.next_add]

/-- **A segment was not sent.** It has its number no more, whether it was still in the send window
or somebody has acknowledged it in the meantime. -/
theorem Steady.busy_unsent {reason : String} (hverdict : p.verdict (.call id) = .unsent reason) :
    (p.atStream p.stream.abandon).Busy settings id rest := by
  obtain ⟨lo, count, hnext, hlo, hcapacity, hspans⟩ := h.stock
  have hsending := h.isSending_of_sending hcall
  have hrefused : p.isRefused = true := by
    unfold isRefused
    rw [h.orderly.writer?_eq hcall rfl]
    simp [Writer.isSending, hverdict]
  rw [launched, hsending, hrefused] at hlo
  rw [pending, hsending, if_pos rfl] at hspans
  cases hclear : p.stream.sendWindow.clear p.stream.next with
  | none =>
    have habandon : p.stream.abandon = p.stream.shut := by
      unfold Stream.abandon
      rw [hclear]
    have hgone := Window.remove?_eq_none_iff.mp hclear
    rw [hnext] at hgone
    rw [habandon]
    exact h.busy hcall rfl rfl ⟨lo, count, hnext, hlo, hcapacity, hspans.of_succ hgone⟩
  | some found =>
    obtain ⟨u, w⟩ := found
    have habandon : p.stream.abandon
        = ({ p.stream with sendWindow := w, pool := p.stream.pool.give u.body } : Stream).shut := by
      unfold Stream.abandon
      rw [hclear]
    obtain ⟨hsame, hafter, hfind⟩ := hspans.clear_eq_some hclear
    have hgone : w.find? (settings.initialSerial + count) = none := by
      rw [hfind, hnext, if_pos rfl]
    rw [habandon]
    exact h.busy hcall rfl rfl ⟨lo, count, hnext, hlo, hsame.trans hcapacity, hafter.of_succ hgone⟩

end

/-- The peer when the writer with the given call has got hold of the section, which is left as
`writing`. -/
def atSection (p : Peer) (writing : Section Agent) : Peer :=
  { p with session := { p.session with shared := { p.session.shared with writing := writing } } }

/-- **A write gets hold of the section** that nobody else was in. -/
theorem Steady.busy_start (h : p.Steady settings) {writing : Section Agent}
    (howner : writing.owner = some (.call id))
    (hkeeps : ∀ agent, p.session.shared.writing.owner = some agent → writing.owner = some agent)
    (hid : id < p.calls) (houtside : ¬ p.session.Inside (.call id)) (message : Bytes) :
    (p.atSection writing).Busy settings id (message.chunks settings.maxSegment) := by
  have hsending : p.isSending = false := by
    unfold isSending
    cases hw : p.session.writer? with
    | none => rfl
    | some found =>
      obtain ⟨hbefore, hcall, hin⟩ := Session.writer?_eq_some hw
      cases (hkeeps _ hbefore).symm.trans howner
      exact absurd ⟨found.2, hcall, hin⟩ houtside
  obtain ⟨lo, count, hnext, hlo, hstock⟩ := h.stock
  rw [launched_of_not_isSending hsending] at hlo
  rw [pending_of_not_isSending hsending] at hstock
  exact
    { settings_eq := h.settings_eq
      orderly := fun agent hin => hkeeps agent (h.orderly agent hin)
      owner := howner
      id_lt := hid
      call_lt := h.call_lt
      fits := fun j w _ hw => h.fits j w hw
      body_le := fun b hb => Bytes.length_le_of_mem_chunks hb
      stock := ⟨lo, count, hnext, hlo, hstock⟩ }

/-- **A call is made.** It has done nothing yet. -/
theorem Steady.nextCall (h : p.Steady settings) (joinable : Bool) :
    (p.nextCall joinable).Steady settings where
  settings_eq := h.settings_eq
  orderly := h.orderly
  call_lt j c hc := Nat.lt_succ_of_lt (h.call_lt j c hc)
  fits := h.fits
  stock := h.stock

end Peer

end Redelivery
