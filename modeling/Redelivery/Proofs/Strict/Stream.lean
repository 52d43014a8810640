import Redelivery.Proofs.Session.Reader
import Redelivery.Proofs.Session.Writer
import Redelivery.Proofs.Strict.Window
import Redelivery.Proofs.Strict.Wire
import Redelivery.Proofs.Window.Acknowledgement

/-!
# Streams without safety nets

What is done to a stream once more, with strict operations on its windows and buffers. A strict
operation has no result where one of these has none, where a message is copied to a buffer that is
too short for it, and where a datagram cannot be composed.

On a *sound* stream all of them have results, those of the plain operations, and leave the stream
sound. Nothing is asked of what arrives.

## Main definitions

* `Stream.Sound`: both windows are tidy, and no segment of the send window is too long.
* `Bytes.Proper`: datagrams that are not too long and that are accepted as datagrams.
* `Stream.Strict.flushDatagrams`, `Stream.Strict.segmentDatagram`, `Stream.Strict.control`:
  outgoing datagrams.
* `Stream.Strict.receive`, `Stream.Strict.deliver`: incoming ones.

## Main statements

* `Stream.Sound.exists_control`, `Stream.Sound.exists_segmentDatagram`,
  `Stream.Sound.exists_flushDatagrams`: datagrams come out, and they are proper.
* `Stream.Sound.receive`, `Stream.Sound.deliver`, `Stream.Sound.abandon`: strict operations have
  results, and leave streams sound.
* `Stream.Sound.establish`, `Stream.Sound.of_insert?`: streams are sound and stay so.

`Stream.Sound` has just what the equations ask for: tidy windows for whatever removes segments, a
bound on bodies for whatever is sent, and a ring with no more than four round trips in use. It does
not speak of serial numbers or of the order of things, so nothing that a peer may send can break it,
and `Stream.Sound.receive` has no hypothesis on the bytes.

Each operation has a lemma with two conclusions, its result and soundness after it, since the next
one needs the second. The bound on bodies is kept by `Stream.Sound.of_insert?`, where a message has
been cut into pieces of the right size.
-/

namespace Redelivery

/-! ## Windows -/

namespace Window

variable {β : Type}

namespace Tidy

variable {w : Window β}

theorem offer (h : w.Tidy) (s : Segment β) : (w.offer s).Tidy := by
  unfold Window.offer
  split
  · rename_i w' evicted haccept
    rw [(accept_eq_stored haccept).1]
    exact h.store s
  · exact h

theorem pop? (h : w.Tidy) {s : Segment β} {w' : Window β} (hpop : w.pop? = some (s, w')) :
    w'.Tidy := by
  obtain ⟨hfind, rfl⟩ := pop?_eq_some_iff.mp hpop
  exact (h.put_none hfind).rebase _

end Tidy

end Window

/-! ## Sound streams -/

/-- No more samples fit into the ring than it has places. -/
theorem RoundTrips.size_appendAll_le {r : RoundTrips} (h : r.size ≤ 4) (samples : List Nat) :
    (r.appendAll samples).size ≤ 4 := by
  induction samples generalizing r with
  | nil => exact h
  | cons sample rest ih => exact ih (r := r.append sample) (Nat.min_le_right _ 4)

/-- The string cut into pieces of `size` bytes. There is no result for pieces without bytes. -/
def Bytes.Strict.chunks (size : Nat) (bytes : Bytes) : Option (List Bytes) :=
  if size = 0 then none else some (bytes.chunks size)

theorem Bytes.Strict.chunks_eq {size : Nat} (h : 0 < size) (bytes : Bytes) :
    chunks size bytes = some (bytes.chunks size) :=
  if_neg (Nat.ne_of_gt h)

/-- The datagram is not too long, and is accepted with its header. -/
structure Bytes.Proper (settings : ValidSettings) (datagram : Bytes) : Prop where
  /-- It is not too long. -/
  length_le : datagram.length ≤ settings.mtu
  /-- It is accepted. -/
  accepted : (Header.ofDatagram? datagram).isSome = true

namespace Stream

variable {settings : ValidSettings} {s s' : Stream}

/-- The stream has the given settings, its windows are tidy, and it keeps no segment that is too
long and no more round trips than there is room for. -/
structure Sound (settings : ValidSettings) (s : Stream) : Prop where
  /-- The settings. -/
  settings_eq : s.settings = settings
  /-- The send window is tidy. -/
  sendTidy : s.sendWindow.Tidy
  /-- Its segments fit into datagrams. -/
  body_le : ∀ u : Segment Buffer, s.sendWindow.find? u.seq = some u →
    u.wire.body.length ≤ settings.maxSegment
  /-- The receive window is tidy. -/
  receiveTidy : s.receiveWindow.Tidy
  /-- Round trips fit into their ring. -/
  size_le : s.roundTrips.size ≤ 4

/-- A stream on which nothing has happened yet. There is no result for windows without places. -/
def Strict.establish (settings : ValidSettings) (pool : Pool) : Option Stream := do
  let sendWindow ← Window.empty? settings.windowSize settings.initialSerial
  let receiveWindow ← Window.empty? settings.windowSize settings.initialSerial
  some { Stream.establish settings pool with
    sendWindow := sendWindow
    receiveWindow := receiveWindow }

theorem Strict.establish_eq (settings : ValidSettings) (pool : Pool) :
    establish settings pool = some (Stream.establish settings pool) := by
  unfold establish Window.empty?
  rw [dif_pos settings.windowSize_pos]
  rfl

theorem Sound.establish (settings : ValidSettings) (pool : Pool) :
    (Stream.establish settings pool).Sound settings where
  settings_eq := rfl
  sendTidy := .empty settings.windowSize_pos
  body_le u hu := by
    have hnone : (Stream.establish settings pool).sendWindow.find? u.seq = none :=
      Window.find?_eq_none_iff.mpr fun v hv => by
        rw [show (Stream.establish settings pool).sendWindow.occupant u.seq = none from
          Window.occupant_empty settings.windowSize_pos u.seq] at hv
        cases hv
    rw [hnone] at hu
    cases hu
  receiveTidy := .empty settings.windowSize_pos
  size_le := Nat.zero_le 4

/-- Streams that agree in windows and settings are equally sound. -/
theorem Sound.congr (h : s.Sound settings) (hsettings : s'.settings = s.settings)
    (hsend : s'.sendWindow = s.sendWindow) (hreceive : s'.receiveWindow = s.receiveWindow)
    (hsize : s'.roundTrips.size ≤ 4) : s'.Sound settings where
  settings_eq := hsettings.trans h.settings_eq
  sendTidy := hsend ▸ h.sendTidy
  body_le := hsend ▸ h.body_le
  receiveTidy := hreceive ▸ h.receiveTidy
  size_le := hsize

/-- The socket has taken a datagram. -/
theorem Sound.countSent (h : s.Sound settings) (datagram : Bytes) :
    (s.countSent datagram).Sound settings :=
  h.congr rfl rfl rfl h.size_le

/-! ## Composing datagrams -/

theorem Sends.proper {d : Bytes} (h : s.Sends d) : d.Proper s.settings := by
  obtain ⟨segments, rfl, hlen, -⟩ := h
  refine ⟨hlen, ?_⟩
  rw [Header.ofDatagram?_datagram]
  rfl

theorem proper_datagram_nil (s : Stream) (header : Header) :
    (header.datagram []).Proper s.settings := by
  refine ⟨s.length_datagram_nil_le header, ?_⟩
  rw [Header.ofDatagram?_datagram]
  rfl

namespace Strict

/-- A datagram: what `write` leaves in a buffer from the pool, with its checksum. -/
def compose (s : Stream) (write : Buffer → Option Buffer) : Option (Bytes × Stream) := do
  let (datagram, pool) ← Pool.Strict.compose s.pool s.settings.mtu fun b => do
    let b ← write b
    Frame.Strict.stamp b
  some (datagram, { s with pool := pool })

/-- A datagram that is only a header. -/
def control (s : Stream) (header : Header) : Option (Bytes × Stream) :=
  compose s (Header.Strict.write header)

/-- The datagram that acknowledges all that arrived so far. -/
def acknowledge (s : Stream) : Option (Bytes × Stream) := do
  let (next, received) ← Window.Strict.acknowledgement s.receiveWindow
  control { s with ackDue := false } (.ack next received)

/-- A datagram with the given segments. -/
def dataDatagram (s : Stream) (segments : List (Segment Bytes)) : Option (Bytes × Stream) :=
  compose s fun b => do
    let b ← Header.Strict.write .data b
    Segment.Strict.writeAll segments b

/-- The datagram for the segment that was just added, and the number of earlier segments in it.
There is no result if that segment is not there. -/
def segmentDatagram (s : Stream) : Option ((Bytes × Nat) × Stream) := do
  match ← Window.Strict.find s.sendWindow s.next with
  | none => none
  | some segment =>
    let first := segment.wire
    let earlier ← Window.Strict.predecessors s.sendWindow s.next s.settings.redundancy
    let extra := Segment.fitting (s.settings.segmentRoom - first.size) (earlier.map Segment.wire)
    let (datagram, s) ← dataDatagram s (first :: extra)
    some ((datagram, extra.length), s)

/-- One datagram for each group of segments. -/
def dataDatagrams (s : Stream) : List (List (Segment Bytes)) → Option (List Bytes × Stream)
  | [] => some ([], s)
  | segments :: rest => do
    let (datagram, s) ← dataDatagram s segments
    let (datagrams, s) ← dataDatagrams s rest
    some (datagram :: datagrams, s)

/-- The segments of the send window that are at least as old as the fastest recent round trip. -/
def overdue (s : Stream) (now : Nat) : Option (List (Segment Bytes)) := do
  let threshold ← RoundTrips.Strict.recentMin s.roundTrips
  let entries ← Window.Strict.entries s.sendWindow
  some ((entries.filter fun segment => threshold ≤ now - segment.sentAt).map Segment.wire)

/-- The datagrams of a flush, and the number of segments in them. -/
def flushDatagrams (s : Stream) (now : Nat) : Option ((List Bytes × Nat) × Stream) := do
  let segments ← overdue s now
  let s := { s with roundTrips := s.roundTrips.remember }
  let (datagrams, s) ← dataDatagrams s (Segment.batches s.settings.segmentRoom segments)
  some ((datagrams, segments.length), s)

variable {d : Bytes}

/-- Whatever is composed without an error is composed strictly. -/
theorem compose_eq {write : Buffer → Except Failure Buffer} {strict : Buffer → Option Buffer}
    (hstrict : ∀ b b', write b = .ok b' → strict b = some b')
    (h : s.compose write = (.ok d, s')) : compose s strict = some (d, s') := by
  unfold Stream.compose at h
  unfold compose
  have hstamped : ∀ b b',
      (do let b ← write b; (Frame.stamp b).mapError .stamp : Except Failure Buffer) = .ok b' →
        (do let b ← strict b; Frame.Strict.stamp b) = some b' := by
    intro b b' hb
    cases hw : write b with
    | error e => simp [hw, bind, Except.bind] at hb
    | ok written =>
      cases hs : Frame.stamp written with
      | error e => simp [hw, hs, bind, Except.bind, Except.mapError] at hb
      | ok stamped =>
        simp only [hw, hs, bind, Except.bind, Except.mapError] at hb
        cases hb
        simp only [hstrict b written hw, Option.bind_eq_bind, Option.bind_some,
          Frame.Strict.stamp_eq hs]
  rw [Pool.Strict.compose_eq hstamped (congrArg Prod.fst h)]
  exact congrArg (fun last => some (d, last)) (congrArg Prod.snd h)

/-- **A header always becomes a datagram.** -/
theorem control_eq (s : Stream) (header : Header) :
    control s header = some (header.datagram [], (s.control header).2) := by
  have hok : s.control header = (.ok (header.datagram []), (s.control header).2) :=
    Prod.ext (s.control_eq_ok header) rfl
  refine compose_eq (fun b b' hb => ?_) hok
  cases hw : header.write b with
  | error e => simp [hw, Except.mapError] at hb
  | ok written =>
    simp only [hw, Except.mapError] at hb
    cases hb
    exact Header.Strict.write_eq hw

theorem acknowledge_eq (s : Stream) : acknowledge s
    = some (s.receiveWindow.ackDatagram, s.acknowledge.2) := by
  unfold acknowledge
  rw [Window.Strict.acknowledgement_eq]
  exact control_eq _ _

theorem dataDatagram_eq {segments : List (Segment Bytes)}
    (h : s.dataDatagram segments = (.ok d, s')) : dataDatagram s segments = some (d, s') := by
  refine compose_eq (fun b b' hb => ?_) h
  cases hh : Header.data.write b with
  | error e => simp [hh, bind, Except.bind, Except.mapError] at hb
  | ok headed =>
    cases hs : Segment.writeAll segments headed with
    | error e => simp [hh, hs, bind, Except.bind, Except.mapError] at hb
    | ok written =>
      simp only [hh, hs, bind, Except.bind, Except.mapError] at hb
      cases hb
      simp only [Header.Strict.write_eq hh, Segment.Strict.writeAll_eq hs, Option.bind_eq_bind,
        Option.bind_some]

theorem dataDatagrams_eq {groups : List (List (Segment Bytes))} {datagrams : List Bytes}
    (h : s.dataDatagrams groups = (.ok datagrams, s')) :
    dataDatagrams s groups = some (datagrams, s') := by
  induction groups generalizing s datagrams with
  | nil =>
    cases h
    rfl
  | cons segments rest ih =>
    unfold Stream.dataDatagrams at h
    unfold dataDatagrams
    split at h
    · cases h
    · rename_i datagram mid hfirst
      split at h
      · cases h
      · rename_i others last hothers
        cases h
        simp only [dataDatagram_eq hfirst, ih hothers, Option.bind_eq_bind, Option.bind_some]

theorem segmentDatagram_eq {r : Bytes × Nat} (h : s.segmentDatagram = (.ok r, s')) :
    segmentDatagram s = some (r, s') := by
  unfold Stream.segmentDatagram at h
  unfold segmentDatagram
  split at h
  · cases h
  · rename_i segment hfind
    simp only [Window.Strict.find_eq, hfind, Window.Strict.predecessors_eq, Option.bind_eq_bind,
      Option.bind_some] at h ⊢
    split at h
    · rename_i datagram last hmade
      cases h
      simp only [dataDatagram_eq hmade, Option.bind_some]
    · cases h

theorem flushDatagrams_eq (h : s.Sound settings) {now : Nat} {r : List Bytes × Nat}
    (hmade : s.flushDatagrams now = (.ok r, s')) : flushDatagrams s now = some (r, s') := by
  have hoverdue : overdue s now = some (s.overdue now) := by
    unfold overdue
    rw [RoundTrips.Strict.recentMin_eq h.size_le, Window.Strict.entries_eq]
    rfl
  unfold Stream.flushDatagrams at hmade
  unfold flushDatagrams
  simp only [hoverdue, Option.bind_eq_bind, Option.bind_some] at hmade ⊢
  split at hmade
  · rename_i datagrams last heq
    cases hmade
    simp only [dataDatagrams_eq heq, Option.bind_some]
  · cases hmade

end Strict

/-! ## Incoming datagrams -/

namespace Strict

/-- Stores a received segment in the receive window. -/
def storeSegment (s : Stream) (segment : Segment Bytes) : Option Stream := do
  let (buffer, pool) := s.pool.take s.settings.maxSegment
  let body ← Buffer.Strict.load buffer segment.body
  match ← Window.Strict.accept s.receiveWindow (segment.map fun _ => body) with
  | .stored window evicted =>
    some { s with receiveWindow := window, pool := pool.giveAll (evicted.toList.map (·.body)) }
  | .refused => some { s with pool := pool.give body }

/-- Takes in the payload of a data packet. -/
def processData (s : Stream) (now : Nat) (payload : Bytes) : Option Stream := do
  let fresh := (s.pool.take s.settings.maxSegment).1
  let (segments, stop) ← Segment.decodeEach? now (fun _ => fresh) payload
  let s ← (segments.map Segment.wire).foldlM storeSegment s
  let traffic := if stop.isSome then s.traffic.malformed else s.traffic
  some { s with traffic := traffic, ackDue := true }

/-- Takes in an acknowledgement. -/
def processAck (s : Stream) (now : Nat) (next : Serial) (received : UInt32) : Option Stream := do
  let shed ← Window.Strict.acknowledge s.sendWindow next received
  let removed := shed.removed.toList
  some
    { s with
      sendWindow := shed.window
      roundTrips := s.roundTrips.appendAll (Window.roundTrips removed now)
      pool := s.pool.giveAll (removed.map (·.body))
      traffic := s.traffic.acknowledged removed.length
      roomFreed := s.roomFreed || !removed.isEmpty }

/-- The effect of a datagram, and the header of the reply that is owed to it, if one is. -/
def process (s : Stream) (now : Nat) (datagram : Bytes) : Option (Stream × Option Header) := do
  match ← Header.Strict.ofDatagram datagram with
  | none => some ({ s with traffic := s.traffic.malformed }, none)
  | some (.data, payload) => (processData s now payload).map (·, none)
  | some (.ack next received, _) => (processAck s now next received).map (·, none)
  | some (.dial, _) => some (s, some .dialAck)
  | some (.dialAck, _) => some (s, none)

/-- Takes in a datagram. -/
def receive (s : Stream) (now : Nat) (raw : Bytes) : Option (Stream × Option Header) := do
  let (datagram, pool) ← Pool.Strict.intake s.pool s.settings.mtu raw
  process { s with pool := pool, traffic := s.traffic.received datagram.length } now datagram

end Strict

theorem Sound.storeSegment (h : s.Sound settings) (t : Segment Bytes) :
    (s.storeSegment t).Sound settings := by
  obtain ⟨u, pool, heq, -⟩ := s.storeSegment_eq t
  rw [heq]
  exact ⟨h.settings_eq, h.sendTidy, h.body_le, h.receiveTidy.offer u, h.size_le⟩

theorem Sound.strict_storeSegment (h : s.Sound settings) {t : Segment Bytes}
    (ht : t.body.length ≤ settings.maxSegment) :
    Strict.storeSegment s t = some (s.storeSegment t) := by
  have hcapacity := s.pool.capacity_take s.settings.maxSegment
  have hfits : t.body.length ≤ (s.pool.take s.settings.maxSegment).1.capacity := by
    rwa [hcapacity, h.settings_eq]
  unfold Strict.storeSegment Stream.storeSegment
  simp only [Buffer.Strict.load_eq hfits, Window.Strict.accept_eq, Option.bind_eq_bind,
    Option.bind_some]
  cases s.receiveWindow.accept _ <;> rfl

/-- Segments are stored one after the other. -/
theorem Sound.foldl_storeSegment (h : s.Sound settings) {segments : List (Segment Bytes)}
    (hsegments : ∀ t ∈ segments, t.body.length ≤ settings.maxSegment) :
    segments.foldlM Strict.storeSegment s = some (segments.foldl Stream.storeSegment s)
      ∧ (segments.foldl Stream.storeSegment s).Sound settings := by
  induction segments generalizing s with
  | nil => exact ⟨rfl, h⟩
  | cons t rest ih =>
    rw [List.foldlM_cons, h.strict_storeSegment (hsegments t List.mem_cons_self)]
    exact ih (h.storeSegment t) fun u hu => hsegments u (List.mem_cons_of_mem t hu)

theorem Sound.processData (h : s.Sound settings) (now : Nat) (payload : Bytes) :
    Strict.processData s now payload = some (s.processData now payload)
      ∧ (s.processData now payload).Sound settings := by
  have hcapacity := s.pool.capacity_take s.settings.maxSegment
  obtain ⟨found, stop, hread, hfound, hstop⟩ := @Segment.exists_decodeEach? _ now
    (fun _ => (s.pool.take s.settings.maxSegment).1) (fun _ => hcapacity) payload
  obtain ⟨row, tail, -, hrow, -⟩ := Segment.splits_decodeAll s.settings.maxSegment now payload
  -- what was read is not longer than the buffers it was read into
  have hbody : ∀ t ∈ found.map Segment.wire, t.body.length ≤ settings.maxSegment := by
    rw [← hfound, hrow, ← h.settings_eq]
    intro t ht
    obtain ⟨w, -, rfl⟩ := List.mem_map.mp ht
    exact w.length_le
  obtain ⟨hstored, hsound⟩ := h.foldl_storeSegment hbody
  unfold Strict.processData Stream.processData
  rw [← hfound] at hstored hsound
  simp only [hread, ← hfound, hstored, Option.bind_eq_bind, Option.bind_some]
  rw [← hstop, Option.isSome_map]
  exact ⟨rfl, hsound.settings_eq, hsound.sendTidy, hsound.body_le, hsound.receiveTidy,
    hsound.size_le⟩

theorem Sound.processAck (h : s.Sound settings) (now : Nat) (next : Serial) (received : UInt32) :
    Strict.processAck s now next received = some (s.processAck now next received)
      ∧ (s.processAck now next received).Sound settings := by
  unfold Strict.processAck Stream.processAck
  rw [Window.Strict.acknowledge_eq h.sendTidy]
  refine ⟨rfl, h.settings_eq, h.sendTidy.acknowledge next received, fun u hu => ?_, h.receiveTidy,
    RoundTrips.size_appendAll_le h.size_le _⟩
  exact h.body_le u (Window.find?_of_acknowledge hu)

/-- **Whatever arrives is taken in**, and leaves a stream sound. -/
theorem Sound.receive (h : s.Sound settings) (now : Nat) (raw : Bytes) :
    Strict.receive s now raw = some (s.receive now raw)
      ∧ (s.receive now raw).1.Sound settings := by
  have htaken : (s.taking raw).Sound settings :=
    ⟨h.settings_eq, h.sendTidy, h.body_le, h.receiveTidy, h.size_le⟩
  unfold Strict.receive
  rw [Pool.Strict.intake_eq]
  show Strict.process (s.taking raw) now (s.pool.intake s.settings.mtu raw).1
      = some ((s.taking raw).process now (s.pool.intake s.settings.mtu raw).1)
    ∧ ((s.taking raw).process now (s.pool.intake s.settings.mtu raw).1).1.Sound settings
  unfold Strict.process Stream.process
  rw [Header.Strict.ofDatagram_eq]
  cases Header.ofDatagram? (s.pool.intake s.settings.mtu raw).1 with
  | none =>
    exact ⟨rfl, h.settings_eq, h.sendTidy, h.body_le, h.receiveTidy, h.size_le⟩
  | some found =>
    obtain ⟨header, payload⟩ := found
    cases header with
    | data =>
      obtain ⟨hstrict, hsound⟩ := htaken.processData now payload
      exact ⟨congrArg (Option.map fun last => (last, none)) hstrict, hsound⟩
    | ack next received =>
      obtain ⟨hstrict, hsound⟩ := htaken.processAck now next received
      exact ⟨congrArg (Option.map fun last => (last, none)) hstrict, hsound⟩
    | dial => exact ⟨rfl, htaken⟩
    | dialAck => exact ⟨rfl, htaken⟩

/-! ## Delivery -/

namespace Strict

/-- The next step on the way of the next message into the reader's buffer. -/
def deliver (s : Stream) (buffer : Bytes) : Option (Stream × Delivery) :=
  if s.complete then
    let length := s.assembled.size
    if buffer.length < length then
      some (s, .failed (.readBufferTooSmall length buffer.length))
    else do
      let filled ← Bytes.Strict.overwrite buffer s.assembled.toList
      some ({ s with assembled := #[], complete := false }, .message length filled)
  else do
    match ← Window.Strict.pop s.receiveWindow with
    | none => some (s, .starved)
    | some (segment, window) =>
      let s := { s with receiveWindow := window, pool := s.pool.give segment.body }
      let length := s.assembled.size + segment.body.length
      if s.settings.maxMessage < length then
        some (s.shut, .failed (.messageTooLarge length s.settings.maxMessage))
      else
        some
          ({ s with
              assembled := s.assembled ++ segment.body.content
              complete := !segment.more }, .advanced)

end Strict

/-- **The next message is delivered**, step by step. -/
theorem Sound.deliver (h : s.Sound settings) (buffer : Bytes) :
    Strict.deliver s buffer = some (s.deliver buffer) ∧ (s.deliver buffer).1.Sound settings := by
  constructor
  · unfold Strict.deliver Stream.deliver
    by_cases hcomplete : s.complete = true
    · simp only [if_pos hcomplete]
      by_cases hshort : buffer.length < s.assembled.size
      · simp only [if_pos hshort]
      · simp only [if_neg hshort]
        rw [Bytes.Strict.overwrite_eq (by rw [Array.length_toList]; omega)]
        rfl
    · simp only [if_neg hcomplete, Window.Strict.pop_eq h.receiveTidy, Option.bind_eq_bind,
        Option.bind_some]
      cases s.receiveWindow.pop? with
      | none => rfl
      | some found =>
        simp only
        split <;> rfl
  · have hdelivers := s.deliver_delivers buffer
    generalize s.deliver buffer = r at hdelivers ⊢
    cases hdelivers with
    | keeps => exact h
    | empties => exact h.congr rfl rfl rfl h.size_le
    | starves => exact h
    | overflows _ hpop => exact { h with receiveTidy := h.receiveTidy.pop? hpop }
    | advances _ hpop => exact { h with receiveTidy := h.receiveTidy.pop? hpop }

/-! ## New segments -/

namespace Strict

/-- A buffer with a piece of a message. -/
def prepare (s : Stream) (piece : Bytes) : Option (Buffer × Stream) := do
  let (buffer, pool) := s.pool.take s.settings.maxSegment
  let body ← buffer.append? piece
  some (body, { s with pool := pool })

/-- The stream with a new segment in its send window, unless there is no room for it. -/
def insert (s : Stream) (now : Nat) (body : Buffer) (more : Bool) : Option (Option Stream) := do
  match ← Window.Strict.write s.sendWindow
      { seq := s.next, more := more, body := body, sentAt := now } with
  | .added window => some (some { s with sendWindow := window })
  | .present => some (some (s.giveBack body))
  | .full => some none

/-- The stream without a segment that could not be sent. -/
def abandon (s : Stream) : Option Stream := do
  match ← Window.Strict.remove s.sendWindow s.next with
  | some (segment, window) =>
    some (shut { s with sendWindow := window, pool := s.pool.give segment.body })
  | none => some s.shut

theorem prepare_eq {piece : Bytes} (h : piece.length ≤ s.settings.maxSegment) :
    prepare s piece = some (s.prepare piece) := by
  have hload : (s.pool.take s.settings.maxSegment).1.append? piece
      = some ((s.pool.take s.settings.maxSegment).1.load piece) :=
    Buffer.append?_eq_load (s.pool.content_take _) (by rwa [s.pool.capacity_take])
  unfold prepare Stream.prepare
  simp only [hload, Option.bind_eq_bind, Option.bind_some]

theorem insert_eq (s : Stream) (now : Nat) (body : Buffer) (more : Bool) :
    insert s now body more = some (s.insert? now body more) := by
  unfold insert Stream.insert?
  rw [Window.Strict.write_eq]
  cases s.sendWindow.write _ <;> rfl

end Strict

theorem Sound.store (h : s.Sound settings) {u : Segment Buffer}
    (hbody : u.wire.body.length ≤ settings.maxSegment) : (s.holding u).Sound settings where
  settings_eq := h.settings_eq
  sendTidy := h.sendTidy.store u
  body_le v hv := by
    change (s.sendWindow.store u).find? v.seq = some v at hv
    rw [Window.find?_store] at hv
    split at hv
    · cases hv
      exact hbody
    · split at hv
      · cases hv
      · exact h.body_le v hv
  receiveTidy := h.receiveTidy
  size_le := h.size_le

/-- **A new segment that has room in the send window is found there**, and the stream stays
sound. -/
theorem Sound.of_insert? (h : s.Sound settings) {now : Nat} {body : Buffer} {more : Bool}
    (hbody : body.content.length ≤ settings.maxSegment)
    (hinsert : s.insert? now body more = some s') :
    s'.Sound settings ∧ (s'.sendWindow.find? s'.next).isSome = true := by
  unfold insert? at hinsert
  split at hinsert
  · rename_i window hwrite
    cases hinsert
    rw [(Window.store_of_write hwrite).1]
    refine ⟨h.store hbody, ?_⟩
    show ((s.sendWindow.store _).find? s.next).isSome = true
    rw [Window.find?_store, if_pos rfl]
    rfl
  · rename_i hpresent
    cases hinsert
    exact ⟨h.congr rfl rfl rfl h.size_le,
      Option.isSome_iff_ne_none.mpr (Window.find?_ne_none_of_write_eq_present hpresent)⟩
  · cases hinsert

/-- A segment that could not be sent is removed, and the stream stays sound. -/
theorem Sound.abandon (h : s.Sound settings) :
    Strict.abandon s = some s.abandon ∧ s.abandon.Sound settings := by
  unfold Strict.abandon Stream.abandon Window.clear
  rw [Window.Strict.remove_eq h.sendTidy]
  cases hremove : s.sendWindow.remove? s.next with
  | none => exact ⟨rfl, h.congr rfl rfl rfl h.size_le⟩
  | some found =>
    obtain ⟨u, w⟩ := found
    obtain ⟨hfind, rfl⟩ := Window.remove?_eq_some_iff.mp hremove
    refine ⟨rfl, h.settings_eq, h.sendTidy.put_none hfind, fun v hv => ?_, h.receiveTidy,
      h.size_le⟩
    change (s.sendWindow.put s.next none (s.sendWindow.size - 1)).find? v.seq = some v at hv
    rw [Window.find?_put_none hfind] at hv
    split at hv
    · cases hv
    · exact h.body_le v hv

/-! ## Outgoing datagrams -/

/-- **A datagram that is only a header comes out**, and it is proper. -/
theorem Sound.exists_control (h : s.Sound settings) (header : Header) :
    ∃ s', s.control header = (.ok (header.datagram []), s')
      ∧ Strict.control s header = some (header.datagram [], s')
      ∧ s'.Sound settings ∧ (header.datagram []).Proper settings :=
  ⟨(s.control header).2, Prod.ext (s.control_eq_ok header) rfl, Strict.control_eq s header,
    h.congr rfl rfl rfl h.size_le, h.settings_eq ▸ s.proper_datagram_nil header⟩

/-- **The datagram for a new segment comes out**, and it is proper. -/
theorem Sound.exists_segmentDatagram (h : s.Sound settings)
    (hfind : (s.sendWindow.find? s.next).isSome = true) :
    ∃ datagram piggybacked s', s.segmentDatagram = (.ok (datagram, piggybacked), s')
      ∧ Strict.segmentDatagram s = some ((datagram, piggybacked), s')
      ∧ s'.Sound settings ∧ datagram.Proper settings := by
  obtain ⟨segment, hsegment⟩ := Option.isSome_iff_exists.mp hfind
  obtain ⟨datagram, piggybacked, hok, hsends⟩ := segmentDatagram_eq_ok hsegment
    (by rw [h.settings_eq]; exact h.body_le)
  obtain ⟨pool, hpool⟩ := s.snd_segmentDatagram
  have hmade : s.segmentDatagram = (.ok (datagram, piggybacked), { s with pool := pool }) :=
    Prod.ext hok hpool
  exact ⟨datagram, piggybacked, _, hmade, Strict.segmentDatagram_eq hmade,
    h.congr rfl rfl rfl h.size_le, h.settings_eq ▸ hsends.proper⟩

/-- **The datagrams of a flush come out**, and they are proper. -/
theorem Sound.exists_flushDatagrams (h : s.Sound settings) (now : Nat) :
    ∃ datagrams count s', s.flushDatagrams now = (.ok (datagrams, count), s')
      ∧ Strict.flushDatagrams s now = some ((datagrams, count), s')
      ∧ s'.Sound settings ∧ ∀ d ∈ datagrams, d.Proper settings := by
  have hok := flushDatagrams_eq_ok now (by rw [h.settings_eq]; exact h.body_le)
  obtain ⟨pool, hpool⟩ := s.snd_flushDatagrams now
  have hmade := Prod.ext (x := s.flushDatagrams now) (y := (_, _)) hok hpool
  have hsends := sends_of_flushDatagrams hmade
  refine ⟨_, _, _, hmade, Strict.flushDatagrams_eq h hmade, h.congr rfl rfl rfl ?_, ?_⟩
  · show s.roundTrips.remember.size ≤ 4
    unfold RoundTrips.remember
    split <;> exact h.size_le
  · intro d hd
    rw [← h.settings_eq]
    exact (hsends d hd).proper

end Stream

end Redelivery
