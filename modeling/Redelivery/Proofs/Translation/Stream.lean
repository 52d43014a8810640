import Redelivery.Proofs.Session.Reader
import Redelivery.Proofs.Session.Writer
import Redelivery.Proofs.Translation.Wire

/-!
# Streams with all serial numbers moved

Two streams match if their settings agree, but for the initial serial number and the number of
buffers that are kept, and everything that can be seen of them is the same with all serial numbers
moved on. What is in their pools, and in the spare bytes of their buffers, does not matter: no byte is
read from a buffer that was not written there before.

If matching streams receive the same datagram, moved, or are asked for the same, they match again,
and what they make is the same, moved.

## Main definitions

* `Settings.Agrees`: settings that agree in all but the initial serial number and the pool.
* `Stream.Matches`: a stream and another one with all serial numbers moved.

## Main statements

* `Stream.Matches.receive`, `Stream.Matches.deliver`: the way in.
* `Stream.Matches.insert?`, `Stream.Matches.segmentDatagram`, `Stream.Matches.flushDatagrams`: the
  way out.

The relation has a field for each part of the state, and an operation that changes one part is shown
by `{ h with .. }`. The fields that decide about what is sent or returned are equal in both streams,
or moved; only pools are free. The bound on bodies is there because a datagram is moved by reading
it: for that it must read back as what was written.

The two settings agree in everything but two fields. `Stream.Matches.view_eq` says so for any
function of the settings that ignores these, and all equations about sizes are instances.
-/

namespace Redelivery

/-- The settings agree in all but the initial serial number and the number of buffers that are
kept. -/
def Settings.Agrees (a b : Settings) : Prop :=
  b = { a with initialSerial := b.initialSerial, poolSize := b.poolSize }

/-- What does not depend on these two is the same. -/
theorem Settings.Agrees.eq {α : Type} {a b : Settings} (h : a.Agrees b) (view : Settings → α)
    (hview : ∀ serial size, view { a with initialSerial := serial, poolSize := size } = view a) :
    view b = view a :=
  (congrArg view h).trans (hview _ _)

/-! ## Groups of segments -/

namespace Segment

variable {δ : Nat}

theorem fitting_map_shift (room : Nat) (segments : List (Segment Bytes)) :
    fitting room (segments.map (shift δ)) = (fitting room segments).map (shift δ) := by
  induction segments generalizing room with
  | nil => rfl
  | cons s rest ih =>
    simp only [List.map_cons, fitting, size_shift, ih]
    split <;> rfl

theorem batches_map_shift (room : Nat) (segments : List (Segment Bytes)) :
    batches room (segments.map (shift δ)) = (batches room segments).map (List.map (shift δ)) := by
  induction segments using batches.induct room with
  | case1 => simp only [List.map_nil, batches]
  | case2 s rest others ih =>
    simp only [List.map_cons, batches, size_shift, fitting_map_shift, List.length_map,
      ← List.map_drop]
    exact congrArg _ ih

/-- Matching segments look the same on the wire, moved. -/
theorem map_wire_of_forall₂ {us vs : List (Segment Buffer)}
    (h : List.Forall₂ (Segment.Matches δ) us vs) :
    vs.map wire = (us.map wire).map (shift δ) := by
  induction h with
  | nil => rfl
  | cons hmatch _ ih => rw [List.map_cons, List.map_cons, List.map_cons, hmatch.wire_eq, ih]

end Segment

/-- The acknowledgements are the same, moved. -/
theorem Window.Matches.ackDatagram_eq {δ : Nat} {w v : Window Buffer} (h : w.Matches δ v)
    (limit : Nat) : v.ackDatagram = w.ackDatagram.shift limit δ := by
  unfold ackDatagram
  rw [Header.shift_datagram, h.base_eq, h.received_eq]
  rfl

namespace Stream

variable {settings : Settings} {δ : Nat} {s t : Stream}

/-- The second stream is the first one, which has the given settings, with all serial numbers moved
on. The pools may differ. -/
structure Matches (settings : Settings) (δ : Nat) (s t : Stream) : Prop where
  /-- The settings of the first stream. -/
  settings_eq : s.settings.toSettings = settings
  /-- The settings of the second one. -/
  agrees : settings.Agrees t.settings.toSettings
  /-- The send windows. -/
  sendWindow : s.sendWindow.Matches δ t.sendWindow
  /-- What is in the send window fits into datagrams. -/
  body_le : ∀ u : Segment Buffer, s.sendWindow.find? u.seq = some u →
    u.wire.body.length ≤ s.settings.maxSegment
  /-- The next serial numbers. -/
  next_eq : t.next = s.next + δ
  /-- The round trips. -/
  roundTrips_eq : t.roundTrips = s.roundTrips
  /-- The receive windows. -/
  receiveWindow : s.receiveWindow.Matches δ t.receiveWindow
  /-- The part of the next message. -/
  assembled_eq : t.assembled = s.assembled
  /-- Whether that is whole. -/
  complete_eq : t.complete = s.complete
  /-- Whether an acknowledgement is due. -/
  ackDue_eq : t.ackDue = s.ackDue
  /-- Whether the stream is closed. -/
  closed_eq : t.closed = s.closed
  /-- Whether the writer has been notified. -/
  roomFreed_eq : t.roomFreed = s.roomFreed
  /-- Whether a write sent something since the last tick. -/
  sentSinceTick_eq : t.sentSinceTick = s.sentSinceTick
  /-- The counters. -/
  traffic_eq : t.traffic = s.traffic

namespace Matches

section

variable (h : s.Matches settings δ t)

include h

/-- What the settings tell does not depend on the initial serial number, nor on the pool. -/
theorem view_eq {α : Type} (view : Settings → α)
    (hview : ∀ serial size,
      view { settings with initialSerial := serial, poolSize := size } = view settings) :
    view t.settings.toSettings = view s.settings.toSettings := by
  rw [h.settings_eq]
  exact h.agrees.eq view hview

theorem maxSegment_eq : t.settings.maxSegment = s.settings.maxSegment :=
  h.view_eq Settings.maxSegment fun _ _ => rfl

theorem segmentRoom_eq : t.settings.segmentRoom = s.settings.segmentRoom :=
  h.view_eq Settings.segmentRoom fun _ _ => rfl

theorem maxMessage_eq : t.settings.maxMessage = s.settings.maxMessage :=
  h.view_eq Settings.maxMessage fun _ _ => rfl

theorem limit_eq : s.settings.maxSegment = settings.maxSegment :=
  congrArg Settings.maxSegment h.settings_eq

/-- What is in the other send window fits into datagrams as well. -/
theorem body_le_right (v : Segment Buffer) (hv : t.sendWindow.find? v.seq = some v) :
    v.wire.body.length ≤ t.settings.maxSegment := by
  have hfind := h.sendWindow.find? (v.seq - δ)
  rw [← Serial.sub_add_right, Serial.add_sub_of_le _ (Nat.le_refl δ), Nat.sub_self,
    Serial.add_zero, hv] at hfind
  generalize hu : s.sendWindow.find? (v.seq - δ) = a at hfind
  cases hfind with
  | some hmatch =>
    rename_i u
    rw [← Window.seq_of_find? hu] at hu
    rw [hmatch.wire_eq, h.maxSegment_eq]
    exact h.body_le u hu

/-! ### What changes little -/

theorem withPool (p q : Pool) :
    ({ s with pool := p } : Stream).Matches settings δ { t with pool := q } :=
  { h with }

theorem shut : s.shut.Matches settings δ t.shut :=
  { h with closed_eq := rfl, roomFreed_eq := rfl }

theorem countSent (datagram : Bytes) :
    (s.countSent datagram).Matches settings δ
      (t.countSent (datagram.shift settings.maxSegment δ)) :=
  { h with
    traffic_eq := by
      unfold Stream.countSent
      rw [h.traffic_eq, Header.length_shift] }

theorem commit (piggybacked : Nat) :
    (s.commit piggybacked).Matches settings δ (t.commit piggybacked) :=
  { h with
    sentSinceTick_eq := rfl
    traffic_eq := by
      unfold Stream.commit
      rw [h.traffic_eq]
    next_eq := by
      unfold Stream.commit
      rw [h.next_eq, Serial.next_add_right] }

end

end Matches

/-- A new stream matches a new stream. -/
theorem matches_establish {settings other : ValidSettings}
    (hagrees : settings.toSettings.Agrees other.toSettings)
    (hserial : other.initialSerial = settings.initialSerial + δ) (pool pool' : Pool)
    (traffic : Traffic) :
    ({ Stream.establish settings pool with traffic := traffic } : Stream).Matches
      settings.toSettings δ { Stream.establish other pool' with traffic := traffic } := by
  have hsize : other.windowSize = settings.windowSize := hagrees.eq _ fun _ _ => rfl
  have hwindow : (Window.empty settings.windowSize settings.initialSerial
      settings.windowSize_pos).Matches δ
        (Window.empty other.windowSize other.initialSerial other.windowSize_pos) := by
    simp only [hsize, hserial]
    exact .empty _ settings.windowSize_dvd _ δ
  exact
    { settings_eq := rfl
      agrees := hagrees
      sendWindow := hwindow
      body_le := fun u hu => by
        rw [Window.find?_eq_some_iff] at hu
        cases hu.1.symm.trans (Window.occupant_empty settings.windowSize_pos _)
      next_eq := hserial
      roundTrips_eq := rfl
      receiveWindow := hwindow
      assembled_eq := rfl
      complete_eq := rfl
      ackDue_eq := rfl
      closed_eq := rfl
      roomFreed_eq := rfl
      sentSinceTick_eq := rfl
      traffic_eq := rfl }

/-! ## The way in -/

namespace Matches

theorem storeSegment (h : s.Matches settings δ t) (segment : Segment Bytes) :
    (s.storeSegment segment).Matches settings δ (t.storeSegment (segment.shift δ)) := by
  have haccept : Window.Accepting.Matches δ
      (s.receiveWindow.accept (segment.map fun _ =>
        (s.pool.take s.settings.maxSegment).1.load segment.body))
      (t.receiveWindow.accept ((segment.shift δ).map fun _ =>
        (t.pool.take t.settings.maxSegment).1.load (segment.shift δ).body)) := by
    refine h.receiveWindow.accept ?_
    -- both buffers take in the same part of the body
    have hbody : segment.body.take (t.pool.take t.settings.maxSegment).1.capacity
        = segment.body.take (s.pool.take s.settings.maxSegment).1.capacity := by
      rw [Pool.capacity_take, Pool.capacity_take, h.maxSegment_eq]
    exact congrArg (fun b => (⟨segment.seq + δ, segment.more, b, segment.sentAt⟩ : Segment Bytes))
      hbody
  unfold Stream.storeSegment
  simp only
  generalize s.receiveWindow.accept _ = a at haccept ⊢
  generalize t.receiveWindow.accept _ = b at haccept ⊢
  cases haccept with
  | stored hwindow evicted evicted' => exact { h with receiveWindow := hwindow }
  | refused => exact h.withPool _ _

theorem foldl_storeSegment (h : s.Matches settings δ t) (segments : List (Segment Bytes)) :
    (segments.foldl Stream.storeSegment s).Matches settings δ
      ((segments.map (Segment.shift δ)).foldl Stream.storeSegment t) := by
  induction segments generalizing s t with
  | nil => exact h
  | cons segment rest ih => exact ih (h.storeSegment segment)

theorem processData (h : s.Matches settings δ t) (now : Nat) (payload : Bytes) :
    (s.processData now payload).Matches settings δ
      (t.processData now (Segment.shiftAll settings.maxSegment δ payload)) := by
  obtain ⟨hsegments, hstop⟩ := Segment.decodeAll_shiftAll settings.maxSegment δ now payload
  have hstored := h.foldl_storeSegment
    ((Segment.decodeAll settings.maxSegment now payload).1.map (·.1))
  rw [← hsegments] at hstored
  unfold Stream.processData
  simp only [h.maxSegment_eq, h.limit_eq, hstop]
  refine { hstored with traffic_eq := ?_, ackDue_eq := rfl }
  simp only [hstored.traffic_eq]

theorem processAck (h : s.Matches settings δ t) (now : Nat) (next : Serial) (received : UInt32) :
    (s.processAck now next received).Matches settings δ
      (t.processAck now (next + δ) received) := by
  -- The same segments leave both windows. Their times agree, hence the round trips; their number
  -- agrees, hence the counters and whether a writer is notified.
  have hshed := h.sendWindow.acknowledge next received
  have hlength := hshed.removed.length_eq
  have htrips : Window.roundTrips (t.sendWindow.acknowledge (next + δ) received).removed.toList now
      = Window.roundTrips (s.sendWindow.acknowledge next received).removed.toList now := by
    have hremoved := hshed.removed
    unfold Window.roundTrips
    generalize (s.sendWindow.acknowledge next received).removed.toList = us at hremoved
    generalize (t.sendWindow.acknowledge (next + δ) received).removed.toList = vs at hremoved
    induction hremoved with
    | nil => rfl
    | cons hmatch _ ih => rw [List.map_cons, List.map_cons, hmatch.sentAt_eq, ih]
  have hempty : (t.sendWindow.acknowledge (next + δ) received).removed.toList.isEmpty
      = (s.sendWindow.acknowledge next received).removed.toList.isEmpty := by
    rw [Bool.eq_iff_iff, List.isEmpty_iff_length_eq_zero, List.isEmpty_iff_length_eq_zero, hlength]
  unfold Stream.processAck
  exact
    { h with
      sendWindow := hshed.window
      body_le := fun u hu => h.body_le u (Window.find?_of_acknowledge hu)
      roundTrips_eq := by simp only [htrips, h.roundTrips_eq]
      traffic_eq := by simp only [hlength, h.traffic_eq]
      roomFreed_eq := by simp only [hempty, h.roomFreed_eq] }

theorem process (h : s.Matches settings δ t) (now : Nat) (datagram : Bytes) :
    (s.process now datagram).1.Matches settings δ
        (t.process now (datagram.shift settings.maxSegment δ)).1
      ∧ (t.process now (datagram.shift settings.maxSegment δ)).2
        = (s.process now datagram).2 := by
  unfold Stream.process
  rw [Header.ofDatagram?_shift]
  cases Header.ofDatagram? datagram with
  | none =>
    rw [Option.map_none]
    refine ⟨{ h with traffic_eq := ?_ }, rfl⟩
    simp only [h.traffic_eq]
  | some read =>
    obtain ⟨header, payload⟩ := read
    cases header with
    | data => exact ⟨h.processData now payload, rfl⟩
    | ack next received => exact ⟨h.processAck now next received, rfl⟩
    | dial => exact ⟨h, rfl⟩
    | dialAck => exact ⟨h, rfl⟩

/-- **A datagram arrives.** What does not fit into a buffer may be anything. -/
theorem receive (h : s.Matches settings δ t) (now : Nat) {raw raw' : Bytes}
    (hraw : raw'.take settings.mtu
      = Bytes.shift settings.maxSegment δ (raw.take settings.mtu)) :
    (s.receive now raw).1.Matches settings δ (t.receive now raw').1
      ∧ (t.receive now raw').2 = (s.receive now raw).2 := by
  have hmtu : t.settings.mtu = s.settings.mtu := h.view_eq Settings.mtu fun _ _ => rfl
  have hlimit : s.settings.mtu = settings.mtu := congrArg Settings.mtu h.settings_eq
  -- each side reads as much as fits into its buffer, and that much is the same but for the move
  have htaken : ({ s with
      pool := (s.pool.intake settings.mtu raw).2
      traffic := s.traffic.received (raw.take settings.mtu).length } : Stream).Matches settings δ
      { t with
        pool := (t.pool.intake settings.mtu raw').2
        traffic := t.traffic.received (raw'.take settings.mtu).length } :=
    { h with traffic_eq := by simp only [h.traffic_eq, hraw, Header.length_shift] }
  have hprocess := htaken.process now (raw.take settings.mtu)
  rw [← hraw] at hprocess
  unfold Stream.receive
  simp only [Pool.fst_intake, hmtu, hlimit]
  exact hprocess

/-- **The next step towards a message.** -/
theorem deliver (h : s.Matches settings δ t) (buffer : Bytes) :
    (s.deliver buffer).1.Matches settings δ (t.deliver buffer).1
      ∧ (t.deliver buffer).2 = (s.deliver buffer).2 := by
  have hpop := h.receiveWindow.pop?
  unfold Stream.deliver
  simp only [h.complete_eq, h.assembled_eq, h.maxMessage_eq]
  split
  · split
    · exact ⟨h, rfl⟩
    · exact ⟨{ h with assembled_eq := rfl, complete_eq := rfl }, rfl⟩
  · generalize s.receiveWindow.pop? = a at hpop ⊢
    generalize t.receiveWindow.pop? = b at hpop ⊢
    cases hpop with
    | none => exact ⟨h, rfl⟩
    | @some taken taken' hpair =>
      obtain ⟨u, w⟩ := taken
      obtain ⟨v, w'⟩ := taken'
      obtain ⟨hmatch, hwindow⟩ := hpair
      have hcontent : v.body.content = u.body.content := hmatch.content_eq
      have hmore : v.more = u.more := hmatch.more_eq
      have hlength : v.body.length = u.body.length := congrArg List.length hcontent
      have hpopped : ({ s with receiveWindow := w, pool := s.pool.give u.body } : Stream).Matches
          settings δ { t with receiveWindow := w', pool := t.pool.give v.body } :=
        { h with receiveWindow := hwindow }
      simp only [hlength, hcontent, hmore]
      split
      · exact ⟨{ hpopped.shut with assembled_eq := rfl, complete_eq := rfl }, rfl⟩
      · exact ⟨{ hpopped with assembled_eq := rfl, complete_eq := rfl }, rfl⟩

end Matches

/-! ## The way out -/

theorem acknowledge_eq (s : Stream) :
    ∃ pool, s.acknowledge
      = (.ok s.receiveWindow.ackDatagram, { s with ackDue := false, pool := pool }) :=
  control_eq { s with ackDue := false } _

theorem segmentDatagram_eq {u : Segment Buffer} (hfind : s.sendWindow.find? s.next = some u)
    (hbody : ∀ v : Segment Buffer, s.sendWindow.find? v.seq = some v →
      v.wire.body.length ≤ s.settings.maxSegment) :
    ∃ pool, s.segmentDatagram = (.ok (Header.data.datagram (u.wire :: s.companions u),
      (s.companions u).length), { s with pool := pool }) := by
  obtain ⟨datagram, piggybacked, hok, -⟩ := segmentDatagram_eq_ok hfind hbody
  obtain ⟨pool, hpool⟩ := s.snd_segmentDatagram
  have heq : s.segmentDatagram = (.ok (datagram, piggybacked), { s with pool := pool }) :=
    Prod.ext hok hpool
  obtain ⟨v, hv, rfl, rfl, -⟩ := of_segmentDatagram heq
  cases hfind.symm.trans hv
  exact ⟨pool, heq⟩

namespace Matches

theorem prepare (h : s.Matches settings δ t) (piece : Bytes) :
    (s.prepare piece).2.Matches settings δ (t.prepare piece).2
      ∧ (t.prepare piece).1.content = (s.prepare piece).1.content
      ∧ (s.prepare piece).1.content.length ≤ s.settings.maxSegment := by
  refine ⟨h.withPool _ _, ?_, ?_⟩
  · show piece.take (t.pool.take t.settings.maxSegment).1.capacity
      = piece.take (s.pool.take s.settings.maxSegment).1.capacity
    rw [Pool.capacity_take, Pool.capacity_take, h.maxSegment_eq]
  · show (piece.take (s.pool.take s.settings.maxSegment).1.capacity).length ≤ _
    rw [Pool.capacity_take]
    exact List.length_take_le _ _

/-- **A new segment** is added to both windows, or to none. -/
theorem insert? (h : s.Matches settings δ t) (now : Nat) {body body' : Buffer}
    (hcontent : body'.content = body.content)
    (hfits : body.content.length ≤ s.settings.maxSegment) (more : Bool) :
    Option.Rel (fun s' t' => s'.Matches settings δ t' ∧ s'.sendWindow.find? s'.next ≠ none)
      (s.insert? now body more) (t.insert? now body' more) := by
  have hsegment : (⟨s.next, more, body, now⟩ : Segment Buffer).Matches δ
      ⟨t.next, more, body', now⟩ := by
    show (⟨t.next, more, body'.content, now⟩ : Segment Bytes)
      = ⟨s.next + δ, more, body.content, now⟩
    rw [h.next_eq, hcontent]
  have hwrite := h.sendWindow.write hsegment
  unfold Stream.insert?
  generalize ha : s.sendWindow.write _ = a at hwrite ⊢
  generalize t.sendWindow.write _ = b at hwrite ⊢
  cases hwrite with
  | full => exact .none
  | present => exact .some ⟨h.withPool _ _, Window.find?_ne_none_of_write_eq_present ha⟩
  | @added w v hwindow =>
    obtain ⟨rfl, -⟩ := Window.store_of_write ha
    refine .some ⟨{ h with sendWindow := hwindow, body_le := fun u hu => ?_ }, ?_⟩
    · -- it is the new segment, or it was there before
      rw [Window.find?_store] at hu
      split at hu
      · cases hu
        exact hfits
      · exact h.body_le u (Option.ite_none_left_eq_some.mp hu).2
    · show (s.sendWindow.store _).find? s.next ≠ none
      rw [Window.find?_store, if_pos rfl]
      exact Option.some_ne_none _

theorem abandon (h : s.Matches settings δ t) : s.abandon.Matches settings δ t.abandon := by
  have hclear := h.sendWindow.clear s.next
  rw [← h.next_eq] at hclear
  unfold Stream.abandon
  generalize ha : s.sendWindow.clear s.next = a at hclear ⊢
  generalize t.sendWindow.clear t.next = b at hclear ⊢
  cases hclear with
  | none => exact h.shut
  | @some taken taken' hpair =>
    obtain ⟨u, w⟩ := taken
    obtain ⟨v, w'⟩ := taken'
    obtain ⟨hfind, rfl⟩ := Window.remove?_eq_some_iff.mp ha
    refine shut { h with sendWindow := hpair.2, body_le := fun r hr => ?_ }
    rw [Window.find?_put_none hfind] at hr
    exact h.body_le r (Option.ite_none_left_eq_some.mp hr).2

/-- The segments of the send window are read back from datagrams as they are. -/
theorem fits_of_mem_window (h : s.Matches settings δ t) {u : Segment Buffer}
    (hu : s.sendWindow.find? u.seq = some u) :
    u.wire.body.length ≤ settings.maxSegment ∧ u.wire.body.length < 2 ^ 16 := by
  have hle := h.body_le u hu
  have hlt := s.settings.maxSegment_lt
  exact ⟨h.limit_eq ▸ hle, Nat.lt_of_le_of_lt hle hlt⟩

/-- **The datagram with a new segment.** -/
theorem segmentDatagram (h : s.Matches settings δ t)
    (hfind : s.sendWindow.find? s.next ≠ none) :
    ∃ datagram piggybacked p q,
      s.segmentDatagram = (.ok (datagram, piggybacked), { s with pool := p })
        ∧ t.segmentDatagram = (.ok (datagram.shift settings.maxSegment δ, piggybacked),
          { t with pool := q }) := by
  obtain ⟨u, hu⟩ := Option.ne_none_iff_exists'.mp hfind
  have hmatches := h.sendWindow.find? s.next
  rw [← h.next_eq, hu] at hmatches
  generalize hv : t.sendWindow.find? t.next = b at hmatches
  cases hmatches with
  | @some _ v hmatch =>
    obtain ⟨p, hs⟩ := segmentDatagram_eq hu h.body_le
    obtain ⟨q, ht⟩ := segmentDatagram_eq hv h.body_le_right
    have hredundancy : t.settings.redundancy = s.settings.redundancy :=
      h.view_eq Settings.redundancy fun _ _ => rfl
    -- what goes along is chosen by sizes and by the distance to the new segment, and moving all
    -- serial numbers changes neither
    have hcompanions : t.companions v = (s.companions u).map (Segment.shift δ) := by
      have hearlier := Segment.map_wire_of_forall₂
        (h.sendWindow.predecessors s.next s.settings.redundancy)
      unfold companions
      rw [h.segmentRoom_eq, hredundancy, h.next_eq, hearlier, hmatch.wire_eq,
        Segment.fitting_map_shift, Segment.size_shift]
    refine ⟨_, _, p, q, hs, ?_⟩
    rw [ht, hcompanions, List.length_map, hmatch.wire_eq, ← List.map_cons,
      Header.shift_datagram_data]
    intro r hr
    obtain ⟨w, hw, rfl⟩ := mem_window_of_mem_companions hu hr
    exact h.fits_of_mem_window hw

theorem overdue_eq (h : s.Matches settings δ t) (now : Nat) :
    t.overdue now = (s.overdue now).map (Segment.shift δ) := by
  unfold overdue
  rw [h.roundTrips_eq]
  have hentries := h.sendWindow.entries
  generalize s.sendWindow.entries = us at hentries ⊢
  generalize t.sendWindow.entries = vs at hentries ⊢
  induction hentries with
  | nil => rfl
  | cons hmatch _ ih =>
    rw [List.filter_cons, List.filter_cons, hmatch.sentAt_eq]
    split
    · rw [List.map_cons, List.map_cons, List.map_cons, ih, hmatch.wire_eq]
    · exact ih

/-- **The datagrams of a flush.** -/
theorem flushDatagrams (h : s.Matches settings δ t) (now : Nat) :
    ∃ datagrams count p q,
      s.flushDatagrams now
          = (.ok (datagrams, count), { s with roundTrips := s.roundTrips.remember, pool := p })
        ∧ t.flushDatagrams now
          = (.ok (datagrams.map (Bytes.shift settings.maxSegment δ), count),
            { t with roundTrips := t.roundTrips.remember, pool := q }) := by
  obtain ⟨p, hs⟩ := s.snd_flushDatagrams now
  obtain ⟨q, ht⟩ := t.snd_flushDatagrams now
  refine ⟨_, _, p, q, Prod.ext (flushDatagrams_eq_ok now h.body_le) hs, Prod.ext ?_ ht⟩
  rw [flushDatagrams_eq_ok now h.body_le_right, h.overdue_eq, h.segmentRoom_eq,
    Segment.batches_map_shift, List.length_map, List.map_map, List.map_map]
  -- each group is made into the datagram of the other side, moved
  refine congrArg (fun datagrams => Except.ok (datagrams, _)) (List.map_congr_left ?_)
  intro group hgroup
  refine (Header.shift_datagram_data fun r hr => ?_).symm
  obtain ⟨u, hu, rfl⟩ := mem_overdue (Segment.mem_of_mem_batches hgroup hr)
  exact h.fits_of_mem_window hu

end Matches

end Stream

end Redelivery
