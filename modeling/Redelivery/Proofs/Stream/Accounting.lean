import Redelivery.Proofs.Session.Reader
import Redelivery.Proofs.Session.Writer
import Redelivery.Proofs.Stream.Receiving
import Redelivery.Proofs.Window.Trailing

/-!
# The books on segments

A stream counts the segments that it sends along with new ones, those that it sends again in a flush
and those that are acknowledged. Some of this is counted before the datagrams are sent and some of
it afterwards, so the books balance only together with what an agent is in the middle of: how many
segments are in the datagrams that it has yet to send, and how many of them are still to be counted.

The counters are words and wrap around, so the balances are balances of words.

## Main definitions

* `Bytes.segmentCount`, `Bytes.segmentTotal`: the number of segments in datagrams.
* `Work`: what an agent is in the middle of.
* `Stream.Balanced`: the books balance.
* `Stream.SameBooks`: nothing happened that is on the books.

## Main statements

* `Stream.Balanced.receive`: whatever arrives.
* `Stream.Balanced.numbered`, `Stream.Balanced.commit`: a new segment is handed over, and sent.
* `Stream.segmentTotal_flushDatagrams`: what a flush counts is what it sends.

A writer counts what it sends along only when the datagram is out, and a flush counts what it sends
again before any of it is out. So `Work` has two numbers for what is on its way through an agent,
and the equation for what was sent has one of them on either side. `Stream.Balanced.numbered` opens
such an account and `Stream.Balanced.commit` closes it.

Of the two equations one is about the send window. That one needs more than counting: an
acknowledgement removes as many segments as the window gets smaller by
(`Window.Tidy.size_acknowledge`), and a new segment takes a place that was empty, which holds
because the window trails behind the next serial number (`Window.Trails`). The trail is part of the
balance for that reason only. Whatever touches neither the send window nor one of these counters
keeps the balance by `Stream.SameBooks.balanced`, and there is a line for each such operation.
-/

namespace Redelivery

/-! ## Segments in a datagram -/

/-- The number of segments that can be read in a datagram. -/
def Bytes.segmentCount (datagram : Bytes) : Nat :=
  match Header.ofDatagram? datagram with
  | some (.data, payload) => (Segment.decodeAll (2 ^ 16) 0 payload).1.length
  | _ => 0

theorem Bytes.segmentCount_data {segments : List (Segment Bytes)}
    (h : ∀ t ∈ segments, t.body.length < 2 ^ 16) :
    (Header.data.datagram segments).segmentCount = segments.length := by
  obtain ⟨found, hdecode, hmap⟩ := Segment.decodeAll_flatMap_encode 0 segments
    fun t ht => ⟨Nat.le_of_lt (h t ht), h t ht⟩
  have hlength := congrArg List.length hmap
  rw [List.length_map, List.length_map] at hlength
  unfold segmentCount
  rw [Header.ofDatagram?_datagram]
  simp only [hdecode, hlength]

/-- A datagram that is only a header has no segments in it. -/
theorem Bytes.segmentCount_nil (header : Header) :
    (header.datagram []).segmentCount = 0 := by
  by_cases hdata : header = .data
  · rw [hdata, segmentCount_data fun _ h => absurd h List.not_mem_nil]
    rfl
  · unfold segmentCount
    rw [Header.ofDatagram?_datagram]
    cases header with
    | data => exact absurd rfl hdata
    | _ => rfl

/-- The number of segments in several datagrams. -/
def Bytes.segmentTotal (datagrams : List Bytes) : Nat :=
  (datagrams.map segmentCount).sum

@[simp]
theorem Bytes.segmentTotal_nil : segmentTotal [] = 0 :=
  rfl

@[simp]
theorem Bytes.segmentTotal_cons (datagram : Bytes) (rest : List Bytes) :
    segmentTotal (datagram :: rest) = datagram.segmentCount + segmentTotal rest :=
  List.sum_cons

theorem Bytes.segmentTotal_append (datagrams more : List Bytes) :
    segmentTotal (datagrams ++ more) = segmentTotal datagrams + segmentTotal more := by
  unfold segmentTotal
  rw [List.map_append, List.sum_append]

/-- Groups of segments have as many segments as the list that was cut. -/
theorem Segment.sum_length_batches (room : Nat) (segments : List (Segment Bytes)) :
    ((batches room segments).map List.length).sum = segments.length := by
  fun_induction batches room segments with
  | case1 => rfl
  | case2 s rest others ih =>
    have hle : others.length ≤ rest.length := (fitting_sublist (room - s.size) rest).length_le
    rw [List.map_cons, List.sum_cons, ih, List.length_cons, List.length_cons, List.length_drop]
    omega

/-! ## The books -/

/-- No segments are counted yet. -/
structure Traffic.NoSegments (t : Traffic) : Prop where
  /-- None went along with new ones. -/
  piggybacked : t.segmentsPiggybacked = 0
  /-- None were sent again. -/
  resent : t.segmentsResent = 0
  /-- None were acknowledged. -/
  acknowledged : t.segmentsAcknowledged = 0

/-- What an agent is in the middle of, as far as it is on the books. -/
structure Work where
  /-- Whether it sends a new segment. -/
  sending : Bool := false
  /-- The number of segments in the datagrams that it has yet to send. -/
  due : Nat := 0
  /-- The number of segments that it has yet to count as sent along or sent again. -/
  uncounted : Nat := 0

/-- An agent that is not in the middle of anything. -/
def Work.none : Work := {}

namespace Stream

/-- The serial number behind all that have been given to segments. -/
def upcoming (s : Stream) (work : Work) : Serial :=
  if work.sending then s.next.next else s.next

/-- **The books balance**, when `assigned` segments have got numbers, from `first` on, and there were
`sent` segments in the datagrams that were sent. -/
structure Balanced (s : Stream) (first : Serial) (work : Work) (assigned sent : Nat) : Prop where
  /-- Numbers were given in a row. -/
  upcoming_eq : s.upcoming work = first + assigned
  /-- The send window holds none but those that were numbered last. -/
  trails : s.sendWindow.Trails (s.upcoming work)
  /-- What was numbered is in the send window, or was acknowledged. -/
  assigned_eq : UInt64.ofNat assigned
    = s.traffic.segmentsAcknowledged + UInt64.ofNat s.sendWindow.size
  /-- What was sent is new, was sent along or was sent again. -/
  sent_eq : UInt64.ofNat sent + UInt64.ofNat work.due
    = UInt64.ofNat assigned + s.traffic.segmentsPiggybacked + s.traffic.segmentsResent
      + UInt64.ofNat work.uncounted

/-- Nothing happened that is on the books. -/
structure SameBooks (s s' : Stream) : Prop where
  /-- The send window. -/
  sendWindow : s'.sendWindow = s.sendWindow
  /-- The next serial number. -/
  next : s'.next = s.next
  /-- What was sent along. -/
  piggybacked : s'.traffic.segmentsPiggybacked = s.traffic.segmentsPiggybacked
  /-- What was sent again. -/
  resent : s'.traffic.segmentsResent = s.traffic.segmentsResent
  /-- What was acknowledged. -/
  acknowledged : s'.traffic.segmentsAcknowledged = s.traffic.segmentsAcknowledged

variable {s s' t : Stream} {first : Serial} {work : Work} {assigned sent : Nat}

namespace SameBooks

theorem refl (s : Stream) : s.SameBooks s :=
  ⟨rfl, rfl, rfl, rfl, rfl⟩

theorem trans (h : s.SameBooks s') (h' : s'.SameBooks t) : s.SameBooks t where
  sendWindow := h'.sendWindow.trans h.sendWindow
  next := h'.next.trans h.next
  piggybacked := h'.piggybacked.trans h.piggybacked
  resent := h'.resent.trans h.resent
  acknowledged := h'.acknowledged.trans h.acknowledged

theorem balanced (h : s.SameBooks s') (hs : s.Balanced first work assigned sent) :
    s'.Balanced first work assigned sent := by
  have hupcoming : s'.upcoming work = s.upcoming work := by
    unfold upcoming
    rw [h.next]
  constructor
  · rw [hupcoming]
    exact hs.upcoming_eq
  · rw [hupcoming, h.sendWindow]
    exact hs.trails
  · rw [h.sendWindow, h.acknowledged]
    exact hs.assigned_eq
  · rw [h.piggybacked, h.resent]
    exact hs.sent_eq

end SameBooks

/-! ### What is not on the books -/

theorem sameBooks_countSent (s : Stream) (datagram : Bytes) : s.SameBooks (s.countSent datagram) :=
  ⟨rfl, rfl, rfl, rfl, rfl⟩

theorem sameBooks_giveBack (s : Stream) (buffer : Buffer) : s.SameBooks (s.giveBack buffer) :=
  ⟨rfl, rfl, rfl, rfl, rfl⟩

theorem sameBooks_prepare (s : Stream) (piece : Bytes) : s.SameBooks (s.prepare piece).2 :=
  ⟨rfl, rfl, rfl, rfl, rfl⟩

theorem sameBooks_compose (s : Stream) (write : Buffer → Except Failure Buffer) :
    s.SameBooks (s.compose write).2 :=
  ⟨rfl, rfl, rfl, rfl, rfl⟩

theorem sameBooks_control (s : Stream) (header : Header) : s.SameBooks (s.control header).2 :=
  s.sameBooks_compose _

theorem sameBooks_acknowledge (s : Stream) : s.SameBooks s.acknowledge.2 :=
  ⟨rfl, rfl, rfl, rfl, rfl⟩

theorem sameBooks_flushDatagrams (s : Stream) (now : Nat) :
    s.SameBooks (s.flushDatagrams now).2 := by
  obtain ⟨pool, heq⟩ := s.snd_flushDatagrams now
  rw [heq]
  exact ⟨rfl, rfl, rfl, rfl, rfl⟩

theorem sameBooks_deliver (s : Stream) (buffer : Bytes) : s.SameBooks (s.deliver buffer).1 := by
  have hdelivers := s.deliver_delivers buffer
  generalize s.deliver buffer = r at hdelivers ⊢
  cases hdelivers <;> exact ⟨rfl, rfl, rfl, rfl, rfl⟩

theorem sameBooks_foldl_storeSegment (s : Stream) (segments : List (Segment Bytes)) :
    s.SameBooks (segments.foldl storeSegment s) := by
  induction segments generalizing s with
  | nil => exact .refl s
  | cons segment rest ih =>
    obtain ⟨u, pool, heq, -⟩ := s.storeSegment_eq segment
    have hfirst : s.SameBooks (s.storeSegment segment) := by
      rw [heq]
      exact ⟨rfl, rfl, rfl, rfl, rfl⟩
    exact hfirst.trans (ih _)

/-! ### What is -/

/-- At first nothing is on the books. -/
theorem balanced_establish (settings : ValidSettings) (pool : Pool) {traffic : Traffic}
    (h : traffic.NoSegments) :
    ({ Stream.establish settings pool with traffic := traffic } : Stream).Balanced
      settings.initialSerial .none 0 0 where
  upcoming_eq := (Serial.add_zero _).symm
  trails :=
    .empty settings.windowSize_pos settings.windowSize_dvd settings.two_mul_windowSize_le _
  assigned_eq := by
    show UInt64.ofNat 0 = traffic.segmentsAcknowledged + UInt64.ofNat 0
    rw [h.acknowledged]
    rfl
  sent_eq := by
    show UInt64.ofNat 0 + UInt64.ofNat 0 = UInt64.ofNat 0 + traffic.segmentsPiggybacked
      + traffic.segmentsResent + UInt64.ofNat 0
    rw [h.piggybacked, h.resent]
    rfl

namespace Balanced

/-- **An acknowledgement**, whatever it says. -/
theorem processAck (h : s.Balanced first work assigned sent) (now : Nat) (next : Serial)
    (received : UInt32) : (s.processAck now next received).Balanced first work assigned sent where
  upcoming_eq := h.upcoming_eq
  trails := h.trails.acknowledge next received
  assigned_eq := by
    have hsize := h.trails.tidy.size_acknowledge h.trails.capacity_le next received
    have hassigned := h.assigned_eq
    rw [← hsize, UInt64.ofNat_add] at hassigned
    show UInt64.ofNat assigned = s.traffic.segmentsAcknowledged
      + UInt64.ofNat (s.sendWindow.acknowledge next received).removed.toList.length
      + UInt64.ofNat (s.sendWindow.acknowledge next received).window.size
    rw [hassigned, Array.length_toList]
    grind
  sent_eq := h.sent_eq

/-- **Whatever arrives** leaves the books balanced. -/
theorem receive (h : s.Balanced first work assigned sent) (now : Nat) (raw : Bytes) :
    (s.receive now raw).1.Balanced first work assigned sent := by
  have htaking : (s.taking raw).Balanced first work assigned sent :=
    SameBooks.balanced (s := s) ⟨rfl, rfl, rfl, rfl, rfl⟩ h
  show ((s.taking raw).process now (s.pool.intake s.settings.mtu raw).1).1.Balanced first work
    assigned sent
  unfold process
  split
  · exact SameBooks.balanced (s := s.taking raw) ⟨rfl, rfl, rfl, rfl, rfl⟩ htaking
  · rename_i payload hheader
    -- all that data changes besides the receive window is a counter that is not on the books
    have hstored := (s.taking raw).sameBooks_foldl_storeSegment
      ((Segment.decodeAll (s.taking raw).settings.maxSegment now payload).1.map (·.1))
    have hbooks : (s.taking raw).SameBooks ((s.taking raw).processData now payload) := by
      refine hstored.trans ⟨rfl, rfl, ?_, ?_, ?_⟩ <;>
        · simp only [processData]
          split <;> rfl
    exact hbooks.balanced htaking
  · exact htaking.processAck now _ _
  · exact htaking
  · exact htaking

/-- **A new segment** gets its number, and is handed over with some of those before it. -/
theorem numbered (h : s.Balanced first .none assigned sent) {now : Nat} {body : Buffer}
    {more : Bool} (hinsert : s.insert? now body more = some t)
    {datagram : Bytes} {piggybacked : Nat}
    (hmade : t.segmentDatagram = (.ok (datagram, piggybacked), s'))
    (hcount : datagram.segmentCount = piggybacked + 1) :
    s'.Balanced first ⟨true, datagram.segmentCount, piggybacked⟩ (assigned + 1) sent := by
  obtain ⟨pool, hs'⟩ := t.snd_segmentDatagram
  rw [hmade] at hs'
  unfold insert? at hinsert
  split at hinsert
  · rename_i window hwrite
    cases hinsert
    obtain ⟨htrails, hsize⟩ := h.trails.store rfl hwrite
    have hassigned := h.assigned_eq
    have hsent := h.sent_eq
    have hupcoming : s.next = first + assigned := h.upcoming_eq
    simp only at hs'
    subst hs'
    refine ⟨?_, htrails, ?_, ?_⟩
    · show s.next.next = first + (assigned + 1)
      rw [hupcoming, Serial.next_add]
    · show UInt64.ofNat (assigned + 1)
        = s.traffic.segmentsAcknowledged + UInt64.ofNat window.size
      rw [hsize, UInt64.ofNat_add, UInt64.ofNat_add, hassigned]
      grind
    · show UInt64.ofNat sent + UInt64.ofNat datagram.segmentCount
        = UInt64.ofNat (assigned + 1) + s.traffic.segmentsPiggybacked + s.traffic.segmentsResent
          + UInt64.ofNat piggybacked
      rw [hcount, UInt64.ofNat_add, UInt64.ofNat_add]
      simp only [Work.none] at hsent
      grind
  · rename_i hpresent
    exact absurd h.trails.find?_eq_none (Window.find?_ne_none_of_write_eq_present hpresent)
  · cases hinsert

/-- **A new segment was sent.** -/
theorem commit {datagram : Bytes} {piggybacked : Nat}
    (h : s.Balanced first ⟨true, datagram.segmentCount, piggybacked⟩ assigned sent) :
    ((s.countSent datagram).commit piggybacked).Balanced first .none assigned
      (sent + datagram.segmentCount) where
  upcoming_eq := h.upcoming_eq
  trails := h.trails
  assigned_eq := h.assigned_eq
  sent_eq := by
    have hsent := h.sent_eq
    show UInt64.ofNat (sent + datagram.segmentCount) + UInt64.ofNat 0
      = UInt64.ofNat assigned + (s.traffic.segmentsPiggybacked + UInt64.ofNat piggybacked)
        + s.traffic.segmentsResent + UInt64.ofNat 0
    rw [UInt64.ofNat_add]
    simp only at hsent
    grind

end Balanced

/-! ### The segments in what is handed over -/

section

variable {d : Bytes}

/-- In the datagram with a new segment are those that were sent along and the new one. -/
theorem segmentCount_segmentDatagram {piggybacked : Nat}
    (hbody : ∀ u : Segment Buffer, s.sendWindow.find? u.seq = some u →
      u.wire.body.length ≤ s.settings.maxSegment)
    (h : s.segmentDatagram = (.ok (d, piggybacked), s')) :
    d.segmentCount = piggybacked + 1 := by
  obtain ⟨u, hu, rfl, rfl, -⟩ := of_segmentDatagram h
  rw [Bytes.segmentCount_data]
  · rfl
  · intro t ht
    obtain ⟨v, hv, rfl⟩ := mem_window_of_mem_companions hu ht
    exact Nat.lt_of_le_of_lt (hbody v hv) s.settings.maxSegment_lt

/-- **What a flush counts** is what it sends. -/
theorem segmentTotal_flushDatagrams {now count : Nat} {datagrams : List Bytes}
    (hbody : ∀ u : Segment Buffer, s.sendWindow.find? u.seq = some u →
      u.wire.body.length ≤ s.settings.maxSegment)
    (h : s.flushDatagrams now = (.ok (datagrams, count), s')) :
    Bytes.segmentTotal datagrams = count := by
  have hmade := flushDatagrams_eq_ok now hbody
  rw [h] at hmade
  cases hmade
  have hcount : ∀ group ∈ Segment.batches s.settings.segmentRoom (s.overdue now),
      (Header.data.datagram group).segmentCount = group.length := by
    intro group hgroup
    refine Bytes.segmentCount_data fun t ht => ?_
    obtain ⟨u, hu, rfl⟩ := mem_overdue (Segment.mem_of_mem_batches hgroup ht)
    exact Nat.lt_of_le_of_lt (hbody u hu) s.settings.maxSegment_lt
  have hcounts : (Segment.batches s.settings.segmentRoom (s.overdue now)).map
      (Bytes.segmentCount ∘ Header.data.datagram)
      = (Segment.batches s.settings.segmentRoom (s.overdue now)).map List.length :=
    List.map_congr_left hcount
  rw [Bytes.segmentTotal, List.map_map, hcounts, Segment.sum_length_batches]

end

end Stream

end Redelivery
