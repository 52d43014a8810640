import Redelivery.Proofs.Network.Delivery
import Redelivery.Proofs.Session.Trying
import Redelivery.Proofs.Window.Merging

/-!
# Datagrams arrive in any order

Datagrams may be reordered, repeated and cut differently: what becomes of a receive window depends
only on the segments in them. All that has arrived is there in the end, unless it was taken out
before.

## Main definitions

* `Bytes.brings`, `Bytes.bringsAll`: what is found in a datagram, and in several.
* `Stream.receiveAll`: several datagrams are taken in, one after the other.
* `Network.isUnderWay`: a datagram may arrive at one side.

## Main statements

* `Link.Sound.merges_receiveAll`: what datagrams bring is merged into the receive window.
* `Network.Reachable.merges`: order, repetition and packing make no difference.

One segment is offered to the receive window and merged (`Link.Sound.merges_offer` from the file on
windows): it is added, or it was there already with the same content, or it is behind the base. That
rides on soundness, by which all segments with one count carry the same piece, and on freshness, by
which a count has a single serial number and the other way round. `merges_foldl_storeSegment`,
`merges_receive` and `merges_receiveAll` take that from one segment to those of a datagram, and on
to a list of datagrams.

What is merged depends on a set and no longer on a list: `Window.Merges.contents_eq` says that the
content of the window is determined by the old one and by what was brought. So two lists that bring
the same lead to the same content. What differs is the time that a segment came at, the buffer it is
kept in, the counters and the notice that an acknowledgement is due; these are no part of what is
claimed to be equal.
-/

namespace Redelivery

/-! ## What datagrams bring -/

/-- What a stream with the given settings finds in a datagram that arrives: of each segment that it
can read the serial number, and what it carries. -/
def Bytes.brings (settings : ValidSettings) (now : Nat) (raw : Bytes) : List (Serial × Piece) :=
  match Header.ofDatagram? (raw.take settings.mtu) with
  | some (.data, payload) =>
    (Segment.decodeAll settings.maxSegment now payload).1.map fun found => found.1.content
  | _ => []

/-- What is found in several datagrams, each with the time of its arrival. -/
def Bytes.bringsAll (settings : ValidSettings) (arrived : List (Nat × Bytes)) :
    List (Serial × Piece) :=
  arrived.flatMap fun entry => Bytes.brings settings entry.1 entry.2

namespace Stream

/-- The stream after several datagrams were taken in, one after the other, each at its own time. -/
def receiveAll (s : Stream) (arrived : List (Nat × Bytes)) : Stream :=
  arrived.foldl (fun s entry => (s.receive entry.1 entry.2).1) s

theorem map_content_arrivals (s : Stream) (now : Nat) (raw : Bytes) :
    (s.arrivals now raw).map Segment.content = Bytes.brings s.settings now raw := by
  unfold arrivals Bytes.brings
  rw [Pool.fst_intake]
  cases Header.ofDatagram? (raw.take s.settings.mtu) with
  | none => rfl
  | some found =>
    obtain ⟨header, payload⟩ := found
    cases header with
    | data => exact List.map_map
    | _ => rfl

theorem length_le_of_mem_arrivals {s : Stream} {now : Nat} {raw : Bytes} {t : Segment Bytes}
    (h : t ∈ s.arrivals now raw) : t.body.length ≤ s.settings.maxSegment := by
  unfold arrivals at h
  split at h
  · rename_i payload _
    obtain ⟨row, tail, -, hread, -⟩ :=
      Segment.splits_decodeAll s.settings.maxSegment now payload
    rw [hread] at h
    obtain ⟨w, -, rfl⟩ := List.mem_map.mp h
    exact w.length_le
  · cases h

end Stream

/-! ## What becomes of the receive window -/

namespace Link.Sound

variable {l : Link} {width : Nat} {s : Stream}

/-- Segments are merged one after the other. -/
theorem merges_foldl_storeSegment (h : l.Sound width) (hwindow : s.receiveWindow = l.receiveWindow)
    {segments : List (Segment Bytes)}
    (hbody : ∀ t ∈ segments, t.body.length ≤ s.settings.maxSegment)
    (hbrings : ∀ t ∈ segments, l.Brings width t.content) :
    Link.Sound
        { l with receiveWindow := (segments.foldl Stream.storeSegment s).receiveWindow } width
      ∧ l.receiveWindow.Merges (fun c => c ∈ segments.map Segment.content)
          (segments.foldl Stream.storeSegment s).receiveWindow := by
  induction segments generalizing s l with
  | nil =>
    rw [List.foldl_nil, hwindow]
    exact ⟨h, (Window.Merges.nothing h.receive.tidy).congr fun c => by simp⟩
  | cons t rest ih =>
    obtain ⟨u, pool, hstore, hseq, hpiece⟩ := s.storeSegment_eq t
    have hcontent : u.wire.content = t.content :=
      Prod.ext hseq (hpiece (hbody t List.mem_cons_self))
    have hfirst := hbrings t List.mem_cons_self
    rw [← hcontent] at hfirst
    have hmerged := h.merges_offer hfirst
    obtain ⟨k, hk, hnumber, hlog, hfresh⟩ := hfirst
    have hsound := h.accept hnumber hk hlog hfresh
    rw [List.foldl_cons, hstore, hwindow]
    obtain ⟨hafter, hrest⟩ := ih
      (s := { s with receiveWindow := l.receiveWindow.offer u, pool := pool }) hsound rfl
      (fun v hv => hbody v (List.mem_cons_of_mem t hv))
      fun v hv => hbrings v (List.mem_cons_of_mem t hv)
    refine ⟨hafter, (hmerged.trans hrest).congr fun c => ?_⟩
    rw [hcontent, List.map_cons, List.mem_cons]

/-- **What a datagram brings is merged** into the receive window. -/
theorem merges_receive (h : l.Sound width) (hwindow : s.receiveWindow = l.receiveWindow)
    {now : Nat} {raw : Bytes} (hbrings : ∀ c ∈ Bytes.brings s.settings now raw, l.Brings width c) :
    Link.Sound { l with receiveWindow := (s.receive now raw).1.receiveWindow } width
      ∧ l.receiveWindow.Merges (fun c => c ∈ Bytes.brings s.settings now raw)
          (s.receive now raw).1.receiveWindow := by
  rw [← s.map_content_arrivals] at hbrings ⊢
  rw [s.receiveWindow_receive]
  exact h.merges_foldl_storeSegment (s := s.taking raw) hwindow
    (fun t => Stream.length_le_of_mem_arrivals)
    fun t ht => hbrings _ (List.mem_map_of_mem ht)

/-- **What several datagrams bring is merged** into the receive window. -/
theorem merges_receiveAll (h : l.Sound width) (hwindow : s.receiveWindow = l.receiveWindow)
    (arrived : List (Nat × Bytes))
    (hbrings : ∀ c ∈ Bytes.bringsAll s.settings arrived, l.Brings width c) :
    l.receiveWindow.Merges (fun c => c ∈ Bytes.bringsAll s.settings arrived)
      (s.receiveAll arrived).receiveWindow := by
  induction arrived generalizing s l with
  | nil =>
    show l.receiveWindow.Merges _ s.receiveWindow
    rw [hwindow]
    exact (Window.Merges.nothing h.receive.tidy).congr fun c => by simp [Bytes.bringsAll]
  | cons entry rest ih =>
    obtain ⟨now, raw⟩ := entry
    have hsplit : Bytes.bringsAll s.settings ((now, raw) :: rest)
        = Bytes.brings s.settings now raw ++ Bytes.bringsAll s.settings rest := List.flatMap_cons
    rw [hsplit] at hbrings ⊢
    have hsettings : (s.receive now raw).1.settings = s.settings :=
      (s.heard_told now (.arrived (.datagram raw))).1
    obtain ⟨hafter, hfirst⟩ := h.merges_receive hwindow
      fun c hc => hbrings c (List.mem_append_left _ hc)
    have hrest := ih (s := (s.receive now raw).1) hafter rfl (by
      rw [hsettings]
      exact fun c hc => hbrings c (List.mem_append_right _ hc))
    rw [hsettings] at hrest
    exact (hfirst.trans hrest).congr fun c => List.mem_append.symm

end Link.Sound

/-! ## Any order -/

namespace Network

variable {settings : ValidSettings} {n : Network} {acks : Side → List Ack}

/-- Whether a datagram that was sent from the other side may still arrive at a side. -/
def isUnderWay (n : Network) (z : Side) (raw : Bytes) : Bool :=
  (n.flights z.other).any fun f => f.datagram == raw && n.isFresh z.other f

/-- What a datagram brings that may still arrive has been numbered, not too long ago. -/
theorem Sound.brings_of_isUnderWay (h : n.Sound settings acks) {z : Side} {raw : Bytes}
    (hraw : n.isUnderWay z raw = true) {now : Nat} {c : Serial × Piece}
    (hc : c ∈ Bytes.brings settings now raw) :
    ((n.peer z.other).link settings (n.peer z) (acks z.other)).Brings settings.windowSize c := by
  obtain ⟨f, hf, hboth⟩ := List.any_eq_true.mp hraw
  obtain ⟨heq, hfresh⟩ := (Bool.and_eq_true_iff).mp hboth
  obtain rfl := eq_of_beq heq
  rw [← (h.peer z).settings_eq] at hc
  change c ∈ Bytes.brings (n.peer z).stream.settings now f.datagram at hc
  rw [← Stream.map_content_arrivals] at hc
  obtain ⟨t, ht, rfl⟩ := List.mem_map.mp hc
  have hcarries := h.carries_of_mem_arrivals hf ht
  exact (h.of_mem_arrivals hcarries (lt_of_isFresh hcarries hfresh) ht).2

/-- **Order, repetition and packing make no difference.** Datagrams that may still arrive at one
side, in any order and any number of times, bring segments into its receive window. If nothing is
read in between, the base stays where it is, and besides what was there before the window holds just
those of the segments that are not before its base. Any other datagrams in which the same segments
are found leave the same base, the same size and the same content, place by place. -/
theorem Reachable.merges (h : Reachable settings n) (z : Side) {arrived other : List (Nat × Bytes)}
    (hunderway : ∀ entry ∈ arrived, n.isUnderWay z entry.2 = true)
    (hsame : ∀ c, c ∈ Bytes.bringsAll settings other ↔ c ∈ Bytes.bringsAll settings arrived) :
    (n.peer z).stream.receiveWindow.Merges (fun c => c ∈ Bytes.bringsAll settings arrived)
        ((n.peer z).stream.receiveAll arrived).receiveWindow
      ∧ ((n.peer z).stream.receiveAll other).receiveWindow.base
        = ((n.peer z).stream.receiveAll arrived).receiveWindow.base
      ∧ ((n.peer z).stream.receiveAll other).receiveWindow.contents
        = ((n.peer z).stream.receiveAll arrived).receiveWindow.contents
      ∧ ((n.peer z).stream.receiveAll other).receiveWindow.size
        = ((n.peer z).stream.receiveAll arrived).receiveWindow.size := by
  obtain ⟨acks, hsound⟩ := h.sound
  have hlink := hsound.link_other z
  have hsettings : (n.peer z).stream.settings = settings := (hsound.peer z).settings_eq
  have hbrings : ∀ c ∈ Bytes.bringsAll settings arrived,
      ((n.peer z.other).link settings (n.peer z) (acks z.other)).Brings settings.windowSize c := by
    intro c hc
    obtain ⟨entry, hentry, hc⟩ := List.mem_flatMap.mp hc
    exact hsound.brings_of_isUnderWay (hunderway entry hentry) hc
  have hmerged := hlink.merges_receiveAll (s := (n.peer z).stream) rfl arrived (by
    rwa [hsettings])
  have hother := hlink.merges_receiveAll (s := (n.peer z).stream) rfl other (by
    rw [hsettings]
    exact fun c hc => hbrings c ((hsame c).mp hc))
  rw [hsettings] at hmerged hother
  obtain ⟨hcontents, hsize⟩ := (hother.congr hsame).contents_eq hmerged hlink.capacity_le
  exact ⟨hmerged, hother.base_eq.trans hmerged.base_eq.symm, hcontents, hsize⟩

/-- Two messages of a byte each, of which the second one was sent together with the first one, arrive
late, twice and out of order. It is as if each had arrived once, and in order. -/
theorem merges_repairedLoss :
    let first : Segment Bytes := ⟨⟨0xFFFFFFFF⟩, false, [7], 0⟩
    let second : Segment Bytes := ⟨⟨0⟩, false, [9], 0⟩
    let both := Header.data.datagram [second, first]
    ∃ n, Reachable narrowSettings n
      ∧ ((n.peer .b).stream.receiveAll
            [(3, both), (4, Header.data.datagram [first]), (5, both)]).receiveWindow.contents
        = #[some second.content, some first.content]
      ∧ ((n.peer .b).stream.receiveAll [(1, Header.data.datagram [first]),
            (2, Header.data.datagram [second])]).receiveWindow.contents
        = #[some second.content, some first.content] := by
  intro first second both
  let alone := Header.data.datagram [first]
  let arrived : List (Nat × Bytes) := [(3, both), (4, alone), (5, both)]
  let other : List (Nat × Bytes) := [(1, alone), (2, Header.data.datagram [second])]
  have hrun : (narrowStart.run? (repairedLoss.take 4)).map (fun n =>
      (arrived.all fun entry => n.isUnderWay .b entry.2,
        ((n.peer .b).stream.receiveAll arrived).receiveWindow.contents.toList))
      = some (true, [some second.content, some first.content]) := by
    decide +kernel
  obtain ⟨n, hn, hview⟩ := exists_reachable narrowStart_isStart _ hrun
  obtain ⟨hunderway, hcontents⟩ := Prod.mk.inj hview
  have hbrought : Bytes.bringsAll narrowSettings arrived
        = [second.content, first.content, first.content, second.content, first.content]
      ∧ Bytes.bringsAll narrowSettings other = [first.content, second.content] := by
    decide +kernel
  have hsame (c : Serial × Piece) : c ∈ Bytes.bringsAll narrowSettings other
      ↔ c ∈ Bytes.bringsAll narrowSettings arrived := by
    rw [hbrought.1, hbrought.2]
    simp only [List.mem_cons, List.not_mem_nil, or_false]
    tauto
  obtain ⟨-, -, hequal, -⟩ := Reachable.merges hn .b (List.all_eq_true.mp hunderway) hsame
  have hcontents : ((n.peer .b).stream.receiveAll arrived).receiveWindow.contents
      = #[some second.content, some first.content] := Array.toList_inj.mp hcontents
  exact ⟨n, hn, hcontents, hequal.trans hcontents⟩

end Network

end Redelivery
