import Redelivery.Proofs.Composition
import Redelivery.Proofs.Window.Lookup

/-!
# What an operation leaves alone

Most operations of a stream touch the pool, the counters or a flag, and nothing that decides about
the way of a message. Two states of a stream are *alike* if they agree on all that does; a stream
that is closed stays so.

## Main definitions

* `Stream.Alike`: the windows, the next serial number and the message that is put together agree.
* `Stream.Sends`: a datagram with segments from the send window.

## Main statements

* `Stream.snd_dataDatagrams`, `Stream.snd_flushDatagrams`, `Stream.snd_segmentDatagram`: what making
  datagrams changes.
* `Stream.sends_of_flushDatagrams`: a flush sends what is in the send window.
* `Stream.flushDatagrams_eq_ok`, `Stream.exists_overdue_ne_nil`: a flush sends something, in time.
* `Stream.segmentDatagram_eq_ok`: the datagram for a new segment comes out.

The relation is transitive, and an operation that consists of others is alike because these are.
Where more is needed, the lemmas on second components give the new state as a whole: making
datagrams changes the pool, and a flush the record of round trips besides.

That datagrams come out is said with the bound on bodies as a hypothesis. It is a property of what
was put into the window, so it cannot be had here, but it is all that is needed: `Segment.batches`
and `Segment.fitting` see to the length of the datagram, if only each segment fits for itself.
-/

namespace Redelivery

namespace Stream

/-- The two states agree on all that decides about the way of a message. -/
structure Alike (s s' : Stream) : Prop where
  /-- The settings. -/
  settings : s'.settings = s.settings
  /-- The send window. -/
  sendWindow : s'.sendWindow = s.sendWindow
  /-- The next serial number. -/
  next : s'.next = s.next
  /-- The receive window. -/
  receiveWindow : s'.receiveWindow = s.receiveWindow
  /-- The part of the next message. -/
  assembled : s'.assembled = s.assembled
  /-- Whether that is whole. -/
  complete : s'.complete = s.complete
  /-- The end of the stream is final. -/
  closed : s.closed = true → s'.closed = true

namespace Alike

theorem refl (s : Stream) : s.Alike s :=
  ⟨rfl, rfl, rfl, rfl, rfl, rfl, id⟩

theorem trans {s t u : Stream} (h : s.Alike t) (h' : t.Alike u) : s.Alike u where
  settings := h'.settings.trans h.settings
  sendWindow := h'.sendWindow.trans h.sendWindow
  next := h'.next.trans h.next
  receiveWindow := h'.receiveWindow.trans h.receiveWindow
  assembled := h'.assembled.trans h.assembled
  complete := h'.complete.trans h.complete
  closed hclosed := h'.closed (h.closed hclosed)

end Alike

theorem alike_shut (s : Stream) : s.Alike s.shut :=
  ⟨rfl, rfl, rfl, rfl, rfl, rfl, fun _ => rfl⟩

/-- A segment that is given up closes the stream. -/
theorem closed_abandon (s : Stream) : s.abandon.closed = true := by
  unfold abandon
  split <;> rfl

theorem alike_countSent (s : Stream) (datagram : Bytes) : s.Alike (s.countSent datagram) :=
  ⟨rfl, rfl, rfl, rfl, rfl, rfl, id⟩

theorem alike_giveBack (s : Stream) (buffer : Buffer) : s.Alike (s.giveBack buffer) :=
  ⟨rfl, rfl, rfl, rfl, rfl, rfl, id⟩

theorem alike_prepare (s : Stream) (piece : Bytes) : s.Alike (s.prepare piece).2 :=
  ⟨rfl, rfl, rfl, rfl, rfl, rfl, id⟩

theorem alike_compose (s : Stream) (write : Buffer → Except Failure Buffer) :
    s.Alike (s.compose write).2 :=
  ⟨rfl, rfl, rfl, rfl, rfl, rfl, id⟩

theorem alike_control (s : Stream) (header : Header) : s.Alike (s.control header).2 :=
  s.alike_compose _

theorem alike_acknowledge (s : Stream) : s.Alike s.acknowledge.2 :=
  ⟨rfl, rfl, rfl, rfl, rfl, rfl, id⟩

theorem alike_dataDatagram (s : Stream) (segments : List (Segment Bytes)) :
    s.Alike (s.dataDatagram segments).2 :=
  s.alike_compose _

/-! ## Datagrams from the send window -/

/-- The datagram has segments from the send window, and it is not too long. -/
def Sends (s : Stream) (datagram : Bytes) : Prop :=
  ∃ segments, datagram = Header.data.datagram segments ∧ datagram.length ≤ s.settings.mtu
    ∧ ∀ t ∈ segments, ∃ u, s.sendWindow.find? u.seq = some u ∧ t = u.wire

theorem Sends.congr {s s' : Stream} {datagram : Bytes} (h : s'.Sends datagram)
    (halike : s.Alike s') : s.Sends datagram := by
  obtain ⟨segments, heq, hlen, hfrom⟩ := h
  rw [halike.settings] at hlen
  simp only [halike.sendWindow] at hfrom
  exact ⟨segments, heq, hlen, hfrom⟩

theorem sends_of_dataDatagram {s s' : Stream} {segments : List (Segment Bytes)} {datagram : Bytes}
    (h : s.dataDatagram segments = (.ok datagram, s'))
    (hfrom : ∀ t ∈ segments, ∃ u, s.sendWindow.find? u.seq = some u ∧ t = u.wire) :
    s.Sends datagram := by
  obtain ⟨heq, hlen⟩ := of_dataDatagram_eq_ok (congrArg Prod.fst h)
  exact ⟨segments, heq, hlen, hfrom⟩

/-- Making several datagrams changes nothing but the pool. -/
theorem snd_dataDatagrams (s : Stream) (groups : List (List (Segment Bytes))) :
    ∃ pool, (s.dataDatagrams groups).2 = { s with pool := pool } := by
  induction groups generalizing s with
  | nil => exact ⟨s.pool, rfl⟩
  | cons segments rest ih =>
    have hfirst : (s.dataDatagram segments).2
        = { s with pool := (s.dataDatagram segments).2.pool } := s.snd_compose _
    unfold dataDatagrams
    split
    · rename_i s' heq
      rw [heq] at hfirst
      exact ⟨_, hfirst⟩
    · rename_i datagram s' heq
      rw [heq] at hfirst
      obtain ⟨pool, hrest⟩ := ih s'
      -- nothing but the pool differs after the first datagram, and that is replaced by the others
      have hpool : ({ s' with pool := pool } : Stream) = { s with pool := pool } := by
        have hmid : s' = { s with pool := s'.pool } := hfirst
        rw [hmid]
      rw [hpool] at hrest
      split <;> rename_i heq' <;> rw [heq'] at hrest <;> exact ⟨pool, hrest⟩

theorem sends_of_dataDatagrams {s s' : Stream} {groups : List (List (Segment Bytes))}
    {datagrams : List Bytes} (h : s.dataDatagrams groups = (.ok datagrams, s'))
    (hfrom : ∀ segments ∈ groups, ∀ t ∈ segments,
      ∃ u, s.sendWindow.find? u.seq = some u ∧ t = u.wire) :
    ∀ d ∈ datagrams, s.Sends d := by
  induction groups generalizing s s' datagrams with
  | nil =>
    cases h
    simp
  | cons segments rest ih =>
    have hfirst := s.alike_dataDatagram segments
    unfold dataDatagrams at h
    split at h
    · cases h
    · rename_i datagram mid heq
      rw [heq] at hfirst
      split at h
      · cases h
      · rename_i others last hothers
        cases h
        -- the rest is made in a state that has the same send window
        have hmid : ∀ group ∈ rest, ∀ t ∈ group,
            ∃ u, mid.sendWindow.find? u.seq = some u ∧ t = u.wire := by
          rw [hfirst.sendWindow]
          intro group hgroup
          exact hfrom group (List.mem_cons_of_mem segments hgroup)
        intro d hd
        rcases List.mem_cons.mp hd with rfl | hd
        · exact sends_of_dataDatagram heq (hfrom segments List.mem_cons_self)
        · exact (ih hothers hmid d hd).congr hfirst

/-- A flush changes nothing but the pool and the record of round trips. -/
theorem snd_flushDatagrams (s : Stream) (now : Nat) : ∃ pool, (s.flushDatagrams now).2
    = { s with roundTrips := s.roundTrips.remember, pool := pool } := by
  obtain ⟨pool, heq⟩ := snd_dataDatagrams { s with roundTrips := s.roundTrips.remember }
    (Segment.batches s.settings.segmentRoom (s.overdue now))
  refine ⟨pool, ?_⟩
  unfold flushDatagrams
  simp only
  split <;> rename_i hmade <;> rwa [hmade] at heq

theorem alike_flushDatagrams (s : Stream) (now : Nat) : s.Alike (s.flushDatagrams now).2 := by
  obtain ⟨pool, heq⟩ := s.snd_flushDatagrams now
  rw [heq]
  exact ⟨rfl, rfl, rfl, rfl, rfl, rfl, id⟩

theorem mem_overdue {s : Stream} {now : Nat} {t : Segment Bytes} (h : t ∈ s.overdue now) :
    ∃ u, s.sendWindow.find? u.seq = some u ∧ t = u.wire := by
  obtain ⟨u, hu, rfl⟩ := List.mem_map.mp h
  exact ⟨u, Window.find?_of_mem_entries (List.mem_filter.mp hu).1, rfl⟩

/-- **A flush sends what is in the send window.** -/
theorem sends_of_flushDatagrams {s s' : Stream} {now count : Nat} {datagrams : List Bytes}
    (h : s.flushDatagrams now = (.ok (datagrams, count), s')) : ∀ d ∈ datagrams, s.Sends d := by
  unfold flushDatagrams at h
  simp only at h
  split at h
  · rename_i found last heq
    cases h
    intro d hd
    have hfrom : ∀ group ∈ Segment.batches s.settings.segmentRoom (s.overdue now), ∀ t ∈ group,
        ∃ u, s.sendWindow.find? u.seq = some u ∧ t = u.wire :=
      fun group hgroup t ht => mem_overdue (Segment.mem_of_mem_batches hgroup ht)
    exact (sends_of_dataDatagrams heq hfrom d hd).congr ⟨rfl, rfl, rfl, rfl, rfl, rfl, id⟩
  · cases h

/-- One datagram comes out for each group of segments, if every group fits. -/
theorem dataDatagrams_eq_ok (groups : List (List (Segment Bytes))) {s : Stream}
    (hsize : ∀ group ∈ groups, ∀ t ∈ group, t.body.length < 2 ^ 16)
    (hsum : ∀ group ∈ groups, (group.map Segment.size).sum ≤ s.settings.segmentRoom) :
    (s.dataDatagrams groups).1 = .ok (groups.map Header.data.datagram) := by
  induction groups generalizing s with
  | nil => rfl
  | cons segments rest ih =>
    have hfirst := dataDatagram_eq_ok (hsize segments List.mem_cons_self)
      (hsum segments List.mem_cons_self)
    have halike := s.alike_dataDatagram segments
    unfold dataDatagrams
    split
    · rename_i e s' heq
      rw [heq] at hfirst
      cases hfirst
    · rename_i datagram s' heq
      rw [heq] at hfirst halike
      cases hfirst
      have hrest := ih (s := s') (fun group hgroup => hsize group (List.mem_cons_of_mem _ hgroup))
        (by
          rw [halike.settings]
          exact fun group hgroup => hsum group (List.mem_cons_of_mem _ hgroup))
      split
      · rename_i e s'' heq'
        rw [heq'] at hrest
        cases hrest
      · rename_i datagrams s'' heq'
        rw [heq'] at hrest
        cases hrest
        rfl

/-- **The datagrams of a flush come out**, if no segment of the window is too long. -/
theorem flushDatagrams_eq_ok {s : Stream} (now : Nat)
    (hbody : ∀ u : Segment Buffer, s.sendWindow.find? u.seq = some u →
      u.wire.body.length ≤ s.settings.maxSegment) :
    (s.flushDatagrams now).1 = .ok
      ((Segment.batches s.settings.segmentRoom (s.overdue now)).map Header.data.datagram,
        (s.overdue now).length) := by
  have hfit : ∀ t ∈ s.overdue now,
      t.body.length < 2 ^ 16 ∧ t.size ≤ s.settings.segmentRoom := by
    intro t ht
    obtain ⟨u, hu, rfl⟩ := mem_overdue ht
    have hlen := hbody u hu
    have hsmall := s.settings.maxSegment_lt
    have hroom := s.settings.segmentRoom_eq
    unfold Segment.size
    omega
  have hok := dataDatagrams_eq_ok (s := { s with roundTrips := s.roundTrips.remember })
    (Segment.batches s.settings.segmentRoom (s.overdue now))
    (fun group hgroup t ht => (hfit t (Segment.mem_of_mem_batches hgroup ht)).1)
    fun group hgroup => Segment.sum_le_of_mem_batches (fun t ht => (hfit t ht).2) hgroup
  unfold flushDatagrams
  simp only
  split
  · rename_i datagrams s' heq
    rw [heq] at hok
    cases hok
    rfl
  · rename_i e s' heq
    rw [heq] at hok
    cases hok

/-- Whatever is in the send window is overdue some time. -/
theorem exists_overdue_ne_nil {s : Stream} (h : s.sendWindow.entries ≠ []) :
    ∃ due, ∀ now, due ≤ now → s.overdue now ≠ [] := by
  obtain ⟨u, hu⟩ := List.exists_mem_of_ne_nil _ h
  refine ⟨u.sentAt + s.roundTrips.recentMin, ?_⟩
  intro now hnow
  -- a segment is overdue from a round trip after it was sent
  have hlate : s.roundTrips.recentMin ≤ now - u.sentAt := by omega
  have hmem : u.wire ∈ s.overdue now :=
    List.mem_map_of_mem (List.mem_filter.mpr ⟨hu, decide_eq_true hlate⟩)
  exact List.ne_nil_of_mem hmem

/-! ## A new segment and its datagram -/

/-- The datagram for a new segment changes nothing but the pool. -/
theorem snd_segmentDatagram (s : Stream) :
    ∃ pool, s.segmentDatagram.2 = { s with pool := pool } := by
  unfold segmentDatagram
  split
  · exact ⟨s.pool, rfl⟩
  · rename_i segment hfind
    simp only
    generalize hextra : Segment.fitting _ _ = extra
    have hcompose : (s.dataDatagram (segment.wire :: extra)).2
        = { s with pool := (s.dataDatagram (segment.wire :: extra)).2.pool } := s.snd_compose _
    split <;> rename_i heq <;> rw [heq] at hcompose <;> exact ⟨_, hcompose⟩

theorem alike_segmentDatagram (s : Stream) : s.Alike s.segmentDatagram.2 := by
  obtain ⟨pool, heq⟩ := s.snd_segmentDatagram
  rw [heq]
  exact ⟨rfl, rfl, rfl, rfl, rfl, rfl, id⟩

/-- The earlier segments that go along with a new one. -/
def companions (s : Stream) (u : Segment Buffer) : List (Segment Bytes) :=
  Segment.fitting (s.settings.segmentRoom - u.wire.size)
    ((s.sendWindow.predecessors s.next s.settings.redundancy).map Segment.wire)

/-- What goes into the datagram for a new segment is in the send window. -/
theorem mem_window_of_mem_companions {s : Stream} {u : Segment Buffer}
    (hu : s.sendWindow.find? s.next = some u) {t : Segment Bytes}
    (ht : t ∈ u.wire :: s.companions u) :
    ∃ v, s.sendWindow.find? v.seq = some v ∧ t = v.wire := by
  rcases List.mem_cons.mp ht with rfl | ht
  · exact ⟨u, by rwa [Window.seq_of_find? hu], rfl⟩
  · obtain ⟨v, hv, rfl⟩ := List.mem_map.mp ((Segment.fitting_sublist _ _).subset ht)
    exact ⟨v, Window.find?_of_mem_predecessors hv, rfl⟩

/-- The datagram for a new segment begins with that segment. -/
theorem of_segmentDatagram {s s' : Stream} {datagram : Bytes} {piggybacked : Nat}
    (h : s.segmentDatagram = (.ok (datagram, piggybacked), s')) :
    ∃ u, s.sendWindow.find? s.next = some u
      ∧ datagram = Header.data.datagram (u.wire :: s.companions u)
      ∧ piggybacked = (s.companions u).length ∧ datagram.length ≤ s.settings.mtu := by
  unfold segmentDatagram at h
  split at h
  · cases h
  · rename_i u hfind
    simp only at h
    split at h
    · rename_i d t heq
      cases h
      obtain ⟨hdatagram, hlength⟩ := of_dataDatagram_eq_ok (congrArg Prod.fst heq)
      exact ⟨u, hfind, hdatagram, rfl, hlength⟩
    · cases h

/-- **The datagram for a new segment comes out**, with that segment and others from the window, if
no segment of the window is too long. -/
theorem segmentDatagram_eq_ok {s : Stream} {segment : Segment Buffer}
    (hfind : s.sendWindow.find? s.next = some segment)
    (hbody : ∀ u : Segment Buffer, s.sendWindow.find? u.seq = some u →
      u.wire.body.length ≤ s.settings.maxSegment) :
    ∃ datagram piggybacked, s.segmentDatagram.1 = .ok (datagram, piggybacked)
      ∧ s.Sends datagram := by
  have hself : s.sendWindow.find? segment.seq = some segment := by
    rwa [Window.seq_of_find? hfind]
  have hfirst : segment.wire.size ≤ s.settings.segmentRoom := by
    have hlen := hbody segment hself
    have hroom := s.settings.segmentRoom_eq
    unfold Segment.size
    omega
  unfold segmentDatagram
  rw [hfind]
  simp only
  generalize hextra : Segment.fitting (s.settings.segmentRoom - segment.wire.size)
    ((s.sendWindow.predecessors s.next s.settings.redundancy).map Segment.wire) = extra
  have hfrom : ∀ t ∈ segment.wire :: extra,
      ∃ u, s.sendWindow.find? u.seq = some u ∧ t = u.wire := by
    rw [← hextra]
    exact fun t ht => mem_window_of_mem_companions hfind ht
  have hsize : ∀ t ∈ segment.wire :: extra, t.body.length < 2 ^ 16 := by
    intro t ht
    obtain ⟨u, hu, rfl⟩ := hfrom t ht
    exact Nat.lt_of_le_of_lt (hbody u hu) s.settings.maxSegment_lt
  -- the others are chosen for the room that the new segment leaves
  have hsum : ((segment.wire :: extra).map Segment.size).sum ≤ s.settings.segmentRoom := by
    have hfit := Segment.sum_fitting_le (s.settings.segmentRoom - segment.wire.size)
      ((s.sendWindow.predecessors s.next s.settings.redundancy).map Segment.wire)
    rw [hextra] at hfit
    rw [List.map_cons, List.sum_cons]
    omega
  have hok := dataDatagram_eq_ok hsize hsum
  split
  · rename_i datagram s' heq
    exact ⟨_, _, rfl, sends_of_dataDatagram heq hfrom⟩
  · rename_i e s' heq
    rw [heq] at hok
    cases hok

end Stream

end Redelivery
