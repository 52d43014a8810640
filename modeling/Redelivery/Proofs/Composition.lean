import Redelivery.Proofs.Datagram
import Redelivery.Proofs.Settings
import Redelivery.Stream.Outgoing

/-!
# Datagrams are composed as they read

A stream writes its datagrams into a buffer from the pool, piece by piece. What comes out is the
datagram with the header and the segments that were asked for, whatever the buffer held before, and
it comes out whenever there is room for it.

## Main statements

* `Stream.control_eq_ok`: a datagram that is only a header always comes out.
* `Stream.dataDatagram_eq_ok`, `Stream.of_dataDatagram_eq_ok`: when a datagram with segments comes
  out, and what it is.
* `Segment.sum_fitting_le`, `Segment.sum_le_of_mem_batches`: groups of segments fit into the room
  they were made for.

`Buffer.Extends` is how the parts are put together. Each function that writes has two lemmas: one
says that it succeeds when there is room, and the other that what it leaves extends what was there
by the bytes of what was written. The relation is transitive, and it keeps account of the room, so a
whole datagram is a chain of such steps that starts with an empty buffer.

Control datagrams always fit, because valid settings have room for the longest header
(`ValidSettings.ackSize_le_mtu`). For datagrams with segments it takes the two bounds that
`Segment.fitting` and `Segment.batches` observe when they choose what goes together.
-/

namespace Redelivery

/-! ## Appending to a buffer -/

namespace Buffer

/-- `b'` is `b` with `bytes` appended to its content. -/
def Extends (b : Buffer) (bytes : Bytes) (b' : Buffer) : Prop :=
  b'.content = b.content ++ bytes ∧ b'.capacity = b.capacity

theorem Extends.trans {a b c : Buffer} {x y : Bytes} (h : a.Extends x b) (h' : b.Extends y c) :
    a.Extends (x ++ y) c := by
  refine ⟨?_, h'.2.trans h.2⟩
  rw [h'.1, h.1, List.append_assoc]

theorem length_add_room (b : Buffer) : b.content.length + b.room = b.capacity :=
  b.length_add_length

theorem Extends.room {b b' : Buffer} {bytes : Bytes} (h : b.Extends bytes b') :
    b'.room + bytes.length = b.room := by
  have hb := b.length_add_room
  have hb' := b'.length_add_room
  rw [h.1, h.2, List.length_append] at hb'
  omega

theorem append?_of_length_le (b : Buffer) (bytes : Bytes) (h : bytes.length ≤ b.room) :
    ∃ b', b.append? bytes = some b' ∧ b.Extends bytes b' :=
  ⟨_, dif_pos h, rfl, rfl⟩

theorem extends_of_append? {b b' : Buffer} {bytes : Bytes} (h : b.append? bytes = some b') :
    b.Extends bytes b' := by
  unfold append? at h
  split at h
  · cases h
    exact ⟨rfl, rfl⟩
  · cases h

end Buffer

/-! ## Writing the parts of a datagram -/

namespace Segment

/-- A segment is written if there is room for it and its length fits into the size field. -/
theorem write_of_size_le {s : Segment Bytes} {b : Buffer} (hsize : s.body.length < 2 ^ 16)
    (hroom : s.size ≤ b.room) : ∃ b', s.write b = .ok b' ∧ b.Extends s.encode b' := by
  obtain ⟨b', happend, hext⟩ := b.append?_of_length_le s.encode (by rwa [length_encode])
  refine ⟨b', ?_, hext⟩
  have hsmall : s.body.length < UInt16.size := hsize
  unfold write Word.narrow16?
  rw [if_neg (by omega), happend, if_pos hsmall]

theorem extends_of_write {s : Segment Bytes} {b b' : Buffer} (h : s.write b = .ok b') :
    b.Extends s.encode b' := by
  unfold write at h
  split at h
  · cases h
  · split at h
    · cases h
      exact Buffer.extends_of_append? ‹_›
    · cases h

/-- Segments are written one after the other if there is room for all of them. -/
theorem writeAll_of_sum_le {segments : List (Segment Bytes)} {b : Buffer}
    (hsize : ∀ s ∈ segments, s.body.length < 2 ^ 16)
    (hroom : (segments.map Segment.size).sum ≤ b.room) :
    ∃ b', writeAll segments b = .ok b' ∧ b.Extends (segments.flatMap encode) b' := by
  induction segments generalizing b with
  | nil => exact ⟨b, rfl, by simp, rfl⟩
  | cons s rest ih =>
    rw [List.map_cons, List.sum_cons] at hroom
    obtain ⟨mid, hwrite, hmid⟩ := write_of_size_le (hsize s List.mem_cons_self)
      (b := b) (by omega)
    -- what is left of the room is enough for the rest
    have hleft := hmid.room
    rw [length_encode] at hleft
    obtain ⟨b', hrest, hb'⟩ := ih (b := mid) (fun t ht => hsize t (List.mem_cons_of_mem s ht))
      (by omega)
    refine ⟨b', ?_, hmid.trans hb'⟩
    show (s.write b).bind (writeAll rest) = .ok b'
    rw [hwrite]
    exact hrest

theorem extends_of_writeAll {segments : List (Segment Bytes)} {b b' : Buffer}
    (h : writeAll segments b = .ok b') : b.Extends (segments.flatMap encode) b' := by
  induction segments generalizing b with
  | nil =>
    cases h
    exact ⟨by simp, rfl⟩
  | cons s rest ih =>
    change (s.write b).bind (writeAll rest) = .ok b' at h
    cases hs : s.write b with
    | error e =>
      rw [hs] at h
      cases h
    | ok mid =>
      rw [hs] at h
      exact (extends_of_write hs).trans (ih h)

end Segment

theorem Header.write_of_size_le {h : Header} {b : Buffer} (hroom : h.size ≤ b.room) :
    ∃ b', h.write b = .ok b' ∧ b.Extends h.encode b' := by
  obtain ⟨b', happend, hext⟩ := b.append?_of_length_le h.encode (by rwa [length_encode])
  refine ⟨b', ?_, hext⟩
  unfold write
  rw [happend]

theorem Header.extends_of_write {h : Header} {b b' : Buffer} (hw : h.write b = .ok b') :
    b.Extends h.encode b' := by
  unfold write at hw
  split at hw
  · cases hw
    exact Buffer.extends_of_append? ‹_›
  · cases hw

theorem Frame.stamp_of_le {b : Buffer} (hroom : checksumLength ≤ b.room) :
    ∃ b', stamp b = .ok b' ∧ b.Extends (Bytes.ofUInt32 (checksum b.content)) b' := by
  obtain ⟨b', happend, hext⟩ :=
    b.append?_of_length_le (Bytes.ofUInt32 (checksum b.content)) (by rwa [Bytes.length_ofUInt32])
  refine ⟨b', ?_, hext⟩
  unfold stamp
  rw [happend]

theorem Frame.extends_of_stamp {b b' : Buffer} (h : stamp b = .ok b') :
    b.Extends (Bytes.ofUInt32 (checksum b.content)) b' := by
  unfold stamp at h
  split at h
  · cases h
    exact Buffer.extends_of_append? ‹_›
  · cases h

/-! ## Whole datagrams -/

namespace Stream

/-- What `compose` gives is what was written to an empty buffer as large as a datagram may be,
with its checksum. -/
theorem of_compose_eq_ok {s : Stream} {write : Buffer → Except Failure Buffer} {d : Bytes}
    (h : (s.compose write).1 = .ok d) : ∃ empty written, write empty = .ok written
      ∧ empty.content = [] ∧ empty.capacity = s.settings.mtu ∧ d = Frame.ofPayload written.content
      ∧ (written.capacity = s.settings.mtu → d.length ≤ s.settings.mtu) := by
  unfold compose Pool.compose at h
  refine ⟨(s.pool.take s.settings.mtu).1, ?_⟩
  -- the pool hands out empty buffers, whatever it has kept in them
  generalize hb : (s.pool.take s.settings.mtu).1 = empty at h
  have hcontent : empty.content = [] := by rw [← hb, Pool.content_take]
  have hcapacity : empty.capacity = s.settings.mtu := by rw [← hb, Pool.capacity_take]
  cases hw : write empty with
  | error e => simp [hb, hw, bind, Except.bind] at h
  | ok written =>
    cases hs : Frame.stamp written with
    | error e => simp [hb, hw, hs, bind, Except.bind, Except.mapError] at h
    | ok stamped =>
      have hext := Frame.extends_of_stamp hs
      have hd : stamped.content = d := by
        simpa [hb, hw, hs, bind, Except.bind, Except.mapError] using h
      refine ⟨written, rfl, hcontent, hcapacity, ?_, ?_⟩
      · rw [← hd, hext.1, Frame.ofPayload]
      · intro hcap
        have hroom := stamped.length_add_room
        rw [hext.2, hcap, hd] at hroom
        omega

/-- What `write` appends to an empty buffer comes out with its checksum behind it, if there is room
for that as well. -/
theorem compose_eq_ok {s : Stream} {write : Buffer → Except Failure Buffer} {payload : Bytes}
    (hwrite : ∀ b : Buffer, b.content = [] → b.capacity = s.settings.mtu →
      ∃ b', write b = .ok b' ∧ b.Extends payload b')
    (hlen : payload.length + Frame.checksumLength ≤ s.settings.mtu) :
    (s.compose write).1 = .ok (Frame.ofPayload payload) := by
  have hcontent := Pool.content_take s.pool s.settings.mtu
  have hcapacity := Pool.capacity_take s.pool s.settings.mtu
  obtain ⟨written, hw, hext⟩ := hwrite _ hcontent hcapacity
  have hpayload : written.content = payload := by rw [hext.1, hcontent, List.nil_append]
  have hroom := written.length_add_room
  rw [hpayload, hext.2, hcapacity] at hroom
  obtain ⟨stamped, hs, hstamp⟩ := Frame.stamp_of_le (b := written) (by omega)
  unfold compose Pool.compose
  simp only [hw, hs, bind, Except.bind, Except.mapError]
  rw [hstamp.1, hpayload, Frame.ofPayload]

/-- A datagram that is only a header comes out, with any header: valid settings have room for the
longest one. -/
theorem control_eq_ok (s : Stream) (h : Header) : (s.control h).1 = .ok (h.datagram []) := by
  have hmtu := s.settings.ackSize_le_mtu
  have hsize := h.size_le
  unfold control
  have hwrite : ∀ b : Buffer, b.content = [] → b.capacity = s.settings.mtu →
      ∃ b', (h.write b).mapError Failure.header = .ok b'
        ∧ b.Extends (h.encode ++ ([] : List (Segment Bytes)).flatMap Segment.encode) b' := by
    intro b hcontent hcapacity
    have hroom := b.length_add_room
    rw [hcontent, List.length_nil] at hroom
    obtain ⟨b', hw, hext⟩ := Header.write_of_size_le (h := h) (b := b) (by omega)
    refine ⟨b', by rw [hw]; rfl, ?_⟩
    rwa [List.flatMap_nil, List.append_nil]
  apply compose_eq_ok hwrite
  rw [List.flatMap_nil, List.append_nil, Header.length_encode]
  omega

/-- A datagram that is only a header comes out, and the pool is all that changes. -/
theorem control_eq (s : Stream) (header : Header) :
    ∃ pool, s.control header = (.ok (header.datagram []), { s with pool := pool }) :=
  ⟨_, Prod.ext (s.control_eq_ok header) rfl⟩

theorem length_datagram_nil_le (s : Stream) (h : Header) :
    (h.datagram []).length ≤ s.settings.mtu := by
  have hmtu := s.settings.ackSize_le_mtu
  have hsize := h.size_le
  rw [Header.length_datagram, List.map_nil, List.sum_nil]
  omega

/-- A datagram with segments is what it was asked to be, and no longer than it may be. -/
theorem of_dataDatagram_eq_ok {s : Stream} {segments : List (Segment Bytes)} {d : Bytes}
    (h : (s.dataDatagram segments).1 = .ok d) :
    d = Header.data.datagram segments ∧ d.length ≤ s.settings.mtu := by
  unfold dataDatagram at h
  obtain ⟨empty, written, hw, hcontent, hcapacity, rfl, hlen⟩ := of_compose_eq_ok h
  cases hh : Header.data.write empty with
  | error e => simp [hh, bind, Except.bind, Except.mapError] at hw
  | ok mid =>
    cases hs : Segment.writeAll segments mid with
    | error e => simp [hh, hs, bind, Except.bind, Except.mapError] at hw
    | ok last =>
      have hlast : last = written := by
        simpa [hh, hs, bind, Except.bind, Except.mapError] using hw
      have hext := (Header.extends_of_write hh).trans (Segment.extends_of_writeAll hs)
      rw [hlast] at hext
      refine ⟨?_, hlen (hext.2.trans hcapacity)⟩
      rw [hext.1, hcontent, List.nil_append, Header.datagram]

/-- **A datagram with segments comes out** if it is not too long and no size field is too small. -/
theorem dataDatagram_eq_ok {s : Stream} {segments : List (Segment Bytes)}
    (hsize : ∀ t ∈ segments, t.body.length < 2 ^ 16)
    (hsum : (segments.map Segment.size).sum ≤ s.settings.segmentRoom) :
    (s.dataDatagram segments).1 = .ok (Header.data.datagram segments) := by
  have hmtu := s.settings.segmentRoom_add
  have hplain : Header.data.size = Header.plainSize := rfl
  unfold dataDatagram
  apply compose_eq_ok
  · intro b hcontent hcapacity
    have hroom := b.length_add_room
    rw [hcontent, List.length_nil] at hroom
    obtain ⟨mid, hh, hmid⟩ := Header.write_of_size_le (h := .data) (b := b) (by omega)
    have hleft := hmid.room
    rw [Header.length_encode] at hleft
    obtain ⟨b', hs, hb'⟩ := Segment.writeAll_of_sum_le (b := mid) hsize (by omega)
    refine ⟨b', ?_, hmid.trans hb'⟩
    simp only [hh, hs, bind, Except.bind, Except.mapError]
  · rw [List.length_append, Header.length_encode, Header.length_flatMap_encode]
    omega

end Stream

/-! ## Groups that fit -/

namespace Segment

theorem fitting_sublist (room : Nat) (segments : List (Segment Bytes)) :
    fitting room segments <+: segments := by
  induction segments generalizing room with
  | nil => exact List.nil_prefix
  | cons s rest ih =>
    unfold fitting
    split
    · exact List.prefix_cons_inj s |>.mpr (ih _)
    · exact List.nil_prefix

theorem sum_fitting_le (room : Nat) (segments : List (Segment Bytes)) :
    ((fitting room segments).map Segment.size).sum ≤ room := by
  induction segments generalizing room with
  | nil => exact Nat.zero_le _
  | cons s rest ih =>
    unfold fitting
    split
    · have hrest := ih (room - s.size)
      rw [List.map_cons, List.sum_cons]
      omega
    · exact Nat.zero_le _

/-- What fits is chosen. -/
theorem prefix_fitting {room : Nat} {chosen segments : List (Segment Bytes)}
    (h : chosen <+: segments) (hsum : (chosen.map Segment.size).sum ≤ room) :
    chosen <+: fitting room segments := by
  induction chosen generalizing room segments with
  | nil => exact List.nil_prefix
  | cons s rest ih =>
    cases segments with
    | nil => cases List.prefix_nil.mp h
    | cons t others =>
      obtain ⟨rfl, hrest⟩ := List.cons_prefix_cons.mp h
      rw [List.map_cons, List.sum_cons] at hsum
      -- the first one fits, since all of them do together, and the rest fits into what it leaves
      rw [fitting, if_pos (by omega)]
      exact List.cons_prefix_cons.mpr ⟨rfl, ih hrest (by omega)⟩

/-- Every segment of a group is one of those that were to be grouped. -/
theorem mem_of_mem_batches {room : Nat} {segments group : List (Segment Bytes)}
    (hgroup : group ∈ batches room segments) {s : Segment Bytes} (hs : s ∈ group) :
    s ∈ segments := by
  fun_induction batches room segments with
  | case1 => cases hgroup
  | case2 t rest others ih =>
    rcases List.mem_cons.mp hgroup with rfl | hrest
    · rcases List.mem_cons.mp hs with rfl | hs
      · exact List.mem_cons_self
      · exact List.mem_cons_of_mem t ((fitting_sublist _ _).subset hs)
    · exact List.mem_cons_of_mem t (List.mem_of_mem_drop (ih hrest))

/-- Every segment is in one of the groups. -/
theorem exists_mem_batches {room : Nat} {segments : List (Segment Bytes)} {s : Segment Bytes}
    (h : s ∈ segments) : ∃ group ∈ batches room segments, s ∈ group := by
  fun_induction batches room segments with
  | case1 => cases h
  | case2 t rest others ih =>
    -- what does not come into the first group is grouped after it
    rcases List.mem_cons.mp h with rfl | h
    · exact ⟨_, List.mem_cons_self, List.mem_cons_self⟩
    · obtain ⟨tail, htail⟩ : others <+: rest := fitting_sublist _ _
      rw [← htail, List.mem_append] at h
      rcases h with hfirst | hlater
      · exact ⟨_, List.mem_cons_self, List.mem_cons_of_mem t hfirst⟩
      · have hdrop : rest.drop others.length = tail := by rw [← htail, List.drop_left]
        obtain ⟨group, hgroup, hs⟩ := ih (by rwa [hdrop])
        exact ⟨group, List.mem_cons_of_mem _ hgroup, hs⟩

/-- No group takes more room than there is, if every segment alone has enough. -/
theorem sum_le_of_mem_batches {room : Nat} {segments group : List (Segment Bytes)}
    (hfit : ∀ s ∈ segments, s.size ≤ room) (hgroup : group ∈ batches room segments) :
    (group.map Segment.size).sum ≤ room := by
  fun_induction batches room segments with
  | case1 => cases hgroup
  | case2 t rest others ih =>
    rcases List.mem_cons.mp hgroup with rfl | hrest
    · have ht := hfit t List.mem_cons_self
      -- the others of this group were chosen for the room that its first segment leaves
      have hothers : (others.map Segment.size).sum ≤ room - t.size := sum_fitting_le _ _
      rw [List.map_cons, List.sum_cons]
      omega
    · exact ih (fun s hs => hfit s (List.mem_cons_of_mem t (List.mem_of_mem_drop hs))) hrest

theorem batches_ne_nil {room : Nat} {segments : List (Segment Bytes)} (h : segments ≠ []) :
    batches room segments ≠ [] := by
  fun_cases batches room segments with
  | case1 => exact absurd rfl h
  | case2 => exact List.cons_ne_nil _ _

end Segment

end Redelivery
