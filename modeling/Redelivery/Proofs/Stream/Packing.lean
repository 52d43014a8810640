import Mathlib.Data.List.Chain
import Redelivery.Proofs.Strict.Stream
import Redelivery.Proofs.Window.Entries

/-!
# How segments are packed

A flush puts all segments that are due into datagrams, in order, and begins a new datagram only
where the next segment has no room in the current one. What comes out is said here in terms of what
a receiver reads in it.

## Main definitions

* `Bytes.segments?`: the segments that are read in a datagram.
* `Bytes.Packs`: datagrams are filled with groups of segments, one after the other.
* `Stream.Repacks`: a flush puts what is due into datagrams.

## Main statements

* `Segment.flatten_batches`, `Segment.isChain_batches`: groups of segments that fit.
* `Stream.Sound.repacks`: what comes out of a flush.

The greedy choice is in `Segment.fitting`, and what makes it greedy is `Segment.lt_sum_fitting_add`:
the first segment that was left out would not have fitted. `Segment.isChain_batches` is the
induction that carries this over to neighbouring groups, and it follows the recursion of
`Segment.batches`. What is read in a datagram is known from the lemmas on reading back, so that
`Bytes.Packs` need not mention how a datagram is made.

For a flush it remains to say in which order the due segments are. The window lists its segments
from the base on (`Window.Near.lists_entries`), and what is filtered out of a list keeps its order.
-/

namespace Redelivery

/-! ## Groups that are full -/

namespace Segment

variable {room : Nat} {segments : List (Segment Bytes)}

/-- The groups are the list, cut. -/
theorem flatten_batches (room : Nat) (segments : List (Segment Bytes)) :
    (batches room segments).flatten = segments := by
  fun_induction batches room segments with
  | case1 => rfl
  | case2 s rest others ih =>
    rw [List.flatten_cons, ih, List.cons_append]
    obtain ⟨tail, htail⟩ : others <+: rest := fitting_sublist _ _
    rw [← htail, List.drop_left]

theorem ne_nil_of_mem_batches {group : List (Segment Bytes)}
    (h : group ∈ batches room segments) : group ≠ [] := by
  fun_induction batches room segments with
  | case1 => cases h
  | case2 s rest others ih =>
    rcases List.mem_cons.mp h with rfl | hrest
    · exact List.cons_ne_nil _ _
    · exact ih hrest

/-- The segment behind those that fit would not fit, too. -/
theorem lt_sum_fitting_add {t : Segment Bytes} {tail : List (Segment Bytes)}
    (h : segments.drop (fitting room segments).length = t :: tail) :
    room < ((fitting room segments).map size).sum + t.size := by
  induction segments generalizing room with
  | nil => cases h
  | cons s rest ih =>
    unfold fitting at h ⊢
    split at h
    · rename_i hroom
      rw [if_pos hroom]
      have hrest := ih h
      rw [List.map_cons, List.sum_cons]
      omega
    · rename_i hroom
      rw [if_neg hroom]
      cases h
      rw [List.map_nil, List.sum_nil]
      omega

/-- **A group ends** only where the next segment would not fit into it. -/
theorem isChain_batches (room : Nat) (segments : List (Segment Bytes)) :
    (batches room segments).IsChain fun group group' =>
      ∀ t ∈ group'.head?, room < (group.map size).sum + t.size := by
  fun_induction batches room segments with
  | case1 => exact .nil
  | case2 s rest others ih =>
    refine List.isChain_cons.mpr ⟨fun group hgroup t ht => ?_, ih⟩
    -- the next group begins with the segment behind those that fit
    cases hrest : rest.drop others.length with
    | nil =>
      rw [hrest, batches] at hgroup
      cases hgroup
    | cons u tail =>
      rw [hrest, batches] at hgroup
      cases hgroup
      cases ht
      have hlt : room - s.size < (others.map size).sum + t.size := lt_sum_fitting_add hrest
      rw [List.map_cons, List.sum_cons]
      omega

end Segment

/-! ## What is read in a datagram -/

namespace Bytes

/-- The segments that are read in a datagram, if it is one with data all of which can be read. -/
def segments? (limit now : Nat) (datagram : Bytes) : Option (List (Segment Bytes)) :=
  match Header.ofDatagram? datagram with
  | some (.data, payload) =>
    match Segment.decodeAll limit now payload with
    | (found, none) => some (found.map (·.1))
    | (_, some _) => none
  | _ => none

theorem segments?_datagram {limit : Nat} (now : Nat) {group : List (Segment Bytes)}
    (h : ∀ t ∈ group, t.body.length ≤ limit ∧ t.body.length < 2 ^ 16) :
    segments? limit now (Header.data.datagram group)
      = some (group.map (Segment.arrivedAt now)) := by
  obtain ⟨found, hfound, hmap⟩ := Segment.decodeAll_flatMap_encode now group h
  unfold segments?
  rw [Header.ofDatagram?_datagram]
  simp only [hfound, hmap]

/-- The datagrams are filled with the groups of segments, one after the other. -/
structure Packs (settings : ValidSettings) (groups : List (List (Segment Bytes)))
    (datagrams : List Bytes) : Prop where
  /-- Each group is read in its datagram: serial numbers, flags and bodies are as they were. -/
  reads : ∀ now, datagrams.map (segments? settings.maxSegment now)
    = groups.map fun group => some (group.map (Segment.arrivedAt now))
  /-- No datagram is without segments. -/
  filled : ∀ group ∈ groups, group ≠ []
  /-- No datagram is too long. -/
  length_le : ∀ d ∈ datagrams, d.length ≤ settings.mtu
  /-- A datagram is begun only if its first segment would have made the one before it too long. -/
  full : datagrams.IsChain fun d d' =>
    ∀ t rest, segments? settings.maxSegment 0 d' = some (t :: rest) →
      settings.mtu < d.length + t.size

end Bytes

theorem Header.length_data_datagram (settings : ValidSettings) (group : List (Segment Bytes)) :
    (Header.data.datagram group).length + settings.segmentRoom
      = settings.mtu + (group.map Segment.size).sum := by
  have hroom := settings.segmentRoom_add
  have hplain : Header.data.size = Header.plainSize := rfl
  rw [Header.length_datagram]
  omega

/-- **Groups that fit are packed**, as long as no segment is too long. -/
theorem Segment.packs_batches {settings : ValidSettings} {segments : List (Segment Bytes)}
    (h : ∀ t ∈ segments, t.body.length ≤ settings.maxSegment) :
    Bytes.Packs settings (batches settings.segmentRoom segments)
      ((batches settings.segmentRoom segments).map Header.data.datagram) := by
  have hroom := settings.segmentRoom_eq
  have hsmall := settings.maxSegment_lt
  have hbody : ∀ group ∈ batches settings.segmentRoom segments, ∀ t ∈ group,
      t.body.length ≤ settings.maxSegment ∧ t.body.length < 2 ^ 16 := by
    intro group hgroup t ht
    have hlen := h t (mem_of_mem_batches hgroup ht)
    exact ⟨hlen, Nat.lt_of_le_of_lt hlen hsmall⟩
  refine ⟨fun now => ?_, fun group => ne_nil_of_mem_batches, fun d hd => ?_, ?_⟩
  · rw [List.map_map]
    exact List.map_congr_left fun group hgroup => Bytes.segments?_datagram now (hbody group hgroup)
  · obtain ⟨group, hgroup, rfl⟩ := List.mem_map.mp hd
    have hsum : (group.map size).sum ≤ settings.segmentRoom := by
      refine sum_le_of_mem_batches (fun t ht => ?_) hgroup
      have hlen := h t ht
      unfold size
      omega
    have hlength := Header.length_data_datagram settings group
    omega
  · rw [List.isChain_map]
    refine (isChain_batches settings.segmentRoom segments).imp_of_mem_imp ?_
    intro group group' _ hgroup' hfull t rest hread
    rw [Bytes.segments?_datagram 0 (hbody group' hgroup')] at hread
    -- reading a segment changes no more than its time
    obtain ⟨u, tail, rfl, rfl, -⟩ := List.map_eq_cons_iff.mp (Option.some.inj hread)
    have hlt : settings.segmentRoom < (group.map size).sum + u.size := hfull u rfl
    have hlength := Header.length_data_datagram settings group
    show settings.mtu < (Header.data.datagram group).length + u.size
    omega

/-! ## A flush -/

namespace Stream

variable {settings : ValidSettings} {s : Stream}

/-- A flush of the stream succeeds. The segments of the send window that are at least as old as the
fastest recent round trip, in order, are what its datagrams are filled with, and their number is
told. Nothing but the pool and the record of round trips changes. -/
def Repacks (settings : ValidSettings) (s : Stream) (now : Nat) : Prop :=
  ∃ entries groups datagrams pool, s.sendWindow.Lists entries
    ∧ groups.flatten = (entries.filter fun u =>
        decide (s.roundTrips.recentMin ≤ now - u.sentAt)).map Segment.wire
    ∧ Bytes.Packs settings groups datagrams
    ∧ s.flushDatagrams now = (.ok (datagrams, groups.flatten.length),
        { s with roundTrips := s.roundTrips.remember, pool := pool })

/-- **What comes out of a flush.** -/
theorem Sound.repacks (hsound : s.Sound settings) (hnear : s.sendWindow.Near)
    (hdvd : s.sendWindow.capacity ∣ 2 ^ 32) (now : Nat) : s.Repacks settings now := by
  have hok := flushDatagrams_eq_ok now (by rw [hsound.settings_eq]; exact hsound.body_le)
  obtain ⟨pool, hpool⟩ := s.snd_flushDatagrams now
  have hpacks : Bytes.Packs settings (Segment.batches s.settings.segmentRoom (s.overdue now))
      ((Segment.batches s.settings.segmentRoom (s.overdue now)).map Header.data.datagram) := by
    rw [hsound.settings_eq]
    refine Segment.packs_batches fun t ht => ?_
    obtain ⟨u, hu, rfl⟩ := mem_overdue ht
    exact hsound.body_le u hu
  have hflat := Segment.flatten_batches s.settings.segmentRoom (s.overdue now)
  refine ⟨s.sendWindow.entries, _, _, pool, hnear.lists_entries hsound.sendTidy hdvd, hflat, hpacks,
    ?_⟩
  rw [hflat]
  exact Prod.ext hok hpool

end Stream

end Redelivery
