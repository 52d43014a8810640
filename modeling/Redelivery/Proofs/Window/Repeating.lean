import Mathlib.Data.List.Induction
import Redelivery.Proofs.Window.Acknowledgement
import Redelivery.Proofs.Window.Merging

/-!
# The same news twice

What a window has taken in once makes no difference to it when it comes again. For an
acknowledgement this is plain: the base is where it starts by then, and all that it marks is gone.
With segments it takes a closer look. One that is at the base replaces whatever is in its place, any
other only goes to a place that is free, and among the segments of one datagram there may be several
of both kinds for the same place, and they may contradict each other. So this file follows a single
place of the ring: all that segments do to it, one after the other, comes down to leaving it, filling
it if it is free or writing it, and doing any of these twice is the same as doing it once.

## Main definitions

* `Placing`: what segments do to a place of a ring.
* `Window.placing`, `Window.placingAll`: what one segment does to a place, and what several do.

## Main statements

* `Window.acknowledge_acknowledge`: an acknowledgement that comes again is without effect.
* `Window.getElem?_contents_offerAll`: what becomes of a place when segments arrive.
* `Window.offerAll_offerAll`: segments that come again are without effect.

`Placing` has three members and is closed under doing one after the other, which is what keeps an
arbitrary list of segments manageable. What a segment does to a place depends on the base and the
width only (`Window.placing`), and these do not change while segments arrive; so the second time the
same is done to each place, and `Placing.apply_apply` is all there is to say.

The window may be any, tidy or not, and therefore the number of segments is a separate matter. It
changes by as much as the number of taken places does (`Window.size_offerAll_add`), and the second
time that is nothing.
-/

namespace Redelivery

/-! ## A place of a ring -/

/-- What segments do to a place of a ring. -/
inductive Placing (α : Type) where
  /-- They leave it as it is. -/
  | leave
  /-- They put `c` there, if the place is free. -/
  | fill (c : α)
  /-- They put `c` there, whatever it held. -/
  | write (c : α)

namespace Placing

variable {α : Type}

/-- What the place holds afterwards. -/
def apply : Placing α → Option α → Option α
  | leave, held => held
  | fill c, none => some c
  | fill _, some held => some held
  | write c, _ => some c

/-- One after the other. -/
def andThen : Placing α → Placing α → Placing α
  | first, leave => first
  | _, write c => write c
  | leave, fill c => fill c
  | fill c, fill _ => fill c
  | write c, fill _ => write c

theorem apply_andThen (first second : Placing α) (held : Option α) :
    (first.andThen second).apply held = second.apply (first.apply held) := by
  cases first <;> cases second <;> cases held <;> rfl

/-- **Once is enough.** -/
theorem apply_apply (p : Placing α) (held : Option α) : p.apply (p.apply held) = p.apply held := by
  cases p <;> cases held <;> rfl

end Placing

namespace Window

/-! ## Segments that come again -/

section Segments

variable (w : Window Buffer)

/-- What a segment that brings `c` does to a place of a ring with the given base and capacity. -/
def placing (base : Serial) (capacity place : Nat) (c : Serial × Piece) :
    Placing (Serial × Piece) :=
  match c.1.offsetFrom? base with
  | none => .leave
  | some offset =>
    if offset ≤ capacity ∧ c.1.slot capacity = place then
      if c.1 = base then .write c else .fill c
    else
      .leave

/-- What several segments do to a place, one after the other. -/
def placingAll (base : Serial) (capacity place : Nat) (brought : List (Serial × Piece)) :
    Placing (Serial × Piece) :=
  brought.foldl (fun p c => p.andThen (placing base capacity place c)) .leave

theorem placingAll_concat (base : Serial) (capacity place : Nat) (brought : List (Serial × Piece))
    (c : Serial × Piece) :
    placingAll base capacity place (brought ++ [c])
      = (placingAll base capacity place brought).andThen (placing base capacity place c) :=
  List.foldl_concat _ _ _ _

/-- The window after segments were offered to it, one after the other. -/
def offerAll (segments : List (Segment Buffer)) : Window Buffer :=
  segments.foldl offer w

theorem contents_put (seq : Serial) (s : Option (Segment Buffer)) (size : Nat) :
    (w.put seq s size).contents
      = w.contents.setIfInBounds (seq.slot w.capacity) (s.map fun u => u.wire.content) := by
  have hslot : seq.slot w.slots.size < w.slots.size := Serial.slot_lt w.slots_pos
  show (w.slots.set (seq.slot w.slots.size) s hslot).map _ = _
  rw [Array.map_set, Array.setIfInBounds_def, dif_pos]
  rfl

theorem contents_store (u : Segment Buffer) :
    (w.store u).contents
      = w.contents.setIfInBounds (u.seq.slot w.capacity) (some u.wire.content) := by
  unfold store
  split <;> exact w.contents_put ..

/-- The place of a serial number holds what its occupant brought. -/
theorem getElem?_contents_slot (seq : Serial) :
    w.contents[seq.slot w.capacity]? = some ((w.occupant seq).map fun u => u.wire.content) := by
  have hslot : seq.slot w.capacity < w.slots.size := Serial.slot_lt w.slots_pos
  unfold contents
  rw [Array.getElem?_map, Array.getElem?_eq_getElem hslot]
  rfl

/-- What becomes of a place when a segment is stored. -/
theorem getElem?_contents_store (u : Segment Buffer) (i : Nat) :
    (w.store u).contents[i]? = w.contents[i]?.map fun held =>
      if u.seq.slot w.capacity = i then some u.wire.content else held := by
  rw [contents_store, Array.getElem?_setIfInBounds]
  by_cases hslot : u.seq.slot w.capacity = i
  · subst hslot
    have hlt : u.seq.slot w.capacity < w.contents.size := by
      rw [size_contents]
      exact Serial.slot_lt w.slots_pos
    rw [if_pos rfl, if_pos hlt, Array.getElem?_eq_getElem hlt, Option.map_some, if_pos rfl]
  · simp only [if_neg hslot, Option.map_id']

/-- A segment within reach is stored if its place is free, and also if it is at the base. -/
theorem offer_of_offsetFrom? {u : Segment Buffer} {offset : Nat}
    (hoffset : u.seq.offsetFrom? w.base = some offset) (hle : offset ≤ w.capacity) :
    w.offer u = if (w.occupant u.seq).isNone = true ∨ u.seq = w.base then w.store u else w := by
  unfold offer accept
  rw [hoffset]
  simp only [if_pos hle]
  cases w.occupant u.seq with
  | none => rfl
  | some other =>
    by_cases hbase : u.seq = w.base
    · simp only [if_pos hbase, if_pos (Or.inr hbase)]
    · simp only [if_neg hbase, Option.isNone_some, Bool.false_eq_true, false_or]

/-- A segment out of reach makes no difference. -/
theorem offer_of_out_of_reach {u : Segment Buffer}
    (h : ∀ offset, u.seq.offsetFrom? w.base = some offset → ¬ offset ≤ w.capacity) :
    w.offer u = w := by
  unfold offer accept
  cases hoffset : u.seq.offsetFrom? w.base with
  | none => rfl
  | some offset => simp only [if_neg (h offset hoffset)]

/-- **What becomes of a place** when a segment arrives. -/
theorem getElem?_contents_offer (u : Segment Buffer) (i : Nat) :
    (w.offer u).contents[i]?
      = w.contents[i]?.map (placing w.base w.capacity i u.wire.content).apply := by
  have hleave : w.contents[i]? = w.contents[i]?.map (Placing.leave : Placing _).apply :=
    Option.map_id'.symm
  have hseq : u.wire.content.1 = u.seq := rfl
  unfold placing
  rw [hseq]
  cases hoffset : u.seq.offsetFrom? w.base with
  | none =>
    rw [w.offer_of_out_of_reach fun offset h => absurd (hoffset.symm.trans h) nofun]
    exact hleave
  | some offset =>
    simp only
    by_cases hle : offset ≤ w.capacity
    · have hstore := w.getElem?_contents_store u i
      rw [w.offer_of_offsetFrom? hoffset hle]
      by_cases hslot : u.seq.slot w.capacity = i
      · -- this is the place of the segment: what it holds is what the segment is up against
        have hplace : offset ≤ w.capacity ∧ u.seq.slot w.capacity = i := ⟨hle, hslot⟩
        have hheld := w.getElem?_contents_slot u.seq
        rw [hslot] at hheld
        rw [if_pos hplace]
        simp only [if_pos hslot] at hstore
        by_cases hbase : u.seq = w.base
        · rw [if_pos (Or.inr hbase), if_pos hbase, hstore]
          rfl
        · rw [if_neg hbase]
          cases hocc : w.occupant u.seq with
          | none =>
            rw [if_pos (Or.inl Option.isNone_none), hstore, hheld, hocc]
            rfl
          | some other =>
            rw [if_neg (not_or_intro nofun hbase), hheld, hocc]
            rfl
      · have hplace : ¬ (offset ≤ w.capacity ∧ u.seq.slot w.capacity = i) := fun h => hslot h.2
        rw [if_neg hplace]
        simp only [if_neg hslot] at hstore
        split
        · exact hstore
        · exact hleave
    · rw [if_neg fun h => hle h.1, w.offer_of_out_of_reach fun other h => ?_]
      · exact hleave
      · rw [hoffset] at h
        cases h
        exact hle

/-! Several segments. -/

@[simp]
theorem base_offer (u : Segment Buffer) : (w.offer u).base = w.base := by
  unfold offer
  split
  · rename_i haccept
    rw [(accept_eq_stored haccept).1, base_store]
  · rfl

@[simp]
theorem capacity_offer (u : Segment Buffer) : (w.offer u).capacity = w.capacity := by
  unfold offer
  split
  · rename_i haccept
    rw [(accept_eq_stored haccept).1, capacity_store]
  · rfl

theorem offerAll_concat (segments : List (Segment Buffer)) (u : Segment Buffer) :
    w.offerAll (segments ++ [u]) = (w.offerAll segments).offer u := by
  unfold offerAll
  rw [List.foldl_concat]

@[simp]
theorem base_offerAll (segments : List (Segment Buffer)) : (w.offerAll segments).base = w.base := by
  induction segments using List.reverseRecOn with
  | nil => rfl
  | append_singleton segments u ih => rw [offerAll_concat, base_offer, ih]

@[simp]
theorem capacity_offerAll (segments : List (Segment Buffer)) :
    (w.offerAll segments).capacity = w.capacity := by
  induction segments using List.reverseRecOn with
  | nil => rfl
  | append_singleton segments u ih => rw [offerAll_concat, capacity_offer, ih]

/-- **What becomes of a place** when segments arrive one after the other. -/
theorem getElem?_contents_offerAll (segments : List (Segment Buffer)) (i : Nat) :
    (w.offerAll segments).contents[i]?
      = w.contents[i]?.map
        (placingAll w.base w.capacity i (segments.map fun u => u.wire.content)).apply := by
  induction segments using List.reverseRecOn with
  | nil => exact Option.map_id'.symm
  | append_singleton segments u ih =>
    rw [offerAll_concat, getElem?_contents_offer, ih, base_offerAll, capacity_offerAll,
      Option.map_map, List.map_append, List.map_singleton, placingAll_concat]
    congr 1
    funext held
    exact (Placing.apply_andThen _ _ held).symm

/-! The size changes as the number of taken places does, even if it was not right before. -/

theorem countP_contents : w.contents.countP Option.isSome = w.slots.countP Option.isSome := by
  unfold contents
  rw [Array.countP_map]
  congr 1
  funext held
  exact Option.isSome_map

theorem size_store_add (u : Segment Buffer) :
    (w.store u).size + w.contents.countP Option.isSome
      = w.size + (w.store u).contents.countP Option.isSome := by
  have hset (size : Nat) : (w.put u.seq (some u) size).slots.countP Option.isSome
      = w.slots.countP Option.isSome - (if (w.occupant u.seq).isSome then 1 else 0) + 1 :=
    Array.countP_set (Serial.slot_lt w.slots_pos)
  rw [countP_contents, countP_contents]
  unfold store
  cases hocc : w.occupant u.seq with
  | none =>
    simp only [hset, hocc, size_put, Option.isSome_none, Bool.false_eq_true, if_false]
    omega
  | some other =>
    have hpos : 0 < w.slots.countP Option.isSome :=
      Array.countP_pos_iff.mpr ⟨_, w.occupant_mem_slots u.seq, by rw [hocc]; rfl⟩
    simp only [hset, hocc, size_put, Option.isSome_some, if_true]
    omega

theorem size_offer_add (u : Segment Buffer) :
    (w.offer u).size + w.contents.countP Option.isSome
      = w.size + (w.offer u).contents.countP Option.isSome := by
  unfold offer
  split
  · rename_i haccept
    rw [(accept_eq_stored haccept).1]
    exact w.size_store_add u
  · rfl

theorem size_offerAll_add (segments : List (Segment Buffer)) :
    (w.offerAll segments).size + w.contents.countP Option.isSome
      = w.size + (w.offerAll segments).contents.countP Option.isSome := by
  induction segments using List.reverseRecOn with
  | nil => rfl
  | append_singleton segments u ih =>
    have hlast := (w.offerAll segments).size_offer_add u
    rw [offerAll_concat]
    omega

/-- **Segments that come again are without effect**, whatever they are and in whatever order they
come. They may be other copies, received at another time. -/
theorem offerAll_offerAll {segments again : List (Segment Buffer)}
    (hagain : again.map (fun u => u.wire.content) = segments.map fun u => u.wire.content) :
    ((w.offerAll segments).offerAll again).contents = (w.offerAll segments).contents
      ∧ ((w.offerAll segments).offerAll again).size = (w.offerAll segments).size := by
  have hcontents : ((w.offerAll segments).offerAll again).contents
      = (w.offerAll segments).contents := by
    refine Array.ext_getElem? fun i => ?_
    rw [getElem?_contents_offerAll, hagain, getElem?_contents_offerAll, base_offerAll,
      capacity_offerAll, Option.map_map]
    congr 1
    funext held
    exact Placing.apply_apply _ held
  refine ⟨hcontents, ?_⟩
  have hsize := (w.offerAll segments).size_offerAll_add again
  rw [hcontents] at hsize
  exact Nat.add_right_cancel hsize

end Segments

/-! ## Acknowledgements that come again -/

/-- Where nothing is found, nothing is removed. -/
theorem Shedding.dropAll_of_find?_eq_none {β : Type} {p : Shedding β} {seqs : List Serial}
    (h : ∀ seq ∈ seqs, p.window.find? seq = none) :
    p.dropAll seqs = p := by
  induction seqs generalizing p with
  | nil => rfl
  | cons seq rest ih =>
    have hself : p.drop seq = p := by
      unfold drop
      rw [remove?_eq_none_iff.mpr (h seq List.mem_cons_self)]
    show (p.drop seq).dropAll rest = p
    rw [hself]
    exact ih fun q hq => h q (List.mem_cons_of_mem seq hq)

/-- **An acknowledgement that comes again is without effect**: it removes nothing. -/
theorem acknowledge_acknowledge {β : Type} (w : Window β) (next : Serial) (received : UInt32) :
    (w.acknowledge next received).window.acknowledge next received
      = ⟨(w.acknowledge next received).window, #[]⟩ := by
  rcases w.acknowledge_cases next received with heq | ⟨offset, hnext, -, heq⟩
  · rw [heq]
    exact heq
  · -- the window starts at `next` by now, and nothing that is marked can be found in it
    generalize w.acknowledge next received = shed at heq ⊢
    have hbase : shed.window.base = next := by
      rw [heq, Shedding.base_dropAll, Shedding.base_advance, hnext]
    have hoffset : next.offsetFrom? shed.window.base = some 0 := by
      rw [hbase, Serial.offsetFrom?_eq_some_iff, Serial.distanceFrom_eq_zero_iff]
      exact ⟨rfl, Nat.two_pow_pos 31⟩
    unfold acknowledge
    rw [hoffset]
    simp only [Nat.zero_le, if_true, Shedding.dropBits_eq]
    refine Shedding.dropAll_of_find?_eq_none fun seq hseq => ?_
    show shed.window.find? seq = none
    rw [heq, Shedding.find?_dropAll, if_pos hseq]

end Window

end Redelivery
