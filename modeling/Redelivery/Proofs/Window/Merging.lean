import Redelivery.Proofs.Link
import Redelivery.Proofs.Window.Entries

/-!
# Receive windows as sets

In what order segments arrive, and how often, makes no difference to a receive window as long as all
copies of a segment agree and no segment is too far ahead. It holds what it held before, and in
addition all that has arrived and is not behind its base.

## Main definitions

* `Window.contents`: what the segments of a window carry, place by place.
* `Window.Behind`: a serial number is before the base.
* `Window.Merges`: a window took in what was brought to it.

## Main statements

* `Window.Merges.contents_eq`: what a window takes in is determined by what is brought to it.
* `Link.Sound.merges_offer`: a segment of a direction is merged into its receive window.

`Window.Merges` describes what happened to a window by the content that was brought to it, as a set.
It composes (`Window.Merges.trans`), and a set does not have an order, so there is nothing to say
about permutations or copies: two ways of bringing the same set have the same result by
`Window.Merges.contents_eq`. That the places agree as well, and not only the sets, is because a
segment has one place and its serial number tells which.

The step is `Link.Sound.merges_offer`, and it has two cases by the count of the segment. One that
was taken out before is refused, and does not belong to the set by definition. One that was not is
stored, or a copy of it is there; the copies agree, since both are from the log.
-/

namespace Redelivery

/-- What a segment brings: its serial number, and what it carries. -/
def Segment.content (s : Segment Bytes) : Serial × Piece :=
  (s.seq, s.piece)

namespace Window

/-- What the segments of a window carry, place by place. Times and buffers are left out. -/
def contents (w : Window Buffer) : Array (Option (Serial × Piece)) :=
  w.slots.map (Option.map fun u => u.wire.content)

/-- The serial number is before the base of the window, by fewer steps than datagrams may be late:
they may come from up to a window's width before the last `2 ^ 31` numbers. -/
def Behind {β : Type} (w : Window β) (seq : Serial) : Prop :=
  ∃ back, 0 < back ∧ back < 2 ^ 31 + w.capacity ∧ w.base = seq + back

/-- The window `w` has become `w'` by taking in what was brought to it, as far as that is not before
its base. -/
structure Merges (w : Window Buffer) (brought : Serial × Piece → Prop) (w' : Window Buffer) :
    Prop where
  /-- The base has not moved. -/
  base_eq : w'.base = w.base
  /-- There are as many places as before. -/
  capacity_eq : w'.capacity = w.capacity
  /-- Segments are in their places, and the size is right. -/
  tidy : w'.Tidy
  /-- Nothing but the old content is there, and what was brought. -/
  mem_iff : ∀ c, some c ∈ w'.contents ↔ some c ∈ w.contents ∨ brought c ∧ ¬ w.Behind c.1

variable {w w₁ w₂ : Window Buffer} {brought brought' : Serial × Piece → Prop}

theorem size_contents (w : Window Buffer) : w.contents.size = w.capacity :=
  Array.size_map

theorem mem_contents_iff (h : w.Tidy) (hcap : w.capacity ≤ 2 ^ 32) {c : Serial × Piece} :
    some c ∈ w.contents ↔ ∃ u, w.find? c.1 = some u ∧ u.wire.piece = c.2 := by
  unfold contents
  rw [Array.mem_map]
  constructor
  · rintro ⟨o, ho, hc⟩
    obtain ⟨u, rfl, rfl⟩ := Option.map_eq_some_iff.mp hc
    exact ⟨u, h.find?_of_mem_slots hcap ho, rfl⟩
  · rintro ⟨u, hu, hpiece⟩
    obtain ⟨hocc, hseq⟩ := find?_eq_some_iff.mp hu
    refine ⟨some u, ?_, ?_⟩
    · rw [← hocc]
      exact w.occupant_mem_slots _
    · exact congrArg some (Prod.ext hseq hpiece)

/-- **A segment gets its place.** If a copy stands there already it has the same content, and all
other places are as they were: so just this content is added. -/
theorem exists_find?_iff_of_placed {w' : Window Buffer} {u t : Segment Buffer}
    (hplaced : w'.find? u.seq = some t) (hsame : t.wire.piece = u.wire.piece)
    (hcopy : ∀ v, w.find? u.seq = some v → v.wire.piece = u.wire.piece)
    (hothers : ∀ q, q ≠ u.seq → w'.find? q = w.find? q) (c : Serial × Piece) :
    (∃ v, w'.find? c.1 = some v ∧ v.wire.piece = c.2)
      ↔ (∃ v, w.find? c.1 = some v ∧ v.wire.piece = c.2) ∨ c = u.wire.content := by
  obtain ⟨q, piece⟩ := c
  by_cases hq : q = u.seq
  · subst hq
    constructor
    · rintro ⟨v, hv, rfl⟩
      cases hplaced.symm.trans hv
      exact Or.inr (Prod.ext rfl hsame)
    · rintro (⟨v, hv, rfl⟩ | hc)
      · exact ⟨t, hplaced, hsame.trans (hcopy v hv).symm⟩
      · exact ⟨t, hplaced, hsame.trans (congrArg Prod.snd hc).symm⟩
  · rw [hothers q hq]
    refine (or_iff_left fun hc => ?_).symm
    exact hq (congrArg Prod.fst hc)

/-- What stands in a place has a serial number that belongs there. -/
theorem Tidy.slot_of_contents (h : w.Tidy) (hcap : w.capacity ≤ 2 ^ 32) {i : Nat}
    {c : Serial × Piece} (hc : w.contents[i]? = some (some c)) : c.1.slot w.capacity = i := by
  obtain ⟨hi, hget⟩ := Array.getElem?_eq_some_iff.mp hc
  rw [size_contents] at hi
  have hslot := Serial.slot_ofNat hi hcap
  obtain ⟨u, hu, rfl⟩ : ∃ u, w.slots[i]? = some (some u) ∧ u.wire.content = c := by
    unfold contents at hc
    rw [Array.getElem?_map] at hc
    obtain ⟨o, ho, hmap⟩ := Option.map_eq_some_iff.mp hc
    obtain ⟨u, rfl, hu⟩ := Option.map_eq_some_iff.mp hmap
    exact ⟨u, ho, hu⟩
  have hocc : w.occupant (Serial.ofNat i) = some u := by
    obtain ⟨_, hu⟩ := Array.getElem?_eq_some_iff.mp hu
    rw [occupant_eq w _ (Serial.slot_lt w.slots_pos), ← hu]
    congr 1
  exact (h.place _ u hocc).trans hslot

/-- The size counts the places that are taken. -/
theorem Tidy.size_eq_contents (h : w.Tidy) : w.size = w.contents.countP Option.isSome := by
  rw [h.size_eq, contents, Array.countP_map]
  congr 1
  funext o
  exact Option.isSome_map.symm

namespace Merges

theorem trans (h : w.Merges brought w₁) (h' : w₁.Merges brought' w₂) :
    w.Merges (fun c => brought c ∨ brought' c) w₂ where
  base_eq := h'.base_eq.trans h.base_eq
  capacity_eq := h'.capacity_eq.trans h.capacity_eq
  tidy := h'.tidy
  mem_iff c := by
    have hbehind : w₁.Behind c.1 ↔ w.Behind c.1 := by
      unfold Behind
      rw [h.base_eq, h.capacity_eq]
    rw [h'.mem_iff, h.mem_iff, hbehind, or_assoc, ← or_and_right]

theorem congr (h : w.Merges brought w₁) (hsame : ∀ c, brought c ↔ brought' c) :
    w.Merges brought' w₁ :=
  { h with mem_iff := fun c => by rw [h.mem_iff, hsame] }

theorem nothing (h : w.Tidy) : w.Merges (fun _ => False) w :=
  ⟨rfl, rfl, h, fun c => by simp⟩

/-- Whatever stands in a place of one window stands in the same place of the other one. -/
theorem getElem?_contents (h₁ : w.Merges brought w₁) (h₂ : w.Merges brought w₂)
    (hcap : w.capacity ≤ 2 ^ 32) {i : Nat} {c : Serial × Piece}
    (hc : w₁.contents[i]? = some (some c)) : w₂.contents[i]? = some (some c) := by
  have hslot := h₁.tidy.slot_of_contents (by rwa [h₁.capacity_eq]) hc
  have hmem : some c ∈ w₂.contents := by
    rw [h₂.mem_iff, ← h₁.mem_iff]
    exact Array.mem_of_getElem? hc
  obtain ⟨j, hj⟩ := Array.mem_iff_getElem?.mp hmem
  have hslot' := h₂.tidy.slot_of_contents (by rwa [h₂.capacity_eq]) hj
  rw [h₁.capacity_eq] at hslot
  rw [h₂.capacity_eq, hslot] at hslot'
  rwa [hslot']

/-- **What a window takes in is determined** by what it held and what is brought to it, place by
place, and so is its size. -/
theorem contents_eq (h₁ : w.Merges brought w₁) (h₂ : w.Merges brought w₂)
    (hcap : w.capacity ≤ 2 ^ 32) : w₁.contents = w₂.contents ∧ w₁.size = w₂.size := by
  have hcontents : w₁.contents = w₂.contents := by
    apply Array.ext
    · rw [size_contents, size_contents, h₁.capacity_eq, h₂.capacity_eq]
    · intro i hi hi'
      refine Option.ext fun c => ?_
      have hleft := h₁.getElem?_contents h₂ hcap (i := i) (c := c)
      have hright := h₂.getElem?_contents h₁ hcap (i := i) (c := c)
      rw [Array.getElem?_eq_getElem hi, Array.getElem?_eq_getElem hi', Option.some_inj,
        Option.some_inj] at hleft hright
      exact ⟨hleft, hright⟩
  refine ⟨hcontents, ?_⟩
  rw [h₁.tidy.size_eq_contents, h₂.tidy.size_eq_contents, hcontents]

end Merges

end Window

/-! ## One segment -/

/-- A segment in the width of the window is there after it was offered, or a copy of it that was
there before. All others are left alone. -/
theorem Window.Spans.find?_offer {β : Type} {w : Window β} {first : Serial} {lo hi k : Nat}
    {P : Nat → Segment β → Prop} (h : w.Spans first lo hi P) {s : Segment β}
    (hseq : s.seq = first + k) (hlo : lo ≤ k) (hk : k < lo + w.capacity) :
    (∃ t, (w.offer s).find? (first + k) = some t ∧ (t = s ∨ w.find? (first + k) = some t))
      ∧ ∀ q, q ≠ first + k → (w.offer s).find? q = w.find? q := by
  have hstore := h.find?_store hseq hlo hk
  rw [offer, h.accept_eq hseq hlo hk]
  cases hcopy : w.find? (first + k) with
  | none => exact ⟨⟨s, by rw [hstore, if_pos rfl], Or.inl rfl⟩, fun q hq => by rw [hstore, if_neg hq]⟩
  | some copy =>
    by_cases hbase : k = lo
    · simp only [if_pos hbase]
      exact ⟨⟨s, by rw [hstore, if_pos rfl], Or.inl rfl⟩, fun q hq => by rw [hstore, if_neg hq]⟩
    · simp only [if_neg hbase]
      exact ⟨⟨copy, hcopy, Or.inr rfl⟩, fun _ _ => trivial⟩

namespace Link

variable {l : Link} {width : Nat}

/-- The direction has numbered the segment and may have sent it, not too long ago. -/
def Brings (l : Link) (width : Nat) (c : Serial × Piece) : Prop :=
  ∃ k, k < l.exposed ∧ c.1 = l.first + k ∧ l.log[k]? = some c.2
    ∧ l.log.length < k + width + 2 ^ 31

namespace Sound

theorem capacity_le (h : l.Sound width) : l.receiveWindow.capacity ≤ 2 ^ 32 := by
  have hnarrow := h.receive.narrow
  omega

/-- What is before the count of the base is behind the window, and nothing else is. -/
theorem behind_iff (h : l.Sound width) {k : Nat} (hk : k < l.exposed)
    (hfresh : l.log.length < k + width + 2 ^ 31) :
    l.receiveWindow.Behind (l.first + k) ↔ k < l.taken.length := by
  obtain ⟨hab, hbe, hen, hna⟩ := h.order
  have hcap := h.receive_width
  have hnarrow := h.two_mul_width_le
  have hhi := h.receive.hi_le
  unfold Window.Behind
  rw [h.receive.base_eq, hcap]
  constructor
  · rintro ⟨back, hpos, hlt, heq⟩
    rw [Serial.add_assoc] at heq
    by_contra hge
    have hcount := Serial.add_left_cancel heq (by omega) (by omega)
    omega
  · intro hlt
    refine ⟨l.taken.length - k, by omega, by omega, ?_⟩
    rw [Serial.add_assoc, Nat.add_sub_cancel' (Nat.le_of_lt hlt)]

/-- **A segment that arrives is merged** into the receive window. -/
theorem merges_offer (h : l.Sound width) {u : Segment Buffer}
    (hu : l.Brings width u.wire.content) :
    l.receiveWindow.Merges (fun c => c = u.wire.content) (l.receiveWindow.offer u) := by
  obtain ⟨k, hk, hseq, hlog, hfresh⟩ := hu
  have hseq : u.seq = l.first + k := hseq
  have hlog : l.log[k]? = some u.wire.piece := hlog
  have hcap := h.capacity_le
  have hwidth := h.receive_width
  have hhi := h.receive.hi_le
  have hbehind := h.behind_iff hk hfresh
  have hafter := h.accept hseq hk hlog hfresh
  have hcapacity : (l.receiveWindow.offer u).capacity = l.receiveWindow.capacity :=
    hafter.receive_width.trans hwidth.symm
  refine ⟨hafter.receive.base_eq.trans h.receive.base_eq.symm, hcapacity, hafter.receive.tidy,
    fun c => ?_⟩
  rw [Window.mem_contents_iff hafter.receive.tidy (by rwa [hcapacity]),
    Window.mem_contents_iff h.receive.tidy hcap]
  rcases Nat.lt_or_ge k l.taken.length with hlt | hge
  · -- the segment was taken out already, and is refused
    rw [h.receive.offer_stale hseq hlt (by
      obtain ⟨hab, hbe, hen, hna⟩ := h.order
      have hnarrow := h.two_mul_width_le
      omega)]
    refine (or_iff_left ?_).symm
    rintro ⟨rfl, hnot⟩
    exact hnot (by rw [show u.wire.content.1 = l.first + k from hseq]; exact hbehind.mpr hlt)
  · -- any copy that is there already agrees with it
    have hcopy (v : Segment Buffer) (hv : l.receiveWindow.find? (l.first + k) = some v) :
        v.wire.piece = u.wire.piece := by
      have hnarrow := h.two_mul_width_le
      obtain ⟨-, -, hlogged⟩ := h.receive.of_find? (by omega) (by omega) hv
      exact Option.some_inj.mp ((hlogged : l.log[k]? = _).symm.trans hlog)
    have hnot : ¬ l.receiveWindow.Behind u.wire.content.1 := by
      rw [show u.wire.content.1 = l.first + k from hseq, hbehind]
      omega
    obtain ⟨⟨t, ht, hold⟩, hothers⟩ := h.receive.find?_offer hseq hge (by omega)
    have hpiece : t.wire.piece = u.wire.piece := by
      rcases hold with rfl | hold
      · rfl
      · exact hcopy t hold
    rw [Window.exists_find?_iff_of_placed (hseq ▸ ht) hpiece (hseq ▸ hcopy) (hseq ▸ hothers)]
    refine or_congr_right (iff_self_and.mpr ?_)
    rintro rfl
    exact hnot

end Sound

end Link

end Redelivery
