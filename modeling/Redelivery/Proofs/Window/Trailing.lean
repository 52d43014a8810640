import Redelivery.Proofs.Window.Acknowledgement

/-!
# Segments before the next one

A send window only holds segments that were numbered before the next one, and that stays so whatever
is acknowledged, even what was never sent. So the next serial number is always new, and the size of
the window counts: adding a segment makes it larger by one, and an acknowledgement makes it smaller
by the number of segments that it removes.

An acknowledgement may move the base beyond the next serial number. Then the window is empty.

## Main definitions

* `Window.Trails`: all segments in the window are right before the next serial number.

## Main statements

* `Window.Trails.find?_eq_none`: the next serial number is new.
* `Window.Trails.store`: adding the next segment.
* `Window.Trails.acknowledge`: taking in an acknowledgement, whatever it says.
* `Window.Tidy.size_acknowledge`: what is removed is missing afterwards.

`Window.Trails` is the invariant of a send window that takes acknowledgements from anybody. While
the window is not empty it spans the counts up to the next serial number, and that is preserved as
in `Window.Spans.acknowledge`. When an acknowledgement runs ahead of what was sent the window is
left empty, and then nothing is claimed until the next segment has been written. The number of
segments is what tells the two cases apart, so this file needs the lemmas on sizes as well.
-/

namespace Redelivery.Window

variable {β : Type}

/-! ## Sizes -/

namespace Shedding

variable {p : Shedding β}

/-- What is dropped is missing in the window. -/
theorem size_drop (h : p.window.Tidy) (hcap : p.window.capacity ≤ 2 ^ 32) (seq : Serial) :
    (p.drop seq).window.size + (p.drop seq).removed.size
      = p.window.size + p.removed.size := by
  unfold drop
  split
  · rename_i s w' hremove
    obtain ⟨hfind, rfl⟩ := remove?_eq_some_iff.mp hremove
    have hpos := (h.size_pos_iff hcap).mpr ⟨seq, s, hfind⟩
    rw [size_put, Array.size_push]
    omega
  · rfl

theorem size_dropAll (h : p.window.Tidy) (hcap : p.window.capacity ≤ 2 ^ 32)
    (seqs : List Serial) :
    (p.dropAll seqs).window.size + (p.dropAll seqs).removed.size
      = p.window.size + p.removed.size := by
  induction seqs generalizing p with
  | nil => rfl
  | cons seq rest ih =>
    exact (ih (h.drop seq) (by rwa [capacity_drop])).trans (size_drop h hcap seq)

theorem size_advance (h : p.window.Tidy) (hcap : p.window.capacity ≤ 2 ^ 32) (n : Nat) :
    (advance n p).window.size + (advance n p).removed.size
      = p.window.size + p.removed.size := by
  induction n generalizing p with
  | zero => rfl
  | succ n ih =>
    have hbase : p.dropBase.window.Tidy := (h.drop p.window.base).rebase _
    exact (ih hbase (by rwa [capacity_dropBase])).trans (size_drop h hcap p.window.base)

end Shedding

/-- **What an acknowledgement removes** is missing afterwards. -/
theorem Tidy.size_acknowledge {w : Window β} (h : w.Tidy) (hcap : w.capacity ≤ 2 ^ 32)
    (next : Serial) (received : UInt32) :
    (w.acknowledge next received).window.size + (w.acknowledge next received).removed.size
      = w.size := by
  have hstart : (⟨w, #[]⟩ : Shedding β).window.Tidy := h
  rcases w.acknowledge_cases next received with heq | ⟨offset, -, -, heq⟩
  · rw [heq]
    rfl
  · rw [heq, Shedding.size_dropAll hstart.advance (by rwa [Shedding.capacity_advance])]
    exact Shedding.size_advance hstart hcap offset

/-! ## Before the next one -/

/-- The segments in the window are those right before `next` at most. -/
structure Trails (w : Window β) (next : Serial) : Prop where
  /-- Segments are in their places. -/
  tidy : w.Tidy
  /-- The places are consistent where serial numbers wrap around. -/
  dvd : w.capacity ∣ 2 ^ 32
  /-- Two windows side by side are still within half the range of serial numbers. -/
  narrow : 2 * w.capacity ≤ 2 ^ 31
  /-- Unless the window is empty, `next` is not before the base, and not further ahead of it than
  the window is wide. -/
  near : 0 < w.size → ∃ count, count ≤ w.capacity ∧ next = w.base + count
    ∧ w.Spans w.base 0 count fun _ _ => True

namespace Trails

variable {w : Window β} {next : Serial}

theorem empty {capacity : Nat} (hc : 0 < capacity) (hdvd : capacity ∣ 2 ^ 32)
    (hnarrow : 2 * capacity ≤ 2 ^ 31) (base : Serial) :
    (Window.empty capacity base hc : Window β).Trails base where
  tidy := Tidy.empty hc
  dvd := by rwa [capacity_empty]
  narrow := by rwa [capacity_empty]
  near hpos := absurd hpos (Nat.lt_irrefl 0)

theorem capacity_le (h : w.Trails next) : w.capacity ≤ 2 ^ 32 := by
  have hnarrow := h.narrow
  omega

/-- If `next` is so near, then the window holds what lies between at most. -/
theorem spans (h : w.Trails next) {count : Nat} (hle : count ≤ w.capacity)
    (hnext : next = w.base + count) : w.Spans w.base 0 count fun _ _ => True := by
  have hnarrow := h.narrow
  by_cases hpos : 0 < w.size
  · obtain ⟨count', hle', hnext', hspans⟩ := h.near hpos
    have heq : count' = count :=
      Serial.add_left_cancel (hnext'.symm.trans hnext) (by omega) (by omega)
    exact heq ▸ hspans
  · -- an empty window holds nothing at all
    refine ⟨h.tidy, h.dvd, hnarrow, w.base.add_zero.symm, by omega, fun q s hs => ?_⟩
    exact absurd ((h.tidy.size_pos_iff h.capacity_le).mpr ⟨q, s, hs⟩) hpos

/-- **The next serial number is new.** -/
theorem find?_eq_none (h : w.Trails next) : w.find? next = none := by
  have hnarrow := h.narrow
  by_cases hpos : 0 < w.size
  · obtain ⟨count, hle, rfl, hspans⟩ := h.near hpos
    exact hspans.find?_eq_none (by omega) (by omega) (Or.inr (Nat.le_refl _))
  · cases hfind : w.find? next with
    | none => rfl
    | some s => exact absurd ((h.tidy.size_pos_iff h.capacity_le).mpr ⟨next, s, hfind⟩) hpos

/-- **Adding the next segment.** -/
theorem store (h : w.Trails next) {s : Segment β} (hseq : s.seq = next) {w' : Window β}
    (hwrite : w.write s = .added w') : w'.Trails next.next ∧ w'.size = w.size + 1 := by
  subst hseq
  unfold write at hwrite
  split at hwrite
  · cases hwrite
  · rename_i offset hoffset
    split at hwrite
    · rename_i hlt
      split at hwrite
      · rename_i hfree
        cases hwrite
        have hnext : s.seq = w.base + offset := by
          rw [← (Serial.offsetFrom?_eq_some_iff.mp hoffset).1, Serial.add_distanceFrom]
        have hspans : (w.store s).Spans w.base 0 (offset + 1) fun _ _ => True :=
          (h.spans (Nat.le_of_lt hlt) hnext).store hnext (Nat.zero_le _) (Nat.lt_succ_self _)
            (Nat.le_succ _) (by omega) trivial
        refine ⟨⟨hspans.tidy, hspans.dvd, hspans.narrow, fun _ => ⟨offset + 1, ?_, ?_, ?_⟩⟩, ?_⟩
        · rw [capacity_store]
          exact hlt
        · rw [base_store, hnext, Serial.next_add]
        · rw [base_store]
          exact hspans
        · unfold Window.store
          rw [hfree]
          rfl
      · split at hwrite <;> cases hwrite
    · cases hwrite

/-- **Taking in an acknowledgement**, whatever it says. -/
theorem acknowledge (h : w.Trails next) (ack : Serial) (received : UInt32) :
    (w.acknowledge ack received).window.Trails next := by
  have hnarrow := h.narrow
  have hcap := w.capacity_acknowledge ack received
  refine ⟨h.tidy.acknowledge ack received, by rw [hcap]; exact h.dvd, by rwa [hcap], fun hpos => ?_⟩
  obtain ⟨q, s, hs⟩ := ((h.tidy.acknowledge ack received).size_pos_iff
    (by rw [hcap]; exact h.capacity_le)).mp hpos
  obtain ⟨count, hle, hnext, hspans⟩ := h.near
    ((h.tidy.size_pos_iff h.capacity_le).mpr ⟨q, s, find?_of_acknowledge hs⟩)
  rcases w.acknowledge_cases ack received with heq | ⟨offset, rfl, hoffset, heq⟩
  · rw [heq]
    exact ⟨count, hle, hnext, hspans⟩
  · obtain ⟨i, -, hi, rfl, -⟩ := hspans.stored q s (find?_of_acknowledge hs)
    -- what is left is behind the new base
    have hlt : offset ≤ i := by
      by_contra hlt
      rw [heq, Shedding.find?_dropAll] at hs
      split at hs
      · cases hs
      · rw [Shedding.find?_advance, if_pos ⟨i, by omega, rfl⟩] at hs
        cases hs
    obtain ⟨-, hafter, -⟩ := hspans.acknowledge received (Nat.zero_le offset) (by omega)
    refine ⟨count - offset, by rw [hcap]; omega, ?_, ?_⟩
    · rw [hafter.base_eq, Serial.add_assoc, Nat.add_sub_cancel' (by omega), hnext]
    · refine ⟨hafter.tidy, hafter.dvd, hafter.narrow, (Serial.add_zero _).symm, ?_, ?_⟩
      · have := hafter.hi_le
        omega
      · intro q' s' hs'
        obtain ⟨j, hlo, hhi, rfl, -⟩ := hafter.stored q' s' hs'
        refine ⟨j - offset, Nat.zero_le _, by omega, ?_, trivial⟩
        rw [hafter.base_eq, Serial.add_assoc, Nat.add_sub_cancel' hlo]

end Trails

end Redelivery.Window
