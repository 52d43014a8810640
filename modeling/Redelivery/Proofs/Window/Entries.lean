import Redelivery.Proofs.Window.Representation

/-!
# The entries of a send window

The entries of a send window are looked up offset by offset, up to the window's width, and the
search ends when as many were found as the window holds. So they are all its segments only if none
is further ahead of the base than that and the count is right. Both is so, whatever was added,
removed and acknowledged.

## Main definitions

* `Window.Near`: no segment is as far ahead of the base as the window is wide.
* `Window.Lists`: a list has just the segments of a window, in order.

## Main statements

* `Window.Tidy.entries_eq`: the search does not end too early.
* `Window.Near.lists_entries`: the entries are all segments of the window, in order.
* `Window.Near.write`, `Window.Near.put_none`, `Window.Near.acknowledge`: segments stay near.

The distance of a segment from the base is less than the width when it is written, and becomes
smaller when the base moves towards it. It would become larger if the base moved past it, but then
the segment is gone: that is `Window.Within.acknowledge`.
-/

namespace Redelivery.Window

variable {β : Type} {w w' : Window β}

/-- No segment of the window is as far ahead of the base as the window is wide, and none is
before the base. -/
def Near (w : Window β) : Prop :=
  ∀ seq s, w.find? seq = some s → seq.distanceFrom w.base < w.capacity

/-- The list has just the segments of the window, in order of their distance from the base. -/
structure Lists (w : Window β) (segments : List (Segment β)) : Prop where
  /-- It has those segments that stand in a place of the window, and no others. -/
  mem_iff : ∀ s, s ∈ segments ↔ some s ∈ w.slots
  /-- Each of them is further ahead of the base than those in front of it. -/
  ordered : segments.Pairwise fun s t => s.seq.distanceFrom w.base < t.seq.distanceFrom w.base

/-- What stands in a place is found under its own number. -/
theorem Tidy.find?_of_mem_slots (h : w.Tidy) (hcap : w.capacity ≤ 2 ^ 32) {s : Segment β}
    (hs : some s ∈ w.slots) : w.find? s.seq = some s := by
  rw [← Array.mem_toList_iff, Tidy.toList_slots w hcap] at hs
  obtain ⟨i, -, hi⟩ := List.mem_map.mp hs
  exact h.find?_of_occupant hi

/-! ## The search -/

/-- A walk takes as many segments as it may. -/
theorem walk_eq_take (look : Nat → Option (Segment β)) (steps i left : Nat)
    (found : Array (Segment β)) : walk look steps i left found
      = found.toList ++ ((List.range' i steps).filterMap look).take left := by
  fun_induction walk look steps i left found with
  | case1 i found steps left s hs ih =>
    rw [ih, List.range'_succ, List.filterMap_cons_some hs, List.take_succ_cons, Array.toList_push,
      List.append_assoc, List.singleton_append]
  | case2 i found steps left hs ih => rw [ih, List.range'_succ, List.filterMap_cons_none hs]
  | case3 steps i left found hends =>
    -- no steps are left, or all segments were found
    have hnil : ((List.range' i steps).filterMap look).take left = [] := by
      cases steps with
      | zero => exact List.take_nil
      | succ steps =>
        cases left with
        | zero => exact List.take_zero
        | succ left => exact absurd rfl (hends steps left rfl)
    rw [hnil, List.append_nil]

/-- **The search does not end too early**: the entries are all that is found at an offset. -/
theorem Tidy.entries_eq (h : w.Tidy) (hdvd : w.capacity ∣ 2 ^ 32) :
    w.entries = (List.range w.capacity).filterMap w.get? := by
  have hcount := h.countP_get?_le hdvd
  rw [entries_eq_walk, walk_eq_take, ← List.range_eq_range', List.take_of_length_le]
  · rfl
  · rwa [List.length_filterMap_eq_countP]

/-- **The entries are all segments of the window**, in order. -/
theorem Near.lists_entries (hnear : w.Near) (h : w.Tidy) (hdvd : w.capacity ∣ 2 ^ 32) :
    w.Lists w.entries := by
  have hcap : w.capacity ≤ 2 ^ 32 := Nat.le_of_dvd (by decide) hdvd
  rw [h.entries_eq hdvd]
  constructor
  · intro s
    rw [List.mem_filterMap]
    constructor
    · rintro ⟨i, -, hi⟩
      rw [← (find?_eq_some_iff.mp hi).1]
      exact w.occupant_mem_slots _
    · intro hs
      have hfind := h.find?_of_mem_slots hcap hs
      refine ⟨s.seq.distanceFrom w.base, List.mem_range.mpr (hnear _ _ hfind), ?_⟩
      rwa [get?, Serial.add_distanceFrom]
  · refine List.pairwise_filterMap.mpr (List.pairwise_lt_range.imp_of_mem ?_)
    intro i j hi hj hij s hs t ht
    have hi := List.mem_range.mp hi
    have hj := List.mem_range.mp hj
    rw [seq_of_find? hs, seq_of_find? ht, Serial.distanceFrom_add (by omega),
      Serial.distanceFrom_add (by omega)]
    exact hij

/-! ## What is done to a send window -/

theorem Near.empty {capacity : Nat} (hc : 0 < capacity) (base : Serial) :
    (Window.empty capacity base hc : Window β).Near :=
  Within.empty hc base

namespace Near

/-- A segment that is added is near. -/
theorem write (h : w.Near) {s : Segment β} (hwrite : w.write s = .added w') : w'.Near := by
  obtain ⟨rfl, hlt⟩ := store_of_write hwrite
  rw [Near, capacity_store]
  exact Within.store h hlt

/-- What is left stays near when a segment is taken out. -/
theorem put_none (h : w.Near) {seq : Serial} {s : Segment β} (hs : w.find? seq = some s)
    (size : Nat) : (w.put seq none size).Near := by
  intro q u hu
  rw [base_put, capacity_put]
  rw [find?_put_none hs] at hu
  split at hu
  · cases hu
  · exact h q u hu

/-- **Whatever is acknowledged**, what is left is near the new base. -/
theorem acknowledge (h : w.Near) (next : Serial) (received : UInt32) :
    (w.acknowledge next received).window.Near := by
  rw [Near, capacity_acknowledge]
  exact Within.acknowledge h next received

end Near

end Redelivery.Window
