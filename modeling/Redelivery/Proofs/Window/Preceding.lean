import Redelivery.Proofs.Window.Entries

/-!
# The segments in front of one

To find the segments of a send window that come right before a given one, the serial numbers are
gone through backwards, one by one, and the search ends when all other segments of the window were
found. That it ends then makes no difference: in a tidy window there are no more of them, however
far back one goes. A whole turn of the serial numbers meets each segment once.

## Main definitions

* `Window.preceding`: what is found in a number of steps back from a serial number.

## Main statements

* `Window.Tidy.length_preceding`: in a whole turn all other segments are found.
* `Window.Tidy.predecessors_eq`: the search does not end too early, and does not go around.
* `Window.nodup_preceding`: no segment is found twice.

The search goes back from a segment that is in the window, and it stops when it has found all
others. `Window.Tidy.length_preceding` says how many these are, by counting forward: within a turn,
every segment has one distance from the given one (`Window.Tidy.size_eq_countP`), and going back
meets the same serial numbers in the other order. So if the search is cut short by the count of
segments, it has found all there are; and if it is allowed more than a turn, it does not use it.
-/

namespace Redelivery

namespace Serial

/-- A whole turn leads back to where it began. -/
theorem add_two_pow (s : Serial) : s + 2 ^ 32 = s := by
  apply eq_of_toNat_eq
  rw [toNat_add, Nat.add_mod_right, Nat.mod_eq_of_lt s.toNat_lt]

/-- Steps back are the rest of a turn forward. -/
theorem sub_eq_add (s : Serial) {i : Nat} (h : i ≤ 2 ^ 32) : s - i = s + (2 ^ 32 - i) := by
  rw [← s.add_sub_of_le h, s.add_two_pow]

end Serial

namespace Window

variable {β : Type} {w : Window β} {seq : Serial} {s : Segment β}

/-- The segments that are found in `count` steps back from `seq`, the nearest first. -/
def preceding (w : Window β) (seq : Serial) (count : Nat) : List (Segment β) :=
  (List.range' 1 count).filterMap fun i => w.find? (seq - i)

/-- More steps do not change what the first ones find. -/
theorem preceding_add (w : Window β) (seq : Serial) (count more : Nat) :
    ∃ tail, w.preceding seq (count + more) = w.preceding seq count ++ tail := by
  refine ⟨(List.range' (1 + count) more).filterMap fun i => w.find? (seq - i), ?_⟩
  unfold preceding
  rw [← List.range'_append_1, List.filterMap_append]

/-- **In a whole turn** all other segments of the window are found. -/
theorem Tidy.length_preceding (h : w.Tidy) (hcap : w.capacity ≤ 2 ^ 32)
    (hs : w.find? seq = some s) {turn : Nat} (hturn : turn + 1 = 2 ^ 32) :
    (w.preceding seq turn).length + 1 = w.size := by
  have hget (i : Nat) : ({ w with base := seq } : Window β).get? i = w.find? (seq + i) :=
    find?_congr rfl _
  -- the size counts what is found in a turn forward, which begins at `seq` itself
  have hsize : w.size = (List.range' 1 turn).countP (fun i => (w.find? (seq + i)).isSome) + 1 := by
    have hall := (h.rebase seq).size_eq_countP hcap (Nat.le_refl (2 ^ 32))
      fun q _ _ => q.distanceFrom_lt seq
    rw [← hturn, List.range_eq_range', List.range'_succ] at hall
    simp only [hget, Nat.zero_add] at hall
    rw [List.countP_cons_of_pos (by rw [Serial.add_zero, hs]; rfl)] at hall
    exact hall
  -- a turn back meets the same numbers in the other order
  have hback : (List.range' 1 turn).countP (fun i => (w.find? (seq - i)).isSome)
      = (List.range' 1 turn).countP fun i => (w.find? (seq + i)).isSome := by
    rw [← List.countP_reverse (l := List.range' 1 turn) (p := fun i => (w.find? (seq + i)).isSome),
      List.reverse_range', List.range'_eq_map_range, List.countP_map, List.countP_map]
    refine List.countP_congr fun i hi => ?_
    have hlt := List.mem_range.mp hi
    have hsteps : 2 ^ 32 - (1 + i) = 1 + turn - 1 - i := by omega
    rw [Function.comp_apply, Function.comp_apply, Serial.sub_eq_add _ (by omega), hsteps]
  rw [preceding, List.length_filterMap_eq_countP, hsize, hback]

/-- **The search does not end too early**, and does not go around to where it began: it finds what
precedes, as far as it may go. -/
theorem Tidy.predecessors_eq (h : w.Tidy) (hcap : w.capacity ≤ 2 ^ 32)
    (hs : w.find? seq = some s) (count : Nat) :
    w.predecessors seq count = w.preceding seq (min count (2 ^ 32 - 1)) := by
  obtain ⟨turn, hturn⟩ : ∃ turn, turn + 1 = 2 ^ 32 := ⟨2 ^ 32 - 1, by omega⟩
  have hlength := h.length_preceding hcap hs hturn
  have hleft : w.size - 1 = (w.preceding seq turn).length := by omega
  have hmin : min count (2 ^ 32 - 1) = min count turn := by omega
  have hwalk : w.predecessors seq count = (w.preceding seq count).take (w.size - 1) := by
    rw [predecessors_eq_walk, walk_eq_take]
    rfl
  rw [hwalk, hmin, hleft]
  rcases Nat.le_total count turn with hle | hle
  · obtain ⟨tail, htail⟩ := w.preceding_add seq count (turn - count)
    rw [Nat.add_sub_cancel' hle] at htail
    rw [Nat.min_eq_left hle, htail, List.take_of_length_le]
    rw [List.length_append]
    exact Nat.le_add_right _ _
  · obtain ⟨tail, htail⟩ := w.preceding_add seq turn (count - turn)
    rw [Nat.add_sub_cancel' hle] at htail
    rw [Nat.min_eq_right hle, htail, List.take_left]

/-- What is found under serial numbers has these numbers. -/
theorem map_seq_filterMap_sublist (w : Window β) (seqs : List Serial) :
    ((seqs.filterMap w.find?).map Segment.seq).Sublist seqs := by
  induction seqs with
  | nil => exact List.Sublist.slnil
  | cons q rest ih =>
    cases hfind : w.find? q with
    | none =>
      rw [List.filterMap_cons_none hfind]
      exact ih.cons q
    | some u =>
      rw [List.filterMap_cons_some hfind, List.map_cons, seq_of_find? hfind]
      exact ih.cons_cons q

/-- **No segment is found twice**, and none that has the serial number itself. -/
theorem nodup_preceding (w : Window β) (seq : Serial) {count : Nat} (hcount : count < 2 ^ 32) :
    (seq :: (w.preceding seq count).map Segment.seq).Nodup := by
  have hall : ((List.range' 0 (count + 1)).map fun i => seq - i).Nodup := by
    refine List.Nodup.map_on (fun i hi j hj heq => ?_) List.nodup_range'
    have hi := List.mem_range'_1.mp hi
    have hj := List.mem_range'_1.mp hj
    rw [Serial.sub_eq_add _ (by omega), Serial.sub_eq_add _ (by omega)] at heq
    have hsame := Serial.add_left_cancel heq (by omega) (by omega)
    omega
  have hself : seq - 0 = seq := (seq.sub_eq_add (Nat.zero_le _)).trans seq.add_two_pow
  have hfound := w.map_seq_filterMap_sublist ((List.range' 1 count).map fun i => seq - i)
  rw [List.filterMap_map] at hfound
  rw [List.range'_succ, List.map_cons, hself] at hall
  exact hall.sublist (hfound.cons_cons seq)

end Window

end Redelivery
