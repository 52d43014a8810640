import Mathlib.Data.List.Nodup
import Mathlib.Data.List.Perm.Subperm
import Redelivery.Window
import Redelivery.Proofs.Serial

/-!
# What a window holds

A window is seen through its look-ups: `find? seq` is the segment with that serial number, if it is
there. This file says what each operation does to them, for windows of any width. What it does to
the number of taken places needs the window to be *tidy*: every segment stands in the place of its
own serial number.

## Main definitions

* `Window.walk`: how a window is listed.
* `Window.Tidy`: segments are in their places, and the size counts them.

## Main statements

* `Window.find?_store`, `Window.Shedding.find?_advance`, `Window.Shedding.find?_dropAll`: the
  look-ups after an operation.
* `Window.pop?_eq_some_iff`, `Window.remove?_eq_some_iff`: what is taken out was there.
* `Window.Shedding.removed_advance`, `Window.Shedding.removed_dropAll`: what is shed, in order.
* `Window.find?_of_mem_entries`, `Window.Tidy.mem_entries`: what is listed is what is there.
* `Window.Tidy.store`, `Window.Tidy.advance`, `Window.Tidy.dropAll`: tidy windows stay tidy.
* `Window.Tidy.size_eq_countP`, `Window.Tidy.size_pos_iff`: the size of a tidy window is the number
  of segments that can be looked up.

Two functions describe a place: the occupant, which is whatever stands in it, and the look-up, which
asks for the serial number as well. Operations are defined by the first, users know the second, and
the lemmas `Window.find?_store` and `Window.find?_put_none` lead from the one to the other. For
these nothing has to be known about the window. A segment that is stored displaces what stood in its
place, and that may be another one: whether it can be is a question of distances and belongs to
later files.

An acknowledgement is described as two rounds of removing, `Window.Shedding.advance` and
`Window.Shedding.dropAll`, the second one over the list of serial numbers that a bitmap marks. Both
are inductions on single removals, for look-ups as well as for what is removed.

That a listing is complete is a matter of counting. It ends when it has found as many segments as
the window counts, so the count must not be smaller than what there is at the offsets.
`Window.Tidy.countP_get?_le` shows this by pairing off offsets and places, of which there are
equally many, and `Window.prefix_walk` turns it into a statement on the walk.
-/

namespace Redelivery.Window

variable {β : Type}

/-! ## Places -/

theorem occupant_eq (w : Window β) (seq : Serial) (h : seq.slot w.slots.size < w.slots.size) :
    w.occupant seq = w.slots[seq.slot w.slots.size] :=
  rfl

/-- Serial numbers with the same place have the same occupant. -/
theorem occupant_congr {w : Window β} {p q : Serial} (h : p.slot w.capacity = q.slot w.capacity) :
    w.occupant p = w.occupant q := by
  rw [occupant_eq w p (Serial.slot_lt w.slots_pos), occupant_eq w q (Serial.slot_lt w.slots_pos)]
  congr 1

theorem occupant_mem_slots (w : Window β) (seq : Serial) : w.occupant seq ∈ w.slots :=
  Array.getElem_mem (Serial.slot_lt w.slots_pos)

@[simp]
theorem base_put (w : Window β) (seq : Serial) (s : Option (Segment β)) (size : Nat) :
    (w.put seq s size).base = w.base :=
  rfl

@[simp]
theorem size_put (w : Window β) (seq : Serial) (s : Option (Segment β)) (size : Nat) :
    (w.put seq s size).size = size :=
  rfl

@[simp]
theorem capacity_put (w : Window β) (seq : Serial) (s : Option (Segment β)) (size : Nat) :
    (w.put seq s size).capacity = w.capacity :=
  Array.size_set (Serial.slot_lt w.slots_pos)

theorem capacity_pos (w : Window β) : 0 < w.capacity :=
  w.slots_pos

theorem capacity_empty {capacity : Nat} {base : Serial} (h : 0 < capacity) :
    (empty capacity base h : Window β).capacity = capacity :=
  Array.size_replicate

@[simp]
theorem occupant_empty {capacity : Nat} {base : Serial} (h : 0 < capacity) (seq : Serial) :
    (empty capacity base h : Window β).occupant seq = none :=
  Array.getElem_replicate _

theorem occupant_put (w : Window β) (seq q : Serial) (s : Option (Segment β)) (size : Nat) :
    (w.put seq s size).occupant q
      = if q.slot w.capacity = seq.slot w.capacity then s else w.occupant q := by
  by_cases h : q.slot w.capacity = seq.slot w.capacity
  · rw [if_pos h]
    simp only [occupant, put, Array.size_set, Array.getElem_set]
    exact if_pos h.symm
  · rw [if_neg h]
    simp only [occupant, put, Array.size_set, Array.getElem_set]
    exact if_neg (Ne.symm h)

/-! ## Look-ups -/

theorem find?_eq_some_iff {w : Window β} {seq : Serial} {s : Segment β} :
    w.find? seq = some s ↔ w.occupant seq = some s ∧ s.seq = seq := by
  unfold find?
  split
  · rename_i t ht
    rw [ht]
    split
    · rename_i hseq
      constructor
      · intro h
        cases h
        exact ⟨rfl, hseq⟩
      · intro h
        exact h.1
    · rename_i hseq
      constructor
      · intro h
        cases h
      · rintro ⟨h, rfl⟩
        cases h
        exact absurd rfl hseq
  · rename_i hnone
    rw [hnone]
    simp

theorem seq_of_find? {w : Window β} {seq : Serial} {s : Segment β} (h : w.find? seq = some s) :
    s.seq = seq :=
  (find?_eq_some_iff.mp h).2

theorem find?_eq_none_iff {w : Window β} {seq : Serial} :
    w.find? seq = none ↔ ∀ s, w.occupant seq = some s → s.seq ≠ seq := by
  rw [Option.eq_none_iff_forall_ne_some]
  constructor
  · intro h s hs hseq
    exact h s (find?_eq_some_iff.mpr ⟨hs, hseq⟩)
  · intro h s hs
    obtain ⟨hocc, hseq⟩ := find?_eq_some_iff.mp hs
    exact h s hocc hseq

/-- Look-ups depend on the places only, not on the base or the size. -/
theorem find?_congr {w w' : Window β} (h : w'.slots = w.slots) (seq : Serial) :
    w'.find? seq = w.find? seq := by
  cases w
  cases w'
  cases h
  rfl

/-- What `s` displaces, if anything, is what stood in its place. -/
theorem find?_store (w : Window β) (s : Segment β) (q : Serial) :
    (w.store s).find? q
      = if q = s.seq then some s
        else if q.slot w.capacity = s.seq.slot w.capacity then none else w.find? q := by
  have hput : ∀ size, (w.put s.seq (some s) size).find? q
      = if q = s.seq then some s
        else if q.slot w.capacity = s.seq.slot w.capacity then none else w.find? q := by
    intro size
    unfold find?
    rw [occupant_put]
    by_cases hq : q = s.seq
    · rw [if_pos hq, if_pos (by rw [hq])]
      exact if_pos hq.symm
    · rw [if_neg hq]
      by_cases hslot : q.slot w.capacity = s.seq.slot w.capacity
      · rw [if_pos hslot, if_pos hslot]
        exact if_neg (Ne.symm hq)
      · rw [if_neg hslot, if_neg hslot]
  unfold store
  split <;> exact hput _

@[simp]
theorem base_store (w : Window β) (s : Segment β) : (w.store s).base = w.base := by
  unfold store
  split <;> rfl

@[simp]
theorem capacity_store (w : Window β) (s : Segment β) : (w.store s).capacity = w.capacity := by
  unfold store
  split <;> exact capacity_put ..

/-- A segment that is added is stored within reach of the base. -/
theorem store_of_write {w w' : Window β} {s : Segment β} (h : w.write s = .added w') :
    w' = w.store s ∧ s.seq.distanceFrom w.base < w.capacity := by
  unfold write at h
  split at h
  · cases h
  · rename_i offset hoffset
    rw [(Serial.offsetFrom?_eq_some_iff.mp hoffset).1]
    split at h
    · split at h
      · cases h
        exact ⟨rfl, ‹_›⟩
      · split at h <;> cases h
    · cases h

/-- A place that is emptied while `seq` stands in it changes the look-up of `seq` and no other. -/
theorem find?_put_none {w : Window β} {seq : Serial} {s : Segment β} (h : w.find? seq = some s)
    (size : Nat) (q : Serial) :
    (w.put seq none size).find? q = if q = seq then none else w.find? q := by
  obtain ⟨hocc, hseq⟩ := find?_eq_some_iff.mp h
  unfold find?
  rw [occupant_put]
  -- only look-ups in the place of `seq` can change
  by_cases hslot : q.slot w.capacity = seq.slot w.capacity
  · rw [if_pos hslot]
    by_cases hq : q = seq
    · rw [if_pos hq]
    · -- the place held `seq`, so a look-up of `q` there found nothing before either
      have hplace : w.occupant q = some s := by
        rw [← hocc]
        exact occupant_congr hslot
      rw [if_neg hq, hplace]
      simp only
      rw [if_neg (by rw [hseq]; exact Ne.symm hq)]
  · rw [if_neg hslot, if_neg (fun hq => hslot (by rw [hq]))]

theorem remove?_eq_some_iff {w w' : Window β} {seq : Serial} {s : Segment β} :
    w.remove? seq = some (s, w') ↔ w.find? seq = some s ∧ w' = w.put seq none (w.size - 1) := by
  unfold remove?
  split
  · rename_i t ht
    constructor
    · intro h
      cases h
      exact ⟨ht, rfl⟩
    · rintro ⟨h, rfl⟩
      rw [ht] at h
      cases h
      rfl
  · rename_i hnone
    rw [hnone]
    simp

theorem remove?_eq_none_iff {w : Window β} {seq : Serial} :
    w.remove? seq = none ↔ w.find? seq = none := by
  unfold remove?
  split <;> simp_all

/-- A segment that is accepted is stored, and evicts what stood in its place only at the base. -/
theorem accept_eq_stored {w w' : Window β} {s : Segment β} {evicted : Option (Segment β)}
    (h : w.accept s = .stored w' evicted) :
    w' = w.store s ∧ evicted = w.occupant s.seq
      ∧ (evicted.isSome = true → s.seq = w.base) := by
  unfold accept at h
  split at h
  · cases h
  · split at h
    · split at h
      · rename_i hocc
        cases h
        exact ⟨rfl, hocc.symm, fun hsome => by cases hsome⟩
      · rename_i other hocc
        split at h
        · rename_i hbase
          cases h
          exact ⟨rfl, hocc.symm, fun _ => hbase⟩
        · cases h
    · cases h

/-- What is taken out is the segment at the base, and the base moves on. -/
theorem pop?_eq_some_iff {w w' : Window β} {s : Segment β} :
    w.pop? = some (s, w') ↔ w.find? w.base = some s
      ∧ w' = { w.put w.base none (w.size - 1) with base := w.base.next } := by
  unfold pop?
  cases hremove : w.remove? w.base with
  | none => simp [remove?_eq_none_iff.mp hremove]
  | some p =>
    obtain ⟨hfind, hw⟩ := remove?_eq_some_iff.mp hremove
    simp [hfind, hw, eq_comm]

theorem pop?_eq_none_iff {w : Window β} : w.pop? = none ↔ w.find? w.base = none := by
  unfold pop?
  rw [← remove?_eq_none_iff]
  cases w.remove? w.base <;> simp

/-- What is taken out is not found any more, all else is. -/
theorem find?_of_pop? {w w' : Window β} {s : Segment β} (h : w.pop? = some (s, w'))
    (q : Serial) : w'.find? q = if q = w.base then none else w.find? q := by
  obtain ⟨hs, hw⟩ := pop?_eq_some_iff.mp h
  rw [← find?_put_none hs (w.size - 1), hw]
  exact find?_congr rfl q

/-! ## Removing what was acknowledged -/

namespace Shedding

/-- A serial number that is dropped is not found any more, whether it was there or not. -/
theorem find?_drop (p : Shedding β) (seq q : Serial) :
    (p.drop seq).window.find? q = if q = seq then none else p.window.find? q := by
  unfold drop
  split
  · rename_i s w h
    obtain ⟨hfind, rfl⟩ := remove?_eq_some_iff.mp h
    exact find?_put_none hfind _ q
  · rename_i h
    split
    · rename_i hq
      rw [hq]
      exact remove?_eq_none_iff.mp h
    · rfl

@[simp]
theorem base_drop (p : Shedding β) (seq : Serial) :
    (p.drop seq).window.base = p.window.base := by
  unfold drop
  split
  · rename_i s w h
    rw [(remove?_eq_some_iff.mp h).2]
    rfl
  · rfl

@[simp]
theorem capacity_drop (p : Shedding β) (seq : Serial) :
    (p.drop seq).window.capacity = p.window.capacity := by
  unfold drop
  split
  · rename_i s w h
    rw [(remove?_eq_some_iff.mp h).2]
    exact capacity_put ..
  · rfl

theorem find?_dropBase (p : Shedding β) (q : Serial) :
    p.dropBase.window.find? q = if q = p.window.base then none else p.window.find? q := by
  rw [← find?_drop]
  exact find?_congr rfl q

theorem base_dropBase (p : Shedding β) : p.dropBase.window.base = p.window.base.next := by
  show (p.drop p.window.base).window.base.next = _
  rw [base_drop]

theorem capacity_dropBase (p : Shedding β) : p.dropBase.window.capacity = p.window.capacity :=
  capacity_drop p p.window.base

theorem base_advance (n : Nat) (p : Shedding β) :
    (advance n p).window.base = p.window.base + n := by
  induction n generalizing p with
  | zero => exact p.window.base.add_zero.symm
  | succ n ih =>
    rw [advance, ih, base_dropBase]
    exact (p.window.base.add_assoc 1 n).trans (by rw [Nat.add_comm])

theorem capacity_advance (n : Nat) (p : Shedding β) :
    (advance n p).window.capacity = p.window.capacity := by
  induction n generalizing p with
  | zero => rfl
  | succ n ih => rw [advance, ih, capacity_dropBase]

/-- What the base passes is not found any more, all else is. -/
theorem find?_advance (n : Nat) (p : Shedding β) (q : Serial) :
    (advance n p).window.find? q
      = if ∃ i < n, q = p.window.base + i then none else p.window.find? q := by
  induction n generalizing p with
  | zero => rw [advance, if_neg (by simp)]
  | succ n ih =>
    -- one step drops the base and moves it, so that counts from there are one less
    have hstep : (∃ i < n + 1, q = p.window.base + i)
        ↔ q = p.window.base ∨ ∃ i < n, q = p.dropBase.window.base + i := by
      have hnext (i : Nat) : p.dropBase.window.base + i = p.window.base + (i + 1) := by
        rw [base_dropBase, Nat.add_comm]
        exact p.window.base.add_assoc 1 i
      simp only [Nat.exists_lt_succ_left, Serial.add_zero, hnext]
    rw [advance, ih, find?_dropBase]
    by_cases hbase : q = p.window.base
    · rw [if_pos hbase, if_pos (hstep.mpr (Or.inl hbase)), ite_self]
    · rw [if_neg hbase]
      congr 1
      rw [hstep]
      simp only [hbase, false_or]

/-- The segments with the given serial numbers are removed, one after the other. -/
def dropAll (p : Shedding β) (seqs : List Serial) : Shedding β :=
  seqs.foldl drop p

/-- The serial numbers that a bitmap stands for, counted from `start`. -/
def marked (start : Serial) (bits : UInt32) : List Serial :=
  ((List.range 32).filter fun i => bits.toNat.testBit i).map (start + ·)

theorem mem_marked {start seq : Serial} {bits : UInt32} :
    seq ∈ marked start bits ↔ ∃ i < 32, bits.toNat.testBit i = true ∧ seq = start + i := by
  simp only [marked, List.mem_map, List.mem_filter, List.mem_range]
  constructor
  · rintro ⟨i, ⟨hi, hbit⟩, rfl⟩
    exact ⟨i, hi, hbit, rfl⟩
  · rintro ⟨i, hi, hbit, rfl⟩
    exact ⟨i, ⟨hi, hbit⟩, rfl⟩

theorem dropBits_eq (p : Shedding β) (start : Serial) (bits : UInt32) :
    p.dropBits start bits = p.dropAll (marked start bits) := by
  unfold dropBits dropAll marked
  rw [List.foldl_map, List.foldl_filter]

theorem base_dropAll (p : Shedding β) (seqs : List Serial) :
    (p.dropAll seqs).window.base = p.window.base := by
  induction seqs generalizing p with
  | nil => rfl
  | cons seq rest ih => exact (ih _).trans (base_drop p seq)

theorem capacity_dropAll (p : Shedding β) (seqs : List Serial) :
    (p.dropAll seqs).window.capacity = p.window.capacity := by
  induction seqs generalizing p with
  | nil => rfl
  | cons seq rest ih => exact (ih _).trans (capacity_drop p seq)

/-- The same for a row of serial numbers, in any order and with repetitions. -/
theorem find?_dropAll (p : Shedding β) (seqs : List Serial) (q : Serial) :
    (p.dropAll seqs).window.find? q = if q ∈ seqs then none else p.window.find? q := by
  induction seqs generalizing p with
  | nil => rw [if_neg List.not_mem_nil]; rfl
  | cons seq rest ih =>
    have hstep : (p.dropAll (seq :: rest)).window.find? q
        = ((p.drop seq).dropAll rest).window.find? q := rfl
    rw [hstep, ih, find?_drop]
    by_cases hq : q = seq
    · rw [if_pos hq, if_pos (List.mem_cons.mpr (Or.inl hq)), ite_self]
    · simp only [hq, List.mem_cons, false_or, if_false]

/-! What is removed, in order of removal. -/

theorem removed_drop (p : Shedding β) (seq : Serial) :
    (p.drop seq).removed.toList = p.removed.toList ++ (p.window.find? seq).toList := by
  unfold drop
  split
  · rename_i s w h
    rw [(remove?_eq_some_iff.mp h).1, Array.toList_push]
    rfl
  · rename_i h
    rw [remove?_eq_none_iff.mp h, Option.toList_none, List.append_nil]

/-- What the base passes is removed in the order of the offsets, so long as the base does not go all
the way round. -/
theorem removed_advance {n : Nat} (hn : n ≤ 2 ^ 32) (p : Shedding β) :
    (advance n p).removed.toList
      = p.removed.toList ++ (List.range n).filterMap p.window.get? := by
  induction n generalizing p with
  | zero => simp [advance]
  | succ n ih =>
    -- what is behind the base is one offset nearer once that was dropped
    have hrest : (List.range n).filterMap p.dropBase.window.get?
        = ((List.range n).map Nat.succ).filterMap p.window.get? := by
      rw [List.filterMap_map]
      refine List.filterMap_congr fun i hi => ?_
      have hlt := List.mem_range.mp hi
      have hnext : p.window.base.next + i = p.window.base + (i + 1) := by
        rw [Nat.add_comm]
        exact p.window.base.add_assoc 1 i
      rw [get?, find?_dropBase, base_dropBase, hnext, if_neg]
      · rfl
      · intro hwrap
        rw [← p.window.base.add_zero, Serial.add_assoc, Nat.zero_add] at hwrap
        exact absurd (Serial.add_left_cancel hwrap (by omega) (by omega)) (by omega)
    have hbase : p.window.find? p.window.base = p.window.get? 0 := by
      rw [get?, Serial.add_zero]
    have hfirst : p.dropBase.removed.toList = p.removed.toList ++ (p.window.get? 0).toList := by
      rw [← hbase]
      exact removed_drop p p.window.base
    rw [advance, ih (by omega), hrest, hfirst, List.range_succ_eq_map, List.append_assoc]
    simp only [List.filterMap_eq_flatMap_toList, List.flatMap_cons]

/-- Each serial number is looked up in the window as it was at first. A second time there would be
nothing left, hence no repetitions. -/
theorem removed_dropAll {seqs : List Serial} (hnodup : seqs.Nodup) (p : Shedding β) :
    (p.dropAll seqs).removed.toList
      = p.removed.toList ++ seqs.filterMap p.window.find? := by
  induction seqs generalizing p with
  | nil => simp [dropAll]
  | cons seq rest ih =>
    obtain ⟨hnew, hnodup⟩ := List.nodup_cons.mp hnodup
    have hrest : rest.filterMap (p.drop seq).window.find? = rest.filterMap p.window.find? := by
      refine List.filterMap_congr fun q hq => ?_
      rw [find?_drop, if_neg (ne_of_mem_of_not_mem hq hnew)]
    have hstep : (p.dropAll (seq :: rest)).removed = ((p.drop seq).dropAll rest).removed := rfl
    rw [hstep, ih hnodup, hrest, removed_drop, List.append_assoc]
    simp only [List.filterMap_eq_flatMap_toList, List.flatMap_cons]

theorem nodup_marked (start : Serial) (bits : UInt32) : (marked start bits).Nodup := by
  refine List.Nodup.map_on ?_ (List.nodup_range.filter _)
  intro i hi j hj heq
  have hi := List.mem_range.mp (List.mem_filter.mp hi).1
  have hj := List.mem_range.mp (List.mem_filter.mp hj).1
  exact Serial.add_left_cancel heq (by omega) (by omega)

/-! When nothing was removed, nothing was there: only the base may have moved. -/

theorem drop_eq_self {p : Shedding β} {seq : Serial} (h : (p.drop seq).removed = #[]) :
    p.drop seq = p := by
  unfold drop at h ⊢
  split at h
  · exact absurd h (Array.push_ne_empty)
  · rfl

/-- If nothing was removed on its way, the base has moved and that is all. -/
theorem window_advance_of_removed_eq {n : Nat} {p : Shedding β}
    (h : (advance n p).removed = #[]) :
    p.removed = #[] ∧ (advance n p).window = { p.window with base := p.window.base + n } := by
  induction n generalizing p with
  | zero => exact ⟨h, by rw [p.window.base.add_zero]; rfl⟩
  | succ n ih =>
    obtain ⟨hremoved, hwindow⟩ := ih h
    -- the first step has removed nothing either, and so it has done nothing but move the base
    have hself : p.drop p.window.base = p := drop_eq_self hremoved
    have hbase : p.dropBase
        = { p with window := { p.window with base := p.window.base.next } } := by
      unfold dropBase
      rw [hself]
    rw [hbase] at hremoved hwindow
    refine ⟨hremoved, ?_⟩
    rw [advance, hbase, hwindow]
    simp only
    rw [Nat.add_comm n 1, ← Serial.add_assoc]
    rfl

theorem dropAll_eq_self {p : Shedding β} {seqs : List Serial} (h : (p.dropAll seqs).removed = #[]) :
    p.dropAll seqs = p := by
  induction seqs generalizing p with
  | nil => rfl
  | cons seq rest ih =>
    have hrest : p.dropAll (seq :: rest) = p.drop seq := ih h
    rw [hrest] at h ⊢
    exact drop_eq_self h

end Shedding

/-! ## Listing -/

/-- The segments found so far and the next `left` ones that are found in `steps` steps. Both listings
of a window are such walks. -/
def walk (look : Nat → Option (Segment β)) (steps i left : Nat) (found : Array (Segment β)) :
    List (Segment β) :=
  match steps, left with
  | steps + 1, left + 1 =>
    match look i with
    | some s => walk look steps (i + 1) left (found.push s)
    | none => walk look steps (i + 1) (left + 1) found
  | _, _ => found.toList

theorem entries_eq_walk (w : Window β) : w.entries = walk w.get? w.capacity 0 w.size #[] := by
  unfold entries
  fun_induction entries.go w w.capacity 0 w.size #[] with
  | case1 offset found steps left s hs ih => rw [walk, hs, ih]
  | case2 offset found steps left hs ih => rw [walk, hs, ih]
  | case3 offset steps left found hstop =>
    cases steps <;> cases left <;> simp_all [walk]

theorem predecessors_eq_walk (w : Window β) (seq : Serial) (count : Nat) :
    w.predecessors seq count
      = walk (fun i => w.find? (seq - i)) count 1 (w.size - 1) #[] := by
  unfold predecessors
  fun_induction predecessors.go w seq count 1 (w.size - 1) #[] with
  | case1 back found steps left s hs ih => rw [walk, hs, ih]
  | case2 back found steps left hs ih => rw [walk, hs, ih]
  | case3 back steps left found hstop =>
    cases steps <;> cases left <;> simp_all [walk]

/-- What a walk finds is there. -/
theorem mem_of_mem_walk {look : Nat → Option (Segment β)} {steps i left : Nat}
    {found : Array (Segment β)} {s : Segment β} (h : s ∈ walk look steps i left found) :
    s ∈ found ∨ ∃ i, look i = some s := by
  fun_induction walk look steps i left found with
  | case1 i found steps left t ht ih =>
    rcases ih h with h | h
    · rcases Array.mem_push.mp h with h | rfl
      · exact Or.inl h
      · exact Or.inr ⟨i, ht⟩
    · exact Or.inr h
  | case2 i found steps left ht ih => exact ih h
  | case3 => exact Or.inl (Array.mem_toList_iff.mp h)

/-- A walk finds whatever is on its way, as far as it does not count on fewer segments than there
are. -/
theorem prefix_walk {look : Nat → Option (Segment β)} {steps i left n : Nat}
    (found : Array (Segment β)) (hn : n ≤ steps)
    (hcount : (List.range' i n).countP (fun i => (look i).isSome) ≤ left) :
    found.toList ++ (List.range' i n).filterMap look <+: walk look steps i left found := by
  fun_induction walk look steps i left found generalizing n with
  | case1 i found steps left s hs ih =>
    cases n with
    | zero =>
      have hrest := ih (n := 0) (Nat.zero_le steps) (Nat.zero_le left)
      refine List.IsPrefix.trans ?_ hrest
      simp
    | succ n =>
      rw [List.range'_succ, List.countP_cons_of_pos (by rw [hs]; rfl)] at hcount
      have hrest := ih (Nat.le_of_succ_le_succ hn) (Nat.le_of_succ_le_succ hcount)
      rw [List.range'_succ, List.filterMap_cons_some hs, List.append_cons]
      rwa [Array.toList_push] at hrest
  | case2 i found steps left hs ih =>
    cases n with
    | zero => exact ih (n := 0) (Nat.zero_le steps) (Nat.zero_le _)
    | succ n =>
      rw [List.range'_succ, List.countP_cons_of_neg (by simp [hs])] at hcount
      rw [List.range'_succ, List.filterMap_cons_none hs]
      exact ih (Nat.le_of_succ_le_succ hn) hcount
  | case3 steps i left found hstop =>
    -- where the walk stops, nothing is left on its way
    have hnone : (List.range' i n).filterMap look = [] := by
      cases steps with
      | zero =>
        rw [Nat.le_zero.mp hn]
        rfl
      | succ steps =>
        cases left with
        | succ left => exact absurd rfl (hstop steps left rfl)
        | zero =>
          refine List.filterMap_eq_nil_iff.mpr fun a ha => ?_
          have hout := List.countP_eq_zero.mp (Nat.le_zero.mp hcount) a ha
          simpa using hout
    simp only [hnone, List.append_nil, List.prefix_rfl]

/-- What is listed is there. -/
theorem find?_of_mem_entries {w : Window β} {s : Segment β} (h : s ∈ w.entries) :
    w.find? s.seq = some s := by
  rw [entries_eq_walk] at h
  rcases mem_of_mem_walk h with h | ⟨i, hi⟩
  · exact absurd h (Array.not_mem_empty s)
  · rwa [seq_of_find? hi]

theorem find?_of_mem_predecessors {w : Window β} {seq : Serial} {count : Nat} {s : Segment β}
    (h : s ∈ w.predecessors seq count) : w.find? s.seq = some s := by
  rw [predecessors_eq_walk] at h
  rcases mem_of_mem_walk h with h | ⟨i, hi⟩
  · exact absurd h (Array.not_mem_empty s)
  · rwa [seq_of_find? hi]

/-! ## Tidy windows -/

/-- Segments stand in their places, and the size is the number of places that are taken. -/
structure Tidy (w : Window β) : Prop where
  /-- Whatever stands in a place belongs there. -/
  place : ∀ seq s, w.occupant seq = some s → s.seq.slot w.capacity = seq.slot w.capacity
  /-- The size is right. -/
  size_eq : w.size = w.slots.countP Option.isSome

namespace Tidy

theorem find?_of_occupant {w : Window β} (h : w.Tidy) {seq : Serial} {s : Segment β}
    (hs : w.occupant seq = some s) : w.find? s.seq = some s := by
  refine find?_eq_some_iff.mpr ⟨?_, rfl⟩
  rw [← hs]
  exact occupant_congr (h.place seq s hs)

theorem empty {capacity : Nat} {base : Serial} (hc : 0 < capacity) :
    (Window.empty capacity base hc : Window β).Tidy where
  place seq s hs := by
    rw [occupant_empty] at hs
    cases hs
  size_eq := by simp [Window.empty, Array.countP_replicate]

/-- Overwriting a place with something that belongs there, or with nothing, keeps the window tidy
if the size is set right. -/
theorem put {w : Window β} (h : w.Tidy) {seq : Serial} {s : Option (Segment β)} {size : Nat}
    (hs : ∀ t ∈ s, t.seq.slot w.capacity = seq.slot w.capacity)
    (hsize : size + (if (w.occupant seq).isSome then 1 else 0)
      = w.size + (if s.isSome then 1 else 0)) : (w.put seq s size).Tidy where
  place q t ht := by
    rw [capacity_put]
    rw [occupant_put] at ht
    split at ht
    · rename_i hslot
      rw [hslot]
      exact hs t ht
    · exact h.place q t ht
  size_eq := by
    -- the place counted if it was taken before, and counts if it is taken now
    have hcount : (w.put seq s size).slots.countP Option.isSome
        = w.slots.countP Option.isSome - (if (w.occupant seq).isSome then 1 else 0)
          + (if s.isSome then 1 else 0) :=
      Array.countP_set (Serial.slot_lt w.slots_pos)
    have hpos : (w.occupant seq).isSome → 0 < w.slots.countP Option.isSome := by
      intro hocc
      exact Array.countP_pos_iff.mpr ⟨_, Array.getElem_mem _, hocc⟩
    rw [hcount, ← h.size_eq, size_put]
    rw [← h.size_eq] at hpos
    by_cases hocc : (w.occupant seq).isSome
    · have htaken := hpos hocc
      simp only [hocc, if_true] at hsize ⊢
      omega
    · simp only [hocc] at hsize ⊢
      simpa using hsize

theorem store {w : Window β} (h : w.Tidy) (s : Segment β) : (w.store s).Tidy := by
  unfold Window.store
  split
  · rename_i t ht
    exact h.put (by simp) (by simp [ht])
  · rename_i hnone
    exact h.put (by simp) (by simp [hnone])

theorem put_none {w : Window β} (h : w.Tidy) {seq : Serial} {s : Segment β}
    (hs : w.find? seq = some s) : (w.put seq none (w.size - 1)).Tidy := by
  have hocc := (find?_eq_some_iff.mp hs).1
  -- the segment counted, so the size does not drop below zero
  have hpos : 0 < w.size := by
    rw [h.size_eq]
    exact Array.countP_pos_iff.mpr ⟨_, w.occupant_mem_slots seq, by rw [hocc]; rfl⟩
  apply h.put (by simp)
  simp only [hocc, Option.isSome_some, Option.isSome_none, if_true]
  simp only [Bool.false_eq_true, if_false]
  omega

theorem drop {p : Shedding β} (h : p.window.Tidy) (seq : Serial) : (p.drop seq).window.Tidy := by
  unfold Shedding.drop
  split
  · rename_i s w hremove
    obtain ⟨hfind, rfl⟩ := remove?_eq_some_iff.mp hremove
    exact h.put_none hfind
  · exact h

theorem dropAll {p : Shedding β} (h : p.window.Tidy) (seqs : List Serial) :
    (p.dropAll seqs).window.Tidy := by
  induction seqs generalizing p with
  | nil => exact h
  | cons seq rest ih => exact ih (h.drop seq)

/-- Moving the base disturbs nothing. -/
theorem rebase {w : Window β} (h : w.Tidy) (base : Serial) : ({ w with base := base }).Tidy :=
  ⟨h.place, h.size_eq⟩

theorem advance {n : Nat} {p : Shedding β} (h : p.window.Tidy) :
    (Shedding.advance n p).window.Tidy := by
  induction n generalizing p with
  | zero => exact h
  | succ n ih => exact ih ((h.drop _).rebase _)

/-- A tidy window counts something exactly when it holds something. -/
theorem size_pos_iff {w : Window β} (h : w.Tidy) (hcap : w.capacity ≤ 2 ^ 32) :
    0 < w.size ↔ ∃ seq s, w.find? seq = some s := by
  rw [h.size_eq, Array.countP_pos_iff]
  constructor
  · rintro ⟨o, hmem, ho⟩
    obtain ⟨i, hi, rfl⟩ := Array.mem_iff_getElem.mp hmem
    obtain ⟨s, hs⟩ := Option.isSome_iff_exists.mp ho
    -- place `i` is that of the serial number `i`, as there are enough of these
    have hslot : (Serial.ofNat i).slot w.slots.size = i := Serial.slot_ofNat hi hcap
    have hocc : w.occupant (Serial.ofNat i) = some s := by
      rw [← hs, occupant_eq _ _ (by rwa [hslot])]
      congr 1
    exact ⟨s.seq, s, h.find?_of_occupant hocc⟩
  · rintro ⟨seq, s, hs⟩
    exact ⟨_, w.occupant_mem_slots seq, by rw [(find?_eq_some_iff.mp hs).1]; rfl⟩

/-- The places in their order are those of the first serial numbers. -/
theorem toList_slots (w : Window β) (hcap : w.capacity ≤ 2 ^ 32) :
    w.slots.toList = (List.range w.capacity).map fun i => w.occupant (Serial.ofNat i) := by
  apply List.ext_getElem
  · simp [capacity]
  · intro i hi hi'
    have hlt : i < w.slots.size := hi
    have hslot := Serial.slot_ofNat hlt hcap
    rw [List.getElem_map, List.getElem_range, occupant_eq w _ (by rwa [hslot])]
    simp only [hslot]
    rfl

/-- **No more segments are found at the offsets of a window than its size counts.** -/
theorem countP_get?_le {w : Window β} (h : w.Tidy) (hdvd : w.capacity ∣ 2 ^ 32) :
    (List.range w.capacity).countP (fun i => (w.get? i).isSome) ≤ w.size := by
  have hcap : w.capacity ≤ 2 ^ 32 := Nat.le_of_dvd (by decide) hdvd
  -- the places of the offsets are all places of the ring, in some order
  have hperm : ((List.range w.capacity).map fun i => (w.base + i).slot w.capacity).Perm
      (List.range w.capacity) := by
    apply List.Subperm.perm_of_length_le
    · apply List.subperm_of_subset
      · refine List.Nodup.map_on ?_ List.nodup_range
        intro i hi j hj heq
        rw [List.mem_range] at hi hj
        exact Serial.slot_add_inj hdvd heq (by omega) (by omega)
      · intro j hj
        obtain ⟨i, -, rfl⟩ := List.mem_map.mp hj
        exact List.mem_range.mpr (Serial.slot_lt w.capacity_pos)
    · simp
  have hplace (i : Nat) : w.occupant (w.base + i)
      = w.occupant (Serial.ofNat ((w.base + i).slot w.capacity)) :=
    occupant_congr (Serial.slot_ofNat (Serial.slot_lt w.capacity_pos) hcap).symm
  calc (List.range w.capacity).countP (fun i => (w.get? i).isSome)
      ≤ (List.range w.capacity).countP (fun i => (w.occupant (w.base + i)).isSome) := by
        refine List.countP_mono_left fun i _ hi => ?_
        obtain ⟨s, hs⟩ := Option.isSome_iff_exists.mp hi
        rw [(find?_eq_some_iff.mp hs).1]
        rfl
    _ = ((List.range w.capacity).map fun i => (w.base + i).slot w.capacity).countP
          (fun j => (w.occupant (Serial.ofNat j)).isSome) := by
        rw [List.countP_map]
        simp only [hplace, Function.comp_def]
    _ = (List.range w.capacity).countP (fun j => (w.occupant (Serial.ofNat j)).isSome) :=
        hperm.countP_eq _
    _ = w.size := by
        rw [h.size_eq, ← Array.countP_toList, toList_slots w hcap, List.countP_map]
        rfl

theorem nodup_filterMap {α γ : Type} {l : List α} {f : α → Option γ} (hl : l.Nodup)
    (hf : ∀ a ∈ l, ∀ b ∈ l, ∀ c, f a = some c → f b = some c → a = b) : (l.filterMap f).Nodup := by
  refine List.pairwise_filterMap.mpr (hl.imp_of_mem fun {a b} ha hb hne c hc c' hc' heq => ?_)
  exact hne (hf a ha b hb c hc (by rw [hc', heq]))

/-- What a window holds is found at its offsets, each segment once, if none is further from the
base than that. -/
theorem perm_filterMap_get? {w : Window β} (h : w.Tidy) (hcap : w.capacity ≤ 2 ^ 32) {reach : Nat}
    (hreach : reach ≤ 2 ^ 32)
    (hnear : ∀ seq s, w.find? seq = some s → seq.distanceFrom w.base < reach) :
    ((List.range reach).filterMap w.get?).Perm (w.slots.toList.filterMap id) := by
  rw [toList_slots w hcap, List.filterMap_map, List.perm_ext_iff_of_nodup]
  · -- a segment is found at the offset of its serial number, and stands in the place of that
    intro s
    simp only [List.mem_filterMap, List.mem_range]
    constructor
    · rintro ⟨i, -, hi⟩
      refine ⟨(w.base + i).slot w.capacity, Serial.slot_lt w.capacity_pos, ?_⟩
      rw [← (find?_eq_some_iff.mp hi).1]
      exact occupant_congr (Serial.slot_ofNat (Serial.slot_lt w.capacity_pos) hcap)
    · rintro ⟨i, -, hi⟩
      have hfind := h.find?_of_occupant hi
      refine ⟨s.seq.distanceFrom w.base, hnear _ s hfind, ?_⟩
      rw [get?, Serial.add_distanceFrom, hfind]
  · refine nodup_filterMap List.nodup_range fun i hi j hj s his hjs => ?_
    rw [List.mem_range] at hi hj
    have hseq : w.base + i = w.base + j := (seq_of_find? his).symm.trans (seq_of_find? hjs)
    exact Serial.add_left_cancel hseq (by omega) (by omega)
  · refine nodup_filterMap List.nodup_range fun i hi j hj s his hjs => ?_
    have hplace {k : Nat} (hk : k ∈ List.range w.capacity)
        (hs : w.occupant (Serial.ofNat k) = some s) : s.seq.slot w.capacity = k :=
      (h.place _ s hs).trans (Serial.slot_ofNat (List.mem_range.mp hk) hcap)
    exact (hplace hi his).symm.trans (hplace hj hjs)

/-- The size of a window is the number of offsets at which something is found. -/
theorem size_eq_countP {w : Window β} (h : w.Tidy) (hcap : w.capacity ≤ 2 ^ 32) {reach : Nat}
    (hreach : reach ≤ 2 ^ 32)
    (hnear : ∀ seq s, w.find? seq = some s → seq.distanceFrom w.base < reach) :
    w.size = (List.range reach).countP fun i => (w.get? i).isSome := by
  calc w.size = w.slots.toList.countP Option.isSome := by rw [h.size_eq, Array.countP_toList]
    _ = (w.slots.toList.filterMap id).length := List.length_filterMap_eq_countP.symm
    _ = ((List.range reach).filterMap w.get?).length :=
        (h.perm_filterMap_get? hcap hreach hnear).length_eq.symm
    _ = (List.range reach).countP fun i => (w.get? i).isSome := List.length_filterMap_eq_countP

/-- **What is there is listed.** -/
theorem mem_entries {w : Window β} (h : w.Tidy) (hdvd : w.capacity ∣ 2 ^ 32) {i : Nat}
    {s : Segment β} (hi : i < w.capacity) (hs : w.get? i = some s) : s ∈ w.entries := by
  have hcount := h.countP_get?_le hdvd
  rw [List.range_eq_range'] at hcount
  have hlisted := prefix_walk #[] (Nat.le_refl _) hcount
  rw [entries_eq_walk]
  refine hlisted.subset (List.mem_append_right _ (List.mem_filterMap.mpr ⟨i, ?_, hs⟩))
  exact List.mem_range'_1.mpr ⟨Nat.zero_le i, by omega⟩

end Tidy

end Redelivery.Window
