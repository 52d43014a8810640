import Mathlib.Data.Nat.ModEq
import Redelivery.Serial

/-!
# Serial numbers as unwrapped counters

A stream counts its segments from some first serial number on. Segment number `k`, counted without
wrapping around, carries the serial number `first + k`. This file says what the operations on serial
numbers mean for the counts behind them, as long as these are close enough to each other.

## Main statements

* `Serial.distanceFrom_add_add`: the distance between two numbers that are counted from one place.
* `Serial.offsetFrom?_add_add`, `Serial.lt_of_offsetFrom?_add_add`: the offset of a number that is
  ahead of a base, and of one that is behind it.
* `Serial.add_left_cancel`, `Serial.slot_add_inj`: numbers, and their places in a ring, tell counts
  apart.
* `Serial.slot_eq_cases`: only across the whole width of a ring do two numbers share a place.

The lemmas are stated for `first + k`, with the counts as natural numbers, so that those who use
them never see a remainder. What they ask instead is that two counts are close to each other, which
is `omega`'s business where windows are concerned. `Serial.toNat_add` and `Serial.distanceFrom_eq`
are where the remainder is met; all others go through them.
-/

namespace Redelivery.Serial

/-! ## Steps forward -/

theorem toNat_lt (s : Serial) : s.toNat < 2 ^ 32 :=
  s.raw.toNat_lt

theorem toNat_add (s : Serial) (n : Nat) : (s + n).toNat = (s.toNat + n) % 2 ^ 32 := by
  show (s.raw + UInt32.ofNat n).toNat = (s.raw.toNat + n) % 2 ^ 32
  rw [UInt32.toNat_add, UInt32.toNat_ofNat', Nat.add_mod_mod]

theorem eq_of_toNat_eq {s t : Serial} (h : s.toNat = t.toNat) : s = t := by
  cases s
  cases t
  exact congrArg Serial.mk (UInt32.toNat.inj h)

@[simp]
theorem add_zero (s : Serial) : s + 0 = s := by
  apply eq_of_toNat_eq
  rw [toNat_add, Nat.add_zero, Nat.mod_eq_of_lt s.toNat_lt]

theorem add_assoc (s : Serial) (m n : Nat) : s + m + n = s + (m + n) := by
  apply eq_of_toNat_eq
  rw [toNat_add, toNat_add, toNat_add, Nat.mod_add_mod, Nat.add_assoc]

theorem next_add (s : Serial) (n : Nat) : (s + n).next = s + (n + 1) :=
  add_assoc s n 1

/-- Steps back undo steps forward. -/
theorem add_sub_of_le (s : Serial) {i j : Nat} (h : i ≤ j) : s + j - i = s + (j - i) := by
  obtain ⟨k, rfl⟩ := Nat.exists_eq_add_of_le h
  rw [Nat.add_sub_cancel_left, Nat.add_comm, ← add_assoc]
  exact congrArg mk (UInt32.add_sub_cancel _ _)

/-- Serial numbers tell counts apart that are less than a whole turn from each other. -/
theorem add_left_cancel {s : Serial} {j k : Nat} (h : s + j = s + k) (hjk : j < k + 2 ^ 32)
    (hkj : k < j + 2 ^ 32) : j = k := by
  have hs := s.toNat_lt
  have heq : (s.toNat + j) % 2 ^ 32 = (s.toNat + k) % 2 ^ 32 := by
    rw [← toNat_add, ← toNat_add, h]
  omega

/-- A step forward leads somewhere else. -/
theorem next_ne (s : Serial) : s.next ≠ s := by
  intro h
  have hcount : 1 = 0 :=
    add_left_cancel (h.trans s.add_zero.symm) (by decide) (by decide)
  cases hcount

/-! ## Distance and offset -/

theorem distanceFrom_eq (s base : Serial) :
    s.distanceFrom base = (2 ^ 32 - base.toNat + s.toNat) % 2 ^ 32 :=
  UInt32.toNat_sub s.raw base.raw

/-- The distance between two numbers is that of their counts, up to whole turns. -/
theorem distanceFrom_add_add {s : Serial} {j k : Nat} (h : j ≤ k) :
    (s + k).distanceFrom (s + j) = (k - j) % 2 ^ 32 := by
  have hs := s.toNat_lt
  rw [distanceFrom_eq, toNat_add, toNat_add]
  omega

theorem distanceFrom_add_add_of_lt {s : Serial} {j k : Nat} (h : k < j) (hjk : j - k < 2 ^ 32) :
    (s + k).distanceFrom (s + j) = 2 ^ 32 - (j - k) := by
  have hs := s.toNat_lt
  rw [distanceFrom_eq, toNat_add, toNat_add]
  omega

theorem distanceFrom_lt (s base : Serial) : s.distanceFrom base < 2 ^ 32 :=
  (s.raw - base.raw).toNat_lt

/-- A number is as many steps from the base as its distance tells. -/
theorem add_distanceFrom (s base : Serial) : base + s.distanceFrom base = s := by
  have hbase := base.toNat_lt
  have hs := s.toNat_lt
  apply eq_of_toNat_eq
  rw [toNat_add, distanceFrom_eq]
  omega

/-- Serial numbers are told apart by their distances from a base. -/
theorem eq_of_distanceFrom_eq {s t base : Serial} (h : s.distanceFrom base = t.distanceFrom base) :
    s = t := by
  rw [← s.add_distanceFrom base, h, t.add_distanceFrom base]

theorem distanceFrom_eq_zero_iff {s base : Serial} : s.distanceFrom base = 0 ↔ s = base := by
  constructor
  · intro h
    rw [← s.add_distanceFrom base, h, add_zero]
  · rintro rfl
    show (s.raw - s.raw).toNat = 0
    rw [UInt32.sub_self]
    rfl

/-- The number `n` steps ahead of the base is at the distance `n`. -/
theorem distanceFrom_add {base : Serial} {n : Nat} (hn : n < 2 ^ 32) :
    (base + n).distanceFrom base = n := by
  have h := distanceFrom_add_add (s := base) (Nat.zero_le n)
  rwa [add_zero, Nat.sub_zero, Nat.mod_eq_of_lt hn] at h

/-- Moving the base towards a number brings it nearer. -/
theorem distanceFrom_add_of_le {s base : Serial} {n : Nat} (h : n ≤ s.distanceFrom base) :
    s.distanceFrom (base + n) = s.distanceFrom base - n := by
  have hlt := s.distanceFrom_lt base
  conv_lhs => rw [← s.add_distanceFrom base]
  rw [distanceFrom_add_add h, Nat.mod_eq_of_lt (by omega)]

/-- Moving the base past a number puts that at the far end of the range. -/
theorem distanceFrom_add_of_lt {s base : Serial} {n : Nat} (h : s.distanceFrom base < n)
    (hn : n < 2 ^ 32) : s.distanceFrom (base + n) = 2 ^ 32 - (n - s.distanceFrom base) := by
  conv_lhs => rw [← s.add_distanceFrom base]
  exact distanceFrom_add_add_of_lt h (by omega)

theorem signedDistance_eq (s base : Serial) :
    s.signedDistance base
      = if 2 * s.distanceFrom base < 2 ^ 32 then (s.distanceFrom base : Int)
        else s.distanceFrom base - (2 ^ 32 : Nat) :=
  BitVec.toInt_eq_toNat_cond (s.raw - base.raw).toBitVec

theorem isBefore_iff (s base : Serial) : s.isBefore base = true ↔ 2 ^ 31 ≤ s.distanceFrom base := by
  have hlt := distanceFrom_lt s base
  rw [isBefore, decide_eq_true_eq, signedDistance_eq]
  -- half a turn ahead and half a turn behind are one distance, and count as before
  split <;> omega

theorem offsetFrom?_eq_some_iff {s base : Serial} {n : Nat} :
    s.offsetFrom? base = some n ↔ s.distanceFrom base = n ∧ n < 2 ^ 31 := by
  unfold offsetFrom?
  split
  · rename_i h
    have hfar := (isBefore_iff s base).mp h
    constructor
    · intro h
      cases h
    · rintro ⟨h, hn⟩
      omega
  · rename_i h
    have hnear := mt (isBefore_iff s base).mpr h
    constructor
    · intro h
      cases h
      omega
    · rintro ⟨h, -⟩
      exact congrArg some h

/-- A number that is ahead of the base, by less than half a turn, has that offset. -/
theorem offsetFrom?_add_add {s : Serial} {j k : Nat} (h : j ≤ k) (hjk : k - j < 2 ^ 31) :
    (s + k).offsetFrom? (s + j) = some (k - j) := by
  rw [offsetFrom?_eq_some_iff, distanceFrom_add_add h]
  omega

/-- A number that is behind the base, but by less than a whole turn without `width`, is either
taken for one before the base or for one that is more than `width` ahead. -/
theorem lt_of_offsetFrom?_add_add {s : Serial} {j k width n : Nat} (h : k < j)
    (hjk : j + width < k + 2 ^ 32) (hn : (s + k).offsetFrom? (s + j) = some n) : width < n := by
  obtain ⟨hd, -⟩ := offsetFrom?_eq_some_iff.mp hn
  rw [distanceFrom_add_add_of_lt h (by omega)] at hd
  omega

/-! ## Places in a ring -/

/-- A place of a ring is that of the serial number with the same value, if there are enough of
these. -/
theorem slot_ofNat {capacity i : Nat} (hi : i < capacity) (hcap : capacity ≤ 2 ^ 32) :
    (Serial.ofNat i).slot capacity = i := by
  unfold slot toNat ofNat
  rw [UInt32.toNat_ofNat', Nat.mod_eq_of_lt (Nat.lt_of_lt_of_le hi hcap), Nat.mod_eq_of_lt hi]

theorem slot_add {s : Serial} {capacity : Nat} (hdvd : capacity ∣ 2 ^ 32) (n : Nat) :
    (s + n).slot capacity = (s.toNat + n) % capacity := by
  unfold slot
  rw [toNat_add, Nat.mod_mod_of_dvd _ hdvd]

/-- Two numbers within the width of a ring have different places in it, also where they wrap
around: the ring's width divides a whole turn. -/
theorem slot_add_inj {s : Serial} {capacity j k : Nat} (hdvd : capacity ∣ 2 ^ 32)
    (h : (s + j).slot capacity = (s + k).slot capacity) (hjk : j < k + capacity)
    (hkj : k < j + capacity) : j = k := by
  rw [slot_add hdvd, slot_add hdvd] at h
  have hmod : Nat.ModEq capacity j k := Nat.ModEq.add_left_cancel' s.toNat h
  -- the counts are congruent and less than the width apart, whichever is the larger one
  rcases Nat.le_total j k with hle | hle
  · have hdiff := (Nat.modEq_iff_dvd' hle).mp hmod
    have hzero := Nat.eq_zero_of_dvd_of_lt hdiff (by omega)
    omega
  · have hdiff := (Nat.modEq_iff_dvd' hle).mp hmod.symm
    have hzero := Nat.eq_zero_of_dvd_of_lt hdiff (by omega)
    omega

/-- The number a whole width ahead has the same place. -/
theorem slot_add_self {s : Serial} {capacity : Nat} (hdvd : capacity ∣ 2 ^ 32) :
    (s + capacity).slot capacity = s.slot capacity := by
  rw [slot_add hdvd, Nat.add_mod_right]
  rfl

/-- Of the numbers from a base up to the width ahead of it, only these two share a place. -/
theorem slot_eq_cases {s t : Serial} (base : Serial) {capacity : Nat} (hdvd : capacity ∣ 2 ^ 32)
    (h : s.slot capacity = t.slot capacity) (hs : s.distanceFrom base ≤ capacity)
    (ht : t.distanceFrom base ≤ capacity) :
    s = t ∨ (s.distanceFrom base = 0 ∧ t.distanceFrom base = capacity)
      ∨ (s.distanceFrom base = capacity ∧ t.distanceFrom base = 0) := by
  by_cases hwide : s.distanceFrom base < t.distanceFrom base + capacity
      ∧ t.distanceFrom base < s.distanceFrom base + capacity
  · left
    rw [← s.add_distanceFrom base, ← t.add_distanceFrom base] at h
    exact eq_of_distanceFrom_eq (slot_add_inj hdvd h hwide.1 hwide.2)
  · omega

end Redelivery.Serial
