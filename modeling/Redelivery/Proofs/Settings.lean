import Mathlib.Algebra.Ring.Nat
import Redelivery.Settings

/-!
# What valid settings promise

Settings with which nothing is wrong leave room for a segment and for an acknowledgement in a
datagram, and have a window that is a power of two, at most `2 ^ 30` wide.

## Main statements

* `ValidSettings.mtu_eq`, `ValidSettings.maxSegment_lt`, `ValidSettings.ackSize_le_mtu`: the room in
  a datagram.
* `ValidSettings.windowSize_dvd`, `ValidSettings.two_mul_windowSize_le`: the width of the windows.

All of it comes from `Settings.fault?_eq_none_iff`, the one place where the checks are opened. It
turns the fact that comes with valid settings into inequalities, and the others are arithmetic on
these.
-/

namespace Redelivery

/-- Nothing is wrong exactly when each of the checks passes. -/
theorem Settings.fault?_eq_none_iff (s : Settings) :
    s.fault? = none ↔ s.maxSegment ≠ 0 ∧ Header.ackSize + Frame.checksumLength ≤ s.mtu
      ∧ s.maxSegment < 2 ^ 16 ∧ s.windowSize ≠ 0 ∧ s.windowSize < 2 ^ 31
      ∧ 2 ^ s.windowSize.log2 = s.windowSize ∧ s.flushInterval ≠ 0 ∧ s.dialInterval ≠ 0 := by
  unfold fault? UInt16.size
  simp only [Nat.one_shiftLeft]
  grind

namespace ValidSettings

variable (s : ValidSettings)

theorem mtu_eq :
    s.mtu = s.maxSegment + (Header.plainSize + Segment.overhead + Frame.checksumLength) := by
  have h := ((Settings.fault?_eq_none_iff _).mp s.fault?_eq_none).1
  unfold Settings.maxSegment at h ⊢
  omega

theorem segmentRoom_eq : s.segmentRoom = s.maxSegment + Segment.overhead := by
  have h := s.mtu_eq
  unfold Settings.segmentRoom
  omega

theorem segmentRoom_add : s.segmentRoom + (Header.plainSize + Frame.checksumLength) = s.mtu := by
  have h := s.mtu_eq
  unfold Settings.segmentRoom
  omega

theorem ackSize_le_mtu : Header.ackSize + Frame.checksumLength ≤ s.mtu :=
  ((Settings.fault?_eq_none_iff _).mp s.fault?_eq_none).2.1

theorem maxSegment_pos : 0 < s.maxSegment :=
  Nat.pos_of_ne_zero ((Settings.fault?_eq_none_iff _).mp s.fault?_eq_none).1

theorem maxSegment_lt : s.maxSegment < 2 ^ 16 :=
  ((Settings.fault?_eq_none_iff _).mp s.fault?_eq_none).2.2.1

theorem log2_windowSize_lt : s.windowSize.log2 < 31 := by
  obtain ⟨-, -, -, hne, hlt, -⟩ := (Settings.fault?_eq_none_iff _).mp s.fault?_eq_none
  exact (Nat.log2_lt hne).mpr hlt

theorem two_pow_log2_windowSize : 2 ^ s.windowSize.log2 = s.windowSize :=
  ((Settings.fault?_eq_none_iff _).mp s.fault?_eq_none).2.2.2.2.2.1

/-- The places of a window are consistent where serial numbers wrap around. -/
theorem windowSize_dvd : s.windowSize ∣ 2 ^ 32 := by
  rw [← s.two_pow_log2_windowSize]
  exact Nat.pow_dvd_pow 2 (Nat.le_of_lt (Nat.lt_succ_of_lt s.log2_windowSize_lt))

/-- Two windows side by side are still within half the range of serial numbers. -/
theorem two_mul_windowSize_le : 2 * s.windowSize ≤ 2 ^ 31 := by
  rw [← s.two_pow_log2_windowSize, Nat.mul_comm, ← Nat.pow_succ]
  exact Nat.pow_le_pow_right (by omega) s.log2_windowSize_lt

end ValidSettings

end Redelivery
