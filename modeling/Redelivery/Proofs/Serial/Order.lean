import Mathlib.Order.Defs.Unbundled
import Redelivery.Proofs.Serial

/-!
# The order of serial numbers

Serial numbers lie on a circle, and a circle has no order. What there is of one is this: a number is
before those that are up to half a turn ahead of it. On a stretch of half a turn, wherever it starts,
this is a strict total order and agrees with the counts. On the whole circle it is none, and the
numbers that are exactly opposite each other show it: each of the two is before the other, so that
neither has an offset from the other.

## Main definitions

* `Serial.ahead`: how far one number is ahead of another, going round the circle.
* `Serial.Stretch`: consecutive serial numbers.

## Main statements

* `Serial.half_turn_arithmetic`: offsets, order and places in a ring along half a turn.
* `Serial.isBefore_or_opposite`: the order on the whole circle.
* `Serial.exists_opposite`: two numbers that are before each other.
-/

namespace Redelivery.Serial

/-! ## Half a turn -/

/-- Along half a turn, the order is that of the counts. -/
theorem isBefore_add_add_iff (base : Serial) {x y : Nat} (hx : x < 2 ^ 31) (hy : y < 2 ^ 31) :
    (base + x).isBefore (base + y) = true ↔ x < y := by
  rw [isBefore_iff]
  rcases Nat.lt_or_ge x y with hlt | hge
  · rw [distanceFrom_add_add_of_lt hlt (by omega)]
    omega
  · rw [distanceFrom_add_add hge]
    omega

/-- Consecutive serial numbers, `width` of them from `base` on. -/
def Stretch (base : Serial) (width : Nat) : Type :=
  { s : Serial // ∃ n < width, s = base + n }

/-- One number of a stretch is before another. -/
def Stretch.Precedes {base : Serial} {width : Nat} (s t : Stretch base width) : Prop :=
  s.1.isBefore t.1 = true

/-- **The order is strict and total** on every stretch of at most half a turn. -/
theorem Stretch.isStrictTotalOrder (base : Serial) {width : Nat} (hwidth : width ≤ 2 ^ 31) :
    IsStrictTotalOrder (Stretch base width) Precedes where
  irrefl := by
    rintro ⟨_, x, hx, rfl⟩ h
    have hlt := (isBefore_add_add_iff base (by omega) (by omega)).mp h
    omega
  trans := by
    rintro ⟨_, x, hx, rfl⟩ ⟨_, y, hy, rfl⟩ ⟨_, z, hz, rfl⟩ hxy hyz
    have hxy := (isBefore_add_add_iff base (by omega) (by omega)).mp hxy
    have hyz := (isBefore_add_add_iff base (by omega) (by omega)).mp hyz
    exact (isBefore_add_add_iff base (by omega) (by omega)).mpr (by omega)
  trichotomous := by
    rintro ⟨_, x, hx, rfl⟩ ⟨_, y, hy, rfl⟩ hxy hyx
    have hxy := mt (isBefore_add_add_iff base (by omega) (by omega)).mpr hxy
    have hyx := mt (isBefore_add_add_iff base (by omega) (by omega)).mpr hyx
    have heq : x = y := by omega
    exact Subtype.ext (congrArg (base + ·) heq)

/-- **Arithmetic along half a turn.** From any base on, also where the counter wraps around, the
numbers of half a turn have their counts for offsets, one of them is before another just if its
count is smaller, and so the order is strict and total on every stretch of them. In a ring whose
width is a power of two up to half a turn, the numbers of one round have different places, and the
first of the next round has the place of the base again. -/
theorem half_turn_arithmetic (base : Serial) :
    (∀ x < 2 ^ 31, (base + x).offsetFrom? base = some x)
      ∧ (∀ x < 2 ^ 31, ∀ y < 2 ^ 31, (base + x).isBefore (base + y) = true ↔ x < y)
      ∧ (∀ width ≤ 2 ^ 31, IsStrictTotalOrder (Stretch base width) Stretch.Precedes)
      ∧ ∀ k ≤ 31,
        (∀ x < 2 ^ k, ∀ y < 2 ^ k, (base + x).slot (2 ^ k) = (base + y).slot (2 ^ k) → x = y)
          ∧ (base + 2 ^ k).slot (2 ^ k) = base.slot (2 ^ k) := by
  refine ⟨?_, ?_, ?_, ?_⟩
  · intro x hx
    have h := offsetFrom?_add_add (s := base) (Nat.zero_le x) hx
    rwa [add_zero, Nat.sub_zero] at h
  · intro x hx y hy
    exact isBefore_add_add_iff base hx hy
  · intro width hwidth
    exact Stretch.isStrictTotalOrder base hwidth
  · intro k hk
    have hdvd : 2 ^ k ∣ 2 ^ 32 := Nat.pow_dvd_pow 2 (by omega)
    constructor
    · intro x hx y hy h
      exact slot_add_inj hdvd h (by omega) (by omega)
    · exact slot_add_self hdvd

/-- A stretch and a ring across the end of the counter's range. -/
theorem half_turn_arithmetic_wrapping :
    (Serial.ofNat (2 ^ 32 - 2) + 5).offsetFrom? (Serial.ofNat (2 ^ 32 - 2)) = some 5
      ∧ (Serial.ofNat (2 ^ 32 - 2) + 1).isBefore (Serial.ofNat (2 ^ 32 - 2) + 5) = true
      ∧ IsStrictTotalOrder (Stretch (Serial.ofNat (2 ^ 32 - 2)) (2 ^ 31)) Stretch.Precedes
      ∧ (Serial.ofNat (2 ^ 32 - 2) + 1).slot (2 ^ 3) ≠ (Serial.ofNat (2 ^ 32 - 2) + 5).slot (2 ^ 3)
      ∧ (Serial.ofNat (2 ^ 32 - 2) + 2 ^ 3).slot (2 ^ 3)
          = (Serial.ofNat (2 ^ 32 - 2)).slot (2 ^ 3) := by
  obtain ⟨hoffset, hbefore, horder, hslot⟩ := half_turn_arithmetic (Serial.ofNat (2 ^ 32 - 2))
  obtain ⟨happart, hround⟩ := hslot 3 (by decide)
  refine ⟨hoffset 5 (by decide), (hbefore 1 (by decide) 5 (by decide)).mpr (by decide),
    horder (2 ^ 31) (Nat.le_refl _), ?_, hround⟩
  intro h
  exact absurd (happart 1 (by decide) 5 (by decide) h) (by decide)

/-! ## The whole circle -/

/-- How far `t` is ahead of `s`: the difference of their values, going round the circle. -/
def ahead (s t : Serial) : Int :=
  ((t.toNat : Int) - s.toNat) % 2 ^ 32

theorem distanceFrom_eq_ahead (s t : Serial) : (t.distanceFrom s : Int) = s.ahead t := by
  have hs := s.toNat_lt
  rw [distanceFrom_eq, ahead]
  omega

/-- How far one number is ahead of another, and that one of it, make up a whole turn. -/
theorem distanceFrom_comm (s t : Serial) :
    s.distanceFrom t = (2 ^ 32 - t.distanceFrom s) % 2 ^ 32 := by
  have hs := s.toNat_lt
  have ht := t.toNat_lt
  rw [distanceFrom_eq, distanceFrom_eq]
  omega

/-- A number is before those up to half a turn ahead of it, the opposite one included. -/
theorem isBefore_iff_ahead (a b : Serial) :
    a.isBefore b = true ↔ 1 ≤ a.ahead b ∧ a.ahead b ≤ 2 ^ 31 := by
  have hlt := b.distanceFrom_lt a
  rw [isBefore_iff, distanceFrom_comm, ← distanceFrom_eq_ahead]
  omega

theorem ahead_comm (a b : Serial) : b.ahead a = (-a.ahead b) % 2 ^ 32 := by
  unfold ahead
  omega

theorem offsetFrom?_eq_none_iff {s base : Serial} :
    s.offsetFrom? base = none ↔ s.isBefore base = true := by
  unfold offsetFrom?
  split <;> simp_all

/-- **The order on the whole circle.** One number is before another just if the other is ahead of
it, by half a turn at most. Two numbers are never before each other, and one of them always has an
offset from the other, unless they are opposite; if they are, both are before each other, and
neither has an offset. -/
theorem isBefore_or_opposite (a b : Serial) :
    (a.isBefore b = true ↔ (1 ≤ a.ahead b ∧ a.ahead b < 2 ^ 31) ∨ a.ahead b = 2 ^ 31)
      ∧ (a.isBefore b = true ∧ b.isBefore a = true ↔ a.ahead b = 2 ^ 31)
      ∧ (a.offsetFrom? b = none ∧ b.offsetFrom? a = none ↔ a.ahead b = 2 ^ 31) := by
  have hback := ahead_comm a b
  have hboth : a.isBefore b = true ∧ b.isBefore a = true ↔ a.ahead b = 2 ^ 31 := by
    rw [isBefore_iff_ahead, isBefore_iff_ahead]
    omega
  refine ⟨?_, hboth, ?_⟩
  · rw [isBefore_iff_ahead]
    omega
  · rw [offsetFrom?_eq_none_iff, offsetFrom?_eq_none_iff]
    exact hboth

/-- Two numbers that are half a turn apart: each is before the other, though half a turn is not
below half a turn. -/
theorem exists_opposite :
    ∃ a b : Serial, ¬ (1 ≤ a.ahead b ∧ a.ahead b < 2 ^ 31)
      ∧ a.isBefore b = true ∧ b.isBefore a = true
      ∧ a.offsetFrom? b = none ∧ b.offsetFrom? a = none :=
  ⟨ofNat 0, ofNat (2 ^ 31), by decide, by decide, by decide, by decide, by decide⟩

end Redelivery.Serial
