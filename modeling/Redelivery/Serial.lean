/-!
# Serial numbers

Segments carry serial numbers: counters of 32 bits that wrap around. Two of them are compared by the
sign of their difference, read as a signed word, so the order is meaningful only between numbers
that are less than half the range apart.

## Main definitions

* `Serial`: a serial number, with `s + n` and `s - n` for steps forward and backward.
* `Serial.distanceFrom`: the number of steps from one serial number to another.
* `Serial.isBefore`, `Serial.offsetFrom?`: the order, and the offset from a base.
* `Serial.slot`: the place of a serial number in a ring.
-/

namespace Redelivery

/-- A serial number: a counter that wraps around at `2 ^ 32`. -/
structure Serial where
  /-- The counter's value. -/
  raw : UInt32
deriving DecidableEq, Repr, Inhabited

namespace Serial

/-- The serial number with value `n`, modulo the range. -/
def ofNat (n : Nat) : Serial :=
  ⟨UInt32.ofNat n⟩

/-- The counter's value as a natural number. -/
def toNat (s : Serial) : Nat :=
  s.raw.toNat

/-- `n` steps forward. -/
instance : HAdd Serial Nat Serial where
  hAdd s n := ⟨s.raw + UInt32.ofNat n⟩

/-- `n` steps backward. -/
instance : HSub Serial Nat Serial where
  hSub s n := ⟨s.raw - UInt32.ofNat n⟩

/-- One step forward. -/
def next (s : Serial) : Serial :=
  s + 1

/-- The number of steps forward that lead from `base` to `s`. -/
def distanceFrom (s base : Serial) : Nat :=
  (s.raw - base.raw).toNat

/-- The distance as a signed word: from `-2 ^ 31` up to `2 ^ 31 - 1`. -/
def signedDistance (s base : Serial) : Int :=
  (s.raw - base.raw).toInt32.toInt

/-- `s` is before `other` when the signed distance between them is negative. -/
def isBefore (s other : Serial) : Bool :=
  decide (s.signedDistance other < 0)

/-- The number of steps from `base` to `s`, or `none` if `s` is before `base`. -/
def offsetFrom? (s base : Serial) : Option Nat :=
  if s.isBefore base then none else some (s.distanceFrom base)

/-- The place of `s` in a ring of `capacity` places. -/
def slot (s : Serial) (capacity : Nat) : Nat :=
  s.toNat % capacity

/-- The place of `s` in a ring, or `none` if the ring has no places. -/
def slot? (s : Serial) (capacity : Nat) : Option Nat :=
  if capacity = 0 then none else some (s.slot capacity)

instance : ToString Serial where
  toString s := toString s.toNat

theorem slot_lt {s : Serial} {capacity : Nat} (h : 0 < capacity) : s.slot capacity < capacity :=
  Nat.mod_lt _ h

end Serial

end Redelivery
