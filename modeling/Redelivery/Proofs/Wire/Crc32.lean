import Mathlib.Algebra.Group.Nat.Defs
import Mathlib.Logic.Function.Iterate
import Redelivery.Crc32

/-!
# The check value is the catalogued one

Catalogues describe a cyclic redundancy check by their parameters and one procedure: the bits of the
message go through a register one by one, at its upper end. `Crc32` keeps its register the other way
round and takes in a byte at a time, which comes to the same for CRC-32/ISO-HDLC.

## Main definitions

* `Crc32.Algorithm`: the parameters, and the procedure.
* `Crc32.isoHdlc`: the parameters of CRC-32/ISO-HDLC.

## Main statements

* `Crc32.toBitVec_checksum`: the check value is that of CRC-32/ISO-HDLC.

The two procedures differ in three ways, and each has its lemma. The register is kept in mirror
image (`Crc32.reverse_absorbBit`). Bytes are taken in whole and shifted eight times, instead of bit
by bit; that this is the same is `Crc32.iterate_shift_xor`, an induction on the number of shifts in
which one bit of the byte falls out in each. And the catalogue mirrors the result at the end, which
undoes the first difference.
-/

namespace Redelivery.Crc32

/-! ## The catalogue -/

/-- A cyclic redundancy check with a register of `width` bits, by the parameters that catalogues
give for it. -/
structure Algorithm (width : Nat) where
  /-- The generator polynomial without its leading term, highest power first. -/
  polynomial : BitVec width
  /-- The register before the first bit. -/
  initial : BitVec width
  /-- Whether the bits of a byte are taken in from the lowest one on. -/
  reflectIn : Bool
  /-- Whether the register is read backwards at the end. -/
  reflectOut : Bool
  /-- What is added to the register at the end. -/
  xorOut : BitVec width

namespace Algorithm

variable {width : Nat} (a : Algorithm width)

/-- The bits of a byte in the order in which they are taken in. -/
def bits (byte : UInt8) : List Bool :=
  let ascending := (List.range 8).map byte.toNat.testBit
  if a.reflectIn then ascending else ascending.reverse

/-- The register after one more bit: the bit is added to the one that falls out, and the polynomial
replaces a one. -/
def absorb (register : BitVec width) (bit : Bool) : BitVec width :=
  if register.msb ^^ bit then (register <<< 1) ^^^ a.polynomial else register <<< 1

/-- The check value of an octet string. -/
def compute (bytes : Bytes) : BitVec width :=
  let register := (bytes.flatMap a.bits).foldl a.absorb a.initial
  (if a.reflectOut then register.reverse else register) ^^^ a.xorOut

end Algorithm

/-- CRC-32/ISO-HDLC. -/
def isoHdlc : Algorithm 32 where
  polynomial := 0x04C11DB7
  initial := 0xFFFFFFFF
  reflectIn := true
  reflectOut := true
  xorOut := 0xFFFFFFFF

/-! ## One bit at a time -/

/-- The register after one more bit, which is added to its low end. -/
def absorbBit (register : UInt32) (bit : Bool) : UInt32 :=
  shift (register ^^^ bit.toUInt32)

theorem and_one_eq_one_iff (x : UInt32) : x &&& 1 = 1 ↔ x.toNat.testBit 0 = true := by
  rw [← UInt32.toNat_inj, UInt32.toNat_and, show (1 : UInt32).toNat = 1 from rfl,
    Nat.and_one_is_mod, Nat.testBit_zero, decide_eq_true_iff]

theorem testBit_zero_and_one (x : UInt32) : (x &&& 1).toNat.testBit 0 = x.toNat.testBit 0 := by
  rw [UInt32.toNat_and, show (1 : UInt32).toNat = 1 from rfl, Nat.testBit_and]
  simp

/-- Only the lowest bit of what is added makes a difference to what falls out; the rest of it moves
down with the register. -/
theorem shift_xor (x v : UInt32) : shift (x ^^^ v) = shift (x ^^^ (v &&& 1)) ^^^ (v >>> 1) := by
  have hlow : (x ^^^ (v &&& 1)).toNat.testBit 0 = (x ^^^ v).toNat.testBit 0 := by
    rw [UInt32.toNat_xor, UInt32.toNat_xor, Nat.testBit_xor, Nat.testBit_xor, testBit_zero_and_one]
  have hnone : (v &&& 1) >>> 1 = 0 := by
    apply UInt32.toNat_inj.mp
    rw [UInt32.toNat_shiftRight, UInt32.toNat_and, show (1 : UInt32).toNat % 32 = 1 from rfl,
      show (1 : UInt32).toNat = 1 from rfl, Nat.and_one_is_mod, Nat.shiftRight_eq_div_pow,
      UInt32.toNat_zero]
    omega
  have hrest : (x ^^^ (v &&& 1)) >>> 1 = x >>> 1 := by
    rw [UInt32.shiftRight_xor, hnone, UInt32.xor_zero]
  unfold shift
  simp only [and_one_eq_one_iff, hlow, hrest, UInt32.shiftRight_xor]
  split
  · rw [UInt32.xor_assoc, UInt32.xor_assoc, UInt32.xor_comm polynomial]
  · rfl

theorem toUInt32_testBit_zero (v : UInt32) : (v.toNat.testBit 0).toUInt32 = v &&& 1 := by
  apply UInt32.toNat_inj.mp
  rw [UInt32.toNat_and, show (1 : UInt32).toNat = 1 from rfl, Nat.and_one_is_mod, Nat.testBit_zero]
  rcases Nat.mod_two_eq_zero_or_one v.toNat with h | h <;> rw [h] <;> rfl

/-- Shifting as often as the added number has bits takes these in one by one, lowest first. -/
theorem iterate_shift_xor (n : Nat) (register v : UInt32) (hv : v.toNat < 2 ^ n) :
    shift^[n] (register ^^^ v) = ((List.range n).map v.toNat.testBit).foldl absorbBit register := by
  induction n generalizing register v with
  | zero =>
    have hzero : v = 0 := UInt32.toNat_inj.mp (by rw [UInt32.toNat_zero]; omega)
    rw [hzero]
    exact UInt32.xor_zero
  | succ n ih =>
    have hhalf : (v >>> 1).toNat = v.toNat / 2 := by
      rw [UInt32.toNat_shiftRight, show (1 : UInt32).toNat % 32 = 1 from rfl,
        Nat.shiftRight_eq_div_pow, Nat.pow_one]
    have hbits : (List.range (n + 1)).map v.toNat.testBit
        = v.toNat.testBit 0 :: (List.range n).map (v >>> 1).toNat.testBit := by
      rw [List.range_succ_eq_map, List.map_cons, List.map_map, hhalf]
      congr 1
      exact List.map_congr_left fun i _ => Nat.testBit_succ _ _
    rw [Function.iterate_succ_apply, shift_xor, ih _ _ (by rw [hhalf]; omega), hbits,
      List.foldl_cons, absorbBit, toUInt32_testBit_zero]

/-- Taking in a byte is taking in its bits, lowest first. -/
theorem absorb_eq_foldl (register : UInt32) (byte : UInt8) :
    absorb register byte = (isoHdlc.bits byte).foldl absorbBit register := by
  have hbyte := byte.toNat_lt
  have h := iterate_shift_xor 8 register byte.toUInt32 (by rwa [UInt8.toNat_toUInt32])
  rw [UInt8.toNat_toUInt32] at h
  exact h

/-! ## The register read backwards -/

theorem reverse_xor {n : Nat} (x y : BitVec n) : (x ^^^ y).reverse = x.reverse ^^^ y.reverse := by
  apply BitVec.eq_of_getLsbD_eq
  intro i _
  simp only [BitVec.getLsbD_reverse, BitVec.getLsbD_xor, BitVec.getMsbD_xor]

theorem reverse_ushiftRight_one {n : Nat} (x : BitVec n) :
    (x >>> 1).reverse = x.reverse <<< 1 := by
  apply BitVec.eq_of_getMsbD_eq
  intro i _
  rw [BitVec.getMsbD_reverse, BitVec.getLsbD_ushiftRight, BitVec.getMsbD_shiftLeft,
    BitVec.getMsbD_reverse, Nat.add_comm]

/-- A bit that is added to the low end of the register is added to the high end of its mirror
image. -/
theorem reverse_absorbBit (register : UInt32) (bit : Bool) :
    (absorbBit register bit).toBitVec.reverse
      = isoHdlc.absorb register.toBitVec.reverse bit := by
  have hpolynomial : polynomial.toBitVec.reverse = isoHdlc.polynomial := by decide +kernel
  have hmsb : (register.toBitVec.reverse).msb = register.toNat.testBit 0 := BitVec.msb_reverse
  have hbit : bit.toUInt32.toNat.testBit 0 = bit := by cases bit <;> rfl
  have hnone : bit.toUInt32 >>> 1 = 0 := by cases bit <;> rfl
  have hrest : (register ^^^ bit.toUInt32) >>> 1 = register >>> 1 := by
    rw [UInt32.shiftRight_xor, hnone, UInt32.xor_zero]
  have hmove : (register >>> 1).toBitVec.reverse = register.toBitVec.reverse <<< 1 :=
    reverse_ushiftRight_one register.toBitVec
  unfold absorbBit shift Algorithm.absorb
  simp only [and_one_eq_one_iff, UInt32.toNat_xor, Nat.testBit_xor, hbit, hrest, hmsb]
  split
  · rw [UInt32.toBitVec_xor, reverse_xor, hmove, hpolynomial]
  · exact hmove

theorem reverse_foldl_absorbBit (bits : List Bool) (register : UInt32) :
    (bits.foldl absorbBit register).toBitVec.reverse
      = bits.foldl isoHdlc.absorb register.toBitVec.reverse := by
  induction bits generalizing register with
  | nil => rfl
  | cons bit rest ih => rw [List.foldl_cons, List.foldl_cons, ih, reverse_absorbBit]

theorem absorbAll_eq_foldl (bytes : Bytes) (register : UInt32) :
    absorbAll register bytes = (bytes.flatMap isoHdlc.bits).foldl absorbBit register := by
  induction bytes generalizing register with
  | nil => rfl
  | cons byte rest ih =>
    rw [List.flatMap_cons, List.foldl_append, ← absorb_eq_foldl, ← ih]
    rfl

theorem reverse_reverse {n : Nat} (x : BitVec n) : x.reverse.reverse = x := by
  apply BitVec.eq_of_getLsbD_eq
  intro i _
  rw [BitVec.getLsbD_reverse, BitVec.getMsbD_reverse]

/-- **The check value is that of CRC-32/ISO-HDLC.** -/
theorem toBitVec_checksum (bytes : Bytes) : (checksum bytes).toBitVec = isoHdlc.compute bytes := by
  have hinitial : (0xFFFFFFFF : UInt32).toBitVec.reverse = isoHdlc.initial := by decide +kernel
  have hlast := reverse_foldl_absorbBit (bytes.flatMap isoHdlc.bits) 0xFFFFFFFF
  rw [hinitial, ← absorbAll_eq_foldl] at hlast
  have hcompute : isoHdlc.compute bytes
      = ((bytes.flatMap isoHdlc.bits).foldl isoHdlc.absorb isoHdlc.initial).reverse
        ^^^ isoHdlc.xorOut := rfl
  rw [hcompute, ← hlast, reverse_reverse, checksum, UInt32.toBitVec_not, BitVec.not_def,
    BitVec.xor_comm]
  rfl

end Redelivery.Crc32
