import Redelivery.Bytes

/-!
# CRC-32

The cyclic redundancy check with the reflected polynomial `0xEDB88320`, an initial register of all
ones and a complemented result. The register takes in one byte at a time: the byte is added to its
low octet, and eight shifts follow.

## Main definitions

* `Crc32.shift`: one shift of the register.
* `Crc32.absorb`: the register after one more byte.
* `Crc32.checksum`: the check value of an octet string.
-/

namespace Redelivery.Crc32

/-- The generator polynomial, lowest power in the highest bit. -/
def polynomial : UInt32 := 0xEDB88320

/-- One shift of the register: a one that falls out is replaced by the polynomial. -/
def shift (register : UInt32) : UInt32 :=
  if register &&& 1 = 1 then (register >>> 1) ^^^ polynomial else register >>> 1

/-- The register after it took in `byte`. -/
def absorb (register : UInt32) (byte : UInt8) : UInt32 :=
  shift (shift (shift (shift (shift (shift (shift (shift (register ^^^ byte.toUInt32))))))))

/-- The register after it took in all of `bytes`. -/
def absorbAll (register : UInt32) (bytes : Bytes) : UInt32 :=
  bytes.foldl absorb register

/-- The check value of an octet string. -/
def checksum (bytes : Bytes) : UInt32 :=
  ~~~ absorbAll 0xFFFFFFFF bytes

@[simp] theorem absorbAll_nil (register : UInt32) : absorbAll register [] = register := rfl

theorem absorbAll_append (register : UInt32) (a b : Bytes) :
    absorbAll register (a ++ b) = absorbAll (absorbAll register a) b :=
  List.foldl_append

/-- The check value that identifies this variant: that of the nine digits `1` to `9`. -/
example : checksum [0x31, 0x32, 0x33, 0x34, 0x35, 0x36, 0x37, 0x38, 0x39] = 0xCBF43926 := by
  decide +kernel

end Redelivery.Crc32
