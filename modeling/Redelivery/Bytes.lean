/-!
# Octet strings

Everything that goes over the wire is an octet string, a list of bytes. Numbers are written in
network byte order: the most significant byte first.

## Main definitions

* `Bytes`: octet strings.
* `Bytes.ofUInt16`, `Bytes.ofUInt32`: the two and four bytes of a word.
* `Bytes.takeUInt8?`, `Bytes.takeUInt32?`: reading a word off the front.
* `Bytes.chunks`: a string cut into pieces of a given length.
* `Word.narrow16?`, `Word.narrow32?`: a natural number as a word, if it fits.
-/

namespace Redelivery

/-- An octet string. -/
abbrev Bytes := List UInt8

namespace Bytes

/-- The two bytes of a 16-bit word, most significant first. -/
def ofUInt16 (n : UInt16) : Bytes :=
  [(n >>> 8).toUInt8, n.toUInt8]

/-- The four bytes of a 32-bit word, most significant first. -/
def ofUInt32 (n : UInt32) : Bytes :=
  [(n >>> 24).toUInt8, (n >>> 16).toUInt8, (n >>> 8).toUInt8, n.toUInt8]

/-- The 16-bit word with the given bytes, most significant first. -/
def toUInt16 (a b : UInt8) : UInt16 :=
  (a.toUInt16 <<< 8) ||| b.toUInt16

/-- The 32-bit word with the given bytes, most significant first. -/
def toUInt32 (a b c d : UInt8) : UInt32 :=
  (a.toUInt32 <<< 24) ||| (b.toUInt32 <<< 16) ||| (c.toUInt32 <<< 8) ||| d.toUInt32

/-- The first byte and the rest. -/
def takeUInt8? : Bytes → Option (UInt8 × Bytes)
  | a :: rest => some (a, rest)
  | [] => none

/-- The word in the first four bytes and the rest. -/
def takeUInt32? : Bytes → Option (UInt32 × Bytes)
  | a :: b :: c :: d :: rest => some (toUInt32 a b c d, rest)
  | _ => none

@[simp] theorem length_ofUInt16 (n : UInt16) : (ofUInt16 n).length = 2 := rfl

@[simp] theorem length_ofUInt32 (n : UInt32) : (ofUInt32 n).length = 4 := rfl

/-- The string cut into pieces of `size` bytes; the last piece may be shorter. Nothing is cut when
`size` is zero. -/
def chunks (size : Nat) (bytes : Bytes) : List Bytes :=
  if _h : size = 0 ∨ bytes = [] then
    []
  else
    bytes.take size :: chunks size (bytes.drop size)
termination_by bytes.length
decreasing_by
  have : 0 < bytes.length := List.length_pos_iff.2 fun hb => _h (Or.inr hb)
  simp only [List.length_drop]
  omega

/-- The buffer after `message` was copied to its front: what lies beyond the message stays. -/
def overwrite (buffer message : Bytes) : Bytes :=
  message ++ buffer.drop message.length

end Bytes

namespace Word

/-- The 16-bit word of value `n`, if there is one. -/
def narrow16? (n : Nat) : Option UInt16 :=
  if n < UInt16.size then some (UInt16.ofNat n) else none

/-- The 32-bit word of value `n`, if there is one. -/
def narrow32? (n : Nat) : Option UInt32 :=
  if n < UInt32.size then some (UInt32.ofNat n) else none

end Word

end Redelivery
