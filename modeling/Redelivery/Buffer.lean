import Redelivery.Bytes

/-!
# Buffers of fixed capacity

A buffer owns a fixed number of bytes. A prefix of them is in use, its content; the rest is spare.
Spare bytes are not cleared: a buffer whose content grows without being written shows what an
earlier user left there.

## Main definitions

* `Buffer`: content and spare bytes, together as many as the capacity.
* `Buffer.zeroed`: a new buffer.
* `Buffer.append?`, `Buffer.resize?`, `Buffer.advance?`, `Buffer.setByte?`: operations that fail
  where the capacity or the content does not reach.
* `Buffer.fill`, `Buffer.clear`, `Buffer.load`: operations that always succeed.
-/

namespace Redelivery

/-- A buffer of fixed capacity. -/
structure Buffer where
  /-- The bytes in use. -/
  content : Bytes
  /-- The bytes not in use, which keep whatever was written there before. -/
  spare : Bytes
  /-- The number of bytes the buffer owns. -/
  capacity : Nat
  /-- Content and spare bytes make up the whole buffer. -/
  length_add_length : content.length + spare.length = capacity

namespace Buffer

/-- A new buffer without content, all of its bytes zero. -/
def zeroed (capacity : Nat) : Buffer where
  content := []
  spare := List.replicate capacity 0
  capacity := capacity
  length_add_length := by simp

/-- The number of bytes in use. -/
def length (b : Buffer) : Nat :=
  b.content.length

/-- Whether no byte is in use. -/
def isEmpty (b : Buffer) : Bool :=
  b.content.isEmpty

/-- The number of bytes that can still be appended. -/
def room (b : Buffer) : Nat :=
  b.spare.length

/-- All bytes of the buffer, in use or not. -/
def bytes (b : Buffer) : Bytes :=
  b.content ++ b.spare

theorem length_bytes (b : Buffer) : b.bytes.length = b.capacity := by
  simpa [bytes] using b.length_add_length

/-- The buffer with `bytes` after its content, or `none` if there is no room for all of them. -/
def append? (b : Buffer) (bytes : Bytes) : Option Buffer :=
  if h : bytes.length ≤ b.room then
    some
      { content := b.content ++ bytes
        spare := b.spare.drop bytes.length
        capacity := b.capacity
        length_add_length := by
          have := b.length_add_length
          simp only [room] at h
          simp only [List.length_append, List.length_drop]
          omega }
  else
    none

/-- The buffer with the first `length` of its bytes in use, or `none` if it has fewer. -/
def resize? (b : Buffer) (length : Nat) : Option Buffer :=
  if h : length ≤ b.capacity then
    some
      { content := b.bytes.take length
        spare := b.bytes.drop length
        capacity := b.capacity
        length_add_length := by
          have := b.length_bytes
          simp only [List.length_take, List.length_drop]
          omega }
  else
    none

/-- The buffer with `n` more of its bytes in use, or `none` if it has fewer spare ones. -/
def advance? (b : Buffer) (n : Nat) : Option Buffer :=
  b.resize? (b.length + n)

/-- The buffer with the byte at `index` replaced, or `none` if the content does not reach there. -/
def setByte? (b : Buffer) (index : Nat) (value : UInt8) : Option Buffer :=
  if index < b.length then
    some
      { content := b.content.set index value
        spare := b.spare
        capacity := b.capacity
        length_add_length := by simpa using b.length_add_length }
  else
    none

/-- The buffer with all of its bytes in use. -/
def fill (b : Buffer) : Buffer where
  content := b.bytes
  spare := []
  capacity := b.capacity
  length_add_length := by simpa using b.length_bytes

/-- The buffer with none of its bytes in use; the bytes themselves stay. -/
def clear (b : Buffer) : Buffer where
  content := []
  spare := b.bytes
  capacity := b.capacity
  length_add_length := by simpa using b.length_bytes

/-- The buffer with as much of `bytes` as fits for its content; the bytes behind it stay. -/
def load (b : Buffer) (bytes : Bytes) : Buffer where
  content := bytes.take b.capacity
  spare := b.bytes.drop (bytes.take b.capacity).length
  capacity := b.capacity
  length_add_length := by
    have := b.length_bytes
    simp only [List.length_take, List.length_drop]
    omega

/-- The content in decimal, in brackets and separated by commas. -/
def render (b : Buffer) : String :=
  "[" ++ ", ".intercalate (b.content.map fun byte => toString byte.toNat) ++ "]"

/-- Two buffers are alike when their contents are. -/
instance : BEq Buffer where
  beq a b := a.content == b.content

@[simp] theorem content_zeroed (capacity : Nat) : (zeroed capacity).content = [] := rfl

@[simp] theorem capacity_zeroed (capacity : Nat) : (zeroed capacity).capacity = capacity := rfl

@[simp] theorem content_clear (b : Buffer) : b.clear.content = [] := rfl

@[simp] theorem capacity_clear (b : Buffer) : b.clear.capacity = b.capacity := rfl

@[simp] theorem bytes_clear (b : Buffer) : b.clear.bytes = b.bytes := rfl

@[simp] theorem content_fill (b : Buffer) : b.fill.content = b.bytes := rfl

@[simp] theorem capacity_load (b : Buffer) (bytes : Bytes) : (b.load bytes).capacity = b.capacity :=
  rfl

theorem content_load_of_length_le {b : Buffer} {bytes : Bytes} (h : bytes.length ≤ b.capacity) :
    (b.load bytes).content = bytes :=
  List.take_of_length_le h

end Buffer

end Redelivery
