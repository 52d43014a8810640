import Redelivery.Buffer

/-!
# Pools of buffers

A pool keeps the storage of buffers that are no longer needed, and hands it out again to whoever
asks for a buffer of the same capacity: the most recently returned storage first. For each capacity
it keeps at most a fixed number of storages; what comes back beyond that is let go.

## Main definitions

* `Pool.take`: a buffer of a given capacity, from the pool or new.
* `Pool.give`: returns a buffer.
* `Pool.available`: the number of buffers of a given capacity in the pool.
* `Pool.compose`: an octet string written with the help of a buffer from the pool.
* `Pool.intake`: an octet string that passes through a buffer from the pool.
-/

namespace Redelivery

/-- The bytes of a buffer that is not in use. -/
structure Storage where
  /-- The bytes, as the last user left them. -/
  bytes : Bytes
  /-- Their number. -/
  size : Nat
  /-- The number is right. -/
  length_eq : bytes.length = size

namespace Storage

/-- A buffer without content over the storage. -/
def toBuffer (s : Storage) : Buffer where
  content := []
  spare := s.bytes
  capacity := s.size
  length_add_length := by simpa using s.length_eq

/-- The storage of a buffer. -/
def ofBuffer (b : Buffer) : Storage where
  bytes := b.bytes
  size := b.capacity
  length_eq := b.length_bytes

end Storage

/-- A pool of buffers. -/
structure Pool where
  /-- The greatest number of buffers of one capacity in the pool. -/
  limit : Nat
  /-- The storages in the pool, the most recently returned first. -/
  free : List Storage

namespace Pool

/-- A pool with nothing in it. -/
def empty (limit : Nat) : Pool where
  limit := limit
  free := []

/-- The number of buffers of the given capacity in the pool. -/
def available (p : Pool) (capacity : Nat) : Nat :=
  p.free.countP (·.size == capacity)

/-- A buffer of the given capacity without content, and the pool without it. The storage is the
one most recently returned, or new and zeroed if the pool has none of that capacity. -/
def take (p : Pool) (capacity : Nat) : Buffer × Pool :=
  match p.free.find? (·.size == capacity) with
  | some storage => (storage.toBuffer, { p with free := p.free.eraseP (·.size == capacity) })
  | none => (Buffer.zeroed capacity, p)

/-- The pool after a buffer was returned to it. -/
def give (p : Pool) (b : Buffer) : Pool :=
  if p.available b.capacity < p.limit then
    { p with free := Storage.ofBuffer b :: p.free }
  else
    p

/-- The pool after several buffers were returned to it, in this order. -/
def giveAll (p : Pool) (buffers : List Buffer) : Pool :=
  buffers.foldl give p

/-- The content that `write` leaves in a buffer of the given capacity, which is taken from the pool
for the purpose and returned to it. -/
def compose {ε : Type} (p : Pool) (capacity : Nat) (write : Buffer → Except ε Buffer) :
    Except ε Bytes × Pool :=
  let (buffer, p) := p.take capacity
  match write buffer with
  | .ok written => (.ok written.content, p.give written)
  | .error e => (.error e, p.give buffer)

/-- What a buffer of the given capacity takes in of `raw`. The buffer is taken from the pool for the
purpose and returned to it. -/
def intake (p : Pool) (capacity : Nat) (raw : Bytes) : Bytes × Pool :=
  let (buffer, p) := p.take capacity
  let loaded := buffer.load raw
  (loaded.content, p.give loaded)

@[simp] theorem content_take (p : Pool) (capacity : Nat) : (p.take capacity).1.content = [] := by
  unfold take
  split <;> rfl

@[simp] theorem capacity_take (p : Pool) (capacity : Nat) :
    (p.take capacity).1.capacity = capacity := by
  unfold take
  split
  · rename_i storage h
    have := List.find?_some h
    simpa [Storage.toBuffer] using this
  · rfl

@[simp] theorem limit_take (p : Pool) (capacity : Nat) : (p.take capacity).2.limit = p.limit := by
  unfold take
  split <;> rfl

@[simp] theorem limit_give (p : Pool) (b : Buffer) : (p.give b).limit = p.limit := by
  unfold give
  split <;> rfl

end Pool

end Redelivery
