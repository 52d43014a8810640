import Redelivery.RoundTrips
import Redelivery.Segment

/-!
# Windows

A window is a ring of segments. A segment's place in the ring is its serial number modulo the
window's capacity, and the window's position is its base, a serial number that only moves forward.
A place may be asked for a serial number that is not the one stored there, so every look-up compares
the two.

The ring serves two roles.

* In a **send window** the segments were sent and are not yet acknowledged. `Window.write` adds a
  segment, `Window.acknowledge` removes those that arrived and moves the base.
* In a **receive window** the segments arrived and are not yet delivered. `Window.accept` stores
  them in any order, `Window.pop?` takes them out strictly in sequence.

Segments that leave a window are handed back to the caller, who may want to reuse their bodies.

## Main definitions

* `Window`: base, ring and number of segments.
* `Window.find?`, `Window.get?`: look-up by serial number and by offset from the base.
* `Window.write`, `Window.clear`, `Window.acknowledge`, `Window.entries`: the send role.
* `Window.accept`, `Window.pop?`, `Window.received`: the receive role.
-/

namespace Redelivery

/-- A ring of segments. -/
structure Window (β : Type) where
  /-- The serial number the window starts at. -/
  base : Serial
  /-- The places of the ring. -/
  slots : Array (Option (Segment β))
  /-- The number of places that are taken. -/
  size : Nat
  /-- The ring has a place. -/
  slots_pos : 0 < slots.size

namespace Window

variable {β γ : Type}

/-- A window without segments. -/
def empty (capacity : Nat) (base : Serial) (h : 0 < capacity) : Window β where
  base := base
  slots := Array.replicate capacity none
  size := 0
  slots_pos := by simpa using h

/-- A window without segments, or `none` if it would have no place for any. -/
def empty? (capacity : Nat) (base : Serial) : Option (Window β) :=
  if h : 0 < capacity then some (empty capacity base h) else none

/-- The number of places. -/
def capacity (w : Window β) : Nat :=
  w.slots.size

/-- Whether no place is taken. -/
def isEmpty (w : Window β) : Bool :=
  w.size == 0

/-- What is stored in the place that belongs to `seq`. -/
def occupant (w : Window β) (seq : Serial) : Option (Segment β) :=
  have : seq.slot w.slots.size < w.slots.size := Serial.slot_lt w.slots_pos
  w.slots[seq.slot w.slots.size]

/-- The window with the place that belongs to `seq` overwritten. -/
def put (w : Window β) (seq : Serial) (s : Option (Segment β)) (size : Nat) : Window β where
  base := w.base
  slots := w.slots.set (seq.slot w.slots.size) s (Serial.slot_lt w.slots_pos)
  size := size
  slots_pos := by simpa using w.slots_pos

/-- The segment with the given serial number. -/
def find? (w : Window β) (seq : Serial) : Option (Segment β) :=
  match w.occupant seq with
  | some s => if s.seq = seq then some s else none
  | none => none

/-- The segment at the given offset from the base. -/
def get? (w : Window β) (offset : Nat) : Option (Segment β) :=
  w.find? (w.base + offset)

/-- The window with `s` in its place, whatever was there. -/
def store (w : Window β) (s : Segment β) : Window β :=
  match w.occupant s.seq with
  | some _ => w.put s.seq (some s) w.size
  | none => w.put s.seq (some s) (w.size + 1)

/-- The segment with the given serial number and the window without it, if it is there. -/
def remove? (w : Window β) (seq : Serial) : Option (Segment β × Window β) :=
  match w.find? seq with
  | some s => some (s, w.put seq none (w.size - 1))
  | none => none

/-! ### The send role -/

/-- What became of a segment that was to be added to a send window. -/
inductive Writing (β : Type) where
  /-- It was added. -/
  | added (w : Window β)
  /-- A segment with its serial number is there already, and stays. -/
  | present
  /-- The window has no room for it. -/
  | full

/-- Adds a segment to a send window. There is no room for a segment that is before the base, that
is as far ahead of it as the window is wide, or whose place is taken by another one. -/
def write (w : Window β) (s : Segment β) : Writing β :=
  match s.seq.offsetFrom? w.base with
  | none => .full
  | some offset =>
    if offset < w.capacity then
      match w.occupant s.seq with
      | none => .added (w.store s)
      | some other => if other.seq = s.seq then .present else .full
    else
      .full

/-- Removes a single segment without moving the window. -/
def clear (w : Window β) (seq : Serial) : Option (Segment β × Window β) :=
  w.remove? seq

/-- A window and the segments that were removed from it so far, in order of removal. -/
structure Shedding (β : Type) where
  /-- The window. -/
  window : Window β
  /-- The segments that were removed. -/
  removed : Array (Segment β)

namespace Shedding

/-- Removes the segment with the given serial number, if it is there. -/
def drop (p : Shedding β) (seq : Serial) : Shedding β :=
  match p.window.remove? seq with
  | some (s, w) => { window := w, removed := p.removed.push s }
  | none => p

/-- Removes the segment at the base, if it is there, and moves the base past it. -/
def dropBase (p : Shedding β) : Shedding β :=
  let p := p.drop p.window.base
  { p with window := { p.window with base := p.window.base.next } }

/-- Moves the base `n` steps forward and removes the segments it passes. -/
def advance : Nat → Shedding β → Shedding β
  | 0, p => p
  | n + 1, p => advance n p.dropBase

/-- Removes the segment `seq + i` for every bit `i` that is set in `bits`, lowest bit first. -/
def dropBits (p : Shedding β) (seq : Serial) (bits : UInt32) : Shedding β :=
  (List.range 32).foldl
    (fun p i => if bits.toNat.testBit i then p.drop (seq + i) else p) p

end Shedding

/-- Takes in an acknowledgement: the window without the segments that it acknowledges, and those
segments in order of removal. All segments before `next` are acknowledged, and the base moves there;
bit `i` of `received` acknowledges the segment `next + 1 + i`. An acknowledgement that is behind the
base, or ahead of it by more than the window is wide, does not refer to this window and is
ignored. -/
def acknowledge (w : Window β) (next : Serial) (received : UInt32) : Shedding β :=
  match next.offsetFrom? w.base with
  | none => ⟨w, #[]⟩
  | some offset =>
    if offset ≤ w.capacity then
      (Shedding.advance offset ⟨w, #[]⟩).dropBits next.next received
    else
      ⟨w, #[]⟩

/-- The round trips of segments that were acknowledged at time `now`; none is negative. -/
def roundTrips (removed : List (Segment β)) (now : Nat) : List Nat :=
  removed.map fun s => now - s.sentAt

/-- The segments of the window in order of their offset from the base. The search ends when as many
segments were found as the window holds. -/
def entries (w : Window β) : List (Segment β) :=
  go w.capacity 0 w.size #[]
where
  /-- The segments found so far and the next `left` ones among `steps` offsets. -/
  go (steps offset left : Nat) (found : Array (Segment β)) : List (Segment β) :=
    match steps, left with
    | steps + 1, left + 1 =>
      match w.get? offset with
      | some s => go steps (offset + 1) left (found.push s)
      | none => go steps (offset + 1) (left + 1) found
    | _, _ => found.toList

/-- Those of the `count` segments before `seq` that are in the window, the latest first. The search
ends when the window has no others than those found and `seq` itself. -/
def predecessors (w : Window β) (seq : Serial) (count : Nat) : List (Segment β) :=
  go count 1 (w.size - 1) #[]
where
  /-- The segments found so far and the next `left` ones among `steps` serial numbers. -/
  go (steps back left : Nat) (found : Array (Segment β)) : List (Segment β) :=
    match steps, left with
    | steps + 1, left + 1 =>
      match w.find? (seq - back) with
      | some s => go steps (back + 1) left (found.push s)
      | none => go steps (back + 1) (left + 1) found
    | _, _ => found.toList

/-! ### The receive role -/

/-- What became of a segment that was to be stored in a receive window. -/
inductive Accepting (β : Type) where
  /-- It was stored. The segment that was in its place before, if any, had to go. -/
  | stored (w : Window β) (evicted : Option (Segment β))
  /-- It was refused. -/
  | refused

/-- Stores a received segment. A segment is refused if it is before the base, if it is ahead of it
by more than the window is wide, or if its place is taken. The segment at the base is the one a
reader is waiting for: it is never refused and replaces whatever is in its place. -/
def accept (w : Window β) (s : Segment β) : Accepting β :=
  match s.seq.offsetFrom? w.base with
  | none => .refused
  | some offset =>
    if offset ≤ w.capacity then
      match w.occupant s.seq with
      | none => .stored (w.store s) none
      | some other => if s.seq = w.base then .stored (w.store s) (some other) else .refused
    else
      .refused

/-- The segment at the base and the window that starts behind it, if it is there. -/
def pop? (w : Window β) : Option (Segment β × Window β) :=
  match w.remove? w.base with
  | some (s, w) => some (s, { w with base := w.base.next })
  | none => none

/-- The number of serial numbers that a bitmap covers. -/
def bitmapWidth : Nat := 32

/-- The bitmap of the segments behind the base that are in the window: bit `i` stands for the
segment `base + 1 + i`. -/
def received (w : Window β) : UInt32 :=
  (List.range (min bitmapWidth w.capacity)).foldl
    (fun bits i =>
      if (w.get? (1 + i)).isSome then bits ||| (1 <<< UInt32.ofNat i) else bits) 0

/-- The header that acknowledges what the window holds and what was taken out of it. -/
def acknowledgement (w : Window β) : Serial × UInt32 :=
  (w.base, w.received)

end Window

end Redelivery
