import Redelivery.Proofs.Window.Lookup
import Redelivery.RoundTrips

/-!
# Windows without safety nets

The operations of a window once more, as a machine carries them out: a place is found by a division
and an index, and segments are counted by adding and subtracting. A *strict* operation has no result
where the divisor is zero, the index is out of range or the count would fall below zero. On tidy
windows it always has one, the same as that of the operation that it spells out.

## Main definitions

* `Window.Strict.place`: the place of a serial number, by division.
* `Window.Strict.occupant`, `Window.Strict.put`, `Window.Strict.remove`: what is done to a place.
* `Window.Strict.write`, `Window.Strict.acknowledge`, `Window.Strict.entries`,
  `Window.Strict.predecessors`: the send role.
* `Window.Strict.accept`, `Window.Strict.pop`, `Window.Strict.acknowledgement`: the receive role.
* `RoundTrips.Strict.recentMin`: the minimum of a part of the ring.

## Main statements

* `Window.Strict.remove_eq`: nothing is removed from a window that counts none.
* `Window.Strict.write_eq`, `Window.Strict.acknowledge_eq`, `Window.Strict.accept_eq`,
  `Window.Strict.pop_eq` and others: strict operations have the results that they should have.

The only equation that needs an invariant is `Window.Strict.remove_eq`. There a count is made
smaller by one, so there has to be one to take away, and `Window.Tidy` says that the count is the
number of occupied places. Everything that removes segments inherits the hypothesis from it,
acknowledgements in the first place. What is stored or looked up asks for nothing: the ring has a
place at least, which is part of the type, and a remainder is less than the divisor.

The strict versions of the two searches are written once, as `Window.Strict.collect`, over any way
of going from one serial number to the next.
-/

namespace Redelivery

variable {β : Type}

namespace Window.Strict

/-! ## Places -/

/-- The place of a serial number in the ring. -/
def place (w : Window β) (seq : Serial) : Option (Fin w.slots.size) := do
  let i ← seq.slot? w.slots.size
  if h : i < w.slots.size then some ⟨i, h⟩ else none

/-- What is stored in the place that belongs to `seq`. -/
def occupant (w : Window β) (seq : Serial) : Option (Option (Segment β)) := do
  let i ← place w seq
  some w.slots[i]

/-- The window with the place that belongs to `seq` overwritten. -/
def put (w : Window β) (seq : Serial) (s : Option (Segment β)) (size : Nat) :
    Option (Window β) := do
  let i ← place w seq
  some
    { base := w.base
      slots := w.slots.set i s
      size := size
      slots_pos := by simpa using w.slots_pos }

theorem place_eq (w : Window β) (seq : Serial) :
    place w seq = some ⟨seq.slot w.slots.size, Serial.slot_lt w.slots_pos⟩ := by
  unfold place Serial.slot?
  rw [if_neg (Nat.ne_of_gt w.slots_pos)]
  exact dif_pos (Serial.slot_lt w.slots_pos)

@[simp]
theorem occupant_eq (w : Window β) (seq : Serial) : occupant w seq = some (w.occupant seq) := by
  unfold occupant
  rw [place_eq]
  rfl

@[simp]
theorem put_eq (w : Window β) (seq : Serial) (s : Option (Segment β)) (size : Nat) :
    put w seq s size = some (w.put seq s size) := by
  unfold put
  rw [place_eq]
  rfl

/-! ## Segments -/

/-- The segment with the given serial number. -/
def find (w : Window β) (seq : Serial) : Option (Option (Segment β)) := do
  match ← occupant w seq with
  | some s => some (if s.seq = seq then some s else none)
  | none => some none

/-- The window with `s` in its place, whatever was there. -/
def store (w : Window β) (s : Segment β) : Option (Window β) := do
  match ← occupant w s.seq with
  | some _ => put w s.seq (some s) w.size
  | none => put w s.seq (some s) (w.size + 1)

/-- The segment with the given serial number and the window without it, if it is there. There is no
result if the window counts no segment. -/
def remove (w : Window β) (seq : Serial) : Option (Option (Segment β × Window β)) := do
  match ← find w seq with
  | some s => if w.size = 0 then none else (put w seq none (w.size - 1)).map fun w => some (s, w)
  | none => some none

@[simp]
theorem find_eq (w : Window β) (seq : Serial) : find w seq = some (w.find? seq) := by
  unfold find Window.find?
  rw [occupant_eq]
  cases w.occupant seq <;> rfl

@[simp]
theorem store_eq (w : Window β) (s : Segment β) : store w s = some (w.store s) := by
  unfold store Window.store
  rw [occupant_eq]
  cases h : w.occupant s.seq <;> simp

/-- **Nothing is removed from a window that counts none.** -/
theorem remove_eq {w : Window β} (h : w.Tidy) (seq : Serial) :
    remove w seq = some (w.remove? seq) := by
  unfold remove Window.remove?
  rw [find_eq]
  cases hfind : w.find? seq with
  | none => rfl
  | some s =>
    -- the segment that is there counts
    have hpos : 0 < w.size := by
      rw [h.size_eq]
      exact Array.countP_pos_iff.mpr ⟨_, w.occupant_mem_slots seq, by
        rw [(find?_eq_some_iff.mp hfind).1]; rfl⟩
    simp [Nat.ne_of_gt hpos]

/-! ## The send role -/

/-- Adds a segment to a send window. -/
def write (w : Window β) (s : Segment β) : Option (Writing β) :=
  match s.seq.offsetFrom? w.base with
  | none => some .full
  | some offset =>
    if offset < w.capacity then do
      match ← occupant w s.seq with
      | none => (store w s).map .added
      | some other => some (if other.seq = s.seq then .present else .full)
    else
      some .full

/-- Removes the segment with the given serial number, if it is there. -/
def drop (p : Shedding β) (seq : Serial) : Option (Shedding β) := do
  match ← remove p.window seq with
  | some (s, w) => some { window := w, removed := p.removed.push s }
  | none => some p

/-- Moves the base `n` steps forward and removes the segments it passes. -/
def advance : Nat → Shedding β → Option (Shedding β)
  | 0, p => some p
  | n + 1, p => do
    let p ← drop p p.window.base
    advance n { p with window := { p.window with base := p.window.base.next } }

/-- Removes the segment `seq + i` for every bit `i` that is set in `bits`, lowest bit first. -/
def dropBits (p : Shedding β) (seq : Serial) (bits : UInt32) : Option (Shedding β) :=
  (List.range 32).foldlM
    (fun p i => if bits.toNat.testBit i then drop p (seq + i) else some p) p

/-- Takes in an acknowledgement. -/
def acknowledge (w : Window β) (next : Serial) (received : UInt32) : Option (Shedding β) :=
  match next.offsetFrom? w.base with
  | none => some ⟨w, #[]⟩
  | some offset =>
    if offset ≤ w.capacity then do
      let p ← advance offset ⟨w, #[]⟩
      dropBits p next.next received
    else
      some ⟨w, #[]⟩

/-- The segments found so far and the next `left` ones among `steps` serial numbers, of which
`serialAt i` is the one at position `i`. -/
def collect (w : Window β) (serialAt : Nat → Serial) (steps i left : Nat)
    (found : Array (Segment β)) : Option (List (Segment β)) :=
  match steps, left with
  | steps + 1, left + 1 => do
    match ← find w (serialAt i) with
    | some s => collect w serialAt steps (i + 1) left (found.push s)
    | none => collect w serialAt steps (i + 1) (left + 1) found
  | _, _ => some found.toList

/-- The segments of the window in order of their offset from the base. -/
def entries (w : Window β) : Option (List (Segment β)) :=
  collect w (w.base + ·) w.capacity 0 w.size #[]

/-- Those of the `count` segments before `seq` that are in the window, the latest first. -/
def predecessors (w : Window β) (seq : Serial) (count : Nat) : Option (List (Segment β)) :=
  collect w (seq - ·) count 1 (w.size - 1) #[]

theorem write_eq (w : Window β) (s : Segment β) : write w s = some (w.write s) := by
  unfold write Window.write
  cases s.seq.offsetFrom? w.base with
  | none => rfl
  | some offset =>
    by_cases hlt : offset < w.capacity
    · simp only [if_pos hlt, occupant_eq, Option.bind_eq_bind, Option.bind_some]
      cases w.occupant s.seq <;> simp
    · simp only [if_neg hlt]

theorem drop_eq {p : Shedding β} (h : p.window.Tidy) (seq : Serial) :
    drop p seq = some (p.drop seq) := by
  unfold drop Shedding.drop
  rw [remove_eq h]
  cases p.window.remove? seq <;> rfl

theorem advance_eq (n : Nat) {p : Shedding β} (h : p.window.Tidy) :
    advance n p = some (Shedding.advance n p) := by
  induction n generalizing p with
  | zero => rfl
  | succ n ih =>
    unfold advance
    rw [drop_eq h]
    exact ih ((h.drop _).rebase _)

theorem dropBits_eq {p : Shedding β} (h : p.window.Tidy) (seq : Serial) (bits : UInt32) :
    dropBits p seq bits = some (p.dropBits seq bits) := by
  unfold dropBits Shedding.dropBits
  induction List.range 32 generalizing p with
  | nil => rfl
  | cons i rest ih =>
    rw [List.foldlM_cons, List.foldl_cons]
    split
    · rw [drop_eq h]
      exact ih (h.drop _)
    · exact ih h

/-- **Acknowledgements never make a window count below zero**, whatever they say. -/
theorem acknowledge_eq {w : Window β} (h : w.Tidy) (next : Serial) (received : UInt32) :
    acknowledge w next received = some (w.acknowledge next received) := by
  unfold acknowledge Window.acknowledge
  cases next.offsetFrom? w.base with
  | none => rfl
  | some offset =>
    have hstart : (⟨w, #[]⟩ : Shedding β).window.Tidy := h
    by_cases hle : offset ≤ w.capacity
    · simp only [if_pos hle, advance_eq offset hstart, Option.bind_eq_bind, Option.bind_some]
      exact dropBits_eq hstart.advance _ _
    · simp only [if_neg hle]

theorem entries_eq (w : Window β) : entries w = some w.entries := by
  unfold entries Window.entries
  generalize (#[] : Array (Segment β)) = found
  fun_induction Window.entries.go w w.capacity 0 w.size found with
  | case1 offset left found steps s hs ih =>
    rw [Window.get?] at hs
    simpa [collect, hs] using ih
  | case2 offset left found steps hs ih =>
    rw [Window.get?] at hs
    simpa [collect, hs] using ih
  | case3 offset steps left found hnone => cases steps <;> cases left <;> simp_all [collect]

theorem predecessors_eq (w : Window β) (seq : Serial) (count : Nat) :
    predecessors w seq count = some (w.predecessors seq count) := by
  unfold predecessors Window.predecessors
  generalize (#[] : Array (Segment β)) = found
  fun_induction Window.predecessors.go w seq count 1 (w.size - 1) found with
  | case1 back left found steps s hs ih => simpa [collect, hs] using ih
  | case2 back left found steps hs ih => simpa [collect, hs] using ih
  | case3 back steps left found hnone => cases steps <;> cases left <;> simp_all [collect]

/-! ## The receive role -/

/-- Stores a received segment. -/
def accept (w : Window β) (s : Segment β) : Option (Accepting β) :=
  match s.seq.offsetFrom? w.base with
  | none => some .refused
  | some offset =>
    if offset ≤ w.capacity then do
      match ← occupant w s.seq with
      | none => (store w s).map (.stored · none)
      | some other =>
        if s.seq = w.base then (store w s).map (.stored · (some other)) else some .refused
    else
      some .refused

/-- The segment at the base and the window that starts behind it, if it is there. -/
def pop (w : Window β) : Option (Option (Segment β × Window β)) := do
  match ← remove w w.base with
  | some (s, w) => some (some (s, { w with base := w.base.next }))
  | none => some none

/-- The bitmap of the segments behind the base that are in the window. -/
def received (w : Window β) : Option UInt32 :=
  (List.range (min bitmapWidth w.capacity)).foldlM
    (fun bits i => do
      let found ← find w (w.base + (1 + i))
      some (if found.isSome then bits ||| (1 <<< UInt32.ofNat i) else bits)) 0

/-- The header that acknowledges what the window holds and what was taken out of it. -/
def acknowledgement (w : Window β) : Option (Serial × UInt32) := do
  let bits ← received w
  some (w.base, bits)

theorem accept_eq (w : Window β) (s : Segment β) : accept w s = some (w.accept s) := by
  unfold accept Window.accept
  cases s.seq.offsetFrom? w.base with
  | none => rfl
  | some offset =>
    by_cases hle : offset ≤ w.capacity
    · simp only [if_pos hle, occupant_eq, store_eq, Option.bind_eq_bind, Option.bind_some]
      cases w.occupant s.seq with
      | none => rfl
      | some other => by_cases hbase : s.seq = w.base <;> simp [hbase]
    · simp only [if_neg hle]

theorem pop_eq {w : Window β} (h : w.Tidy) : pop w = some w.pop? := by
  unfold pop Window.pop?
  rw [remove_eq h]
  cases w.remove? w.base <;> rfl

theorem acknowledgement_eq (w : Window β) : acknowledgement w = some w.acknowledgement := by
  have hreceived : received w = some w.received := by
    unfold received Window.received
    simp only [find_eq, Window.get?]
    exact List.foldlM_pure
  unfold acknowledgement
  rw [hreceived]
  rfl

end Window.Strict

/-! ## Round trips -/

/-- The minimum of the most recent samples. There is no result if more samples are asked for than
the ring has. -/
def RoundTrips.Strict.recentMin (r : RoundTrips) : Option Nat :=
  match r.known with
  | some minimum => some minimum
  | none =>
    if r.size ≤ r.ring.toList.length then some (((r.ring.toList.take r.size).min?).getD 0) else none

theorem RoundTrips.Strict.recentMin_eq {r : RoundTrips} (h : r.size ≤ 4) :
    recentMin r = some r.recentMin := by
  unfold recentMin RoundTrips.recentMin
  cases r.known with
  | some minimum => rfl
  | none => exact if_pos (by simpa using h)

end Redelivery
