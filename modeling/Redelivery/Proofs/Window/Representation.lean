import Redelivery.Proofs.Strict.Window
import Redelivery.Proofs.Window.Acknowledgement

/-!
# The ring, the base and the count

Three things have to fit together in a window: the places that segments stand in, the base that
offsets are counted from, and the number of places that are taken. Any calls, those of a send
window and those of a receive window in any mixture, leave them so, for a ring of any width. Where
the width does not divide the range of serial numbers, numbers next to each other may belong to one
place; a segment that finds its place taken is refused, or else the other one has to go.

## Main definitions

* `Window.Change`, `Window.change`: the calls that change a window.
* `Window.Strict.change`: the same without safety nets.
* `Window.Within`: no segment is out of reach.
* `Window.Kept`, `Window.Arranged`: the invariant, and what it means for places and look-ups.

## Main statements

* `Window.Kept.drop`, `Window.Kept.dropBase`, `Window.Kept.store`: what is done to a ring keeps it.
* `Window.Kept.change`: so does every call.
* `Window.Kept.foldlM_change_eq`: the count never falls below zero.
* `Window.arranged_of_changes`: the window is arranged after any calls.

Three operations change the places: a segment is stored, one is dropped, and the base moves past
one. Each keeps `Window.Kept`, and the calls are made of them, so there is one lemma for each
operation and one for the calls. `Window.Within` is the part of it that says more than
`Window.Tidy`: distances are taken from the base, so it has to be shown anew when that moves, which
it does step by step, with the segment at the base dropped before each step.

`Window.Arranged` is what the invariant means in terms of places and of look-ups by offset. It does
not ask that the width divides the range of serial numbers; that segments are found by offset comes
from `Window.Tidy.perm_filterMap_get?`, which compares two lists without repetitions by their
members.
-/

namespace Redelivery.Window

variable {β : Type}

/-! ## Changes -/

/-- The calls that change a window. -/
inductive Change (β : Type) where
  /-- A segment is added to a send window. -/
  | write (s : Segment β)
  /-- A received segment is stored. -/
  | accept (s : Segment β)
  /-- A single segment is removed. -/
  | clear (seq : Serial)
  /-- An acknowledgement is taken in. -/
  | acknowledge (next : Serial) (received : UInt32)
  /-- The segment at the base is taken out. -/
  | pop

/-- The window after a segment was added to `w`, or was not. -/
def Writing.window (w : Window β) : Writing β → Window β
  | .added w' => w'
  | .present => w
  | .full => w

/-- The window after a segment was stored in `w`, or was not. -/
def Accepting.window (w : Window β) : Accepting β → Window β
  | .stored w' _ => w'
  | .refused => w

/-- The window after a segment was taken out of `w`, or was not. -/
def rest (w : Window β) : Option (Segment β × Window β) → Window β
  | some (_, w') => w'
  | none => w

/-- The window after a call. -/
def change (w : Window β) : Change β → Window β
  | .write s => (w.write s).window w
  | .accept s => (w.accept s).window w
  | .clear seq => w.rest (w.clear seq)
  | .acknowledge next received => (w.acknowledge next received).window
  | .pop => w.rest w.pop?

/-- The window after a call that is carried out without safety nets. -/
def Strict.change (w : Window β) : Change β → Option (Window β)
  | .write s => (Strict.write w s).map (Writing.window w)
  | .accept s => (Strict.accept w s).map (Accepting.window w)
  | .clear seq => (Strict.remove w seq).map (Window.rest w)
  | .acknowledge next received => (Strict.acknowledge w next received).map Shedding.window
  | .pop => (Strict.pop w).map (Window.rest w)

/-- **Nothing goes wrong in a tidy window**: without safety nets, a call has the same result. -/
theorem Strict.change_eq {w : Window β} (h : w.Tidy) (c : Change β) :
    Strict.change w c = some (w.change c) := by
  cases c with
  | write s => exact congrArg (Option.map _) (write_eq w s)
  | accept s => exact congrArg (Option.map _) (accept_eq w s)
  | clear seq => exact congrArg (Option.map _) (remove_eq h seq)
  | acknowledge next received => exact congrArg (Option.map _) (acknowledge_eq h next received)
  | pop => exact congrArg (Option.map _) (pop_eq h)

/-! ## Out of reach -/

/-- All segments of the window are ahead of the base by less than `reach`. -/
def Within (w : Window β) (reach : Nat) : Prop :=
  ∀ seq s, w.find? seq = some s → seq.distanceFrom w.base < reach

namespace Within

variable {w : Window β} {p : Shedding β} {reach : Nat}

theorem empty {capacity : Nat} (hc : 0 < capacity) (base : Serial) :
    (Window.empty capacity base hc : Window β).Within reach := by
  intro seq s hs
  rw [find?_eq_some_iff, occupant_empty] at hs
  cases hs.1

theorem store (h : w.Within reach) {s : Segment β} (hs : s.seq.distanceFrom w.base < reach) :
    (w.store s).Within reach := by
  intro q u hu
  rw [base_store]
  rw [find?_store] at hu
  split at hu
  · rename_i hq
    rwa [hq]
  · split at hu
    · cases hu
    · exact h q u hu

theorem drop (h : p.window.Within reach) (seq : Serial) : (p.drop seq).window.Within reach := by
  intro q u hu
  rw [Shedding.base_drop]
  rw [Shedding.find?_drop] at hu
  split at hu
  · cases hu
  · exact h q u hu

/-- The segment at the base is gone before the base moves on, and the others come nearer. -/
theorem dropBase (h : p.window.Within reach) : p.dropBase.window.Within reach := by
  intro q u hu
  rw [Shedding.find?_dropBase] at hu
  split at hu
  · cases hu
  · rename_i hq
    have hpos : 1 ≤ q.distanceFrom p.window.base :=
      Nat.one_le_iff_ne_zero.mpr (mt Serial.distanceFrom_eq_zero_iff.mp hq)
    rw [Shedding.base_dropBase]
    show q.distanceFrom (p.window.base + 1) < reach
    rw [Serial.distanceFrom_add_of_le hpos]
    exact Nat.lt_of_le_of_lt (Nat.sub_le _ _) (h q u hu)

theorem advance (n : Nat) (h : p.window.Within reach) :
    (Shedding.advance n p).window.Within reach := by
  induction n generalizing p with
  | zero => exact h
  | succ n ih => exact ih h.dropBase

theorem dropAll (seqs : List Serial) (h : p.window.Within reach) :
    (p.dropAll seqs).window.Within reach := by
  induction seqs generalizing p with
  | nil => exact h
  | cons seq rest ih => exact ih (h.drop seq)

/-- **Whatever is acknowledged**, what is left is within reach of the new base. -/
theorem acknowledge (h : w.Within reach) (next : Serial) (received : UInt32) :
    (w.acknowledge next received).window.Within reach := by
  have hstart : (⟨w, #[]⟩ : Shedding β).window.Within reach := h
  rcases w.acknowledge_cases next received with heq | ⟨offset, -, -, heq⟩
  · rwa [heq]
  · rw [heq]
    exact (hstart.advance offset).dropAll _

end Within

theorem distanceFrom_le_of_accept {w w' : Window β} {s : Segment β}
    {evicted : Option (Segment β)} (h : w.accept s = .stored w' evicted) :
    s.seq.distanceFrom w.base ≤ w.capacity := by
  unfold accept at h
  split at h
  · cases h
  · rename_i offset hoffset
    rw [(Serial.offsetFrom?_eq_some_iff.mp hoffset).1]
    split at h
    · assumption
    · cases h

theorem rest_clear (w : Window β) (seq : Serial) :
    w.rest (w.clear seq) = ((⟨w, #[]⟩ : Shedding β).drop seq).window := by
  unfold clear Shedding.drop
  show _ = (match w.remove? seq with
    | some (s, w') => (⟨w', #[].push s⟩ : Shedding β)
    | none => ⟨w, #[]⟩).window
  cases w.remove? seq <;> rfl

theorem dropBase_of_pop? {w w' : Window β} {s : Segment β} (h : w.pop? = some (s, w')) :
    w' = (⟨w, #[]⟩ : Shedding β).dropBase.window := by
  obtain ⟨hfind, rfl⟩ := pop?_eq_some_iff.mp h
  have hremove : (⟨w, #[]⟩ : Shedding β).window.remove? w.base
      = some (s, w.put w.base none (w.size - 1)) :=
    remove?_eq_some_iff.mpr ⟨hfind, rfl⟩
  unfold Shedding.dropBase Shedding.drop
  rw [hremove]
  rfl

/-! ## The invariant -/

/-- A window of the given width as the calls keep it. -/
structure Kept (w : Window β) (capacity : Nat) : Prop where
  /-- Segments stand in their places and are counted. -/
  tidy : w.Tidy
  /-- The ring is as wide as it was made. -/
  capacity_eq : w.capacity = capacity
  /-- No segment is further ahead of the base than the ring is wide. -/
  within : w.Within (capacity + 1)

namespace Kept

variable {w : Window β} {p : Shedding β} {capacity : Nat}

theorem empty (hc : 0 < capacity) (base : Serial) :
    (Window.empty capacity base hc : Window β).Kept capacity where
  tidy := Tidy.empty hc
  capacity_eq := capacity_empty hc
  within := Within.empty hc base

/-! ### What is done to a ring -/

theorem store (h : w.Kept capacity) {s : Segment β} (hs : s.seq.distanceFrom w.base ≤ capacity) :
    (w.store s).Kept capacity where
  tidy := h.tidy.store s
  capacity_eq := (capacity_store w s).trans h.capacity_eq
  within := h.within.store (Nat.lt_succ_of_le hs)

theorem drop (h : p.window.Kept capacity) (seq : Serial) : (p.drop seq).window.Kept capacity where
  tidy := h.tidy.drop seq
  capacity_eq := (Shedding.capacity_drop p seq).trans h.capacity_eq
  within := h.within.drop seq

theorem dropBase (h : p.window.Kept capacity) : p.dropBase.window.Kept capacity where
  tidy := (h.tidy.drop _).rebase _
  capacity_eq := (Shedding.capacity_dropBase p).trans h.capacity_eq
  within := h.within.dropBase

/-! ### The calls -/

theorem acknowledge (h : w.Kept capacity) (next : Serial) (received : UInt32) :
    (w.acknowledge next received).window.Kept capacity where
  tidy := h.tidy.acknowledge next received
  capacity_eq := (w.capacity_acknowledge next received).trans h.capacity_eq
  within := h.within.acknowledge next received

/-- **Every call keeps a window as it should be**, whichever role it belongs to. -/
theorem change (h : w.Kept capacity) (c : Change β) : (w.change c).Kept capacity := by
  have hstart : (⟨w, #[]⟩ : Shedding β).window.Kept capacity := h
  cases c with
  | write s =>
    show ((w.write s).window w).Kept capacity
    cases hwrite : w.write s with
    | added w' =>
      obtain ⟨rfl, hlt⟩ := store_of_write hwrite
      exact h.store (h.capacity_eq ▸ Nat.le_of_lt hlt)
    | present => exact h
    | full => exact h
  | accept s =>
    show ((w.accept s).window w).Kept capacity
    cases haccept : w.accept s with
    | stored w' evicted =>
      obtain ⟨rfl, -, -⟩ := accept_eq_stored haccept
      exact h.store (h.capacity_eq ▸ distanceFrom_le_of_accept haccept)
    | refused => exact h
  | clear seq =>
    show (w.rest (w.clear seq)).Kept capacity
    rw [rest_clear]
    exact hstart.drop seq
  | acknowledge next received => exact h.acknowledge next received
  | pop =>
    show (w.rest w.pop?).Kept capacity
    cases hpop : w.pop? with
    | none => exact h
    | some r =>
      rw [rest, dropBase_of_pop? hpop]
      exact hstart.dropBase

/-- Without safety nets, any calls come to the same, and keep the window as it should be. -/
theorem foldlM_change_eq (h : w.Kept capacity) (changes : List (Change β)) :
    changes.foldlM Strict.change w = some (changes.foldl Window.change w)
      ∧ (changes.foldl Window.change w).Kept capacity := by
  induction changes generalizing w with
  | nil => exact ⟨rfl, h⟩
  | cons c rest ih =>
    rw [List.foldlM_cons, Strict.change_eq h.tidy, List.foldl_cons]
    exact ih (h.change c)

end Kept

/-! ## What it means -/

/-- Places, base and count of a window fit together. -/
structure Arranged (w : Window β) (capacity : Nat) : Prop where
  /-- Each segment stands in the place that its serial number belongs to. -/
  place : ∀ (i : Nat) (s : Segment β), w.slots[i]? = some (some s) → s.seq.toNat % capacity = i
  /-- It is ahead of the base by no more than the ring is wide. -/
  near : ∀ (i : Nat) (s : Segment β), w.slots[i]? = some (some s) →
    s.seq.distanceFrom w.base ≤ capacity
  /-- No two places have segments with the same serial number. -/
  unique : ∀ (i j : Nat) (s t : Segment β), w.slots[i]? = some (some s) →
    w.slots[j]? = some (some t) → s.seq = t.seq → i = j
  /-- The size is the number of places that are taken. -/
  size_eq : w.size = w.slots.toList.countP Option.isSome
  /-- At the offsets up to the width stand the segments of the ring, each of them once. -/
  found : ((List.range (capacity + 1)).filterMap w.get?).Perm (w.slots.toList.filterMap id)
  /-- The offset of a segment is its distance from the base, so that they are found in order. -/
  offset_eq : ∀ (offset : Nat) (s : Segment β), offset ≤ capacity → w.get? offset = some s →
    s.seq.distanceFrom w.base = offset

theorem Tidy.occupant_of_getElem? {w : Window β} (hcap : w.capacity ≤ 2 ^ 32) {i : Nat}
    {s : Segment β} (h : w.slots[i]? = some (some s)) :
    i < w.capacity ∧ w.occupant (Serial.ofNat i) = some s := by
  obtain ⟨hi, hs⟩ := Array.getElem?_eq_some_iff.mp h
  have hslot := Serial.slot_ofNat hi hcap
  refine ⟨hi, ?_⟩
  rw [occupant_eq w _ (by rwa [hslot]), ← hs]
  simp only [hslot]

theorem Kept.arranged {w : Window β} {capacity : Nat} (h : w.Kept capacity)
    (hcap : capacity < 2 ^ 32) : w.Arranged capacity := by
  have hwidth := h.capacity_eq
  have hplace (i : Nat) (s : Segment β) (hs : w.slots[i]? = some (some s)) :
      s.seq.toNat % capacity = i := by
    obtain ⟨hi, hocc⟩ := Tidy.occupant_of_getElem? (by omega) hs
    have hslot := (h.tidy.place _ s hocc).trans (Serial.slot_ofNat hi (by omega))
    rwa [hwidth] at hslot
  exact
    { place := hplace
      near := fun i s hs => by
        obtain ⟨-, hocc⟩ := Tidy.occupant_of_getElem? (by omega) hs
        exact Nat.le_of_lt_succ (h.within _ s (h.tidy.find?_of_occupant hocc))
      unique := fun i j s t hs ht hseq => by rw [← hplace i s hs, ← hplace j t ht, hseq]
      size_eq := by rw [h.tidy.size_eq, Array.countP_toList]
      found := h.tidy.perm_filterMap_get? (by omega) (by omega) h.within
      offset_eq := fun offset s hle hs => by
        rw [seq_of_find? hs, Serial.distanceFrom_add (by omega)] }

/-- **Places, base and count fit together after any calls**, whichever role they belong to and in
whatever order they come, in a window of any width that started anywhere. Without safety nets, no
call lets the count fall below zero or asks for a place that is not there. -/
theorem arranged_of_changes {capacity : Nat} (hpos : 0 < capacity) (hcap : capacity < 2 ^ 32)
    (base : Serial) (changes : List (Change β)) :
    changes.foldlM Strict.change (empty capacity base hpos)
        = some (changes.foldl change (empty capacity base hpos))
      ∧ (changes.foldl change (empty capacity base hpos)).Arranged capacity := by
  obtain ⟨hstrict, hkept⟩ := (Kept.empty hpos base).foldlM_change_eq changes
  exact ⟨hstrict, hkept.arranged hcap⟩

/-- In a ring of three places, the last serial number and the first one share a place: the former is
at the base, so the latter has to go. Two more segments are stored, and one is acknowledged. -/
theorem arranged_of_changes_wrapping :
    (⟨0xFFFFFFFF⟩ : Serial).slot 3 = (⟨0⟩ : Serial).slot 3
      ∧ ∃ w, [Change.accept ⟨⟨0⟩, false, (), 0⟩, .accept ⟨⟨0xFFFFFFFF⟩, false, (), 0⟩,
            .write ⟨⟨1⟩, false, (), 0⟩, .accept ⟨⟨2⟩, false, (), 0⟩, .acknowledge ⟨1⟩ 0].foldlM
          Strict.change (empty 3 ⟨0xFFFFFFFF⟩ (by decide)) = some w
        ∧ w.size = 2 ∧ w.Arranged 3 := by
  obtain ⟨hstrict, harranged⟩ := arranged_of_changes (show 0 < 3 by decide) (by decide)
    ⟨0xFFFFFFFF⟩ [Change.accept ⟨⟨0⟩, false, (), 0⟩, .accept ⟨⟨0xFFFFFFFF⟩, false, (), 0⟩,
      .write ⟨⟨1⟩, false, (), 0⟩, .accept ⟨⟨2⟩, false, (), 0⟩, .acknowledge ⟨1⟩ 0]
  exact ⟨by decide, _, hstrict, by decide +kernel, harranged⟩

end Redelivery.Window
