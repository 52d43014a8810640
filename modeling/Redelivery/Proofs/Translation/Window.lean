import Mathlib.Data.List.Forall2
import Mathlib.Data.Option.Basic
import Redelivery.Proofs.Window.Acknowledgement

/-!
# Windows with all serial numbers moved

All serial numbers in a window are moved on by the same number of steps, modulo the range. The
places in the ring move with them, and they do so consistently where serial numbers wrap around,
since the number of places divides the range. Whatever is done with both windows, moved likewise, has
the same result, moved likewise: order, distance and conflicts of places do not depend on where
counting began.

Two windows match if one is the other moved, up to spare bytes of the buffers in them.

## Main definitions

* `Segment.shift`: a segment with its serial number moved.
* `Window.Matches`: a window and another one with all serial numbers moved.

## Main statements

* `Serial.offsetFrom?_add_right`, `Serial.slot_add_right_iff`: order and places.
* `Window.Matches.write`, `Window.Matches.acknowledge`, `Window.Matches.entries`,
  `Window.Matches.predecessors`: the send role.
* `Window.Matches.accept`, `Window.Matches.pop?`, `Window.Matches.received_eq`: the receive role.

Windows are compared serial number by serial number and not place by place: what is found at `seq`
in the one has to go with what is found at `seq + δ` in the other, wherever in the ring that is. All
that operations ask of places is whether two numbers share one, and by `Serial.slot_add_right_iff`
that is the same on both sides. It is the one lemma that needs the width of the ring to divide the
range of serial numbers, and the reason why `Window.Matches` carries that along.

Each operation has one lemma, and it goes by cases on the relation of what was found. Segments match
when they look alike on the wire; what is in the spare bytes of their buffers never decides
anything.
-/

namespace Redelivery

/-! ## Serial numbers -/

namespace Serial

variable {s t base : Serial} {δ : Nat}

theorem add_right_comm (s : Serial) (m n : Nat) : s + m + n = s + n + m := by
  rw [add_assoc, add_assoc, Nat.add_comm]

theorem next_add_right (s : Serial) (δ : Nat) : (s + δ).next = s.next + δ :=
  add_right_comm s δ 1

theorem sub_add_right (s : Serial) (n δ : Nat) : s + δ - n = s - n + δ := by
  show (⟨s.raw + UInt32.ofNat δ - UInt32.ofNat n⟩ : Serial)
    = ⟨s.raw - UInt32.ofNat n + UInt32.ofNat δ⟩
  congr 1
  grind

theorem raw_sub_add_right (s base : Serial) (δ : Nat) :
    (s + δ).raw - (base + δ).raw = s.raw - base.raw := by
  show s.raw + UInt32.ofNat δ - (base.raw + UInt32.ofNat δ) = s.raw - base.raw
  grind

theorem distanceFrom_add_right (s base : Serial) (δ : Nat) :
    (s + δ).distanceFrom (base + δ) = s.distanceFrom base :=
  congrArg UInt32.toNat (raw_sub_add_right s base δ)

theorem offsetFrom?_add_right (s base : Serial) (δ : Nat) :
    (s + δ).offsetFrom? (base + δ) = s.offsetFrom? base := by
  unfold offsetFrom? isBefore signedDistance
  rw [distanceFrom_add_right, raw_sub_add_right]

theorem add_right_cancel_iff : s + δ = t + δ ↔ s = t := by
  rw [← distanceFrom_eq_zero_iff, distanceFrom_add_right, distanceFrom_eq_zero_iff]

/-- The places of two serial numbers coincide wherever counting began. -/
theorem slot_add_right_iff {capacity : Nat} (hdvd : capacity ∣ 2 ^ 32) :
    (s + δ).slot capacity = (t + δ).slot capacity ↔ s.slot capacity = t.slot capacity := by
  rw [slot_add hdvd, slot_add hdvd]
  exact Nat.ModEq.add_iff_right (n := capacity) rfl

end Serial

/-! ## Segments -/

namespace Segment

variable {β : Type} {δ : Nat} {u v : Segment Buffer}

/-- The segment with its serial number moved on. -/
def shift (δ : Nat) (s : Segment β) : Segment β :=
  { s with seq := s.seq + δ }

@[simp] theorem size_shift (δ : Nat) (s : Segment Bytes) : (s.shift δ).size = s.size := rfl

/-- The second segment is the first one with its serial number moved on. -/
def Matches (δ : Nat) (u v : Segment Buffer) : Prop :=
  v.wire = u.wire.shift δ

namespace Matches

theorem wire_eq (h : u.Matches δ v) : v.wire = u.wire.shift δ :=
  h

theorem seq_eq (h : u.Matches δ v) : v.seq = u.seq + δ :=
  congrArg Segment.seq h.wire_eq

theorem more_eq (h : u.Matches δ v) : v.more = u.more := by
  have hmore : v.wire.more = (u.wire.shift δ).more := by rw [h.wire_eq]
  exact hmore

theorem content_eq (h : u.Matches δ v) : v.body.content = u.body.content :=
  congrArg Segment.body h.wire_eq

theorem sentAt_eq (h : u.Matches δ v) : v.sentAt = u.sentAt := by
  have hsent : v.wire.sentAt = (u.wire.shift δ).sentAt := by rw [h.wire_eq]
  exact hsent

end Matches

end Segment

/-- Of two optional things that go together, both are there or neither. -/
theorem isSome_eq_of_rel {α β : Type} {r : α → β → Prop} {a : Option α} {b : Option β}
    (h : Option.Rel r a b) : b.isSome = a.isSome := by
  cases h <;> rfl

/-- Two optional things that go together look the same, if things that go together do. -/
theorem map_eq_of_rel {α β γ : Type} {r : α → β → Prop} {a : Option α} {b : Option β}
    (h : Option.Rel r a b) {f : α → γ} {g : β → γ} (hfg : ∀ x y, r x y → g y = f x) :
    b.map g = a.map f := by
  cases h with
  | none => rfl
  | some hxy => exact congrArg some (hfg _ _ hxy)

/-! ## Windows -/

namespace Window

variable {δ : Nat} {w v : Window Buffer} {s t : Segment Buffer} {q : Serial}

/-- The second window is the first one with all serial numbers moved on. -/
structure Matches (δ : Nat) (w v : Window Buffer) : Prop where
  /-- The places are consistent where serial numbers wrap around. -/
  dvd : w.capacity ∣ 2 ^ 32
  /-- The number of places. -/
  capacity_eq : v.capacity = w.capacity
  /-- The base. -/
  base_eq : v.base = w.base + δ
  /-- The number of segments. -/
  size_eq : v.size = w.size
  /-- The places. -/
  occupant : ∀ q, Option.Rel (Segment.Matches δ) (w.occupant q) (v.occupant (q + δ))

/-- The outcomes of adding a segment match. -/
inductive Writing.Matches (δ : Nat) : Writing Buffer → Writing Buffer → Prop
  /-- It was added. -/
  | added {w v : Window Buffer} (h : w.Matches δ v) : Matches δ (.added w) (.added v)
  /-- It is there already. -/
  | present : Matches δ .present .present
  /-- There is no room. -/
  | full : Matches δ .full .full

/-- The outcomes of storing a segment match. -/
inductive Accepting.Matches (δ : Nat) : Accepting Buffer → Accepting Buffer → Prop
  /-- It was stored. -/
  | stored {w v : Window Buffer} (h : w.Matches δ v) (a b : Option (Segment Buffer)) :
      Matches δ (.stored w a) (.stored v b)
  /-- It was refused. -/
  | refused : Matches δ .refused .refused

/-- The segments that were taken out of two windows match, and so do the windows without them. -/
def PairMatches (δ : Nat) (a b : Segment Buffer × Window Buffer) : Prop :=
  a.1.Matches δ b.1 ∧ a.2.Matches δ b.2

namespace Matches

theorem empty {capacity : Nat} (hc : 0 < capacity) (hdvd : capacity ∣ 2 ^ 32) (base : Serial)
    (δ : Nat) : (Window.empty capacity base hc).Matches δ (.empty capacity (base + δ) hc) where
  dvd := by rwa [capacity_empty]
  capacity_eq := by rw [capacity_empty, capacity_empty]
  base_eq := rfl
  size_eq := rfl
  occupant q := by
    rw [occupant_empty, occupant_empty]
    exact .none

/-- The window may start elsewhere. -/
theorem rebase (h : w.Matches δ v) {a b : Serial} (hbase : b = a + δ) :
    ({ w with base := a } : Window Buffer).Matches δ { v with base := b } :=
  ⟨h.dvd, h.capacity_eq, hbase, h.size_eq, h.occupant⟩

theorem put (h : w.Matches δ v) (q : Serial) {a b : Option (Segment Buffer)}
    (hab : Option.Rel (Segment.Matches δ) a b) (n : Nat) :
    (w.put q a n).Matches δ (v.put (q + δ) b n) where
  dvd := by rw [capacity_put]; exact h.dvd
  capacity_eq := by rw [capacity_put, capacity_put, h.capacity_eq]
  base_eq := h.base_eq
  size_eq := rfl
  occupant p := by
    simp only [occupant_put, h.capacity_eq, Serial.slot_add_right_iff h.dvd]
    split
    · exact hab
    · exact h.occupant p

theorem find? (h : w.Matches δ v) (q : Serial) :
    Option.Rel (Segment.Matches δ) (w.find? q) (v.find? (q + δ)) := by
  have hoccupant := h.occupant q
  unfold Window.find?
  generalize w.occupant q = a at hoccupant ⊢
  generalize v.occupant (q + δ) = b at hoccupant ⊢
  cases hoccupant with
  | none => exact .none
  | some hmatch =>
    simp only [hmatch.seq_eq, Serial.add_right_cancel_iff]
    split
    · exact .some hmatch
    · exact .none

theorem get? (h : w.Matches δ v) (i : Nat) :
    Option.Rel (Segment.Matches δ) (w.get? i) (v.get? i) := by
  unfold Window.get?
  rw [h.base_eq, Serial.add_right_comm]
  exact h.find? _

theorem store (h : w.Matches δ v) (hst : s.Matches δ t) : (w.store s).Matches δ (v.store t) := by
  have hoccupant := h.occupant s.seq
  unfold Window.store
  rw [hst.seq_eq, h.size_eq]
  generalize w.occupant s.seq = a at hoccupant ⊢
  generalize v.occupant (s.seq + δ) = b at hoccupant ⊢
  cases hoccupant <;> exact h.put _ (.some hst) _

theorem remove? (h : w.Matches δ v) (q : Serial) :
    Option.Rel (PairMatches δ) (w.remove? q) (v.remove? (q + δ)) := by
  have hfind := h.find? q
  unfold Window.remove?
  rw [h.size_eq]
  generalize w.find? q = a at hfind ⊢
  generalize v.find? (q + δ) = b at hfind ⊢
  cases hfind with
  | none => exact .none
  | some hmatch => exact .some ⟨hmatch, h.put q .none _⟩

/-! ### The send role -/

theorem write (h : w.Matches δ v) (hst : s.Matches δ t) :
    Writing.Matches δ (w.write s) (v.write t) := by
  have hoccupant := h.occupant s.seq
  have hstore := h.store hst
  unfold Window.write
  rw [hst.seq_eq, h.base_eq, h.capacity_eq, Serial.offsetFrom?_add_right]
  generalize w.occupant s.seq = a at hoccupant ⊢
  generalize v.occupant (s.seq + δ) = b at hoccupant ⊢
  split
  · exact .full
  · split
    · cases hoccupant with
      | none => exact .added hstore
      | some hmatch =>
        simp only [hmatch.seq_eq, Serial.add_right_cancel_iff]
        split
        · exact .present
        · exact .full
    · exact .full

theorem clear (h : w.Matches δ v) (q : Serial) :
    Option.Rel (PairMatches δ) (w.clear q) (v.clear (q + δ)) :=
  h.remove? q

end Matches

/-- Two windows match, and so do the segments that were removed from them. -/
structure Shedding.Matches (δ : Nat) (p p' : Shedding Buffer) : Prop where
  /-- The windows. -/
  window : p.window.Matches δ p'.window
  /-- The segments. -/
  removed : List.Forall₂ (Segment.Matches δ) p.removed.toList p'.removed.toList

namespace Shedding.Matches

variable {p p' : Shedding Buffer}

theorem drop (h : p.Matches δ p') (q : Serial) : (p.drop q).Matches δ (p'.drop (q + δ)) := by
  have hremove := h.window.remove? q
  unfold Shedding.drop
  generalize p.window.remove? q = a at hremove ⊢
  generalize p'.window.remove? (q + δ) = b at hremove ⊢
  cases hremove with
  | none => exact h
  | some htaken =>
    refine ⟨htaken.2, ?_⟩
    simp only [Array.toList_push]
    exact List.rel_append h.removed (.cons htaken.1 .nil)

theorem dropBase (h : p.Matches δ p') : p.dropBase.Matches δ p'.dropBase := by
  have hdrop := h.drop p.window.base
  rw [← h.window.base_eq] at hdrop
  refine ⟨hdrop.window.rebase ?_, hdrop.removed⟩
  rw [hdrop.window.base_eq, Serial.next_add_right]

theorem advance (h : p.Matches δ p') (n : Nat) :
    (Shedding.advance n p).Matches δ (Shedding.advance n p') := by
  induction n generalizing p p' with
  | zero => exact h
  | succ n ih => exact ih h.dropBase

theorem dropBits (h : p.Matches δ p') (q : Serial) (bits : UInt32) :
    (p.dropBits q bits).Matches δ (p'.dropBits (q + δ) bits) := by
  unfold Shedding.dropBits
  generalize List.range 32 = offsets
  induction offsets generalizing p p' with
  | nil => exact h
  | cons i rest ih =>
    rw [List.foldl_cons, List.foldl_cons]
    apply ih
    split
    · rw [Serial.add_right_comm]
      exact h.drop _
    · exact h

end Shedding.Matches

/-- The walk over the places finds matching segments. -/
theorem forall₂_walk {look look' : Nat → Option (Segment Buffer)}
    (hlook : ∀ i, Option.Rel (Segment.Matches δ) (look i) (look' i)) (steps i left : Nat)
    {found found' : Array (Segment Buffer)}
    (hfound : List.Forall₂ (Segment.Matches δ) found.toList found'.toList) :
    List.Forall₂ (Segment.Matches δ) (walk look steps i left found)
      (walk look' steps i left found') := by
  induction steps generalizing i left found found' with
  | zero => exact hfound
  | succ steps ih =>
    cases left with
    | zero => exact hfound
    | succ left =>
      have hstep := hlook i
      unfold walk
      generalize look i = a at hstep ⊢
      generalize look' i = b at hstep ⊢
      cases hstep with
      | none => exact ih (i + 1) (left + 1) hfound
      | some hmatch =>
        refine ih (i + 1) left ?_
        simp only [Array.toList_push]
        exact List.rel_append hfound (.cons hmatch .nil)

namespace Matches

/-- **An acknowledgement**, whatever it says. -/
theorem acknowledge (h : w.Matches δ v) (next : Serial) (received : UInt32) :
    (w.acknowledge next received).Matches δ (v.acknowledge (next + δ) received) := by
  have hstart : (⟨w, #[]⟩ : Shedding Buffer).Matches δ ⟨v, #[]⟩ := ⟨h, .nil⟩
  unfold Window.acknowledge
  rw [h.base_eq, h.capacity_eq, Serial.offsetFrom?_add_right, Serial.next_add_right]
  split
  · exact hstart
  · split
    · exact (hstart.advance _).dropBits _ _
    · exact hstart

/-- The segments in order of their offset. -/
theorem entries (h : w.Matches δ v) :
    List.Forall₂ (Segment.Matches δ) w.entries v.entries := by
  rw [entries_eq_walk, entries_eq_walk, h.capacity_eq, h.size_eq]
  exact forall₂_walk h.get? _ _ _ .nil

/-- The segments before another one. -/
theorem predecessors (h : w.Matches δ v) (q : Serial) (count : Nat) :
    List.Forall₂ (Segment.Matches δ) (w.predecessors q count) (v.predecessors (q + δ) count) := by
  rw [predecessors_eq_walk, predecessors_eq_walk, h.size_eq]
  refine forall₂_walk (fun i => ?_) _ _ _ .nil
  rw [Serial.sub_add_right]
  exact h.find? _

/-! ### The receive role -/

/-- **A segment arrives**, wherever it belongs. -/
theorem accept (h : w.Matches δ v) (hst : s.Matches δ t) :
    Accepting.Matches δ (w.accept s) (v.accept t) := by
  have hoccupant := h.occupant s.seq
  have hstore := h.store hst
  unfold Window.accept
  rw [hst.seq_eq, h.base_eq, h.capacity_eq, Serial.offsetFrom?_add_right]
  generalize w.occupant s.seq = a at hoccupant ⊢
  generalize v.occupant (s.seq + δ) = b at hoccupant ⊢
  split
  · exact .refused
  · split
    · cases hoccupant with
      | none => exact .stored hstore _ _
      | some hmatch =>
        simp only [Serial.add_right_cancel_iff]
        split
        · exact .stored hstore _ _
        · exact .refused
    · exact .refused

theorem pop? (h : w.Matches δ v) : Option.Rel (PairMatches δ) w.pop? v.pop? := by
  have hremove := h.remove? w.base
  unfold Window.pop?
  rw [h.base_eq]
  generalize w.remove? w.base = a at hremove ⊢
  generalize v.remove? (w.base + δ) = b at hremove ⊢
  cases hremove with
  | none => exact .none
  | some htaken =>
    refine .some ⟨htaken.1, htaken.2.rebase ?_⟩
    rw [htaken.2.base_eq, Serial.next_add_right]

/-- **The same is acknowledged.** -/
theorem received_eq (h : w.Matches δ v) : v.received = w.received := by
  have hsome (i : Nat) : (v.get? i).isSome = (w.get? i).isSome := isSome_eq_of_rel (h.get? i)
  unfold received
  simp only [h.capacity_eq, hsome]

end Matches

end Window

end Redelivery
