import Mathlib.Data.List.Induction
import Mathlib.Data.Nat.Bitwise
import Redelivery.Proofs.Window.Acknowledgement
import Redelivery.Proofs.Window.View

/-!
# The receive role

A receive window is used by three calls: a segment that arrived is stored if it is accepted, the
segment at the base is taken out, and the content is reported in an acknowledgement. To its user a
receive window of width `width` is a map from the offsets up to `width` to segments. The last of
these offsets shares its place with the first one, so that there is never a segment at both.

Whatever arrives, in whatever order and however often, the segments that are taken out are those
from the first base on, in sequence, and each was accepted before.

## Main definitions

* `ReceiveCall`, `ReceiveAnswer`: the calls and their answers.
* `ReceiveView`: the map.
* `Window.receive`, `ReceiveView.receive`: what a window, and what a map, makes of a call.
* `Window.taken`: the segments that a sequence of calls takes out.
* `Window.Owed`: the segments that were accepted and are still to be taken out.

## Main statements

* `Window.Shows.accept`, `Window.Shows.pop`, `Window.Shows.received_eq`: the calls one by one.
* `Window.map_seq_taken`: what is taken out is in sequence.
* `Window.trace_receive`: windows and maps have the same traces.

A receive window takes one offset more than it has places. So a place may belong to two offsets, the
first and the last, and `Window.Shows.get?_of_slot_eq` says that it does not belong to any others.
The map has the conflict in its definition: a segment at the base evicts the one at the far end
(`ReceiveView.setBase`), and one at the far end has room only if there is none at the base
(`ReceiveView.HasRoom`). `Window.Shows.hasRoom_iff` is the key to storing, since the window only
looks whether the place is free.

What is taken out is followed along the calls. `Window.map_seq_taken` is an induction from the
front, as the base moves with each segment that is taken out; `Window.owed_of_find?` is one from the
back, as what is found now was accepted at some time before.
-/

namespace Redelivery

variable {β : Type}

/-- A call in the receive role. -/
inductive ReceiveCall (β : Type) where
  /-- Stores a segment, if it is accepted. -/
  | accept (s : Segment β)
  /-- Takes out the segment at the base. -/
  | pop
  /-- Asks for an acknowledgement. -/
  | report

/-- What a call in the receive role is answered. -/
inductive ReceiveAnswer (β : Type) where
  /-- Whether the segment was stored. -/
  | accepted (stored : Bool)
  /-- The segment that was taken out, if there was one. -/
  | popped (s : Option (Segment β))
  /-- The base and a bitmap of what is behind it. -/
  | reported (next : Serial) (received : UInt32)
deriving DecidableEq

/-- The segment that was taken out. -/
def ReceiveAnswer.segment? : ReceiveAnswer β → Option (Segment β)
  | .popped s => s
  | _ => none

/-! ## Maps without a conflict -/

/-- A view of a receive window: there is not a segment at the base and another one the whole width
ahead of it. -/
structure ReceiveView (β : Type) (width : Nat) extends View β (width + 1) where
  /-- One of the two offsets is free. -/
  apart : get? 0 = none ∨ get? width = none

namespace ReceiveView

variable {width : Nat}

/-- The view without segments. -/
def empty (width : Nat) (base : Serial) : ReceiveView β width where
  toView := View.empty (width + 1) base
  apart := Or.inl rfl

/-- The view with `s` at the base. What was there is replaced, and what is the width ahead is
evicted. -/
def setBase (v : ReceiveView β width) (s : Segment β) : ReceiveView β width where
  toView := (v.toView.set 0 s (Nat.succ_pos width)).erase [width]
  apart := Or.inr (if_pos (List.mem_singleton_self width))

/-- There is room at an offset ahead of the base: it is within the width and free, and if it is the
last one then the base is free as well. -/
def HasRoom (v : ReceiveView β width) (offset : Nat) : Prop :=
  offset ≤ width ∧ v.get? offset = none ∧ (offset = width → v.get? 0 = none)

instance (v : ReceiveView β width) (offset : Nat) : Decidable (v.HasRoom offset) :=
  inferInstanceAs (Decidable (_ ∧ _ ∧ (_ → _)))

/-- A segment that is stored ahead of the base, where there is room, makes no conflict. -/
theorem apart_set {v : ReceiveView β width} {offset : Nat} (s : Segment β) (hpos : 0 < offset)
    (hroom : v.HasRoom offset) (hlt : offset < width + 1) :
    (v.toView.set offset s hlt).get? 0 = none ∨ (v.toView.set offset s hlt).get? width = none := by
  simp only [View.set]
  rw [if_neg (by omega)]
  split
  · rename_i hlast
    exact Or.inl (hroom.2.2 hlast.symm)
  · exact v.apart

/-- The view with `s` at an offset ahead of the base. -/
def setAhead (v : ReceiveView β width) (offset : Nat) (s : Segment β) (hpos : 0 < offset)
    (hroom : v.HasRoom offset) : ReceiveView β width where
  toView := v.toView.set offset s (Nat.lt_succ_of_le hroom.1)
  apart := apart_set s hpos hroom (Nat.lt_succ_of_le hroom.1)

/-- A segment at the base is always stored, one ahead of it if there is room. -/
def accept (v : ReceiveView β width) (s : Segment β) : Bool × ReceiveView β width :=
  let offset := s.seq.distanceFrom v.base
  if h : 0 < offset then
    if hroom : v.HasRoom offset then (true, v.setAhead offset s h hroom) else (false, v)
  else
    (true, v.setBase s)

/-- The view that starts behind the base. -/
def next (v : ReceiveView β width) : ReceiveView β width where
  toView := v.toView.shift 1
  apart := Or.inr (v.get?_of_le (Nat.le_refl _))

/-- The segment at the base and the view behind it, if it is there. -/
def pop (v : ReceiveView β width) : Option (Segment β) × ReceiveView β width :=
  if (v.get? 0).isSome then (v.get? 0, v.next) else (none, v)

/-- The bitmap with bit `i` set for a segment at the offset `i + 1`. -/
def received (v : ReceiveView β width) : UInt32 :=
  UInt32.ofNat (Nat.ofBits fun i : Fin 32 => (v.get? (i + 1)).isSome)

/-- A call on a view. -/
def receive (v : ReceiveView β width) : ReceiveCall β → ReceiveAnswer β × ReceiveView β width
  | .accept s => (.accepted (v.accept s).1, (v.accept s).2)
  | .pop => (.popped v.pop.1, v.pop.2)
  | .report => (.reported v.base v.received, v)

theorem testBit_received (v : ReceiveView β width) (i : Nat) :
    v.received.toNat.testBit i = (decide (i < 32) && (v.get? (i + 1)).isSome) := by
  unfold received
  rw [UInt32.toNat_ofNat', Nat.mod_eq_of_lt (Nat.ofBits_lt_two_pow _), Nat.testBit_ofBits]
  by_cases hi : i < 32
  · simp [hi]
  · simp [hi]

end ReceiveView

namespace Window

variable {width : Nat} {w : Window β} {v : ReceiveView β width}

/-- A call on a window. -/
def receive (w : Window β) : ReceiveCall β → ReceiveAnswer β × Window β
  | .accept s =>
    match w.accept s with
    | .stored w' _ => (.accepted true, w')
    | .refused => (.accepted false, w)
  | .pop =>
    match w.pop? with
    | some (s, w') => (.popped (some s), w')
    | none => (.popped none, w)
  | .report => (.reported w.acknowledgement.1 w.acknowledgement.2, w)

/-! ## The calls one by one -/

namespace Shows

/-- Within the reach of the view, nothing is in the place of a serial number but itself, or what is
the whole width away from it. -/
theorem get?_of_slot_eq (h : w.Shows v.toView) (hwidth : w.capacity = width) {seq q : Serial}
    (hseq : seq.distanceFrom v.base ≤ width) (hslot : q.slot w.capacity = seq.slot w.capacity)
    (hne : q ≠ seq) :
    v.get? (q.distanceFrom v.base) = none
      ∨ (q.distanceFrom v.base = 0 ∧ seq.distanceFrom v.base = width)
      ∨ (q.distanceFrom v.base = width ∧ seq.distanceFrom v.base = 0) := by
  cases hget : v.get? (q.distanceFrom v.base) with
  | none => exact Or.inl rfl
  | some t =>
    have hlt := View.lt_of_get? hget
    rcases Serial.slot_eq_cases v.base h.dvd hslot (by omega) (by omega) with heq | hcases
    · exact absurd heq hne
    · rw [hwidth] at hcases
      exact Or.inr hcases

theorem store_base (h : w.Shows v.toView) (hwidth : w.capacity = width) {s : Segment β}
    (hbase : s.seq = v.base) : (w.store s).Shows (v.setBase s).toView := by
  have hpos : 0 < w.capacity := w.capacity_pos
  have hzero : v.base.distanceFrom v.base = 0 := Serial.distanceFrom_eq_zero_iff.mpr rfl
  refine h.store rfl fun q => ?_
  rw [hbase]
  simp only [ReceiveView.setBase, View.erase, View.set, List.mem_singleton]
  by_cases hq : q = v.base
  · rw [if_pos hq, hq, hzero, if_neg (by omega), if_pos rfl]
  · have hne : q.distanceFrom v.base ≠ 0 := mt Serial.distanceFrom_eq_zero_iff.mp hq
    rw [if_neg hq, if_neg hne]
    by_cases hfar : q.distanceFrom v.base = width
    · -- the number the whole width ahead has the place of the base
      have hslot : q.slot w.capacity = v.base.slot w.capacity := by
        rw [← q.add_distanceFrom v.base, hfar.trans hwidth.symm]
        exact Serial.slot_add_self h.dvd
      rw [if_pos hfar, if_pos hslot]
    · rw [if_neg hfar]
      split
      · rename_i hslot
        rcases h.get?_of_slot_eq hwidth (by omega) hslot hq with hnone | ⟨hzero', -⟩ | ⟨hfar', -⟩
        · exact hnone
        · exact absurd hzero' hne
        · exact absurd hfar' hfar
      · rfl

theorem store_ahead (h : w.Shows v.toView) (hwidth : w.capacity = width) {s : Segment β}
    (hpos : 0 < s.seq.distanceFrom v.base) (hroom : v.HasRoom (s.seq.distanceFrom v.base)) :
    (w.store s).Shows (v.setAhead (s.seq.distanceFrom v.base) s hpos hroom).toView := by
  refine h.store rfl fun q => ?_
  simp only [ReceiveView.setAhead, View.set]
  by_cases hq : q = s.seq
  · rw [if_pos (by rw [hq]), if_pos hq]
  · rw [if_neg (fun heq => hq (Serial.eq_of_distanceFrom_eq heq)), if_neg hq]
    split
    · rename_i hslot
      rcases h.get?_of_slot_eq hwidth hroom.1 hslot hq with hnone | ⟨hzero, hlast⟩ | ⟨-, hzero⟩
      · exact hnone
      · rw [hzero]
        exact hroom.2.2 hlast
      · omega
    · rfl

/-- There is room for a segment ahead of the base exactly if its place is free. -/
theorem hasRoom_iff (h : w.Shows v.toView) (hwidth : w.capacity = width) {seq : Serial}
    (hpos : 0 < seq.distanceFrom v.base) (hle : seq.distanceFrom v.base ≤ width) :
    v.HasRoom (seq.distanceFrom v.base) ↔ w.occupant seq = none := by
  constructor
  · rintro ⟨-, hfree, hbase⟩
    cases hocc : w.occupant seq with
    | none => rfl
    | some t =>
      obtain ⟨hget, hcases⟩ := h.occupant_cases (by omega) (by omega) hocc
      rcases hcases with heq | ⟨hzero, -⟩ | ⟨hlast, hzero⟩
      · rw [heq, hfree] at hget
        cases hget
      · omega
      · rw [hzero, hbase (by omega)] at hget
        cases hget
  · intro hocc
    have hfree {q : Serial} (hslot : q.slot w.capacity = seq.slot w.capacity) :
        v.get? (q.distanceFrom v.base) = none := by
      rw [← h.find?_eq, find?_eq_none_iff]
      intro t ht
      rw [occupant_congr hslot, hocc] at ht
      cases ht
    refine ⟨hle, hfree rfl, fun hlast => ?_⟩
    -- the last offset is free only along with the base, which has the same place
    have hslot : v.base.slot w.capacity = seq.slot w.capacity := by
      rw [← seq.add_distanceFrom v.base, hlast.trans hwidth.symm]
      exact (Serial.slot_add_self h.dvd).symm
    rw [← Serial.distanceFrom_eq_zero_iff.mpr (rfl : v.base = v.base)]
    exact hfree hslot

theorem accept (h : w.Shows v.toView) (hwidth : w.capacity = width) (hnarrow : width < 2 ^ 31)
    (s : Segment β) :
    match w.accept s with
    | .stored w' _ => (v.accept s).1 = true ∧ w'.Shows (v.accept s).2.toView
    | .refused => v.accept s = (false, v) := by
  unfold Window.accept ReceiveView.accept
  rw [h.base_eq]
  by_cases hle : s.seq.distanceFrom v.base ≤ width
  · have hoffset : s.seq.offsetFrom? v.base = some (s.seq.distanceFrom v.base) :=
      Serial.offsetFrom?_eq_some_iff.mpr ⟨rfl, by omega⟩
    simp only [hoffset, hwidth, if_pos hle]
    by_cases hpos : 0 < s.seq.distanceFrom v.base
    · have hne : s.seq ≠ v.base := mt Serial.distanceFrom_eq_zero_iff.mpr (by omega)
      have hroom := h.hasRoom_iff hwidth hpos hle
      simp only [dif_pos hpos]
      cases hocc : w.occupant s.seq with
      | none =>
        rw [dif_pos (hroom.mpr hocc)]
        exact ⟨rfl, h.store_ahead hwidth hpos (hroom.mpr hocc)⟩
      | some other =>
        simp only [if_neg hne]
        rw [dif_neg fun hfits => by rw [hroom.mp hfits] at hocc; cases hocc]
    · have hbase : s.seq = v.base :=
        Serial.distanceFrom_eq_zero_iff.mp (Nat.eq_zero_of_not_pos hpos)
      simp only [dif_neg hpos]
      cases w.occupant s.seq with
      | none => exact ⟨trivial, h.store_base hwidth hbase⟩
      | some other =>
        simp only [if_pos hbase]
        exact ⟨trivial, h.store_base hwidth hbase⟩
  · have hfull : ¬ v.HasRoom (s.seq.distanceFrom v.base) := fun hroom => hle hroom.1
    simp only [dif_pos (by omega : 0 < s.seq.distanceFrom v.base), dif_neg hfull]
    cases hoffset : s.seq.offsetFrom? v.base with
    | none => trivial
    | some offset =>
      obtain ⟨rfl, -⟩ := Serial.offsetFrom?_eq_some_iff.mp hoffset
      simp only [hwidth, if_neg hle]

theorem pop (h : w.Shows v.toView) (hwidth : w.capacity = width) (hnarrow : width < 2 ^ 31) :
    match w.pop? with
    | some (s, w') => v.pop = (some s, v.next) ∧ w'.Shows v.next.toView
    | none => v.pop = (none, v) := by
  have hbase : w.find? w.base = v.get? 0 := by
    rw [h.find?_eq, h.base_eq, Serial.distanceFrom_eq_zero_iff.mpr rfl]
  have hnext := Shows.advance (p := ⟨w, #[]⟩) h (n := 1) (by omega) (by omega)
  unfold ReceiveView.pop
  rw [← hbase]
  cases hpop : w.pop? with
  | none =>
    rw [pop?_eq_none_iff.mp hpop]
    rfl
  | some p =>
    obtain ⟨hfind, hw⟩ := pop?_eq_some_iff.mp hpop
    have hshift : (Shedding.advance 1 ⟨w, #[]⟩).window = p.2 := by
      simp [Shedding.advance, Shedding.dropBase, Shedding.drop, remove?, hfind, hw]
    rw [hshift] at hnext
    rw [hfind]
    exact ⟨rfl, hnext⟩

theorem received_eq (h : w.Shows v.toView) (hwidth : w.capacity = width)
    (hnarrow : width < 2 ^ 31) : w.received = v.received := by
  refine UInt32.toNat.inj (Nat.eq_of_testBit_eq fun i => ?_)
  have hbits : bitmapWidth = 32 := rfl
  rw [Bool.eq_iff_iff, testBit_received, v.testBit_received, Bool.and_eq_true, decide_eq_true_eq,
    hwidth]
  constructor
  · rintro ⟨hi, hsome⟩
    rw [h.get?_eq (by omega), Nat.add_comm 1 i] at hsome
    exact ⟨by omega, hsome⟩
  · rintro ⟨hi, hsome⟩
    -- what is found is within the width, so that the bitmap reaches there
    obtain ⟨s, hs⟩ := Option.isSome_iff_exists.mp hsome
    have hlt := View.lt_of_get? hs
    rw [h.get?_eq (by omega), Nat.add_comm 1 i]
    exact ⟨by omega, hsome⟩

end Shows

/-! ## Any calls -/

/-- A window in the receive role and the map that it shows. -/
structure Receives (w : Window β) (v : ReceiveView β width) : Prop where
  /-- The window shows the map. -/
  shows : w.Shows v.toView
  /-- The map is as wide as the window. -/
  capacity_eq : w.capacity = width

theorem capacity_accept {w w' : Window β} {s : Segment β} {evicted : Option (Segment β)}
    (h : w.accept s = .stored w' evicted) : w'.capacity = w.capacity := by
  rw [(accept_eq_stored h).1]
  exact capacity_store w s

theorem capacity_pop? {w w' : Window β} {s : Segment β} (h : w.pop? = some (s, w')) :
    w'.capacity = w.capacity := by
  rw [(pop?_eq_some_iff.mp h).2]
  exact capacity_put w w.base none (w.size - 1)

/-- A call is answered by the window as by the map, and afterwards the one still shows the
other. -/
theorem Receives.alike (h : Receives w v) (hnarrow : width < 2 ^ 31) (call : ReceiveCall β) :
    (w.receive call).1 = (v.receive call).1 ∧ Receives (w.receive call).2 (v.receive call).2 := by
  obtain ⟨hshows, hwidth⟩ := h
  cases call with
  | accept s =>
    have haccept := hshows.accept hwidth hnarrow s
    unfold Window.receive ReceiveView.receive
    cases hw : w.accept s with
    | stored w' evicted =>
      simp only [hw] at haccept ⊢
      rw [haccept.1]
      exact ⟨rfl, haccept.2, (capacity_accept hw).trans hwidth⟩
    | refused =>
      simp only [hw] at haccept ⊢
      rw [haccept]
      exact ⟨rfl, hshows, hwidth⟩
  | pop =>
    have hpop := hshows.pop hwidth hnarrow
    unfold Window.receive ReceiveView.receive
    cases hw : w.pop? with
    | none =>
      simp only [hw] at hpop ⊢
      rw [hpop]
      exact ⟨rfl, hshows, hwidth⟩
    | some p =>
      simp only [hw] at hpop ⊢
      rw [hpop.1]
      exact ⟨rfl, hpop.2, (capacity_pop? hw).trans hwidth⟩
  | report =>
    refine ⟨?_, hshows, hwidth⟩
    simp only [Window.receive, ReceiveView.receive, acknowledgement]
    rw [hshows.base_eq, hshows.received_eq hwidth hnarrow]

theorem simulates_receive (β : Type) (width : Nat) (hnarrow : width < 2 ^ 31) :
    Calls.Simulates Window.receive ReceiveView.receive
      (Receives : Window β → ReceiveView β width → Prop) where
  answer call h := (h.alike hnarrow call).1
  next call h := (h.alike hnarrow call).2

theorem receives_empty {exponent : Nat} (hle : exponent ≤ 30) (base : Serial) :
    Receives (Window.empty (2 ^ exponent) base (Nat.two_pow_pos exponent) : Window β)
      (ReceiveView.empty (2 ^ exponent) base) where
  shows := Shows.empty (Nat.two_pow_pos exponent) (Nat.pow_dvd_pow 2 (by omega)) base
  capacity_eq := capacity_empty (Nat.two_pow_pos exponent)

/-! ## What is taken out -/

/-- The segments that a sequence of calls takes out, in order. -/
def taken (w : Window β) (calls : List (ReceiveCall β)) : List (Segment β) :=
  (Calls.trace receive base w calls).filterMap fun seen => seen.1.segment?

theorem taken_cons (w : Window β) (call : ReceiveCall β) (calls : List (ReceiveCall β)) :
    w.taken (call :: calls)
      = (w.receive call).1.segment?.toList ++ (w.receive call).2.taken calls := by
  unfold taken
  rw [Calls.trace, List.filterMap_cons]
  cases (w.receive call).1.segment? <;> rfl

/-- A call that takes out a segment takes the one at the base, and moves the base past it; any other
call leaves the base where it is. -/
theorem receive_cases (w : Window β) (call : ReceiveCall β) :
    ((w.receive call).1.segment? = none ∧ (w.receive call).2.base = w.base)
      ∨ ∃ s, (w.receive call).1.segment? = some s ∧ s.seq = w.base
        ∧ (w.receive call).2.base = w.base.next := by
  cases call with
  | accept s =>
    left
    simp only [receive]
    cases h : w.accept s with
    | stored w' evicted => exact ⟨rfl, by rw [(accept_eq_stored h).1, base_store]⟩
    | refused => exact ⟨rfl, rfl⟩
  | pop =>
    simp only [receive]
    cases h : w.pop? with
    | none => exact Or.inl ⟨rfl, rfl⟩
    | some p =>
      obtain ⟨hfind, hw⟩ := pop?_eq_some_iff.mp h
      exact Or.inr ⟨p.1, rfl, seq_of_find? hfind, by rw [hw]⟩
  | report => exact Or.inl ⟨rfl, rfl⟩

/-- **What is taken out is in sequence**, from the base on. -/
theorem map_seq_taken (w : Window β) (calls : List (ReceiveCall β)) :
    (w.taken calls).map Segment.seq
      = (List.range (w.taken calls).length).map (w.base + ·) := by
  induction calls generalizing w with
  | nil => rfl
  | cons call calls ih =>
    rw [taken_cons]
    rcases w.receive_cases call with ⟨hnone, hbase⟩ | ⟨s, hs, hseq, hbase⟩
    · rw [hnone, Option.toList_none, List.nil_append, ih, hbase]
    · have hnext (i : Nat) : w.base.next + i = w.base + (i + 1) := by
        rw [Nat.add_comm]
        exact w.base.add_assoc 1 i
      simp only [hs, Option.toList_some, List.cons_append, List.nil_append, List.map_cons, hseq, ih,
        hbase, hnext, List.length_cons, List.range_succ_eq_map, List.map_map, Serial.add_zero]
      rfl

/-- In these calls the segment `s` was accepted, and nothing with its serial number was taken out
since. -/
inductive Owed (start : Window β) : List (ReceiveCall β) → Segment β → Prop where
  /-- It was accepted just now. -/
  | accepted {calls : List (ReceiveCall β)} {s : Segment β}
      (h : ((Calls.after receive start calls).receive (.accept s)).1 = .accepted true) :
      Owed start (calls ++ [.accept s]) s
  /-- It was accepted before, and is not what the last call took out. -/
  | kept {calls : List (ReceiveCall β)} {call : ReceiveCall β} {s : Segment β}
      (h : Owed start calls s)
      (hother : ∀ t, ((Calls.after receive start calls).receive call).1 = .popped (some t) →
        t.seq ≠ s.seq) :
      Owed start (calls ++ [call]) s

/-- What is found was accepted, and was not taken out since. -/
theorem owed_of_find? {start : Window β} (hstart : ∀ seq, start.find? seq = none)
    {calls : List (ReceiveCall β)} {seq : Serial} {s : Segment β}
    (h : (Calls.after receive start calls).find? seq = some s) : Owed start calls s := by
  induction calls using List.reverseRecOn generalizing seq s with
  | nil =>
    rw [Calls.after, List.foldl_nil, hstart] at h
    cases h
  | append_singleton calls call ih =>
    rw [Calls.after_append, Calls.after, List.foldl_cons, List.foldl_nil] at h
    cases call with
    | accept t =>
      have hkept (hfind : (Calls.after receive start calls).find? seq = some s) :
          Owed start (calls ++ [.accept t]) s := by
        refine .kept (ih hfind) fun u hu => ?_
        simp only [receive] at hu
        split at hu <;> cases hu
      simp only [receive] at h
      cases haccept : (Calls.after receive start calls).accept t with
      | refused =>
        rw [haccept] at h
        exact hkept h
      | stored w' evicted =>
        rw [haccept] at h
        simp only at h
        rw [(accept_eq_stored haccept).1, find?_store] at h
        split at h
        · cases h
          exact .accepted (by simp only [receive, haccept])
        · split at h
          · cases h
          · exact hkept h
    | pop =>
      simp only [receive] at h
      cases hpop : (Calls.after receive start calls).pop? with
      | none =>
        rw [hpop] at h
        refine .kept (ih h) fun u hu => ?_
        simp only [receive, hpop] at hu
        cases hu
      | some p =>
        rw [hpop] at h
        simp only at h
        rw [find?_of_pop? hpop] at h
        split at h
        · cases h
        · rename_i hne
          refine .kept (ih h) fun u hu => ?_
          simp only [receive, hpop] at hu
          cases hu
          -- what was taken out is the base, and `s` is somewhere else
          rw [seq_of_find? (pop?_eq_some_iff.mp hpop).1, seq_of_find? h]
          exact Ne.symm hne
    | report =>
      refine .kept (ih h) fun u hu => ?_
      cases hu

/-- **A receive window is a map from offsets to segments**, in which the first and the last offset
exclude each other. To any sequence of calls, with whatever segments, both give the same answers,
and after each call they have the same base and the same number of segments. What is taken out has
the serial numbers from the base on, in sequence, and each segment that is taken out next was
accepted before and not taken out since. -/
theorem trace_receive {exponent : Nat} (hle : exponent ≤ 30) (base : Serial)
    (calls : List (ReceiveCall β)) :
    let start : Window β := Window.empty (2 ^ exponent) base (Nat.two_pow_pos exponent)
    let map : ReceiveView β (2 ^ exponent) := ReceiveView.empty (2 ^ exponent) base
    Calls.trace receive (fun w => (w.base, w.size)) start calls
        = Calls.trace ReceiveView.receive (fun v => (v.base, v.size)) map calls
      ∧ (start.taken calls).map Segment.seq
        = (List.range (start.taken calls).length).map (base + ·)
      ∧ ∀ s, ((Calls.after receive start calls).receive .pop).1 = .popped (some s) →
        Owed start calls s := by
  have hpow : 2 ^ exponent ≤ 2 ^ 30 := Nat.pow_le_pow_right (by omega) hle
  have hsim := simulates_receive β (2 ^ exponent) (by omega)
  have hstart := receives_empty (β := β) hle base
  refine ⟨?_, map_seq_taken _ calls, ?_⟩
  · refine hsim.trace_eq (fun {w v} h => ?_) hstart calls
    rw [h.shows.base_eq, h.shows.size_eq (by omega)]
  · intro s hs
    simp only [receive] at hs
    split at hs
    · rename_i t w' hpop
      cases hs
      refine owed_of_find? (fun seq => ?_) (pop?_eq_some_iff.mp hpop).1
      exact hstart.shows.find?_eq seq
    · cases hs

/-- A window of two places that starts where serial numbers wrap around. The segment two ahead
arrives first and is reported by the second bit; the one at the base evicts it, is not accepted a
second time once it was taken out, and the evicted one is accepted when it comes again. -/
theorem trace_receive_wrapping :
    1 ≤ 30
      ∧ Calls.trace ReceiveView.receive (fun v => (v.base, v.size))
          (ReceiveView.empty (2 ^ 1) ⟨0xFFFFFFFF⟩ : ReceiveView Nat (2 ^ 1))
          [.accept ⟨⟨1⟩, false, 9, 0⟩, .report, .accept ⟨⟨0xFFFFFFFF⟩, false, 7, 0⟩, .pop, .pop,
            .accept ⟨⟨0xFFFFFFFF⟩, false, 7, 0⟩, .accept ⟨⟨1⟩, false, 9, 0⟩,
            .accept ⟨⟨0⟩, false, 8, 0⟩, .report, .pop, .pop]
        = [(.accepted true, ⟨0xFFFFFFFF⟩, 1), (.reported ⟨0xFFFFFFFF⟩ 2, ⟨0xFFFFFFFF⟩, 1),
            (.accepted true, ⟨0xFFFFFFFF⟩, 1),
            (.popped (some ⟨⟨0xFFFFFFFF⟩, false, 7, 0⟩), ⟨0⟩, 0), (.popped none, ⟨0⟩, 0),
            (.accepted false, ⟨0⟩, 0), (.accepted true, ⟨0⟩, 1), (.accepted true, ⟨0⟩, 2),
            (.reported ⟨0⟩ 1, ⟨0⟩, 2), (.popped (some ⟨⟨0⟩, false, 8, 0⟩), ⟨1⟩, 1),
            (.popped (some ⟨⟨1⟩, false, 9, 0⟩), ⟨2⟩, 0)] := by
  refine ⟨by decide, ?_⟩
  rw [← (trace_receive (by decide : 1 ≤ 30) ⟨0xFFFFFFFF⟩ _).1]
  decide +kernel

end Window

end Redelivery
