import Redelivery.Proofs.Window.Acknowledgement
import Redelivery.Proofs.Window.View

/-!
# The send role

A send window is used by five calls: a segment is written, looked up by its offset or by its serial
number, removed by itself, or acknowledged along with others. To its user a send window of width
`width` is a map from the offsets below `width` to segments: as long as the width is a power of two
that is not too large, no sequence of calls tells the ring and the map apart, where serial numbers
wrap around as little as anywhere else.

## Main definitions

* `SendCall`, `SendAnswer`: the calls and their answers.
* `Window.send`, `View.send`: what a window, and what a map, makes of a call.

## Main statements

* `Window.Shows.write`, `Window.Shows.acknowledge`: the calls one by one.
* `Window.trace_send`: windows and maps have the same traces.

In this role two segments never meet in one place, as all offsets are below the width:
`Window.Shows.seq_eq_of_occupant`. It makes storing plain, so that `Window.Shows.write` needs no
case for a segment that gives way to another. For an acknowledgement the two rounds of removing are
told apart in the view: first the offsets below the one that it names, then those that the bitmap
stands for, counted from the new base. They are removed in this order on both sides, and with them
the round trips are observed in the same order.

`Window.Sends` is the relation between the two machines. That any sequence of calls has the same
answers is then `Calls.Simulates.trace_eq`.
-/

namespace Redelivery

variable {β : Type}

/-- A call in the send role. -/
inductive SendCall (β : Type) where
  /-- Adds a segment. -/
  | write (s : Segment β)
  /-- Looks up the segment at an offset. -/
  | get (offset : UInt32)
  /-- Looks up the segment with a serial number. -/
  | find (seq : Serial)
  /-- Removes the segment with a serial number. -/
  | clear (seq : Serial)
  /-- Takes in an acknowledgement at time `now`. -/
  | acknowledge (next : Serial) (received : UInt32) (now : Nat)

/-- What a call in the send role is answered. -/
inductive SendAnswer (β : Type) where
  /-- The segment is in the window, unless it is handed back. -/
  | written (back : Option (Segment β))
  /-- The segment that was looked up, if it is there. -/
  | found (s : Option (Segment β))
  /-- Whether the segment was there. -/
  | cleared (there : Bool)
  /-- The number of segments that were removed. -/
  | acknowledged (count : Nat)
deriving DecidableEq

/-- A call on a window, along with the round trips that are observed by it. -/
def Window.send (p : Window β × RoundTrips) : SendCall β → SendAnswer β × Window β × RoundTrips
  | .write s =>
    match p.1.write s with
    | .added w => (.written none, w, p.2)
    | .present => (.written none, p)
    | .full => (.written (some s), p)
  | .get offset => (.found (p.1.get? offset.toNat), p)
  | .find seq => (.found (p.1.find? seq), p)
  | .clear seq =>
    match p.1.clear seq with
    | some (_, w) => (.cleared true, w, p.2)
    | none => (.cleared false, p)
  | .acknowledge next received now =>
    let shed := p.1.acknowledge next received
    let removed := shed.removed.toList
    (.acknowledged removed.length, shed.window, p.2.appendAll (Window.roundTrips removed now))

namespace View

variable {width : Nat}

/-- A segment is handed back if its offset is out of reach, and changes nothing if there is one
already. -/
def write (v : View β width) (s : Segment β) : Option (Segment β) × View β width :=
  let offset := s.seq.distanceFrom v.base
  if h : offset < width then
    if (v.get? offset).isSome then (none, v) else (none, v.set offset s h)
  else
    (some s, v)

/-- The offsets that a bitmap stands for: bit `i` for the offset `i + 1`. -/
def reported (received : UInt32) : List Nat :=
  ((List.range 32).filter fun i => received.toNat.testBit i).map (· + 1)

/-- The segments that an acknowledgement removes, in order, and the view without them: first what is
before `next`, and then what the bitmap reports, counted from there. One that is out of reach is
ignored. -/
def acknowledge (v : View β width) (next : Serial) (received : UInt32) :
    List (Segment β) × View β width :=
  let n := next.distanceFrom v.base
  if n ≤ width then
    ((List.range n).filterMap v.get? ++ (reported received).filterMap (v.shift n).get?,
      (v.shift n).erase (reported received))
  else
    ([], v)

/-- A call on a view, along with the round trips that are observed by it. -/
def send (p : View β width × RoundTrips) : SendCall β → SendAnswer β × View β width × RoundTrips
  | .write s => (.written (p.1.write s).1, (p.1.write s).2, p.2)
  | .get offset => (.found (p.1.get? offset.toNat), p)
  | .find seq => (.found (p.1.get? (seq.distanceFrom p.1.base)), p)
  | .clear seq =>
    let offset := seq.distanceFrom p.1.base
    (.cleared (p.1.get? offset).isSome, p.1.erase [offset], p.2)
  | .acknowledge next received now =>
    let (removed, v) := p.1.acknowledge next received
    (.acknowledged removed.length, v, p.2.appendAll (removed.map fun s => now - s.sentAt))

end View

namespace Window

variable {width : Nat} {w : Window β} {v : View β width}

namespace Shows

/-! ## The calls one by one -/

/-- **No segment ever stands in another one's way**: what stands in the place of a serial number
within the width has that number. -/
theorem seq_eq_of_occupant (h : w.Shows v) (hwidth : width ≤ w.capacity) {seq : Serial}
    {s : Segment β} (hseq : seq.distanceFrom v.base < w.capacity) (hs : w.occupant seq = some s) :
    s.seq = seq := by
  obtain ⟨hget, hcases⟩ := h.occupant_cases (Nat.le_succ_of_le hwidth) (Nat.le_of_lt hseq) hs
  have hlt := View.lt_of_get? hget
  rcases hcases with heq | ⟨-, hfar⟩ | ⟨hfar, -⟩
  · exact heq
  · omega
  · omega

/-- A segment within the width goes to its offset. -/
theorem store_at (h : w.Shows v) (hwidth : width ≤ w.capacity) {s : Segment β}
    (hlt : s.seq.distanceFrom v.base < width) :
    (w.store s).Shows (v.set (s.seq.distanceFrom v.base) s hlt) := by
  refine h.store rfl fun q => ?_
  simp only [View.set]
  by_cases hq : q = s.seq
  · rw [if_pos (by rw [hq]), if_pos hq]
  · rw [if_neg (fun heq => hq (Serial.eq_of_distanceFrom_eq heq)), if_neg hq]
    split
    · rename_i hslot
      -- in the place of `s` there is nothing with another serial number to lose
      rw [← h.find?_eq, find?_eq_none_iff]
      intro t ht heq
      rw [occupant_congr hslot] at ht
      exact hq (heq.symm.trans (h.seq_eq_of_occupant hwidth (by omega) ht))
    · rfl

theorem write (h : w.Shows v) (hwidth : w.capacity = width) (hnarrow : width ≤ 2 ^ 31)
    (s : Segment β) :
    match w.write s with
    | .added w' => (v.write s).1 = none ∧ w'.Shows (v.write s).2
    | .present => v.write s = (none, v)
    | .full => v.write s = (some s, v) := by
  unfold Window.write View.write
  rw [h.base_eq]
  by_cases hlt : s.seq.distanceFrom v.base < width
  · have hoffset : s.seq.offsetFrom? v.base = some (s.seq.distanceFrom v.base) :=
      Serial.offsetFrom?_eq_some_iff.mpr ⟨rfl, by omega⟩
    simp only [hoffset, hwidth, if_pos hlt, dif_pos hlt]
    cases hocc : w.occupant s.seq with
    | none =>
      have hfree : v.get? (s.seq.distanceFrom v.base) = none := by
        rw [← h.find?_eq, find?_eq_none_iff]
        simp [hocc]
      simp only [hfree, Option.isSome_none, Bool.false_eq_true, if_false]
      exact ⟨trivial, h.store_at (by omega) hlt⟩
    | some other =>
      have hseq := h.seq_eq_of_occupant (by omega) (by omega) hocc
      have hthere : v.get? (s.seq.distanceFrom v.base) = some other := by
        rw [← h.find?_eq, find?_eq_some_iff]
        exact ⟨hocc, hseq⟩
      simp [hseq, hthere]
  · simp only [dif_neg hlt]
    cases hoffset : s.seq.offsetFrom? v.base with
    | none => trivial
    | some offset =>
      obtain ⟨rfl, -⟩ := Serial.offsetFrom?_eq_some_iff.mp hoffset
      simp only [hwidth, if_neg hlt]

theorem clear (h : w.Shows v) (seq : Serial) :
    match w.clear seq with
    | some (_, w') => (v.get? (seq.distanceFrom v.base)).isSome = true
        ∧ w'.Shows (v.erase [seq.distanceFrom v.base])
    | none => (v.get? (seq.distanceFrom v.base)).isSome = false
        ∧ w.Shows (v.erase [seq.distanceFrom v.base]) := by
  have hdrop := Shows.drop (p := ⟨w, #[]⟩) h seq
  unfold Shedding.drop at hdrop
  unfold Window.clear
  rw [← h.find?_eq]
  cases hremove : w.remove? seq with
  | none =>
    simp only [hremove] at hdrop ⊢
    exact ⟨by rw [remove?_eq_none_iff.mp hremove]; rfl, hdrop⟩
  | some p =>
    simp only [hremove] at hdrop ⊢
    exact ⟨by rw [(remove?_eq_some_iff.mp hremove).1]; rfl, hdrop⟩

theorem map_reported (base : Serial) (received : UInt32) :
    (View.reported received).map (base + ·) = Shedding.marked base.next received := by
  unfold View.reported Shedding.marked
  rw [List.map_map]
  refine List.map_congr_left fun i _ => ?_
  show base + (i + 1) = base + 1 + i
  rw [Serial.add_assoc, Nat.add_comm]

theorem lt_of_mem_reported {received : UInt32} {offset : Nat}
    (h : offset ∈ View.reported received) : offset < 2 ^ 32 := by
  obtain ⟨i, hi, rfl⟩ := List.mem_map.mp h
  have hlt := List.mem_range.mp (List.mem_filter.mp hi).1
  omega

/-- **An acknowledgement** removes the same segments in the same order, and leaves the same. -/
theorem acknowledge (h : w.Shows v) (hwidth : w.capacity = width) (hnarrow : width < 2 ^ 31)
    (next : Serial) (received : UInt32) :
    (w.acknowledge next received).removed.toList = (v.acknowledge next received).1
      ∧ (w.acknowledge next received).window.Shows (v.acknowledge next received).2 := by
  unfold Window.acknowledge View.acknowledge
  rw [h.base_eq]
  by_cases hle : next.distanceFrom v.base ≤ width
  · have hoffset : next.offsetFrom? v.base = some (next.distanceFrom v.base) :=
      Serial.offsetFrom?_eq_some_iff.mpr ⟨rfl, by omega⟩
    simp only [hoffset, hwidth, if_pos hle]
    have hpassed := Shows.advance (p := ⟨w, #[]⟩) h (n := next.distanceFrom v.base)
      (by omega) (by omega)
    have hnext : next = (v.shift (next.distanceFrom v.base)).base :=
      (next.add_distanceFrom v.base).symm
    have hmarked : Shedding.marked next.next received
        = (View.reported received).map ((v.shift (next.distanceFrom v.base)).base + ·) := by
      rw [map_reported, ← hnext]
    rw [Shedding.dropBits_eq]
    constructor
    · rw [Shedding.removed_dropAll (Shedding.nodup_marked _ _),
        Shedding.removed_advance (by omega), hmarked, List.filterMap_map]
      simp only [List.nil_append]
      congr 1
      · refine List.filterMap_congr fun i hi => ?_
        have hlt := List.mem_range.mp hi
        exact h.get?_eq (by omega)
      · refine List.filterMap_congr fun i hi => ?_
        show Window.find? _ _ = _
        rw [hpassed.find?_eq, Serial.distanceFrom_add (lt_of_mem_reported hi)]
    · rw [hmarked]
      exact hpassed.dropAll fun offset => lt_of_mem_reported
  · simp only [if_neg hle]
    cases hoffset : next.offsetFrom? v.base with
    | none => exact ⟨rfl, h⟩
    | some offset =>
      obtain ⟨rfl, -⟩ := Serial.offsetFrom?_eq_some_iff.mp hoffset
      simp only [hwidth, if_neg hle]
      exact ⟨trivial, h⟩

end Shows

/-! ## Any calls -/

/-- A window in the send role and the map that it shows. -/
structure Sends (p : Window β × RoundTrips) (q : View β width × RoundTrips) : Prop where
  /-- The window shows the map. -/
  shows : p.1.Shows q.1
  /-- The map is as wide as the window. -/
  capacity_eq : p.1.capacity = width
  /-- The same round trips were observed. -/
  roundTrips_eq : p.2 = q.2

theorem capacity_write {w w' : Window β} {s : Segment β} (h : w.write s = .added w') :
    w'.capacity = w.capacity := by
  unfold write at h
  split at h
  · cases h
  · split at h
    · split at h
      · cases h
        exact capacity_store w s
      · split at h <;> cases h
    · cases h

/-- A call is answered by the window as by the map, and afterwards the one still shows the
other. -/
theorem Sends.alike {p : Window β × RoundTrips} {q : View β width × RoundTrips} (h : Sends p q)
    (hnarrow : width < 2 ^ 31) (call : SendCall β) :
    (Window.send p call).1 = (View.send q call).1
      ∧ Sends (Window.send p call).2 (View.send q call).2 := by
  obtain ⟨w, r⟩ := p
  obtain ⟨v, r'⟩ := q
  obtain ⟨hshows, hwidth, hr⟩ := h
  simp only at hshows hwidth hr
  subst hr
  cases call with
  | write s =>
    have hwrite := hshows.write hwidth (Nat.le_of_lt hnarrow) s
    unfold Window.send View.send
    cases hw : w.write s with
    | added w' =>
      simp only [hw] at hwrite ⊢
      rw [hwrite.1]
      exact ⟨rfl, hwrite.2, (capacity_write hw).trans hwidth, rfl⟩
    | present =>
      simp only [hw] at hwrite ⊢
      rw [hwrite]
      exact ⟨rfl, hshows, hwidth, rfl⟩
    | full =>
      simp only [hw] at hwrite ⊢
      rw [hwrite]
      exact ⟨rfl, hshows, hwidth, rfl⟩
  | get offset =>
    refine ⟨?_, hshows, hwidth, rfl⟩
    simp only [Window.send, View.send]
    rw [hshows.get?_eq offset.toNat_lt]
  | find seq =>
    refine ⟨?_, hshows, hwidth, rfl⟩
    simp only [Window.send, View.send]
    rw [hshows.find?_eq]
  | clear seq =>
    have hclear := hshows.clear seq
    unfold Window.send View.send
    cases hw : w.clear seq with
    | none =>
      simp only [hw] at hclear ⊢
      rw [hclear.1]
      exact ⟨rfl, hclear.2, hwidth, rfl⟩
    | some p =>
      simp only [hw] at hclear ⊢
      rw [hclear.1]
      refine ⟨rfl, hclear.2, ?_, rfl⟩
      rw [(remove?_eq_some_iff.mp hw).2]
      exact (capacity_put w seq none (w.size - 1)).trans hwidth
  | acknowledge next received now =>
    obtain ⟨hremoved, hleft⟩ := hshows.acknowledge hwidth hnarrow next received
    simp only [Window.send, View.send]
    rw [hremoved]
    exact ⟨rfl, hleft, (capacity_acknowledge w next received).trans hwidth, rfl⟩

theorem simulates_send (β : Type) (width : Nat) (hnarrow : width < 2 ^ 31) :
    Calls.Simulates Window.send View.send
      (Sends : Window β × RoundTrips → View β width × RoundTrips → Prop) where
  answer call h := (h.alike hnarrow call).1
  next call h := (h.alike hnarrow call).2

theorem sends_empty {exponent : Nat} (hle : exponent ≤ 30) (base : Serial)
    (roundTrips : RoundTrips) :
    Sends ((Window.empty (2 ^ exponent) base (Nat.two_pow_pos exponent) : Window β), roundTrips)
      (View.empty (2 ^ exponent) base, roundTrips) where
  shows := Shows.empty (Nat.two_pow_pos exponent) (Nat.pow_dvd_pow 2 (by omega)) base
  capacity_eq := capacity_empty (Nat.two_pow_pos exponent)
  roundTrips_eq := rfl

/-- **A send window is a map from offsets to segments.** To any sequence of calls, with whatever
serial numbers, bitmaps and times, both give the same answers, and after each call they have the
same base, the same number of segments and the same round trips. And when a segment is written that
is within the width, its place is never taken by another one. -/
theorem trace_send {exponent : Nat} (hle : exponent ≤ 30) (base : Serial) (roundTrips : RoundTrips)
    (calls : List (SendCall β)) :
    let start : Window β × RoundTrips :=
      (Window.empty (2 ^ exponent) base (Nat.two_pow_pos exponent), roundTrips)
    let map : View β (2 ^ exponent) × RoundTrips := (View.empty (2 ^ exponent) base, roundTrips)
    Calls.trace send (fun p => (p.1.base, p.1.size, p.2)) start calls
        = Calls.trace View.send (fun p => (p.1.base, p.1.size, p.2)) map calls
      ∧ ∀ (s other : Segment β) (offset : Nat),
        s.seq.offsetFrom? (Calls.after send start calls).1.base = some offset →
          offset < 2 ^ exponent → (Calls.after send start calls).1.occupant s.seq = some other →
          other.seq = s.seq := by
  have hpow : 2 ^ exponent ≤ 2 ^ 30 := Nat.pow_le_pow_right (by omega) hle
  have hsim := simulates_send β (2 ^ exponent) (by omega)
  have hstart := sends_empty (β := β) hle base roundTrips
  constructor
  · refine hsim.trace_eq (fun {p q} h => ?_) hstart calls
    rw [h.shows.base_eq, h.shows.size_eq (by omega), h.roundTrips_eq]
  · intro s other offset hoffset hlt hocc
    have hafter := hsim.after hstart calls
    have hwidth := hafter.capacity_eq
    rw [hafter.shows.base_eq] at hoffset
    obtain ⟨hdistance, -⟩ := Serial.offsetFrom?_eq_some_iff.mp hoffset
    exact hafter.shows.seq_eq_of_occupant (by omega) (by omega) hocc

/-- A window of two places where serial numbers wrap around: the second segment is acknowledged by a
bitmap, seven ticks after it was sent. That makes no room for a third one, as the first is still
missing. -/
theorem trace_send_wrapping :
    1 ≤ 30
      ∧ (Calls.trace View.send (fun p => (p.1.base, p.1.size, p.2))
          ((View.empty (2 ^ 1) ⟨0xFFFFFFFF⟩ : View Nat (2 ^ 1)), RoundTrips.empty)
          [.write ⟨⟨0xFFFFFFFF⟩, false, 7, 100⟩, .write ⟨⟨0⟩, false, 8, 103⟩,
            .write ⟨⟨1⟩, false, 9, 105⟩, .acknowledge ⟨0xFFFFFFFF⟩ 1 110,
            .write ⟨⟨1⟩, false, 9, 112⟩, .acknowledge ⟨0⟩ 0 115, .write ⟨⟨1⟩, false, 9, 118⟩,
            .get 1, .find ⟨0xFFFFFFFF⟩]).map
          (fun seen => (seen.1, seen.2.1, seen.2.2.1, seen.2.2.2.historicalMin))
        = [(.written none, ⟨0xFFFFFFFF⟩, 1, 0), (.written none, ⟨0xFFFFFFFF⟩, 2, 0),
            (.written (some ⟨⟨1⟩, false, 9, 105⟩), ⟨0xFFFFFFFF⟩, 2, 0),
            (.acknowledged 1, ⟨0xFFFFFFFF⟩, 1, 7),
            (.written (some ⟨⟨1⟩, false, 9, 112⟩), ⟨0xFFFFFFFF⟩, 1, 7),
            (.acknowledged 1, ⟨0⟩, 0, 7), (.written none, ⟨0⟩, 1, 7),
            (.found (some ⟨⟨1⟩, false, 9, 118⟩), ⟨0⟩, 1, 7), (.found none, ⟨0⟩, 1, 7)] := by
  refine ⟨by decide, ?_⟩
  rw [← (trace_send (by decide : 1 ≤ 30) ⟨0xFFFFFFFF⟩ RoundTrips.empty _).1]
  decide +kernel

end Window

end Redelivery
