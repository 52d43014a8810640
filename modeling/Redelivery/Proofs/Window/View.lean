import Redelivery.Proofs.Window.Lookup

/-!
# Windows without a ring

For those who use it, a window is a serial number where it starts and, at each offset from there, at
most one segment. A *view* is just that: it has no places that two serial numbers could share and no
serial numbers that wrap around, and its segments are not kept track of but counted. A window
*shows* a view if it looks the same from outside.

Users of a window call its operations one after the other. Two machines that answer such calls alike
and stay alike cannot be told apart by any sequence of calls.

## Main definitions

* `Calls.trace`, `Calls.after`: the answers to a sequence of calls, and the state after it.
* `View`: a base and the segments at the offsets from there.
* `Window.Shows`: a window and a view of it.

## Main statements

* `Calls.Simulates.trace_eq`: machines that stay alike have the same traces.
* `Window.Shows.size_eq`: the size of a window is the number of segments in its view.
* `Window.Shows.occupant_cases`: only at offsets that are a whole width apart do two segments share
  a place.
* `Window.Shows.store`, `Window.Shows.drop`, `Window.Shows.advance`: what storing, removing and
  moving do to a view.

That a place is shared only across the whole width takes a width that divides the range of serial
numbers, which is why `Window.Shows` carries this along. The lemma on storing is stated for any new
view that answers as it should, so the two roles can put in their own idea of what gives way.
-/

namespace Redelivery

/-! ## Calls one after the other -/

namespace Calls

variable {σ τ ι ο ω : Type}

/-- What a sequence of calls is answered, along with what is seen of the state after each of
them. -/
def trace (step : σ → ι → ο × σ) (look : σ → ω) : σ → List ι → List (ο × ω)
  | _, [] => []
  | state, call :: calls =>
    ((step state call).1, look (step state call).2) :: trace step look (step state call).2 calls

/-- The state after a sequence of calls. -/
def after (step : σ → ι → ο × σ) (state : σ) (calls : List ι) : σ :=
  calls.foldl (fun state call => (step state call).2) state

theorem after_append (step : σ → ι → ο × σ) (state : σ) (calls calls' : List ι) :
    after step state (calls ++ calls') = after step (after step state calls) calls' :=
  List.foldl_append

/-- Related states of two machines answer every call alike, and are related again after it. -/
structure Simulates (step : σ → ι → ο × σ) (step' : τ → ι → ο × τ) (R : σ → τ → Prop) : Prop where
  /-- The answers are the same. -/
  answer : ∀ {s t} call, R s t → (step s call).1 = (step' t call).1
  /-- The next states are related. -/
  next : ∀ {s t} call, R s t → R (step s call).2 (step' t call).2

namespace Simulates

variable {step : σ → ι → ο × σ} {step' : τ → ι → ο × τ} {R : σ → τ → Prop}

theorem after (h : Simulates step step' R) {s : σ} {t : τ} (hR : R s t) (calls : List ι) :
    R (Calls.after step s calls) (Calls.after step' t calls) := by
  induction calls generalizing s t with
  | nil => exact hR
  | cons call calls ih => exact ih (h.next call hR)

/-- **Machines that stay alike have the same traces.** -/
theorem trace_eq (h : Simulates step step' R) {look : σ → ω} {look' : τ → ω}
    (hlook : ∀ {s t}, R s t → look s = look' t) {s : σ} {t : τ} (hR : R s t) (calls : List ι) :
    trace step look s calls = trace step' look' t calls := by
  induction calls generalizing s t with
  | nil => rfl
  | cons call calls ih =>
    have hnext := h.next call hR
    rw [trace, trace, h.answer call hR, hlook hnext, ih hnext]

end Simulates

end Calls

/-! ## Views -/

/-- Where a window starts, and the segments at the offsets from there that are below `reach`. -/
structure View (β : Type) (reach : Nat) where
  /-- The serial number at offset zero. -/
  base : Serial
  /-- The segment at an offset. -/
  get? : Nat → Option (Segment β)
  /-- There is none out of reach. -/
  get?_of_le : ∀ {offset}, reach ≤ offset → get? offset = none

namespace View

variable {β : Type} {reach : Nat}

/-- The view without segments. -/
def empty (reach : Nat) (base : Serial) : View β reach where
  base := base
  get? _ := none
  get?_of_le _ := rfl

/-- The number of segments. -/
def size (v : View β reach) : Nat :=
  (List.range reach).countP fun offset => (v.get? offset).isSome

/-- The view with `s` at an offset, whatever was there. -/
def set (v : View β reach) (offset : Nat) (s : Segment β) (h : offset < reach) : View β reach where
  base := v.base
  get? i := if i = offset then some s else v.get? i
  get?_of_le hi := by rw [if_neg (by omega), v.get?_of_le hi]

/-- The view without what is at the given offsets. -/
def erase (v : View β reach) (offsets : List Nat) : View β reach where
  base := v.base
  get? i := if i ∈ offsets then none else v.get? i
  get?_of_le hi := by rw [v.get?_of_le hi, ite_self]

/-- The view from the offset `n` on. -/
def shift (v : View β reach) (n : Nat) : View β reach where
  base := v.base + n
  get? i := v.get? (i + n)
  get?_of_le hi := v.get?_of_le (Nat.le_add_right_of_le hi)

theorem lt_of_get? {v : View β reach} {offset : Nat} {s : Segment β}
    (h : v.get? offset = some s) : offset < reach := by
  by_contra hle
  rw [v.get?_of_le (Nat.le_of_not_lt hle)] at h
  cases h

end View

/-! ## Windows and their views -/

namespace Window

variable {β : Type} {reach : Nat} {w : Window β} {v : View β reach}

/-- A window holds just what the view has, each segment at the distance of its serial number from
the base. -/
structure Shows (w : Window β) (v : View β reach) : Prop where
  /-- Segments are in their places. -/
  tidy : w.Tidy
  /-- The places are consistent where serial numbers wrap around. -/
  dvd : w.capacity ∣ 2 ^ 32
  /-- They start at the same serial number. -/
  base_eq : w.base = v.base
  /-- Look-ups find what is at the distance. -/
  find?_eq : ∀ seq, w.find? seq = v.get? (seq.distanceFrom v.base)

namespace Shows

theorem empty {capacity : Nat} (hc : 0 < capacity) (hdvd : capacity ∣ 2 ^ 32) (base : Serial) :
    (Window.empty capacity base hc : Window β).Shows (View.empty reach base) where
  tidy := Tidy.empty hc
  dvd := by rwa [capacity_empty]
  base_eq := rfl
  find?_eq seq := find?_eq_none_iff.mpr fun s hs => by
    rw [occupant_empty] at hs
    cases hs

theorem capacity_le (h : w.Shows v) : w.capacity ≤ 2 ^ 32 :=
  Nat.le_of_dvd (by decide) h.dvd

theorem get?_eq (h : w.Shows v) {offset : Nat} (hlt : offset < 2 ^ 32) :
    w.get? offset = v.get? offset := by
  rw [Window.get?, h.find?_eq, h.base_eq, Serial.distanceFrom_add hlt]

/-- **The size of a window is the number of segments in its view.** -/
theorem size_eq (h : w.Shows v) (hreach : reach ≤ 2 ^ 32) : w.size = v.size := by
  have hnear (seq : Serial) (s : Segment β) (hs : w.find? seq = some s) :
      seq.distanceFrom w.base < reach := by
    rw [h.base_eq]
    rw [h.find?_eq] at hs
    exact View.lt_of_get? hs
  rw [h.tidy.size_eq_countP h.capacity_le hreach hnear, View.size]
  refine List.countP_congr fun i hi => ?_
  have hlt := List.mem_range.mp hi
  rw [h.get?_eq (by omega)]

/-- **A place is shared only across the whole width**: what stands in the place of a serial number
that is at most `capacity` ahead has that number, or one of the two is at the base and the other
one the width away from it. -/
theorem occupant_cases (h : w.Shows v) (hreach : reach ≤ w.capacity + 1) {seq : Serial}
    {s : Segment β} (hseq : seq.distanceFrom v.base ≤ w.capacity) (hs : w.occupant seq = some s) :
    v.get? (s.seq.distanceFrom v.base) = some s
      ∧ (s.seq = seq ∨ (seq.distanceFrom v.base = 0 ∧ s.seq.distanceFrom v.base = w.capacity)
        ∨ (seq.distanceFrom v.base = w.capacity ∧ s.seq.distanceFrom v.base = 0)) := by
  have hget : v.get? (s.seq.distanceFrom v.base) = some s := by
    rw [← h.find?_eq]
    exact h.tidy.find?_of_occupant hs
  have hlt := View.lt_of_get? hget
  rcases Serial.slot_eq_cases v.base h.dvd (h.tidy.place seq s hs) (by omega) hseq with
    heq | ⟨hzero, hfar⟩ | ⟨hfar, hzero⟩
  · exact ⟨hget, Or.inl heq⟩
  · exact ⟨hget, Or.inr (Or.inr ⟨hfar, hzero⟩)⟩
  · exact ⟨hget, Or.inr (Or.inl ⟨hzero, hfar⟩)⟩

/-! ### Storing and removing -/

/-- A segment that is stored takes the place of what stood there. -/
theorem store (h : w.Shows v) {s : Segment β} {v' : View β reach} (hbase : v'.base = v.base)
    (hget : ∀ seq : Serial, v'.get? (seq.distanceFrom v.base)
      = if seq = s.seq then some s
        else if seq.slot w.capacity = s.seq.slot w.capacity then none
        else v.get? (seq.distanceFrom v.base)) : (w.store s).Shows v' where
  tidy := h.tidy.store s
  dvd := by rw [capacity_store]; exact h.dvd
  base_eq := by rw [base_store, h.base_eq, hbase]
  find?_eq seq := by rw [find?_store, hbase, hget, h.find?_eq]

theorem drop {p : Shedding β} (h : p.window.Shows v) (seq : Serial) :
    (p.drop seq).window.Shows (v.erase [seq.distanceFrom v.base]) where
  tidy := h.tidy.drop seq
  dvd := by rw [Shedding.capacity_drop]; exact h.dvd
  base_eq := by rw [Shedding.base_drop, h.base_eq]; rfl
  find?_eq q := by
    have hq : q.distanceFrom v.base ∈ [seq.distanceFrom v.base] ↔ q = seq := by
      rw [List.mem_singleton]
      exact ⟨Serial.eq_of_distanceFrom_eq, fun heq => by rw [heq]⟩
    rw [Shedding.find?_drop, h.find?_eq]
    simp only [View.erase, hq]

/-- Moving the base forward leaves the view from there on. -/
theorem advance {p : Shedding β} (h : p.window.Shows v) {n : Nat} (hn : n < 2 ^ 32)
    (hreach : reach ≤ 2 ^ 32) :
    (Shedding.advance n p).window.Shows (v.shift n) where
  tidy := Tidy.advance h.tidy
  dvd := by rw [Shedding.capacity_advance]; exact h.dvd
  base_eq := by rw [Shedding.base_advance, h.base_eq]; rfl
  find?_eq q := by
    rw [Shedding.find?_advance, h.find?_eq, h.base_eq]
    have hq := q.distanceFrom_lt v.base
    by_cases hpassed : q.distanceFrom v.base < n
    · -- a number that the base passed is at the far end, out of reach of the view
      rw [if_pos ⟨_, hpassed, (q.add_distanceFrom v.base).symm⟩]
      refine (v.get?_of_le ?_).symm
      simp only [View.shift]
      rw [Serial.distanceFrom_add_of_lt hpassed hn]
      omega
    · rw [if_neg]
      · simp only [View.shift]
        rw [Serial.distanceFrom_add_of_le (Nat.le_of_not_lt hpassed),
          Nat.sub_add_cancel (Nat.le_of_not_lt hpassed)]
      · rintro ⟨i, hi, rfl⟩
        rw [Serial.distanceFrom_add (by omega)] at hpassed
        exact hpassed hi

/-- Segments ahead of the base are removed by their offsets. -/
theorem dropAll {p : Shedding β} (h : p.window.Shows v) {offsets : List Nat}
    (hlt : ∀ offset ∈ offsets, offset < 2 ^ 32) :
    (p.dropAll (offsets.map (v.base + ·))).window.Shows (v.erase offsets) where
  tidy := h.tidy.dropAll _
  dvd := by rw [Shedding.capacity_dropAll]; exact h.dvd
  base_eq := by rw [Shedding.base_dropAll, h.base_eq]; rfl
  find?_eq q := by
    have hq : q ∈ offsets.map (v.base + ·) ↔ q.distanceFrom v.base ∈ offsets := by
      rw [List.mem_map]
      constructor
      · rintro ⟨offset, hmem, rfl⟩
        rwa [Serial.distanceFrom_add (hlt offset hmem)]
      · intro hmem
        exact ⟨_, hmem, q.add_distanceFrom v.base⟩
    rw [Shedding.find?_dropAll, h.find?_eq]
    simp only [View.erase, hq]

end Shows

end Window

end Redelivery
