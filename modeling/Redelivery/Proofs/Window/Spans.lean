import Redelivery.Proofs.Serial
import Redelivery.Proofs.Window.Lookup

/-!
# Windows as spans of a count

Both windows of a direction look at one sequence of segments, counted from the first serial number
on. A window *spans* the counts from `lo` up to `hi`: its base has count `lo`, all it holds is
counted below `hi`, and the span is no wider than the window. Then wrap-around is out of the way:
look-ups, writing, storing, taking out and acknowledging are what they are for counts.

## Main definitions

* `Window.Spans`: the window holds only segments with counts in a span, as wide as itself at most.
* `Window.offer`: a receive window after a segment arrived.
* `Window.Welcomes`: a receive window has a place for the segment with a serial number.

## Main statements

* `Window.Spans.write_eq`: the next segment finds room exactly when the span is not full.
* `Window.Spans.accept_eq`, `Window.Spans.accept_stale`: storing what arrived.
* `Window.Spans.welcomes`: what has not been delivered is welcome.
* `Window.Spans.pop?_eq_some`: taking out the segment at the base.
* `Window.Spans.prefix_predecessors`: the segments right before one are listed.

Counts stand for serial numbers as long as they are close to each other, and how close is in the
hypotheses of each lemma: `Window.Spans.of_find?` asks that a count is not a whole turn away from
the span. Windows are at most a quarter of the range wide, and with that `omega` settles most of it.

A receive window may be offered what is behind its base. Up to half a turn back a serial number is
known to be behind; further back it is taken for one that is ahead, but for one too far ahead to be
stored, until it is about to come up again. So the segment is refused (`Window.Spans.accept_stale`).
What is ahead is stored or is a copy (`Window.Spans.accept_eq`), since within the width no other
segment has its place (`Window.Spans.occupant_eq_find?`).
-/

namespace Redelivery.Window

variable {β : Type} {w : Window β} {first : Serial} {lo hi : Nat} {P : Nat → Segment β → Prop}

/-- The window holds segments with counts from `lo` up to `hi` only, and of each of them `P` holds
with its count. -/
structure Spans (w : Window β) (first : Serial) (lo hi : Nat) (P : Nat → Segment β → Prop) :
    Prop where
  /-- Segments are in their places. -/
  tidy : w.Tidy
  /-- The places are consistent where serial numbers wrap around. -/
  dvd : w.capacity ∣ 2 ^ 32
  /-- Two windows side by side are still within half the range of serial numbers. -/
  narrow : 2 * w.capacity ≤ 2 ^ 31
  /-- The window starts at the beginning of the span. -/
  base_eq : w.base = first + lo
  /-- The span is no wider than the window. -/
  hi_le : hi ≤ lo + w.capacity
  /-- What is found has a count in the span. -/
  stored : ∀ seq s, w.find? seq = some s → ∃ k, lo ≤ k ∧ k < hi ∧ seq = first + k ∧ P k s

/-- The window after a segment was offered to it, whether it took it or not. -/
def offer (w : Window β) (s : Segment β) : Window β :=
  match w.accept s with
  | .stored w' _ => w'
  | .refused => w

/-- A segment with the given serial number is welcome in a receive window: it is within the window's
width, a copy of it is the only reason to refuse it, and nothing else has to go for it. -/
def Welcomes (w : Window β) (seq : Serial) : Prop :=
  (∃ offset, seq.offsetFrom? w.base = some offset ∧ offset < w.capacity)
    ∧ ∀ s : Segment β, s.seq = seq →
      match w.accept s with
      | .stored _ evicted => ∀ copy ∈ evicted, copy.seq = seq
      | .refused => (w.find? seq).isSome = true

namespace Spans

theorem empty {capacity : Nat} (hc : 0 < capacity) (hdvd : capacity ∣ 2 ^ 32)
    (hnarrow : 2 * capacity ≤ 2 ^ 31) :
    (Window.empty capacity first hc : Window β).Spans first 0 0 P where
  tidy := Tidy.empty hc
  dvd := by rwa [capacity_empty]
  narrow := by rwa [capacity_empty]
  base_eq := first.add_zero.symm
  hi_le := Nat.zero_le _
  stored seq s h := by
    have hocc := (find?_eq_some_iff.mp h).1
    rw [occupant_empty] at hocc
    cases hocc

/-- What is known of the segments may be said differently, and the span may be seen longer. -/
theorem mono {hi' : Nat} {Q : Nat → Segment β → Prop} (h : w.Spans first lo hi P) (hle : hi ≤ hi')
    (hhi' : hi' ≤ lo + w.capacity) (hPQ : ∀ k s, lo ≤ k → k < hi → P k s → Q k s) :
    w.Spans first lo hi' Q := by
  refine { h with hi_le := hhi', stored := ?_ }
  intro seq s hs
  obtain ⟨k, hlo, hhi, hseq, hP⟩ := h.stored seq s hs
  exact ⟨k, hlo, Nat.lt_of_lt_of_le hhi hle, hseq, hPQ k s hlo hhi hP⟩

/-- A segment with a count that is not far from the span is found only inside it. -/
theorem of_find? (h : w.Spans first lo hi P) {k : Nat} {s : Segment β} (hlo : lo < k + 2 ^ 31)
    (hk : k < lo + 2 ^ 31) (hs : w.find? (first + k) = some s) : lo ≤ k ∧ k < hi ∧ P k s := by
  obtain ⟨j, hj, hjhi, hseq, hP⟩ := h.stored _ s hs
  have hhi := h.hi_le
  have hnarrow := h.narrow
  obtain rfl := Serial.add_left_cancel hseq (by omega) (by omega)
  exact ⟨hj, hjhi, hP⟩

theorem find?_eq_none (h : w.Spans first lo hi P) {k : Nat} (hlo : lo < k + 2 ^ 31)
    (hk : k < lo + 2 ^ 31) (hout : k < lo ∨ hi ≤ k) : w.find? (first + k) = none := by
  rw [Option.eq_none_iff_forall_ne_some]
  intro s hs
  obtain ⟨hge, hlt, -⟩ := h.of_find? hlo hk hs
  omega

/-- Inside the width of the window, places are not shared: what stands in the place of a count
has that count. -/
theorem occupant_eq_find? (h : w.Spans first lo hi P) {k : Nat} (hlo : lo ≤ k)
    (hk : k < lo + w.capacity) : w.occupant (first + k) = w.find? (first + k) := by
  have hhi := h.hi_le
  cases hocc : w.occupant (first + k) with
  | none =>
    refine (find?_eq_none_iff.mpr ?_).symm
    intro s hs
    rw [hocc] at hs
    cases hs
  | some t =>
    -- two counts that are less than the width apart share no place, so `t` is the one looked for
    obtain ⟨j, hj, hjhi, hseq, -⟩ := h.stored _ t (h.tidy.find?_of_occupant hocc)
    have hslot := h.tidy.place _ t hocc
    rw [hseq] at hslot
    obtain rfl := Serial.slot_add_inj h.dvd hslot (by omega) (by omega)
    exact (find?_eq_some_iff.mpr ⟨hocc, hseq⟩).symm

/-- **All that a window holds is listed.** -/
theorem mem_entries (h : w.Spans first lo hi P) {seq : Serial} {s : Segment β}
    (hs : w.find? seq = some s) : s ∈ w.entries := by
  obtain ⟨k, hlo, hk, rfl, -⟩ := h.stored seq s hs
  have hhi := h.hi_le
  refine h.tidy.mem_entries h.dvd (i := k - lo) (by omega) ?_
  rw [get?, h.base_eq, Serial.add_assoc, Nat.add_sub_cancel' hlo, hs]

/-! ## Storing -/

/-- A segment whose count is in the width of the window displaces nothing but an earlier copy of
itself. -/
theorem find?_store (h : w.Spans first lo hi P) {k : Nat} {s : Segment β} (hseq : s.seq = first + k)
    (hlo : lo ≤ k) (hk : k < lo + w.capacity) (q : Serial) :
    (w.store s).find? q = if q = first + k then some s else w.find? q := by
  have hhi := h.hi_le
  rw [Window.find?_store, hseq]
  by_cases hq : q = first + k
  · rw [if_pos hq, if_pos hq]
  · rw [if_neg hq, if_neg hq]
    split
    · rename_i hslot
      -- nothing but `first + k` itself is found in its place
      refine Option.eq_none_iff_forall_ne_some.mpr ?_ |>.symm
      intro t ht
      obtain ⟨j, hj, hjhi, rfl, -⟩ := h.stored q t ht
      have hjk := Serial.slot_add_inj h.dvd hslot (by omega) (by omega)
      exact hq (by rw [hjk])
    · rfl

theorem store (h : w.Spans first lo hi P) {k hi' : Nat} {s : Segment β} (hseq : s.seq = first + k)
    (hlo : lo ≤ k) (hk : k < hi') (hle : hi ≤ hi') (hhi' : hi' ≤ lo + w.capacity) (hs : P k s) :
    (w.store s).Spans first lo hi' P where
  tidy := h.tidy.store s
  dvd := by rw [capacity_store]; exact h.dvd
  narrow := by rw [capacity_store]; exact h.narrow
  base_eq := by rw [base_store]; exact h.base_eq
  hi_le := by rwa [capacity_store]
  stored q t ht := by
    rw [h.find?_store hseq hlo (by omega)] at ht
    split at ht
    · rename_i hq
      cases ht
      exact ⟨k, hlo, hk, hq, hs⟩
    · obtain ⟨j, hj, hjhi, hq, hP⟩ := h.stored q t ht
      exact ⟨j, hj, by omega, hq, hP⟩

/-- **The next segment finds room** exactly when the span is not yet as wide as the window. -/
theorem write_eq (h : w.Spans first lo hi P) {s : Segment β} (hle : lo ≤ hi)
    (hseq : s.seq = first + hi) :
    w.write s = if hi < lo + w.capacity then .added (w.store s) else .full := by
  have hhi := h.hi_le
  have hnarrow := h.narrow
  unfold write
  rw [hseq, h.base_eq, Serial.offsetFrom?_add_add hle (by omega)]
  by_cases hroom : hi < lo + w.capacity
  · rw [if_pos hroom]
    simp only
    rw [if_pos (by omega), h.occupant_eq_find? hle hroom,
      h.find?_eq_none (by omega) (by omega) (Or.inr (Nat.le_refl hi))]
  · rw [if_neg hroom]
    simp only
    rw [if_neg (by omega)]

/-- A segment that was delivered already, or is about to wrap around to where it was, is
refused. -/
theorem accept_stale (h : w.Spans first lo hi P) {s : Segment β} {k : Nat}
    (hseq : s.seq = first + k) (hk : k < lo) (hfresh : lo + w.capacity < k + 2 ^ 32) :
    w.accept s = .refused := by
  unfold accept
  rw [hseq, h.base_eq]
  split
  · rfl
  · rename_i offset hoffset
    have hfar := Serial.lt_of_offsetFrom?_add_add hk hfresh hoffset
    rw [if_neg (by omega)]

/-- **A segment in the width of the window is stored**, unless a copy of it is there already. The
copy at the base is replaced. -/
theorem accept_eq (h : w.Spans first lo hi P) {s : Segment β} {k : Nat} (hseq : s.seq = first + k)
    (hlo : lo ≤ k) (hk : k < lo + w.capacity) :
    w.accept s = match w.find? (first + k) with
      | none => .stored (w.store s) none
      | some copy => if k = lo then .stored (w.store s) (some copy) else .refused := by
  have hnarrow := h.narrow
  have hbase : first + k = w.base ↔ k = lo := by
    rw [h.base_eq]
    constructor
    · intro heq
      exact Serial.add_left_cancel heq (by omega) (by omega)
    · rintro rfl
      rfl
  unfold accept
  rw [hseq, h.base_eq, Serial.offsetFrom?_add_add hlo (by omega)]
  simp only
  rw [if_pos (by omega), h.occupant_eq_find? hlo hk, ← h.base_eq]
  -- a copy is replaced at the base, and is a reason to refuse anywhere else
  cases w.find? (first + k) with
  | none => rfl
  | some copy => simp only [hbase]

/-- **What has not been delivered is welcome.** -/
theorem welcomes (h : w.Spans first lo hi P) {k : Nat} (hlo : lo ≤ k) (hk : k < lo + w.capacity) :
    w.Welcomes (first + k) := by
  have hnarrow := h.narrow
  refine ⟨⟨k - lo, ?_, by omega⟩, fun s hseq => ?_⟩
  · rw [h.base_eq, Serial.offsetFrom?_add_add hlo (by omega)]
  · rw [h.accept_eq hseq hlo hk]
    cases hfind : w.find? (first + k) with
    | none => exact fun copy hcopy => absurd hcopy (Option.not_mem_none copy)
    | some copy =>
      by_cases hbase : k = lo
      · simp only [if_pos hbase]
        rintro other hother
        cases hother
        exact seq_of_find? hfind
      · simp only [if_neg hbase]
        rfl

theorem offer_stale (h : w.Spans first lo hi P) {s : Segment β} {k : Nat}
    (hseq : s.seq = first + k) (hk : k < lo) (hfresh : lo + w.capacity < k + 2 ^ 32) :
    w.offer s = w := by
  rw [offer, h.accept_stale hseq hk hfresh]

theorem offer_eq (h : w.Spans first lo hi P) {s : Segment β} {k : Nat} (hseq : s.seq = first + k)
    (hlo : lo ≤ k) (hk : k < lo + w.capacity) : w.offer s = w.store s ∨ w.offer s = w := by
  rw [offer, h.accept_eq hseq hlo hk]
  cases w.find? (first + k) with
  | none => exact Or.inl rfl
  | some copy =>
    by_cases hbase : k = lo
    · simp only [if_pos hbase]
      exact Or.inl trivial
    · simp only [if_neg hbase]
      exact Or.inr trivial

/-! ## Taking out -/

theorem put_none (h : w.Spans first lo hi P) {seq : Serial} {s : Segment β}
    (hs : w.find? seq = some s) : (w.put seq none (w.size - 1)).Spans first lo hi P where
  tidy := h.tidy.put_none hs
  dvd := by rw [capacity_put]; exact h.dvd
  narrow := by rw [capacity_put]; exact h.narrow
  base_eq := h.base_eq
  hi_le := by rw [capacity_put]; exact h.hi_le
  stored q t ht := by
    rw [find?_put_none hs] at ht
    split at ht
    · cases ht
    · exact h.stored q t ht

/-- Moving the base forward, past counts that are not found any more. -/
theorem rebase (h : w.Spans first lo hi P) {lo' hi' : Nat} (hhi : hi ≤ hi')
    (hhi' : hi' ≤ lo' + w.capacity)
    (hgone : ∀ k, lo ≤ k → k < lo' → w.find? (first + k) = none) :
    ({ w with base := first + lo' } : Window β).Spans first lo' hi' P where
  tidy := h.tidy.rebase _
  dvd := h.dvd
  narrow := h.narrow
  base_eq := rfl
  hi_le := hhi'
  stored q t ht := by
    have hfind : w.find? q = some t := by rw [← ht]; exact (find?_congr rfl q).symm
    obtain ⟨k, hk, hkhi, rfl, hP⟩ := h.stored q t hfind
    refine ⟨k, ?_, by omega, rfl, hP⟩
    -- what is found below the new base was found before, where nothing is
    by_contra hlt
    rw [hgone k hk (by omega)] at hfind
    cases hfind

/-- **The segment at the base is taken out**, and the window moves past it. -/
theorem pop?_eq_some (h : w.Spans first lo hi P) {s : Segment β} {w' : Window β}
    (hpop : w.pop? = some (s, w')) :
    w.find? (first + lo) = some s ∧ w'.capacity = w.capacity ∧ w'.Spans first (lo + 1) hi P
      ∧ ∀ q, w'.find? q = if q = first + lo then none else w.find? q := by
  unfold pop? at hpop
  split at hpop
  · rename_i t rest hremove
    cases hpop
    obtain ⟨hs, rfl⟩ := remove?_eq_some_iff.mp hremove
    have hbase : w.base.next = first + (lo + 1) := by rw [h.base_eq, Serial.next_add]
    have hspan := h.put_none hs
    have hfind (q : Serial) := find?_put_none hs (w.size - 1) q
    rw [h.base_eq] at hs hspan hfind
    refine ⟨hs, capacity_put w w.base none (w.size - 1), ?_, ?_⟩
    · show ({ w.put w.base none (w.size - 1) with base := w.base.next } : Window β).Spans ..
      rw [hbase, h.base_eq]
      apply hspan.rebase (Nat.le_refl hi)
      · rw [capacity_put]
        have hhi := h.hi_le
        omega
      · intro k hk hk'
        obtain rfl : k = lo := by omega
        rw [hfind, if_pos rfl]
    · intro q
      rw [← hfind, ← h.base_eq]
      exact find?_congr rfl q
  · cases hpop

theorem pop?_eq_none_iff (h : w.Spans first lo hi P) :
    w.pop? = none ↔ w.find? (first + lo) = none := by
  rw [← h.base_eq, ← remove?_eq_none_iff]
  unfold pop?
  split
  · rename_i hremove
    simp [hremove]
  · rename_i hremove
    simp [hremove]

theorem clear_eq_some (h : w.Spans first lo hi P) {seq : Serial} {s : Segment β} {w' : Window β}
    (hclear : w.clear seq = some (s, w')) :
    w'.capacity = w.capacity ∧ w'.Spans first lo hi P
      ∧ ∀ q, w'.find? q = if q = seq then none else w.find? q := by
  obtain ⟨hs, rfl⟩ := remove?_eq_some_iff.mp hclear
  exact ⟨capacity_put w seq none (w.size - 1), h.put_none hs, find?_put_none hs (w.size - 1)⟩

/-! ### Listing predecessors -/

/-- The size is the number of counts in the span that are taken. -/
theorem size_eq (h : w.Spans first lo hi P) (hle : lo ≤ hi) :
    w.size = (List.range' lo (hi - lo)).countP fun k => (w.find? (first + k)).isSome := by
  have hcap := h.narrow
  have hhi := h.hi_le
  have hnear (seq : Serial) (s : Segment β) (hs : w.find? seq = some s) :
      seq.distanceFrom w.base < hi - lo := by
    obtain ⟨k, hk, hlt, rfl, -⟩ := h.stored seq s hs
    rw [h.base_eq, Serial.distanceFrom_add_add hk]
    exact Nat.lt_of_le_of_lt (Nat.mod_le _ _) (by omega)
  rw [h.tidy.size_eq_countP (by omega) (by omega) hnear, List.range'_eq_map_range, List.countP_map]
  refine List.countP_congr fun o _ => ?_
  simp only [Function.comp_apply, get?, h.base_eq, Serial.add_assoc]

/-- **The segments right before one in the window are listed** as its predecessors, as far as they
are in the window. -/
theorem prefix_predecessors (h : w.Spans first lo hi P) {j i count : Nat} (hj : j + 1 = hi)
    (hfind : (w.find? (first + j)).isSome = true) (hlo : lo + i ≤ j) (hcount : i ≤ count) :
    (List.range' 1 i).filterMap (fun b => w.find? (first + (j - b)))
      <+: w.predecessors (first + j) count := by
  -- up to any of them, no more than those in the window besides the one itself
  have hfew : ∀ n, lo + n ≤ j →
      (List.range' 1 n).countP (fun b => (w.find? (first + (j - b))).isSome) + 1
        ≤ (List.range' (j - n) (n + 1)).countP fun k => (w.find? (first + k)).isSome := by
    intro n hn
    induction n with
    | zero => simp [hfind]
    | succ n ih =>
      have hrest := ih (by omega)
      have hfirst : j - (n + 1) + 1 = j - n := by omega
      rw [List.range'_concat, List.countP_append, List.range'_succ, List.countP_cons, hfirst,
        Nat.one_mul, Nat.add_comm 1 n, List.countP_cons, List.countP_nil]
      omega
  have hlook : ∀ b ∈ List.range' 1 i, w.find? (first + (j - b)) = w.find? (first + j - b) := by
    intro b hb
    have hb' := List.mem_range'_1.mp hb
    rw [first.add_sub_of_le (by omega)]
  have hleft : (List.range' 1 i).countP (fun b => (w.find? (first + j - b)).isSome)
      ≤ w.size - 1 := by
    have hsplit : List.range' lo (hi - lo)
        = List.range' lo (j - i - lo) ++ List.range' (j - i) (i + 1) := by
      have hmid : lo + (j - i - lo) = j - i := by omega
      have hlength : j - i - lo + (i + 1) = hi - lo := by omega
      rw [← hlength, ← List.range'_append_1, hmid]
    have hsize := h.size_eq (by omega)
    rw [hsplit, List.countP_append] at hsize
    have hbound := hfew i hlo
    rw [List.countP_congr fun b hb => by rw [hlook b hb]] at hbound
    omega
  rw [List.filterMap_congr hlook, predecessors_eq_walk]
  exact prefix_walk #[] hcount hleft

end Spans

end Redelivery.Window
