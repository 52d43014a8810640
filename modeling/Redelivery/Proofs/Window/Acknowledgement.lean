import Redelivery.Proofs.Window.Spans

/-!
# Acknowledgements between two windows

An acknowledgement says where the receive window starts and, in a bitmap, which of the segments
behind that are there already. This file says, for windows that span counts, what a bitmap reports
and what a send window does with the report.

## Main definitions

* `Window.Reports`: an acknowledgement reports the segment with a given count.

## Main statements

* `Window.Spans.reports_iff`: a receive window reports just what is found behind its base, as far
  as the bitmap reaches.
* `Window.Spans.acknowledge`: what is left of a send window, and where it starts then.
* `Window.Spans.acknowledge_stale`: an acknowledgement that is behind the base changes nothing.
* `Window.acknowledge_cases`: what an acknowledgement may do to any window.

Bitmaps are compared bit by bit. `Window.testBit_foldl_bits` is the one place where a bitmap is
computed, and `Window.Spans.mem_marked_iff` the one where it is read; both give the count of the
segment that a bit is for. A count may be reported or not, but whether the bitmap reaches so far is
part of `Window.Reports`, so that no lemma has to speak of bits that are not there.

`Window.acknowledge_cases` asks nothing of the window and nothing of the acknowledgement. It is what
is left to say of one that comes from anywhere, and the lemmas behind it follow from its two cases.
-/

namespace Redelivery.Window

variable {β : Type} {w : Window β} {first : Serial} {lo hi : Nat} {P : Nat → Segment β → Prop}

/-- The acknowledgement that starts at count `next` reports the segment with count `k` in its
bitmap. -/
def Reports (next : Nat) (received : UInt32) (k : Nat) : Prop :=
  ∃ i < bitmapWidth, received.toNat.testBit i = true ∧ k = next + 1 + i

theorem Reports.lt {next k : Nat} {received : UInt32} (h : Reports next received k) : next < k := by
  obtain ⟨i, -, -, rfl⟩ := h
  omega

theorem Reports.lt_add {next k : Nat} {received : UInt32} (h : Reports next received k) :
    k ≤ next + bitmapWidth := by
  obtain ⟨i, hi, -, rfl⟩ := h
  omega

/-! ## The bitmap of a receive window -/

/-- Setting the bits of those numbers below `n` that `p` selects sets just these. -/
theorem testBit_foldl_bits (p : Nat → Bool) {n : Nat} (hn : n ≤ 32) (j : Nat) :
    ((List.range n).foldl (fun bits i => if p i then bits ||| (1 <<< UInt32.ofNat i) else bits)
        (0 : UInt32)).toNat.testBit j = (decide (j < n) && p j) := by
  induction n with
  | zero => simp
  | succ n ih =>
    -- a bit below 32 is not shifted out of the word
    have hbit : ((1 : UInt32) <<< UInt32.ofNat n).toNat = 2 ^ n := by
      rw [UInt32.toNat_shiftLeft, UInt32.toNat_ofNat', Nat.mod_eq_of_lt (by omega : n < 2 ^ 32),
        Nat.mod_eq_of_lt (by omega : n < 32), UInt32.toNat_one, Nat.one_shiftLeft]
      exact Nat.mod_eq_of_lt (Nat.pow_lt_pow_right (by omega) (by omega))
    have hlt (hj : n ≠ j) : decide (j < n + 1) = decide (j < n) := by
      rw [decide_eq_decide]
      omega
    rw [List.range_succ, List.foldl_append, List.foldl_cons, List.foldl_nil]
    by_cases hp : p n = true
    · rw [if_pos hp, UInt32.toNat_or, Nat.testBit_or, ih (by omega), hbit, Nat.testBit_two_pow]
      by_cases hj : n = j
      · rw [← hj, hp]
        simp
      · rw [hlt hj]
        simp [hj]
    · rw [if_neg hp, ih (by omega)]
      by_cases hj : n = j
      · rw [← hj]
        simp [hp]
      · rw [hlt hj]

theorem testBit_received (w : Window β) (i : Nat) :
    w.received.toNat.testBit i = true
      ↔ i < min bitmapWidth w.capacity ∧ (w.get? (1 + i)).isSome = true := by
  have hn : min bitmapWidth w.capacity ≤ 32 := Nat.min_le_left _ _
  unfold received
  rw [testBit_foldl_bits (fun i => (w.get? (1 + i)).isSome) hn, Bool.and_eq_true,
    decide_eq_true_eq]

namespace Spans

/-- **A receive window reports what it holds** behind its base, as far as the bitmap reaches. -/
theorem reports_iff (h : w.Spans first lo hi P) {k : Nat} :
    Reports lo w.received k
      ↔ lo < k ∧ k ≤ lo + bitmapWidth ∧ (w.find? (first + k)).isSome = true := by
  have hhi := h.hi_le
  have hnarrow := h.narrow
  have hget (i : Nat) : w.get? (1 + i) = w.find? (first + (lo + 1 + i)) := by
    rw [get?, h.base_eq, Serial.add_assoc, Nat.add_assoc]
  unfold Reports
  simp only [testBit_received, hget]
  constructor
  · rintro ⟨i, hi, ⟨-, hsome⟩, rfl⟩
    exact ⟨by omega, by omega, hsome⟩
  · rintro ⟨hk, hwidth, hsome⟩
    obtain ⟨s, hs⟩ := Option.isSome_iff_exists.mp hsome
    have hbits : bitmapWidth = 32 := rfl
    -- what is found is within the window's width, so it has a bit of its own
    obtain ⟨-, hlt, -⟩ := h.of_find? (by omega) (by omega) hs
    have hcount : lo + 1 + (k - lo - 1) = k := by omega
    exact ⟨k - lo - 1, by omega, ⟨by omega, by rwa [hcount]⟩, hcount.symm⟩

/-! ## What a send window does with it -/

/-- An acknowledgement that is behind the base, and not about to wrap around to it, changes
nothing. -/
theorem acknowledge_stale (h : w.Spans first lo hi P) {c : Nat} {received : UInt32} (hc : c < lo)
    (hfresh : lo + w.capacity < c + 2 ^ 32) :
    w.acknowledge (first + c) received = ⟨w, #[]⟩ := by
  unfold Window.acknowledge
  rw [h.base_eq]
  split
  · rfl
  · rename_i offset hoffset
    have hfar := Serial.lt_of_offsetFrom?_add_add hc hfresh hoffset
    rw [if_neg (by omega)]

theorem acknowledge_eq (h : w.Spans first lo hi P) {c : Nat} {received : UInt32} (hlo : lo ≤ c)
    (hc : c ≤ lo + w.capacity) :
    w.acknowledge (first + c) received
      = (Shedding.advance (c - lo) ⟨w, #[]⟩).dropAll
        (Shedding.marked (first + (c + 1)) received) := by
  have hnarrow := h.narrow
  unfold Window.acknowledge
  rw [h.base_eq, Serial.offsetFrom?_add_add hlo (by omega)]
  simp only
  rw [if_pos (by omega), Shedding.dropBits_eq, Serial.next_add]

/-- Whether a bitmap marks a serial number is a matter of its count. -/
theorem mem_marked_iff {c k : Nat} {received : UInt32} (hck : c ≤ k) (hkc : k < c + 2 ^ 31) :
    first + k ∈ Shedding.marked (first + (c + 1)) received ↔ Reports c received k := by
  rw [Shedding.mem_marked]
  constructor
  · rintro ⟨i, hi, hbit, heq⟩
    rw [Serial.add_assoc] at heq
    exact ⟨i, hi, hbit, Serial.add_left_cancel heq (by omega) (by omega)⟩
  · rintro ⟨i, hi, hbit, rfl⟩
    exact ⟨i, hi, hbit, (first.add_assoc (c + 1) i).symm⟩

/-- **An acknowledgement moves the window** to where it starts, and removes what is before that and
what it reports; all else stays. -/
theorem acknowledge (h : w.Spans first lo hi P) {c : Nat} (received : UInt32) (hlo : lo ≤ c)
    (hc : c ≤ hi) :
    (w.acknowledge (first + c) received).window.capacity = w.capacity
      ∧ (w.acknowledge (first + c) received).window.Spans first c hi P
      ∧ ∀ k, c ≤ k → k < hi → ¬ Reports c received k →
        (w.acknowledge (first + c) received).window.find? (first + k) = w.find? (first + k) := by
  have hhi := h.hi_le
  have hnarrow := h.narrow
  have hcap : (w.acknowledge (first + c) received).window.capacity = w.capacity := by
    rw [h.acknowledge_eq hlo (by omega), Shedding.capacity_dropAll, Shedding.capacity_advance]
  have hbase : (w.acknowledge (first + c) received).window.base = first + c := by
    rw [h.acknowledge_eq hlo (by omega), Shedding.base_dropAll, Shedding.base_advance, h.base_eq,
      Serial.add_assoc, Nat.add_sub_cancel' hlo]
  -- first the window moves up to `c`, and drops what it passes; then it drops what is marked
  have hfind (q : Serial) : (w.acknowledge (first + c) received).window.find? q
      = if q ∈ Shedding.marked (first + (c + 1)) received then none
        else if ∃ i < c - lo, q = first + (lo + i) then none else w.find? q := by
    rw [h.acknowledge_eq hlo (by omega), Shedding.find?_dropAll, Shedding.find?_advance]
    simp only [h.base_eq, Serial.add_assoc]
  refine ⟨hcap, ?_, ?_⟩
  · refine ⟨?_, by rw [hcap]; exact h.dvd, by rw [hcap]; exact hnarrow, hbase,
      by rw [hcap]; omega, ?_⟩
    · rw [h.acknowledge_eq hlo (by omega)]
      exact Tidy.dropAll (Tidy.advance h.tidy) _
    · intro q s hs
      rw [hfind] at hs
      split at hs
      · cases hs
      · split at hs
        · cases hs
        · rename_i hpassed
          obtain ⟨k, hk, hkhi, rfl, hP⟩ := h.stored q s hs
          refine ⟨k, ?_, hkhi, rfl, hP⟩
          by_contra hlt
          exact hpassed ⟨k - lo, by omega, by rw [Nat.add_sub_cancel' hk]⟩
  · intro k hk hkhi hreport
    rw [hfind, if_neg (by rwa [mem_marked_iff hk (by omega)]), if_neg]
    rintro ⟨i, hi, heq⟩
    have hcount := Serial.add_left_cancel heq (by omega) (by omega)
    omega

end Spans

/-! ## Any window -/

/-- **What an acknowledgement does**: nothing at all, or the window moves up to the serial number
that it names, and then drops what it marks. -/
theorem acknowledge_cases (w : Window β) (next : Serial) (received : UInt32) :
    w.acknowledge next received = ⟨w, #[]⟩
      ∨ ∃ offset, next = w.base + offset ∧ offset ≤ w.capacity
        ∧ w.acknowledge next received
          = (Shedding.advance offset ⟨w, #[]⟩).dropAll (Shedding.marked next.next received) := by
  unfold acknowledge
  split
  · exact Or.inl rfl
  · rename_i offset hoffset
    have hnext : next = w.base + offset := by
      rw [← (Serial.offsetFrom?_eq_some_iff.mp hoffset).1, Serial.add_distanceFrom]
    split
    · exact Or.inr ⟨offset, hnext, ‹_›, Shedding.dropBits_eq _ _ _⟩
    · exact Or.inl rfl

/-- An acknowledgement of which a send window takes no notice. -/
theorem acknowledge_of_ignored {next : Serial} {received : UInt32}
    (h : ∀ offset, next.offsetFrom? w.base = some offset → w.capacity < offset) :
    (w.acknowledge next received).window = w := by
  unfold Window.acknowledge
  split
  · rfl
  · rename_i offset hoffset
    rw [if_neg (Nat.not_le_of_lt (h offset hoffset))]

theorem capacity_acknowledge (w : Window β) (next : Serial) (received : UInt32) :
    (w.acknowledge next received).window.capacity = w.capacity := by
  rcases w.acknowledge_cases next received with heq | ⟨offset, -, -, heq⟩
  · rw [heq]
  · rw [heq, Shedding.capacity_dropAll, Shedding.capacity_advance]

/-- An acknowledgement brings nothing into a window. -/
theorem find?_of_acknowledge {next : Serial} {received : UInt32} {q : Serial} {u : Segment β}
    (h : (w.acknowledge next received).window.find? q = some u) : w.find? q = some u := by
  rcases w.acknowledge_cases next received with heq | ⟨offset, -, -, heq⟩
  · rwa [heq] at h
  · rw [heq, Shedding.find?_dropAll] at h
    split at h
    · cases h
    · rw [Shedding.find?_advance] at h
      split at h
      · cases h
      · exact h

theorem Tidy.acknowledge (h : w.Tidy) (next : Serial) (received : UInt32) :
    (w.acknowledge next received).window.Tidy := by
  have hstart : (⟨w, #[]⟩ : Shedding β).window.Tidy := h
  rcases w.acknowledge_cases next received with heq | ⟨offset, -, -, heq⟩
  · rw [heq]
    exact h
  · rw [heq]
    exact hstart.advance.dropAll _

/-- **An acknowledgement that removes nothing** changes nothing but the base. -/
theorem acknowledge_of_removed_eq {next : Serial} {received : UInt32}
    (h : (w.acknowledge next received).removed = #[]) :
    (w.acknowledge next received).window
      = { w with base := (w.acknowledge next received).window.base } := by
  rcases w.acknowledge_cases next received with heq | ⟨offset, -, -, heq⟩
  · rw [heq]
  · rw [heq] at h ⊢
    have hself := Shedding.dropAll_eq_self h
    rw [hself] at h ⊢
    rw [(Shedding.window_advance_of_removed_eq h).2]

end Redelivery.Window
