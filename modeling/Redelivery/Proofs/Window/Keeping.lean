import Redelivery.Proofs.Window.Receiving

/-!
# What was reported stays

The sender gives up a segment as soon as a bitmap reports it, so it had better stay in the receive
window until it is taken out. It does, with one exception. In a window that is no wider than a
bitmap, the last segment that the bitmap covers shares its place with the base: it is evicted when
the segment at the base arrives after it.

## Main definitions

* `Window.reports`: the serial numbers that an acknowledgement reports in its bitmap.
* `Window.Evicts`: a call evicts a segment.

## Main statements

* `Window.Receives.keeps`: what one call does to a segment that is there.
* `Window.find?_of_reports`: what was reported stays until it is taken out or evicted.
* `Window.exists_reports_evicted`: a segment that was reported and then evicted.

`Window.Receives.keeps` looks at one call, for any segment in the window. That only the call for the
base can evict comes from the definition of storing, and that the one evicted is the whole width
ahead comes from the geometry of the ring, `Serial.slot_eq_cases`. For the run it remains to see
that a segment within reach of a bitmap does not get out of it: the base only moves towards what
stays (`Window.Receives.distanceFrom_le`). A bitmap reaches 32 steps, so in a wider ring no reported
segment is ever the whole width ahead.
-/

namespace Redelivery.Window

variable {β : Type} {width : Nat} {w : Window β} {v : ReceiveView β width} {seq : Serial}

/-- The serial numbers that the bitmap of an acknowledgement stands for. -/
def reports (w : Window β) : List Serial :=
  Shedding.marked w.acknowledgement.1.next w.acknowledgement.2

/-- The call stores the segment at the base, and evicts the one with the serial number `seq` for it,
which is the whole width ahead of the base. -/
def Evicts (w : Window β) (call : ReceiveCall β) (seq : Serial) : Prop :=
  ∃ s evicted w', call = .accept s ∧ w.accept s = .stored w' (some evicted) ∧ s.seq = w.base
    ∧ evicted.seq = seq ∧ seq = w.base + w.capacity

/-- What is reported is there, no further ahead than a bitmap reaches. -/
theorem of_mem_reports (h : seq ∈ w.reports) :
    (w.find? seq).isSome = true ∧ seq.distanceFrom w.base ≤ bitmapWidth := by
  obtain ⟨i, hi, hbit, rfl⟩ := Shedding.mem_marked.mp h
  have hbits : bitmapWidth = 32 := rfl
  have hnumber : w.base.next + i = w.base + (1 + i) := w.base.add_assoc 1 i
  have hsome := ((testBit_received w i).mp hbit).2
  show (w.find? (w.base.next + i)).isSome = true ∧ (w.base.next + i).distanceFrom w.base ≤ _
  rw [hnumber, Serial.distanceFrom_add (by omega)]
  exact ⟨hsome, by omega⟩

namespace Receives

/-- Storing a segment evicts another one only at the base, from the whole width ahead of it. -/
theorem keeps_of_accept (h : Receives w v) {s : Segment β} {w' : Window β}
    {evicted : Option (Segment β)} (haccept : w.accept s = .stored w' evicted)
    (hfind : (w.find? seq).isSome = true) :
    (w'.find? seq).isSome = true ∨ w.Evicts (.accept s) seq := by
  obtain ⟨rfl, hevicted, hbase⟩ := accept_eq_stored haccept
  rw [find?_store]
  by_cases hq : seq = s.seq
  · rw [if_pos hq]
    exact Or.inl rfl
  · rw [if_neg hq]
    by_cases hslot : seq.slot w.capacity = s.seq.slot w.capacity
    · -- the segment stands in the place of `s`, so `s` is at the base
      right
      obtain ⟨t, ht⟩ := Option.isSome_iff_exists.mp hfind
      obtain ⟨hocc, htseq⟩ := find?_eq_some_iff.mp ht
      rw [← occupant_congr hslot, hocc] at hevicted
      have hs := hbase (by rw [hevicted]; rfl)
      have hzero : s.seq.distanceFrom v.base = 0 := by
        rw [← h.shows.base_eq]
        exact Serial.distanceFrom_eq_zero_iff.mpr hs
      have hle : seq.distanceFrom v.base ≤ width := by
        rw [h.shows.find?_eq] at ht
        exact Nat.le_of_lt_succ (View.lt_of_get? ht)
      have hwidth := h.capacity_eq
      rcases Serial.slot_eq_cases v.base h.shows.dvd hslot (by omega) (by omega) with
        heq | ⟨-, hfar⟩ | ⟨hfar, -⟩
      · exact absurd heq hq
      · have hpos := w.capacity_pos
        omega
      · refine ⟨s, t, _, rfl, by rw [haccept, hevicted], hs, htseq, ?_⟩
        rw [← hfar, h.shows.base_eq, seq.add_distanceFrom v.base]
    · rw [if_neg hslot]
      exact Or.inl hfind

/-- **A call keeps a segment**, unless it takes it out or evicts it. -/
theorem keeps (h : Receives w v) (hfind : (w.find? seq).isSome = true) (call : ReceiveCall β) :
    ((w.receive call).2.find? seq).isSome = true
      ∨ (∃ s, (w.receive call).1.segment? = some s ∧ s.seq = seq) ∨ w.Evicts call seq := by
  cases call with
  | accept s =>
    simp only [receive]
    cases haccept : w.accept s with
    | stored w' evicted =>
      rcases h.keeps_of_accept haccept hfind with hstays | hevicts
      · exact Or.inl hstays
      · exact Or.inr (Or.inr hevicts)
    | refused => exact Or.inl hfind
  | pop =>
    simp only [receive]
    cases hpop : w.pop? with
    | none => exact Or.inl hfind
    | some p =>
      simp only
      rw [find?_of_pop? hpop]
      by_cases hq : seq = w.base
      · refine Or.inr (Or.inl ⟨p.1, rfl, ?_⟩)
        rw [seq_of_find? (pop?_eq_some_iff.mp hpop).1, hq]
      · rw [if_neg hq]
        exact Or.inl hfind
  | report => exact Or.inl hfind

/-- The base moves towards a segment that stays. -/
theorem distanceFrom_le (w : Window β) (call : ReceiveCall β)
    (hother : ∀ s, (w.receive call).1.segment? = some s → s.seq ≠ seq) :
    seq.distanceFrom (w.receive call).2.base ≤ seq.distanceFrom w.base := by
  rcases w.receive_cases call with ⟨-, hbase⟩ | ⟨s, hs, hseq, hbase⟩
  · rw [hbase]
  · have hne : seq.distanceFrom w.base ≠ 0 := fun hzero =>
      hother s hs (hseq.trans (Serial.distanceFrom_eq_zero_iff.mp hzero).symm)
    have hstep : seq.distanceFrom (w.base + 1) = seq.distanceFrom w.base - 1 :=
      Serial.distanceFrom_add_of_le (by omega)
    rw [hbase]
    show seq.distanceFrom (w.base + 1) ≤ _
    omega

/-- **Any number of calls keep a segment** until one of them takes it out or evicts it. Of those
that a bitmap can report, only a narrow window evicts any. -/
theorem keeps_after (h : Receives w v) (hnarrow : width < 2 ^ 31)
    (hfind : (w.find? seq).isSome = true) (hnear : seq.distanceFrom w.base ≤ bitmapWidth)
    (calls : List (ReceiveCall β)) :
    ((Calls.after receive w calls).find? seq).isSome = true
      ∨ (∃ s ∈ w.taken calls, s.seq = seq)
      ∨ (width ≤ bitmapWidth ∧ ∃ before call later, calls = before ++ call :: later
        ∧ (Calls.after receive w before).Evicts call seq) := by
  induction calls generalizing w v with
  | nil => exact Or.inl hfind
  | cons call calls ih =>
    by_cases htaken : ∃ s, (w.receive call).1.segment? = some s ∧ s.seq = seq
    · obtain ⟨s, hs, hseq⟩ := htaken
      refine Or.inr (Or.inl ⟨s, ?_, hseq⟩)
      rw [taken_cons, hs]
      exact List.mem_cons_self
    · rcases h.keeps hfind call with hstays | htakes | hevicts
      · have hdistance : seq.distanceFrom _ ≤ seq.distanceFrom w.base :=
          distanceFrom_le w call fun s hs hseq => htaken ⟨s, hs, hseq⟩
        rcases ih (h.alike hnarrow call).2 hstays (by omega) with
          hstays | ⟨s, hs, hseq⟩ | ⟨hwidth, before, call', later, rfl, hevicts⟩
        · exact Or.inl hstays
        · refine Or.inr (Or.inl ⟨s, ?_, hseq⟩)
          rw [taken_cons]
          exact List.mem_append_right _ hs
        · exact Or.inr (Or.inr ⟨hwidth, call :: before, call', later, rfl, hevicts⟩)
      · exact absurd htakes htaken
      · refine Or.inr (Or.inr ⟨?_, [], call, calls, rfl, hevicts⟩)
        obtain ⟨s, evicted, w', -, -, -, -, hseq⟩ := hevicts
        rw [hseq, Serial.distanceFrom_add (by have := h.capacity_eq; omega)] at hnear
        exact h.capacity_eq ▸ hnear

end Receives

/-- **What was reported stays.** Once a segment was reported in a bitmap, a segment with its serial
number is in the window until one is taken out, unless the window is no wider than a bitmap and the
segment at the base, arriving after it, evicts it from the whole width ahead. -/
theorem find?_of_reports {exponent : Nat} (hle : exponent ≤ 30) (base : Serial)
    (calls later : List (ReceiveCall β)) (seq : Serial) :
    let start : Window β := Window.empty (2 ^ exponent) base (Nat.two_pow_pos exponent)
    seq ∈ (Calls.after receive start calls).reports →
      ((Calls.after receive start (calls ++ later)).find? seq).isSome = true
        ∨ (∃ s ∈ (Calls.after receive start calls).taken later, s.seq = seq)
        ∨ (2 ^ exponent ≤ 32 ∧ ∃ before call rest, later = before ++ call :: rest
          ∧ (Calls.after receive start (calls ++ before)).Evicts call seq) := by
  intro start hreports
  have hpow : 2 ^ exponent ≤ 2 ^ 30 := Nat.pow_le_pow_right (by omega) hle
  have hafter := (simulates_receive β (2 ^ exponent) (by omega)).after
    (receives_empty hle base) calls
  obtain ⟨hfind, hnear⟩ := of_mem_reports hreports
  simp only [Calls.after_append]
  exact hafter.keeps_after (by omega) hfind hnear later

/-- In a window of 64 places the segment 32 ahead of the base is reported by the last bit. It is
still there when the segment at the base has arrived and was taken out. -/
theorem find?_of_reports_last :
    let calls : List (ReceiveCall Nat) := [.accept ⟨⟨31⟩, false, 9, 0⟩]
    let later : List (ReceiveCall Nat) := [.accept ⟨⟨0xFFFFFFFF⟩, false, 7, 0⟩, .pop]
    let start : Window Nat := Window.empty (2 ^ 6) ⟨0xFFFFFFFF⟩ (Nat.two_pow_pos 6)
    6 ≤ 30 ∧ (⟨31⟩ : Serial) ∈ (Calls.after receive start calls).reports
      ∧ ((Calls.after receive start (calls ++ later)).find? ⟨31⟩).isSome = true := by
  intro calls later start
  have hreports : (⟨31⟩ : Serial) ∈ (Calls.after receive start calls).reports := by
    decide +kernel
  refine ⟨by decide, hreports, ?_⟩
  rcases find?_of_reports (by decide : 6 ≤ 30) ⟨0xFFFFFFFF⟩ calls later ⟨31⟩ hreports with
    hstays | htaken | ⟨hnarrow, -⟩
  · exact hstays
  · exact absurd htaken (by decide +kernel)
  · exact absurd hnarrow (by decide)

/-- **A segment is reported, and lost.** In a window of two places the segment two ahead of the base
arrives first and is reported; the one at the base evicts it. -/
theorem exists_reports_evicted :
    ¬ ∀ (exponent : Nat) (_ : exponent ≤ 30) (base : Serial)
      (calls later : List (ReceiveCall Unit)) (seq : Serial),
      seq ∈ (Calls.after receive
          (Window.empty (2 ^ exponent) base (Nat.two_pow_pos exponent)) calls).reports →
        ((Calls.after receive (Window.empty (2 ^ exponent) base (Nat.two_pow_pos exponent))
            (calls ++ later)).find? seq).isSome = true
          ∨ ∃ s ∈ (Calls.after receive
            (Window.empty (2 ^ exponent) base (Nat.two_pow_pos exponent)) calls).taken later,
              s.seq = seq := by
  intro h
  have hlost := h 1 (by decide) ⟨0⟩ [.accept ⟨⟨2⟩, false, (), 0⟩] [.accept ⟨⟨0⟩, false, (), 0⟩] ⟨2⟩
    (by decide +kernel)
  exact absurd hlost (by decide +kernel)

end Redelivery.Window
