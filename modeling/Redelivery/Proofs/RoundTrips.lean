import Mathlib.Data.List.Basic
import Redelivery.Proofs.Window.View
import Redelivery.RoundTrips

/-!
# Remembered minima

The recent minimum of the round trips is remembered between two samples, or it is not, and which of
the two it is depends on who has asked for it before. The sample that it was taken from may be gone
from the ring by then. None of this is seen from outside: the round trips answer like a list of all
samples of which nothing is remembered.

## Main definitions

* `RoundTrips.Call`, `RoundTrips.perform`: what the round trips are used for.
* `Samples.perform`: the same with the list of all samples.
* `RoundTrips.Summarizes`: the round trips of a list of samples.

## Main statements

* `RoundTrips.Summarizes.append`, `RoundTrips.Summarizes.remember`: what a call keeps.
* `RoundTrips.trace_eq_samples`: the round trips answer like the list.

The ring keeps the recent samples in an order that depends on how often it went round.
`RoundTrips.Summarizes` avoids to speak of that order: it says which samples are in the filled part
of the ring (`RoundTrips.Summarizes.mem_filled_iff`), and a minimum depends on nothing else
(`Samples.min?_congr`). What is remembered, if anything is, is the minimum of these.

A sample is the delicate case. It overwrites the oldest one, which may have been the minimum, and
then nothing is remembered any more; only a sample below the minimum is the next minimum, whatever
had to go for it (`RoundTrips.Summarizes.min?_recent_concat`). `RoundTrips.simulates_samples` joins
the cases, and the main statement is its consequence for lists of calls.
-/

namespace Redelivery

/-- The smallest of some samples, zero if there are none. -/
def Samples.minimum (samples : List Nat) : Nat :=
  samples.min?.getD 0

/-- The last four samples, or all if there are fewer. -/
def Samples.recent (samples : List Nat) : List Nat :=
  samples.drop (samples.length - 4)

namespace RoundTrips

/-! ## Calls -/

/-- What the round trips are used for. -/
inductive Call where
  /-- A sample is added. -/
  | append (sample : Nat)
  /-- The recent minimum is asked for. -/
  | recentMin
  /-- The historical minimum is asked for. -/
  | historicalMin
deriving DecidableEq, Repr

/-- A call and its answer. Whoever asks for the recent minimum makes it remembered. -/
def perform (r : RoundTrips) : Call → Option Nat × RoundTrips
  | .append sample => (none, r.append sample)
  | .recentMin => (some r.recentMin, r.remember)
  | .historicalMin => (some r.historicalMin, r)

end RoundTrips

namespace Samples

/-- A call and its answer, if all samples are kept in a list. -/
def perform (samples : List Nat) : RoundTrips.Call → Option Nat × List Nat
  | .append sample => (none, samples ++ [sample])
  | .recentMin => (some (minimum (recent samples)), samples)
  | .historicalMin => (some (minimum samples), samples)

/-! ## Recent samples -/

theorem mem_recent_iff {samples : List Nat} {x : Nat} :
    x ∈ recent samples
      ↔ ∃ j, samples.length ≤ j + 4 ∧ j < samples.length ∧ samples[j]? = some x := by
  unfold recent
  rw [List.mem_iff_getElem?]
  constructor
  · rintro ⟨i, hi⟩
    rw [List.getElem?_drop] at hi
    exact ⟨_, by omega, (List.getElem?_eq_some_iff.mp hi).1, hi⟩
  · rintro ⟨j, hnear, -, hj⟩
    refine ⟨j - (samples.length - 4), ?_⟩
    rw [List.getElem?_drop, Nat.add_sub_cancel' (by omega), hj]

theorem recent_subset (samples : List Nat) : recent samples ⊆ samples :=
  List.drop_subset _ _

theorem recent_eq_nil_iff {samples : List Nat} : recent samples = [] ↔ samples = [] := by
  unfold recent
  rw [List.drop_eq_nil_iff]
  constructor
  · intro h
    exact List.length_eq_zero_iff.mp (by omega)
  · rintro rfl
    exact Nat.le_refl _

/-- A new sample is recent, and so are some of those that were so before. -/
theorem exists_recent_concat (samples : List Nat) (sample : Nat) :
    ∃ kept, kept ⊆ recent samples ∧ recent (samples ++ [sample]) = kept ++ [sample] := by
  refine ⟨samples.drop (samples.length + 1 - 4), ?_, ?_⟩
  · exact (List.drop_sublist_drop_left samples (by omega)).subset
  · unfold recent
    rw [List.length_append, List.length_singleton, List.drop_append_of_le_length (by omega)]

/-! ## Minima -/

/-- It does not matter for the minimum in which order samples are, and how often they are there. -/
theorem min?_congr {samples samples' : List Nat} (h : ∀ x, x ∈ samples ↔ x ∈ samples') :
    samples.min? = samples'.min? := by
  cases hmin : samples'.min? with
  | none =>
    have hnil := List.min?_eq_none_iff.mp hmin
    refine List.min?_eq_none_iff.mpr (List.eq_nil_iff_forall_not_mem.mpr fun x hx => ?_)
    rw [h, hnil] at hx
    exact List.not_mem_nil hx
  | some m =>
    obtain ⟨hmem, hle⟩ := List.min?_eq_some_iff.mp hmin
    exact List.min?_eq_some_iff.mpr ⟨(h m).mpr hmem, fun x hx => hle x ((h x).mp hx)⟩

/-- A new sample is the minimum if it is not above the others. -/
theorem min?_concat_of_le {samples : List Nat} {sample : Nat} (h : ∀ x ∈ samples, sample ≤ x) :
    (samples ++ [sample]).min? = some sample := by
  refine List.min?_eq_some_iff.mpr ⟨List.mem_append_right _ List.mem_cons_self, fun x hx => ?_⟩
  rcases List.mem_append.mp hx with hx | hx
  · exact h x hx
  · exact Nat.le_of_eq (List.mem_singleton.mp hx).symm

/-- The minimum after one more sample is found from the minimum before. -/
theorem min?_concat (samples : List Nat) (sample : Nat) :
    (samples ++ [sample]).min? = match samples.min? with
      | some least => if sample < least then some sample else some least
      | none => some sample := by
  cases hmin : samples.min? with
  | none =>
    rw [List.min?_eq_none_iff.mp hmin]
    rfl
  | some least =>
    obtain ⟨hmem, hle⟩ := List.min?_eq_some_iff.mp hmin
    show _ = if sample < least then some sample else some least
    by_cases hlt : sample < least
    · rw [if_pos hlt]
      exact min?_concat_of_le fun x hx => Nat.le_trans (Nat.le_of_lt hlt) (hle x hx)
    · rw [if_neg hlt]
      refine List.min?_eq_some_iff.mpr ⟨List.mem_append_left _ hmem, fun x hx => ?_⟩
      rcases List.mem_append.mp hx with hx | hx
      · exact hle x hx
      · exact List.mem_singleton.mp hx ▸ Nat.le_of_not_lt hlt

theorem minimum_le_minimum {samples samples' : List Nat} (hsub : samples' ⊆ samples)
    (hnil : samples' = [] → samples = []) : minimum samples ≤ minimum samples' := by
  unfold minimum
  cases hmin : samples'.min? with
  | none => rw [hnil (List.min?_eq_none_iff.mp hmin)]; rfl
  | some m =>
    have hmem := hsub (List.min?_eq_some_iff.mp hmin).1
    cases hall : samples.min? with
    | none => exact Nat.zero_le _
    | some least => exact (List.min?_eq_some_iff.mp hall).2 m hmem

end Samples

namespace RoundTrips

open Samples (recent minimum)

/-! ## The round trips of a list of samples -/

/-- These are the round trips of the samples, whoever may have asked for what. -/
structure Summarizes (r : RoundTrips) (samples : List Nat) : Prop where
  /-- The cursor goes round with the number of samples. -/
  cursor_eq : r.cursor.val = samples.length % 4
  /-- The size is the number of recent samples. -/
  size_eq : r.size = min samples.length 4
  /-- Recent samples are in their places. -/
  ring_eq : ∀ j, samples.length ≤ j + 4 → j < samples.length → r.ring[j % 4]? = samples[j]?
  /-- What is remembered is the minimum of the recent samples. -/
  known_eq : ∀ m, r.known = some m → (recent samples).min? = some m
  /-- The least of all samples is kept. -/
  least_eq : r.least = samples.min?

namespace Summarizes

variable {r : RoundTrips} {samples : List Nat}

theorem empty : RoundTrips.empty.Summarizes [] where
  cursor_eq := rfl
  size_eq := rfl
  ring_eq j _ hj := absurd hj (Nat.not_lt_zero j)
  known_eq m hm := by cases hm
  least_eq := rfl

/-- The part of the ring that is filled has the recent samples, in some order. -/
theorem mem_filled_iff (h : r.Summarizes samples) (x : Nat) :
    x ∈ r.ring.toList.take r.size ↔ x ∈ recent samples := by
  have hplace (i : Nat) : r.ring.toList[i]? = r.ring[i]? := by
    rw [Vector.getElem?_toList]
  rw [Samples.mem_recent_iff, List.mem_iff_getElem?, h.size_eq]
  constructor
  · rintro ⟨i, hi⟩
    have hlt : i < min samples.length 4 := by
      by_contra hge
      rw [List.getElem?_take_eq_none (by omega)] at hi
      cases hi
    rw [List.getElem?_take_of_lt hlt, hplace] at hi
    -- the last count with that place
    obtain ⟨j, hnear, hj, hmod⟩ : ∃ j, samples.length ≤ j + 4 ∧ j < samples.length ∧ j % 4 = i :=
      ⟨samples.length - 1 - (samples.length + 3 - i) % 4, by omega, by omega, by omega⟩
    exact ⟨j, hnear, hj, by rw [← h.ring_eq j hnear hj, hmod, hi]⟩
  · rintro ⟨j, hnear, hj, hx⟩
    refine ⟨j % 4, ?_⟩
    rw [List.getElem?_take_of_lt (by omega), hplace, h.ring_eq j hnear hj, hx]

/-- **The recent minimum is found or remembered, and it makes no difference.** -/
theorem recentMin_eq (h : r.Summarizes samples) : r.recentMin = minimum (recent samples) := by
  unfold RoundTrips.recentMin minimum
  cases hknown : r.known with
  | some m => rw [h.known_eq m hknown]; rfl
  | none => rw [Samples.min?_congr h.mem_filled_iff]

theorem historicalMin_eq (h : r.Summarizes samples) : r.historicalMin = minimum samples := by
  unfold RoundTrips.historicalMin minimum
  rw [h.least_eq]

/-- **A question** leaves the round trips those of the same samples. -/
theorem remember (h : r.Summarizes samples) : r.remember.Summarizes samples := by
  unfold RoundTrips.remember
  split
  · exact h
  · rename_i hsize
    refine { h with known_eq := ?_ }
    intro m hm
    cases hm
    rw [h.recentMin_eq, minimum]
    cases hmin : (recent samples).min? with
    | some m => rfl
    | none =>
      -- there would be no samples
      have hnil := Samples.recent_eq_nil_iff.mp (List.min?_eq_none_iff.mp hmin)
      rw [h.size_eq, hnil] at hsize
      exact absurd rfl hsize

/-- A sample below the minimum is the next one, whatever had to go for it. -/
theorem min?_recent_concat {m sample : Nat} (hmin : (recent samples).min? = some m)
    (hlt : sample < m) : (recent (samples ++ [sample])).min? = some sample := by
  obtain ⟨kept, hkept, heq⟩ := Samples.exists_recent_concat samples sample
  rw [heq]
  exact Samples.min?_concat_of_le fun x hx =>
    Nat.le_trans (Nat.le_of_lt hlt) ((List.min?_eq_some_iff.mp hmin).2 x (hkept hx))

/-- **A sample** that is added to the round trips is added to the samples. -/
theorem append (h : r.Summarizes samples) (sample : Nat) :
    (r.append sample).Summarizes (samples ++ [sample]) where
  cursor_eq := by
    show (r.cursor + 1).val = _
    rw [Fin.val_add, h.cursor_eq, List.length_append, List.length_singleton]
    show (samples.length % 4 + 1) % 4 = _
    omega
  size_eq := by
    show min (r.size + 1) 4 = _
    rw [h.size_eq, List.length_append, List.length_singleton]
    omega
  ring_eq j hnear hj := by
    rw [List.length_append, List.length_singleton] at hnear hj
    show (r.ring.set r.cursor.val sample)[j % 4]? = _
    rw [Vector.getElem?_set]
    by_cases hlast : j = samples.length
    · rw [hlast, h.cursor_eq, if_pos rfl, List.getElem?_concat_length]
    · -- counts that are less than a round apart have different places
      rw [h.cursor_eq, if_neg (by omega), h.ring_eq j (by omega) (by omega),
        List.getElem?_append_left (by omega)]
  known_eq m hm := by
    change (match r.known with
      | some minimum => if sample < minimum then some sample else none
      | none => none) = some m at hm
    cases hknown : r.known with
    | none =>
      rw [hknown] at hm
      cases hm
    | some least =>
      rw [hknown] at hm
      obtain ⟨hlt, hm⟩ := Option.ite_none_right_eq_some.mp hm
      cases hm
      exact min?_recent_concat (h.known_eq least hknown) hlt
  least_eq := by
    show (match r.least with
      | some minimum => if sample < minimum then some sample else some minimum
      | none => some sample) = _
    rw [h.least_eq, Samples.min?_concat]

end Summarizes

/-! ## Any calls -/

/-- Round trips and the list of their samples answer every call alike, and stay alike. -/
theorem simulates_samples : Calls.Simulates perform Samples.perform Summarizes where
  answer call h := by
    cases call with
    | append sample => rfl
    | recentMin => exact congrArg some h.recentMin_eq
    | historicalMin => exact congrArg some h.historicalMin_eq
  next call h := by
    cases call with
    | append sample => exact h.append sample
    | recentMin => exact h.remember
    | historicalMin => exact h

/-- Who only asks does not add to the samples. -/
theorem after_samples_filter (calls : List Call) (samples : List Nat) :
    Calls.after Samples.perform samples (calls.filter (· ≠ .recentMin))
      = Calls.after Samples.perform samples calls := by
  induction calls generalizing samples with
  | nil => rfl
  | cons call calls ih =>
    cases call with
    | recentMin => exact ih samples
    | append sample => exact ih (samples ++ [sample])
    | historicalMin => exact ih samples

/-- **Nobody can tell what is remembered.** To any sequence of calls, the round trips give the same
answers as the list of all samples so far does: the recent minimum is that of the last four samples
or of all if there are fewer, the historical one is that of all of them, and both are zero before
the first sample. The number of samples in the ring is that of the recent ones, and the historical
minimum is never above the recent one. Later answers are the same if nobody has asked for the recent
minimum before. -/
theorem trace_eq_samples (calls : List Call) :
    Calls.trace perform size empty calls
        = Calls.trace Samples.perform (fun samples => min samples.length 4) [] calls
      ∧ (Calls.after perform empty calls).historicalMin
          ≤ (Calls.after perform empty calls).recentMin
      ∧ ∀ later, Calls.trace perform size (Calls.after perform empty calls) later
          = Calls.trace perform size
              (Calls.after perform empty (calls.filter (· ≠ .recentMin))) later := by
  have hlook {r : RoundTrips} {samples : List Nat} (h : r.Summarizes samples) :
      r.size = min samples.length 4 := h.size_eq
  have hafter := simulates_samples.after Summarizes.empty calls
  refine ⟨simulates_samples.trace_eq hlook Summarizes.empty calls, ?_, fun later => ?_⟩
  · rw [hafter.historicalMin_eq, hafter.recentMin_eq]
    exact Samples.minimum_le_minimum (Samples.recent_subset _) Samples.recent_eq_nil_iff.mp
  · have hasked := simulates_samples.after Summarizes.empty (calls.filter (· ≠ .recentMin))
    rw [after_samples_filter] at hasked
    rw [simulates_samples.trace_eq hlook hafter later,
      simulates_samples.trace_eq hlook hasked later]

end RoundTrips

end Redelivery
