import Redelivery.Proofs.Translation.Session

/-!
# Nothing is moved

Where serial numbers are moved on by no steps, everything stays as it is. Two streams that match then
are the same, but for what is in their pools and in the spare bytes of their buffers.

## Main definitions

* `Window.wire`: a window with the contents of its buffers in their place.

## Main statements

* `Bytes.shift_zero`, `Stimulus.shift_zero`, `Response.shift_zero`: nothing is moved.
* `Window.Matches.wire_eq`: windows that match hold the same.

For datagrams this needs a proof, as moving takes a datagram apart and puts it together again with a
new checksum: a valid one has that checksum already (`Header.eq_of_ofDatagram?`). The induction on
the payload is again `Segment.payload_induction`.
-/

namespace Redelivery

/-! ## Datagrams -/

theorem Segment.shift_zero {β : Type} (s : Segment β) : s.shift 0 = s := by
  unfold shift
  rw [Serial.add_zero]

theorem WireSegment.shift_zero {limit : Nat} (w : WireSegment limit) : w.shift 0 = w := by
  unfold shift
  rw [Serial.add_zero]

theorem Segment.shiftAll_zero (limit : Nat) (bytes : Bytes) : shiftAll limit 0 bytes = bytes := by
  induction bytes using payload_induction limit with
  | stuck bytes h => exact shiftAll_of_isStuck h 0
  | segment w rest ih => rw [shiftAll_append, w.shift_zero, ih]

theorem Header.shift_zero (h : Header) : h.shift 0 = h := by
  cases h with
  | ack next received => exact congrArg (ack · received) next.add_zero
  | _ => rfl

theorem Header.shiftPayload_zero (limit : Nat) (payload : Bytes) (h : Header) :
    h.shiftPayload limit 0 payload = payload := by
  cases h with
  | data => exact Segment.shiftAll_zero limit payload
  | _ => rfl

/-- **A datagram** in which nothing is moved. -/
theorem Bytes.shift_zero (limit : Nat) (datagram : Bytes) : datagram.shift limit 0 = datagram := by
  cases hread : Header.ofDatagram? datagram with
  | none => exact Header.shift_of_invalid hread
  | some found =>
    obtain ⟨header, payload⟩ := found
    rw [Header.shift_eq hread, header.shift_zero, header.shiftPayload_zero]
    exact (Header.eq_of_ofDatagram? hread).symm

theorem Bytes.shiftFront_zero (settings : Settings) (raw : Bytes) :
    raw.shiftFront settings 0 = raw := by
  unfold shiftFront
  rw [shift_zero, List.take_append_drop]

/-! ## What happens to a session, and what is seen of it -/

variable (settings : Settings)

theorem Arrival.shift_zero (arrival : Arrival) : arrival.shift settings 0 = arrival := by
  cases arrival with
  | datagram raw => exact congrArg datagram (raw.shiftFront_zero settings)
  | fault reason => rfl

theorem Signal.shift_zero (signal : Signal) : signal.shift settings 0 = signal := by
  cases signal with
  | arrived arrival => exact congrArg arrived (arrival.shift_zero settings)
  | _ => rfl

theorem Stimulus.shift_zero (stimulus : Stimulus) : stimulus.shift settings 0 = stimulus := by
  cases stimulus with
  | turn now me signal => exact congrArg (turn now me) (signal.shift_zero settings)
  | _ => rfl

theorem Outcome.shift_zero (limit : Nat) (outcome : Outcome) : outcome.shift limit 0 = outcome := by
  cases outcome with
  | hands datagram => exact congrArg hands (datagram.shift_zero limit)
  | _ => rfl

theorem Outcome.map_shift_zero (limit : Nat) (outcome : Option Outcome) :
    outcome.map (Outcome.shift limit 0) = outcome := by
  cases outcome with
  | none => rfl
  | some outcome => exact congrArg some (outcome.shift_zero limit)

theorem Response.shift_zero (r : Response) : r.shift settings 0 = r := by
  unfold shift
  rw [Outcome.map_shift_zero]

/-! ## Windows -/

namespace Window

variable {w v : Window Buffer}

/-- The window with the contents of its buffers in their place. Spare bytes are left out. -/
def wire (w : Window Buffer) : Window Bytes where
  base := w.base
  slots := w.slots.map (Option.map Segment.wire)
  size := w.size
  slots_pos := by
    rw [Array.size_map]
    exact w.slots_pos

/-- Windows that match, with nothing moved, hold the same. -/
theorem Matches.slots_eq (h : w.Matches 0 v) :
    v.slots.map (Option.map Segment.wire) = w.slots.map (Option.map Segment.wire) := by
  have hcap : v.slots.size = w.slots.size := h.capacity_eq
  have hle : w.slots.size ≤ 2 ^ 32 := Nat.le_of_dvd (by decide) h.dvd
  refine Array.ext (by rw [Array.size_map, Array.size_map, hcap]) fun i hv hw => ?_
  rw [Array.size_map] at hv hw
  have hslot := Serial.slot_ofNat hw hle
  have hoccupant := h.occupant (Serial.ofNat i)
  rw [Serial.add_zero, w.occupant_eq _ (Serial.slot_lt w.slots_pos),
    v.occupant_eq _ (Serial.slot_lt v.slots_pos)] at hoccupant
  simp only [hcap, hslot] at hoccupant
  rw [Array.getElem_map, Array.getElem_map]
  exact map_eq_of_rel hoccupant fun s t hmatch => hmatch.wire_eq.trans s.wire.shift_zero

theorem Matches.wire_eq (h : w.Matches 0 v) : v.wire = w.wire := by
  unfold wire
  simp only [h.slots_eq, h.size_eq, h.base_eq, Serial.add_zero]

end Window

end Redelivery
