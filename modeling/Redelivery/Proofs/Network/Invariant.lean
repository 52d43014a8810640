import Redelivery.Proofs.Network.Closers
import Redelivery.Proofs.Network.Readers
import Redelivery.Proofs.Network.Writers
import Redelivery.Proofs.Settings

/-!
# The invariant of the network

The network is sound where it starts, and each event keeps it sound. So it is sound in all that it
can come to.

## Main statements

* `Network.IsStart.sound`: the network is sound where it starts.
* `Network.Sound.step`: it is sound after an event.
* `Network.Reachable.sound`: it is sound whatever has happened.

Nothing is said here about what an agent does in its turn. An event is handed on to the lemma about
the agent that it gives a turn to, and all of these have the same conclusion: the network is sound,
whatever the socket makes of the datagram that was handed over. It rides on:

* `Sound.read` and `Sound.reader_resume` for readers, which are the only ones that make
  acknowledgements;
* `Sound.write` and `Sound.writer_resume` for writers, `Sound.close` and `Sound.closer_resume` for
  closers, `Sound.flusher_resume` for the flusher, all of them with the acknowledgements that were
  there before;
* `sound_establish` and `Link.Sound.start` for the start: nobody is at work there, and two empty
  windows begin at the same number.

The acknowledgements that were made so far are no part of the network but a parameter of
`Network.Sound`. A step may add one, so what the induction in `Reachable.sound` carries along is
that there are some with which the network is sound. Nothing is claimed of incidents that are no
events: a write may be abandoned at a point where the network does not stay sound, and so may a
forged datagram leave it.
-/

namespace Redelivery

namespace Network

variable {settings : ValidSettings} {n n' : Network} {acks : Side → List Ack}

/-! ## The start -/

/-- Nobody is at work yet. -/
theorem orderly_establish (s : Stream) (now : Nat) : (Session.establish s now).Orderly := by
  intro agent hin
  cases agent with
  | call id =>
    obtain ⟨w, hw, -⟩ := hin
    cases hw
  | flusher =>
    obtain ⟨point, hpoint, hflushing⟩ := hin
    cases hpoint
    cases hflushing

/-- A peer that has just got its stream is sound. -/
theorem sound_establish (settings : ValidSettings) (pool : Pool) (traffic : Traffic) (now : Nat) :
    Peer.Sound settings
      { session := .establish { Stream.establish settings pool with traffic := traffic } now } where
  settings_eq := rfl
  orderly := orderly_establish _ now
  booked :=
    { call_lt := fun _ _ hc => by cases hc
      entered_lt := fun _ hentry => absurd hentry List.not_mem_nil
      failed_lt := fun _ hid => absurd hid List.not_mem_nil
      nodup := List.nodup_nil
      not_failed := fun _ _ hc => by cases hc
      inside := fun _ hentry => absurd hentry List.not_mem_nil }
  entering _ _ hc := by cases hc
  ledger := (Peer.ledger_iff_idle rfl).mpr
    ⟨[], [], .empty settings.maxSegment_pos, Or.inl rfl⟩
  next_eq := (Serial.add_zero _).symm
  resends _ _ hw := by cases hw
  flusher_resends _ hpoint d hd := by
    cases hpoint
    cases hd
  delivery := rfl

/-- **The network is sound where it starts.** -/
theorem IsStart.sound (h : n.IsStart settings) : n.Sound settings fun _ => [] where
  peer x := by
    obtain ⟨pool, traffic, now, heq⟩ := h.peer_eq x
    rw [heq]
    exact sound_establish settings pool traffic now
  link x := by
    obtain ⟨pool, traffic, now, heq⟩ := h.peer_eq x
    obtain ⟨pool', traffic', now', heq'⟩ := h.peer_eq x.other
    rw [heq, heq']
    exact Link.Sound.start settings.windowSize_pos settings.windowSize_dvd
      settings.two_mul_windowSize_le
  flights x f hf := by
    refine Or.inr (Or.inr ?_)
    rcases h.flights_eq x f hf with heq | heq
    · exact ⟨.dial, Or.inl rfl, heq⟩
    · exact ⟨.dialAck, Or.inr rfl, heq⟩

/-! ## Steps -/

/-- An agent that is not at work does not get a turn. -/
theorem wait?_ne_none_of_allows {z : Side} {me : Agent} {signal : Signal}
    (h : n.allows z me signal = true) : (n.peer z).session.wait? me ≠ none := by
  intro hnone
  simp [allows, hnone] at h

/-- **A turn** leaves the network sound. -/
theorem Sound.turn (h : n.Sound settings acks) {z : Side} {me : Agent} {signal : Signal}
    (hallows : n.allows z me signal = true) (refusal : Option String) :
    ∃ acks', (n.commit z me (n.turned z me signal).1 (n.turned z me signal).2 refusal).Sound
      settings acks' := by
  have hwait := wait?_ne_none_of_allows hallows
  cases me with
  | flusher =>
    cases hpoint : (n.peer z).session.flusher with
    | none => exact absurd (congrArg (Option.map Flusher.wait) hpoint) hwait
    | some point => exact ⟨acks, h.flusher_resume hpoint signal refusal⟩
  | call id =>
    cases hcall : (n.peer z).session.call? id with
    | none => exact absurd (congrArg (Option.map Call.wait) hcall) hwait
    | some call =>
      cases call with
      | reading buffer point => exact h.reader_resume hcall hallows refusal
      | writing point => exact ⟨acks, h.writer_resume hcall hallows refusal⟩
      | closing point => exact ⟨acks, h.closer_resume hcall signal refusal⟩

/-- **An event** leaves the network sound. -/
theorem Sound.step (h : n.Sound settings acks) {e : Event} (hstep : n.step? e = some n') :
    ∃ acks', n'.Sound settings acks' := by
  cases e with
  | elapse span =>
    cases hstep
    exact ⟨acks, h.withNow _⟩
  | call side operation refusal =>
    cases hstep
    -- the first turn of a call is made at once
    cases operation with
    | read buffer => exact h.read side buffer refusal
    | write message => exact ⟨acks, h.write side message refusal⟩
    | close => exact ⟨acks, h.close side refusal⟩
  | turn side me signal refusal =>
    change (if n.allows side me signal then _ else none) = some n' at hstep
    by_cases hallows : n.allows side me signal = true
    · rw [if_pos hallows] at hstep
      cases hstep
      exact h.turn hallows refusal
    · rw [if_neg hallows] at hstep
      cases hstep

/-- **The network is sound**, whatever has happened. -/
theorem Reachable.sound (h : Reachable settings n) : ∃ acks, n.Sound settings acks := by
  -- the acknowledgements that were made so far come from the step before
  induction h with
  | start h => exact ⟨_, h.sound⟩
  | step e _ hstep ih =>
    obtain ⟨acks, hsound⟩ := ih
    exact hsound.step hstep

end Network

end Redelivery
