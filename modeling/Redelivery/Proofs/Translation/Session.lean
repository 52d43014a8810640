import Redelivery.Proofs.Network.Delivery
import Redelivery.Proofs.Network.Sides
import Redelivery.Proofs.Translation.Agents

/-!
# Sessions with all serial numbers moved

Where a stream starts to count cannot be told from outside. Two sessions whose settings differ in the
initial serial number only are exposed to the same: calls with the same arguments, the same clock,
turns in the same order, the same faults of the socket, and the same datagrams, but for the serial
numbers in them, which are moved on by as much as the initial ones are apart. The datagrams may be
anything: old, repeated or forged. Then both sessions do the same all the time, as far as it can be
seen: their calls return the same, they wait for the same, they count the same, they measure the same
round trips, and they hand the same datagrams to the socket, but for the serial numbers in them.

## Main definitions

* `Session.Matches`: a session and another one with all serial numbers moved.
* `Stimulus`, `Response`: what happens to a session and what can be seen of it.
* `Session.stimulate`, `Session.responses`: a step, and what can be seen of a run.

## Main statements

* `Session.Matches.allows_shift`: the same signals may end the waits of both sessions.
* `Session.Matches.stimulate`: a step.
* `Session.responses_shift`: a run.

`Session.Matches.stimulate` is the step, and the run is an induction on the list of stimuli. A
stimulus is applied only if it is allowed, and the lemma on that, `Session.Matches.allows_shift`,
says that the two sessions allow the same signals. So the runs need not be restricted in any way: a
stimulus that cannot happen leaves both sessions as they are. In particular it is open which of
several signals an agent gets that waits for more than one.

The calls of a session are a list, and turns replace entries in it. The lemmas on `EntryMatches` say
that looking up, replacing and removing go together on lists that go together; whatever is recorded
of turns then follows from `Session.Matches.place` and `Session.Matches.forget`.
-/

namespace Redelivery

variable {settings : Settings} {δ : Nat}

/-! ## Calls -/

/-- The second call is where the first is. -/
inductive Call.Matches (limit δ : Nat) : Call → Call → Prop where
  /-- Two reads. -/
  | reading (buffer : Bytes) {p q : Reader} (h : p.Matches limit δ q) :
    Matches limit δ (.reading buffer p) (.reading buffer q)
  /-- Two writes. -/
  | writing {p q : Writer} (h : p.Matches limit δ q) :
    Matches limit δ (.writing p) (.writing q)
  /-- Two closes. -/
  | closing (p : Closer) : Matches limit δ (.closing p) (.closing p)

theorem Call.Matches.wait_eq {limit : Nat} {c d : Call} (h : c.Matches limit δ d) :
    d.wait = c.wait := by
  cases h with
  | reading buffer hpq =>
    cases hpq
    exact Reader.wait_shift _ _ _
  | writing hpq => exact hpq.wait_eq
  | closing p => rfl

/-- Calls with the same number that match. -/
def EntryMatches (limit δ : Nat) (a b : Nat × Call) : Prop :=
  b.1 = a.1 ∧ a.2.Matches limit δ b.2

namespace Session

variable {limit : Nat} {cs ds : List (Nat × Call)}

theorem lookup_rel (h : List.Forall₂ (EntryMatches limit δ) cs ds) (id : Nat) :
    Option.Rel (Call.Matches limit δ) (cs.lookup id) (ds.lookup id) := by
  induction h with
  | nil => exact .none
  | @cons a b cs ds hentry _ ih =>
    obtain ⟨i, c⟩ := a
    obtain ⟨j, d⟩ := b
    obtain ⟨rfl, hmatch⟩ := hentry
    rw [lookup_cons_eq, lookup_cons_eq]
    split
    · exact .some hmatch
    · exact ih

theorem any_eq (h : List.Forall₂ (EntryMatches limit δ) cs ds) (id : Nat) :
    (ds.any fun entry => entry.1 == id) = cs.any fun entry => entry.1 == id := by
  induction h with
  | nil => rfl
  | cons hentry _ ih => rw [List.any_cons, List.any_cons, hentry.1, ih]

theorem forall₂_filter (h : List.Forall₂ (EntryMatches limit δ) cs ds) (id : Nat) :
    List.Forall₂ (EntryMatches limit δ) (cs.filter fun entry => entry.1 != id)
      (ds.filter fun entry => entry.1 != id) := by
  induction h with
  | nil => exact .nil
  | cons hentry _ ih =>
    rw [List.filter_cons, List.filter_cons, hentry.1]
    split
    · exact .cons hentry ih
    · exact ih

theorem forall₂_replace (h : List.Forall₂ (EntryMatches limit δ) cs ds) (id : Nat) {c d : Call}
    (hcd : c.Matches limit δ d) :
    List.Forall₂ (EntryMatches limit δ)
      (cs.map fun entry => if entry.1 == id then (id, c) else entry)
      (ds.map fun entry => if entry.1 == id then (id, d) else entry) := by
  induction h with
  | nil => exact .nil
  | cons hentry _ ih =>
    rw [List.map_cons, List.map_cons, hentry.1]
    refine .cons ?_ ih
    split
    · exact ⟨rfl, hcd⟩
    · exact hentry

theorem map_agent_eq (h : List.Forall₂ (EntryMatches limit δ) cs ds) :
    (ds.map fun entry => Agent.call entry.1) = cs.map fun entry => Agent.call entry.1 := by
  induction h with
  | nil => rfl
  | cons hentry _ ih => rw [List.map_cons, List.map_cons, hentry.1, ih]

end Session

/-- What is done in a turn, with all serial numbers moved on. -/
def Outcome.shift (limit δ : Nat) : Outcome → Outcome
  | waits => waits
  | hands datagram => hands (datagram.shift limit δ)
  | returns id result => returns id result

/-- Matching turns match when points and results are seen as something else. -/
theorem Turn.Matches.map {π π' ρ ρ' : Type} {limit : Nat} {together : π → π → Prop}
    {together' : π' → π' → Prop} {a b : Turn π ρ} (h : a.Matches limit δ together b) {f : π → π'}
    (hf : ∀ p q, together p q → together' (f p) (f q)) (g : ρ → ρ') :
    (a.map f g).Matches limit δ together' (b.map f g) := by
  cases h with
  | waits hpq => exact .waits (hf _ _ hpq)
  | hands hpq datagram => exact .hands (hf _ _ hpq) datagram
  | returns result => exact .returns (g result)

/-! ## Sessions -/

namespace Session

/-- The second session is the first one with all serial numbers moved on. -/
structure Matches (settings : Settings) (δ : Nat) (s t : Session) : Prop where
  /-- What the agents share. -/
  shared : s.shared.Matches settings δ t.shared
  /-- The calls. -/
  calls : List.Forall₂ (EntryMatches settings.maxSegment δ) s.calls t.calls
  /-- The flushers. -/
  flusher : Option.Rel (Flusher.Matches settings.maxSegment δ) s.flusher t.flusher
  /-- Whether a close has waited for the flusher. -/
  joinable_eq : t.joinable = s.joinable

/-- The steps lead to matching sessions, with the same outcome, moved. -/
structure Alike (settings : Settings) (δ : Nat) (a b : Session × Outcome) : Prop where
  /-- The sessions. -/
  session : a.1.Matches settings δ b.1
  /-- The outcome. -/
  outcome_eq : b.2 = a.2.shift settings.maxSegment δ

namespace Matches

variable {s t : Session}

section

variable (h : s.Matches settings δ t)

include h

theorem withShared {x y : Shared} (hxy : x.Matches settings δ y) :
    ({ s with shared := x } : Session).Matches settings δ { t with shared := y } :=
  ⟨hxy, h.calls, h.flusher, h.joinable_eq⟩

theorem call? (id : Nat) :
    Option.Rel (Call.Matches settings.maxSegment δ) (s.call? id) (t.call? id) :=
  lookup_rel h.calls id

theorem forget (id : Nat) : (s.forget id).Matches settings δ (t.forget id) :=
  ⟨h.shared, forall₂_filter h.calls id, h.flusher, h.joinable_eq⟩

theorem place (id : Nat) {c d : Call} (hcd : c.Matches settings.maxSegment δ d) :
    (s.place id c).Matches settings δ (t.place id d) := by
  unfold Session.place
  rw [any_eq h.calls]
  split
  · exact ⟨h.shared, forall₂_replace h.calls id hcd, h.flusher, h.joinable_eq⟩
  · exact ⟨h.shared, List.rel_append h.calls (.cons ⟨rfl, hcd⟩ .nil), h.flusher, h.joinable_eq⟩

/-! ### What is recorded of turns -/

theorem record (id : Nat) {x y : Shared} (hxy : x.Matches settings δ y) {a b : Turn Call Result}
    (hturn : a.Matches settings.maxSegment δ (Call.Matches settings.maxSegment δ) b) :
    Alike settings δ (s.record id x a) (t.record id y b) := by
  have hshared := h.withShared hxy
  cases hturn with
  | waits hpq => exact ⟨hshared.place id hpq, rfl⟩
  | hands hpq datagram => exact ⟨hshared.place id hpq, rfl⟩
  | returns result => exact ⟨hshared.forget id, rfl⟩

theorem recordReader (id : Nat) (buffer : Bytes) {a b : Shared × Turn Reader Reader.Outcome}
    (hab : Parallel settings δ (Reader.Matches settings.maxSegment δ) a b) :
    Alike settings δ (s.recordReader id buffer a) (t.recordReader id buffer b) :=
  h.record id hab.shared (hab.turn.map (fun _ _ hpq => .reading buffer hpq) _)

theorem recordWriter (id : Nat) {a b : Shared × Turn Writer Writer.Outcome}
    (hab : Parallel settings δ (Writer.Matches settings.maxSegment δ) a b) :
    Alike settings δ (s.recordWriter id a) (t.recordWriter id b) :=
  h.record id hab.shared (hab.turn.map (fun _ _ hpq => .writing hpq) _)

theorem recordCloser (id : Nat) {a b : Shared × Turn Closer Unit}
    (hab : Parallel settings δ Eq a b) :
    Alike settings δ (s.recordCloser id a) (t.recordCloser id b) :=
  h.record id hab.shared (hab.turn.map (fun p _ hpq => hpq ▸ .closing p) _)

theorem recordFlusher {a b : Shared × Turn Flusher Unit}
    (hab : Parallel settings δ (Flusher.Matches settings.maxSegment δ) a b) :
    Alike settings δ (s.recordFlusher a) (t.recordFlusher b) := by
  obtain ⟨x, a⟩ := a
  obtain ⟨y, b⟩ := b
  obtain ⟨hshared, hturn⟩ := hab
  cases hturn with
  | waits hpq => exact ⟨⟨hshared, h.calls, .some hpq, h.joinable_eq⟩, rfl⟩
  | hands hpq datagram => exact ⟨⟨hshared, h.calls, .some hpq, h.joinable_eq⟩, rfl⟩
  | returns result => exact ⟨⟨hshared, h.calls, .none, h.joinable_eq⟩, rfl⟩

/-! ### Steps -/

/-- **Calls.** -/
theorem perform (now id : Nat) (operation : Operation) :
    Alike settings δ (s.perform now id operation) (t.perform now id operation) := by
  cases operation with
  | read buffer =>
    exact h.recordReader id buffer (Reader.begin_parallel h.shared (.call id) buffer)
  | write message =>
    exact h.recordWriter id (Writer.begin_parallel h.shared (.call id) now message)
  | close =>
    have hunjoinable : ({ s with joinable := false } : Session).Matches settings δ
        { t with joinable := false } :=
      ⟨h.shared, h.calls, h.flusher, rfl⟩
    have hbegin := Closer.begin_parallel h.shared (.call id) s.joinable
    unfold Session.perform Session.close
    rw [h.joinable_eq]
    exact hunjoinable.recordCloser id hbegin

/-- **Abandoned calls.** The buffers that a writer holds go back to the pools. -/
theorem cancel (id : Nat) : (s.cancel id).Matches settings δ (t.cancel id) := by
  have hcall := h.call? id
  have hleft := (h.shared.leaveReading (.call id)).leaveWriting (.call id)
  unfold Session.cancel
  generalize s.call? id = a at hcall ⊢
  generalize t.call? id = b at hcall ⊢
  cases hcall with
  | none => exact h
  | some _ => exact (h.withShared (hleft.withStream (hleft.stream.withPool _ _))).forget id

/-- **Turns.** -/
theorem resume (now : Nat) (me : Agent) (signal : Signal) :
    Alike settings δ (s.resume now me signal) (t.resume now me (signal.shift settings δ)) := by
  cases me with
  | flusher =>
    have hflusher := h.flusher
    unfold Session.resume
    simp only
    generalize s.flusher = a at hflusher ⊢
    generalize t.flusher = b at hflusher ⊢
    cases hflusher with
    | none => exact ⟨h, rfl⟩
    | @some p q hpq =>
      cases hpq
      exact h.recordFlusher (Flusher.resume_parallel h.shared now p signal)
  | call id =>
    have hcall := h.call? id
    unfold Session.resume
    simp only
    generalize s.call? id = a at hcall ⊢
    generalize t.call? id = b at hcall ⊢
    cases hcall with
    | none => exact ⟨h, rfl⟩
    | some hmatch =>
      cases hmatch with
      | @reading buffer p q hpq =>
        cases hpq
        exact h.recordReader id buffer
          (Reader.resume_parallel h.shared (.call id) buffer now p signal)
      | writing hpq =>
        exact h.recordWriter id (Writer.resume_parallel h.shared (.call id) now hpq signal)
      | closing p =>
        exact h.recordCloser id (Closer.resume_parallel h.shared (.call id) p signal)

/-! ### Who is at work, and who is ready -/

theorem agents_eq : t.agents = s.agents := by
  unfold Session.agents
  rw [h.shared.reading_eq, h.shared.writing_eq, map_agent_eq h.calls]

theorem wait?_eq (me : Agent) : t.wait? me = s.wait? me := by
  cases me with
  | flusher =>
    refine map_eq_of_rel h.flusher fun p q hpq => ?_
    cases hpq
    exact Flusher.wait_shift _ _ p
  | call id => exact map_eq_of_rel (h.call? id) fun _ _ hmatch => hmatch.wait_eq

end

/-- **The same signals** may end a wait. -/
theorem allows_shift (h : s.Matches settings δ t) (now : Nat) (me : Agent) (signal : Signal) :
    t.allows now me (signal.shift settings δ) = s.allows now me signal := by
  have hclosed : t.stream.closed = s.stream.closed := h.shared.stream.closed_eq
  have hroom : t.stream.roomFreed = s.stream.roomFreed := h.shared.stream.roomFreed_eq
  have hended : t.flusher.isNone = s.flusher.isNone := by
    rw [← Option.not_isSome, ← Option.not_isSome, isSome_eq_of_rel h.flusher]
  unfold Session.allows
  rw [h.wait?_eq, hclosed, hroom, hended, h.shared.writing_eq, h.shared.reading_eq]
  cases signal with
  | arrived arrival =>
    -- whether a wait is one for arrivals does not depend on what arrives
    rcases s.wait? me with - | wait
    · rfl
    · cases wait <;> rfl
  | _ => rfl

end Matches

/-- New sessions match. -/
theorem matches_establish {settings other : ValidSettings}
    (hagrees : settings.toSettings.Agrees other.toSettings)
    (hserial : other.initialSerial = settings.initialSerial + δ) (pool pool' : Pool)
    (traffic : Traffic) (now : Nat) :
    (establish { Stream.establish settings pool with traffic := traffic } now).Matches
      settings.toSettings δ
      (establish { Stream.establish other pool' with traffic := traffic } now) := by
  have hinterval : other.flushInterval = settings.flushInterval := hagrees.eq _ fun _ _ => rfl
  refine ⟨⟨Stream.matches_establish hagrees hserial pool pool' traffic, rfl, rfl⟩, .nil, ?_, rfl⟩
  refine .some ?_
  show Flusher.begin other now = Flusher.begin settings now
  unfold Flusher.begin
  rw [hinterval]

end Session

/-! ## Runs -/

/-- What happens to a session. -/
inductive Stimulus where
  /-- A call is made. -/
  | call (now id : Nat) (operation : Operation)
  /-- A call is abandoned. -/
  | cancel (id : Nat)
  /-- An agent gets a turn by a signal, if that may end its wait. -/
  | turn (now : Nat) (me : Agent) (signal : Signal)
deriving Repr

/-- The same, with all serial numbers in what arrives moved on. -/
def Stimulus.shift (settings : Settings) (δ : Nat) : Stimulus → Stimulus
  | call now id operation => call now id operation
  | cancel id => cancel id
  | turn now me signal => turn now me (signal.shift settings δ)

/-- What can be seen of a session after a step. -/
structure Response where
  /-- What was done, if an agent has had a turn. -/
  outcome : Option Outcome
  /-- What the agents wait for. -/
  waits : List (Agent × Option Wait)
  /-- The counters. -/
  traffic : Traffic
  /-- The round trips. -/
  roundTrips : RoundTrips
  /-- Whether the stream is closed. -/
  closed : Bool
deriving DecidableEq, Repr

/-- The same, with all serial numbers in what is handed to the socket moved on. -/
def Response.shift (settings : Settings) (δ : Nat) (r : Response) : Response :=
  { r with outcome := r.outcome.map (Outcome.shift settings.maxSegment δ) }

namespace Session

/-- What comes of a stimulus. -/
def stimulate (s : Session) : Stimulus → Session × Option Outcome
  | .call now id operation =>
    let step := s.perform now id operation
    (step.1, some step.2)
  | .cancel id => (s.cancel id, none)
  | .turn now me signal =>
    if s.allows now me signal then
      let step := s.resume now me signal
      (step.1, some step.2)
    else
      (s, none)

/-- What can be seen of a session. -/
def respond (s : Session) (outcome : Option Outcome) : Response where
  outcome := outcome
  waits := s.agents.map fun me => (me, s.wait? me)
  traffic := s.stream.traffic
  roundTrips := s.stream.roundTrips
  closed := s.stream.closed

/-- What can be seen of a run. -/
def responses (s : Session) : List Stimulus → List Response
  | [] => []
  | stimulus :: rest =>
    let step := s.stimulate stimulus
    step.1.respond step.2 :: step.1.responses rest

namespace Matches

variable {s t : Session}

/-- **A step.** -/
theorem stimulate (h : s.Matches settings δ t) (stimulus : Stimulus) :
    (s.stimulate stimulus).1.Matches settings δ (t.stimulate (stimulus.shift settings δ)).1
      ∧ (t.stimulate (stimulus.shift settings δ)).2
        = (s.stimulate stimulus).2.map (Outcome.shift settings.maxSegment δ) := by
  cases stimulus with
  | call now id operation =>
    have hstep := h.perform now id operation
    exact ⟨hstep.session, congrArg some hstep.outcome_eq⟩
  | cancel id => exact ⟨h.cancel id, rfl⟩
  | turn now me signal =>
    have hstep := h.resume now me signal
    unfold Session.stimulate Stimulus.shift
    simp only
    rw [h.allows_shift]
    split
    · exact ⟨hstep.session, congrArg some hstep.outcome_eq⟩
    · exact ⟨h, rfl⟩

theorem respond_eq (h : s.Matches settings δ t) (outcome : Option Outcome) :
    t.respond (outcome.map (Outcome.shift settings.maxSegment δ))
      = (s.respond outcome).shift settings δ := by
  have hwaits : (t.agents.map fun me => (me, t.wait? me))
      = s.agents.map fun me => (me, s.wait? me) := by
    rw [h.agents_eq]
    exact List.map_congr_left fun me _ => by rw [h.wait?_eq]
  have htraffic : t.stream.traffic = s.stream.traffic := h.shared.stream.traffic_eq
  have htrips : t.stream.roundTrips = s.stream.roundTrips := h.shared.stream.roundTrips_eq
  have hclosed : t.stream.closed = s.stream.closed := h.shared.stream.closed_eq
  unfold respond Response.shift
  rw [hwaits, htraffic, htrips, hclosed]

/-- **A run of matching sessions.** -/
theorem responses_eq (h : s.Matches settings δ t) (stimuli : List Stimulus) :
    t.responses (stimuli.map (Stimulus.shift settings δ))
      = (s.responses stimuli).map (Response.shift settings δ) := by
  induction stimuli generalizing s t with
  | nil => rfl
  | cons stimulus rest ih =>
    obtain ⟨hmatches, houtcome⟩ := h.stimulate stimulus
    rw [List.map_cons, responses, responses, List.map_cons, houtcome, hmatches.respond_eq,
      ih hmatches]

end Matches

/-- **Where the serial numbers start cannot be told.** Two sessions start with settings that agree
but for the initial serial number, and perhaps the pool, and the same happens to them, with all
serial numbers that arrive moved on by as much as the initial ones are apart. Then the same can be
seen of them, with all serial numbers that are sent moved on by as much. -/
theorem responses_shift {settings other : ValidSettings}
    (hagrees : settings.toSettings.Agrees other.toSettings) (pool pool' : Pool) (traffic : Traffic)
    (start : Nat) (stimuli : List Stimulus) :
    let δ := other.initialSerial.distanceFrom settings.initialSerial
    (establish { Stream.establish other pool' with traffic := traffic } start).responses
        (stimuli.map (Stimulus.shift settings.toSettings δ))
      = ((establish { Stream.establish settings pool with traffic := traffic } start).responses
          stimuli).map (Response.shift settings.toSettings δ) := by
  have hserial := Serial.add_distanceFrom other.initialSerial settings.initialSerial
  exact (matches_establish hagrees hserial.symm pool pool' traffic start).responses_eq stimuli

/-! ### A run

The serial numbers of one session are about to wrap around, those of the other are not. -/

/-- The narrow windows, where serial numbers start at five. -/
def laterSettings : ValidSettings where
  toSettings := { Network.narrowSettings.toSettings with initialSerial := ⟨5⟩ }
  fault?_eq_none := by decide +kernel

/-- A message is written and acknowledged, and another one is read. Then the stream is closed while
somebody reads, and one more segment arrives before the reader has heard of that. -/
def exchange : List Stimulus :=
  [.call 0 0 (.write [7]),
    .turn 1 (.call 0) .sent,
    .call 2 1 (.read [0, 0]),
    .turn 3 (.call 1) (.arrived (.datagram ((Header.ack ⟨0⟩ 0).datagram []))),
    .turn 4 (.call 1)
      (.arrived (.datagram (Header.data.datagram [⟨⟨0xFFFFFFFF⟩, false, [9], 0⟩]))),
    .turn 5 (.call 1) .sent,
    .call 6 2 (.read [0, 0]),
    .call 7 3 .close,
    .turn 8 (.call 2) (.arrived (.datagram (Header.data.datagram [⟨⟨0⟩, true, [1], 0⟩])))]

/-- Seen from the session that starts at five. -/
theorem responses_exchange :
    Network.narrowSettings.toSettings.Agrees laterSettings.toSettings
      ∧ ((establish (Stream.establish laterSettings (.empty 0)) 0).responses
          (exchange.map (Stimulus.shift Network.narrowSettings.toSettings 6))).map (·.outcome)
        = [some (.hands (Header.data.datagram [⟨⟨5⟩, false, [7], 0⟩])),
            some (.returns 0 .written),
            some .waits,
            some .waits,
            some (.hands ((Header.ack ⟨6⟩ 0).datagram [])),
            some (.returns 1 (.read 1 [9, 0])),
            some .waits,
            some .waits,
            some (.returns 2 (.failed .streamClosed))] := by
  have hagrees : Network.narrowSettings.toSettings.Agrees laterSettings.toSettings := rfl
  have hδ : laterSettings.initialSerial.distanceFrom Network.narrowSettings.initialSerial = 6 := by
    decide
  have hshift := responses_shift hagrees (.empty 0) (.empty 0) {} 0 exchange
  simp only [hδ] at hshift
  exact ⟨hagrees, (congrArg (List.map (·.outcome)) hshift).trans (by decide +kernel)⟩

end Session

end Redelivery
