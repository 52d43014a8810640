import Mathlib.Data.List.Induction
import Redelivery.Proofs.Network.Starting
import Redelivery.Proofs.Session.Deadline

/-!
# Writes and their deadlines

Each segment of a write has a deadline, which is set when the write first tries to add the segment
to the send window. If the clock is exact, the segment is added by that time, or the write fails at
that very time, because there is still no room. It does not matter for this who receives, what
arrives in the meantime and what becomes of the socket.

An exact clock does not go on while a socket is about to take a datagram, and it stops at every time
that an agent has a timer for, until the agent had its turn.

## Main definitions

* `Network.punctual`: the rule that the clock is exact.
* `Network.begins`, `Network.beginnings`: when a write begins with its segments.
* `Network.Trial`: what an incident is to a write.
* `Network.OnTime`: a write meets the deadline of its segment.

## Main statements

* `Network.trial`: a write begins with a segment, goes on with one or has nothing to do with any.
* `Network.OnTime.step`, `Network.OnTime.expires`: whoever has met the deadline so far meets it in
  every incident, and gives up at no other time.
* `Network.meets_deadline`: segments are added by their deadlines, or there was no room.

A writer carries its deadline with it, and `Writer.Meets`, in the file on sessions, says of a point
at which it waits that it will wake up in time: the limits of its waits do not lie beyond the
deadline. What this file adds is the connection between the deadline and the time of the first
attempt, which is nowhere kept. `beginnings` computes that time from the run; `trial` says that an
incident sets it, leaves it, or does not concern the write; and `OnTime.step` concludes that the
deadline which the writer carries is always that time and the timeout.

The exact clock is a rule and no property of the network. `Session.lets` forbids time to pass the
limit of any wait, and `OnTime.meets` cannot be violated for that reason. Without the rule an agent
may hear late that its time is up. What is received meanwhile may take any number of turns, none of
which takes time (`now_of_outcome?`).
-/

namespace Redelivery

/-! ## The clock -/

/-- Whether the time may go on to `time`, as far as the agents of the session are concerned. -/
def Session.lets (s : Session) (now time : Nat) : Bool :=
  s.agents.all fun me => (s.wait? me).all (Wait.lets now time)

theorem Session.lets_of_call? {s : Session} {now time id : Nat} {c : Call}
    (h : s.lets now time = true) (hcall : s.call? id = some c) : c.wait.lets now time = true := by
  obtain ⟨before, after, heq, -⟩ := List.lookup_eq_some_iff.mp hcall
  have hagent : Agent.call id ∈ s.agents := by
    simp [Session.agents, heq]
  have hlets := List.all_eq_true.mp h _ hagent
  rwa [wait?_of_call? hcall] at hlets

namespace Network

/-- The clock is exact: it does not go on while a socket is about to take a datagram, and it passes
none of the timers. -/
def punctual : Rule := fun n i =>
  match i with
  | .event (.elapse span) =>
    [Side.a, Side.b].all fun side => (n.peer side).session.lets n.now (n.now + span)
  | _ => true

variable {settings : ValidSettings} {start n n' : Network} {x : Side} {i : Incident}
  {run : List Incident} {id : Nat}

theorem lets_of_punctual {span : Nat} (h : punctual n (.event (.elapse span)) = true) (x : Side) :
    (n.peer x).session.lets n.now (n.now + span) = true :=
  List.all_eq_true.mp h x (by cases x <;> decide)

theorem now_commit (n : Network) (z : Side) (me : Agent) (p : Peer) (outcome : Outcome)
    (refusal : Option String) : (n.commit z me p outcome refusal).now = n.now := by
  unfold commit
  split <;> rfl

/-- Only the passing of time takes time. -/
theorem now_undergo (hstep : n.undergo? i = some n') :
    n'.now = n.now ∨ ∃ span, i = .event (.elapse span) ∧ n' = { n with now := n.now + span } := by
  cases i with
  | event e =>
    cases e with
    | elapse span => exact Or.inr ⟨span, rfl, (Option.some.inj hstep).symm⟩
    | call z operation refusal =>
      cases hstep
      exact Or.inl (now_commit ..)
    | turn z me signal refusal =>
      obtain ⟨-, heq⟩ := Option.ite_none_right_eq_some.mp hstep
      cases heq
      exact Or.inl (now_commit ..)
  | cancel z k =>
    cases hstep
    exact Or.inl rfl
  | forge z d =>
    cases hstep
    exact Or.inl rfl

/-- A turn takes no time. -/
theorem now_of_outcome? (hstep : n.undergo? i = some n') {outcome : Outcome}
    (houtcome : n.outcome? x i = some outcome) : n'.now = n.now := by
  rcases now_undergo hstep with hnow | ⟨span, rfl, -⟩
  · exact hnow
  · cases houtcome

/-! ## First attempts -/

/-- Whether the write begins with a segment in the incident: it gets hold of the section, or the
segment before was sent, and the stream is open. It tries to add the segment then, for the first
time. -/
def begins (n : Network) (side : Side) (id : Nat) : Incident → Bool
  | .event (.call z (.write message) _) =>
    z = side && id = (n.peer side).calls
      && decide (Writer.Enters (n.peer side).session.shared (.call id) message)
  | .event (.turn z me signal _) =>
    z = side && me = .call id && !(n.peer side).stream.closed
      && match (n.peer side).session.call? id with
        | some (.writing w) => !(w.ahead (n.peer side).session.shared signal).isEmpty
        | _ => false
  | _ => false

/-- The times at which the write began with its segments in a run. -/
def beginnings (n : Network) (side : Side) (id : Nat) (run : List Incident) : List Nat :=
  (n.history run).filterMap fun entry =>
    if entry.1.begins side id entry.2 then some entry.1.now else none

/-- The times at which the write has begun after one more incident. -/
def beginningsAfter (n : Network) (side : Side) (id : Nat) (times : List Nat) (i : Incident) :
    List Nat :=
  times ++ (if n.begins side id i then some n.now else none).toList

theorem beginnings_concat (h : start.follow? everything run = some n) (i : Incident) :
    start.beginnings x id (run ++ [i])
      = n.beginningsAfter x id (start.beginnings x id run) i :=
  filterMap_history_concat h i _

theorem getLast?_beginningsAfter (h : n.begins x id i = true) (times : List Nat) :
    (n.beginningsAfter x id times i).getLast? = some n.now := by
  unfold beginningsAfter
  rw [if_pos h]
  exact List.getLast?_concat

theorem beginningsAfter_eq_self (h : n.begins x id i = false) (times : List Nat) :
    n.beginningsAfter x id times i = times := by
  simp [beginningsAfter, h]

theorem begins_eq_false_of_outcome? (h : n.outcome? x i = none) (id : Nat) :
    n.begins x id i = false := by
  cases i with
  | event e =>
    cases e with
    | elapse span => rfl
    | call z operation refusal =>
      have hz : z ≠ x := fun hz => by simp [outcome?, hz] at h
      cases operation <;> simp [begins, hz]
    | turn z me signal refusal =>
      have hz : z ≠ x := fun hz => by simp [outcome?, hz] at h
      simp [begins, hz]
  | cancel z k => rfl
  | forge z d => rfl

/-! ## What an incident is to a write -/

/-- The write has a turn in the incident, which comes to `r`. -/
structure Takes (n : Network) (side : Side) (id : Nat) (i : Incident) (n' : Network)
    (r : Shared × Turn Writer Writer.Outcome) : Prop where
  /-- What becomes of the session. -/
  session : (n'.peer side).session = ((n.peer side).session.recordWriter id r).1
  /-- What is seen of it. -/
  outcome : n.outcome? side i = some ((n.peer side).session.recordWriter id r).2

section

variable {r : Shared × Turn Writer Writer.Outcome}

theorem Takes.call? (h : n.Takes x id i n' r) :
    (n'.peer x).session.call? id = r.2.point?.map .writing := by
  rw [h.session]
  exact (Session.call?_record ..).trans (Turn.point?_map ..)

theorem Takes.stream (h : n.Takes x id i n' r) : (n'.peer x).stream = r.1.stream := by
  show (n'.peer x).session.stream = _
  rw [h.session]
  exact Session.stream_record ..

/-- A write that is seen to fail has failed. -/
theorem Takes.of_failed (h : n.Takes x id i n' r) {failure : Failure}
    (hfails : n.outcome? x i = some (.returns id (.failed failure))) :
    r.2 = .returns (.error failure) := by
  obtain ⟨y, turn⟩ := r
  have houtcome := Option.some.inj (h.outcome.symm.trans hfails)
  cases turn with
  | waits point => cases houtcome
  | hands point datagram => cases houtcome
  | returns outcome =>
    cases outcome with
    | ok => cases houtcome
    | error e =>
      cases houtcome
      rfl

end

/-- What an incident is to the write `id`. -/
inductive Trial (n : Network) (side : Side) (id : Nat) (i : Incident) (n' : Network) : Prop where
  /-- It begins with a segment. -/
  | begins {y : Shared} {job : Job} (hbegins : n.begins side id i = true)
      (hdeadline : job.deadline = n.now + (n.peer side).stream.settings.writeTimeout)
      (hturn : n.Takes side id i n' (Writer.attempt y (.call id) n.now job))
  /-- It goes on with one. -/
  | goesOn {w : Writer} {signal : Signal} (hbegins : n.begins side id i = false)
      (hcall : (n.peer side).session.call? id = some (.writing w)) (hin : w.isInside = true)
      (hahead : w.ahead (n.peer side).session.shared signal = []
        ∨ (n.peer side).stream.closed = true)
      (hturn : n.Takes side id i n'
        (Writer.resume (n.peer side).session.shared (.call id) n.now w signal))
  /-- It does not concern the write. -/
  | passes (hbegins : n.begins side id i = false)
      (hcall : (n'.peer side).session.call? id = (n.peer side).session.call? id)
      (hfails : n.outcome? side i ≠ some (.returns id (.failed .writeTimeout)))
  /-- It leaves the write outside the section. If the write was inside, it is gone, and not because
  of the time. -/
  | outside (hbegins : n.begins side id i = false)
      (hout : ∀ w, (n'.peer side).session.call? id = some (.writing w) → w.isInside = false)
      (hgone : id < (n.peer side).calls → ∀ w,
        (n.peer side).session.call? id = some (.writing w) → w.isInside = true →
          (n'.peer side).session.call? id = none)
      (hfails : n.writes side i = true →
        n.outcome? side i ≠ some (.returns id (.failed .writeTimeout)))

/-- A write that returns, but not because of the time. -/
theorem Takes.trial_of_returns {y : Shared} {outcome : Writer.Outcome}
    (h : n.Takes x id i n' (y, .returns outcome)) (hne : outcome ≠ .error .writeTimeout)
    (hbegins : n.begins x id i = false) : n.Trial x id i n' := by
  have hcall : (n'.peer x).session.call? id = none := h.call?
  refine .outside hbegins (by simp [hcall]) (fun _ _ _ _ => hcall) fun _ hfails => ?_
  exact hne (Turn.returns.inj (h.of_failed hfails))

/-- The call of a write. -/
theorem trial_write {message : Bytes} {refusal : Option String}
    (hstep : n.undergo? (.event (.call x (.write message) refusal)) = some n') :
    n.Trial x (n.peer x).calls (.event (.call x (.write message) refusal)) n' := by
  obtain ⟨hsession, -, -⟩ := undergo_call hstep
  have hturn : n.Takes x (n.peer x).calls (.event (.call x (.write message) refusal)) n'
      (Writer.begin (n.peer x).session.shared (.call (n.peer x).calls) n.now message) :=
    ⟨hsession, n.outcome?_call x (.write message) refusal⟩
  by_cases henters : Writer.Enters (n.peer x).session.shared (.call (n.peer x).calls) message
  · obtain ⟨y, job, heq, hdeadline⟩ := Writer.begin_eq_attempt henters n.now
    rw [heq] at hturn
    exact .begins (by simp [begins, henters]) hdeadline hturn
  · have hbegins : n.begins x (n.peer x).calls (.event (.call x (.write message) refusal)) = false := by
      simp [begins, henters]
    rcases Writer.begin_rests henters n.now with ⟨outcome, heq, hne⟩ | ⟨y, heq⟩
    · rw [heq] at hturn
      exact hturn.trial_of_returns hne hbegins
    · rw [heq] at hturn
      refine .outside hbegins (fun w hcall => ?_) (fun hlt => absurd hlt (Nat.lt_irrefl _))
        fun _ hfails => ?_
      · rw [hturn.call?] at hcall
        cases hcall
        rfl
      · cases hturn.of_failed hfails

/-- A turn of a write. -/
theorem trial_turn {w : Writer} {signal : Signal} {refusal : Option String}
    (hcall : (n.peer x).session.call? id = some (.writing w))
    (hstep : n.undergo? (.event (.turn x (.call id) signal refusal)) = some n') :
    n.Trial x id (.event (.turn x (.call id) signal refusal)) n' := by
  obtain ⟨hallows, hsession, -, -⟩ := undergo_turn hstep
  have houtcome := n.outcome?_turn x (.call id) signal refusal
  rw [Session.resume_writing hcall] at hsession houtcome
  have hturn : n.Takes x id (.event (.turn x (.call id) signal refusal)) n'
      (Writer.resume (n.peer x).session.shared (.call id) n.now w signal) := ⟨hsession, houtcome⟩
  by_cases hbegins : n.begins x id (.event (.turn x (.call id) signal refusal)) = true
  · have ⟨hopen, hahead⟩ : (n.peer x).stream.closed = false
        ∧ w.ahead (n.peer x).session.shared signal ≠ [] := by
      simpa [begins, hcall] using hbegins
    obtain ⟨y, job, heq, hdeadline⟩ := Writer.resume_eq_attempt hahead hopen (.call id) n.now
    rw [heq] at hturn
    exact .begins hbegins hdeadline hturn
  · have hahead : w.ahead (n.peer x).session.shared signal = []
        ∨ (n.peer x).stream.closed = true := by
      cases hclosed : (n.peer x).stream.closed with
      | true => exact Or.inr rfl
      | false => exact Or.inl (by simpa [begins, hcall, hclosed] using hbegins)
    have hbegins := Bool.eq_false_of_not_eq_true hbegins
    rcases w.inside_or_entering with hin | ⟨message, rfl⟩
    · exact .goesOn hbegins hcall hin hahead hturn
    · obtain ⟨rfl, -⟩ := owner_of_allows hallows (Session.wait?_of_call? hcall)
      obtain ⟨y, outcome, heq, hne⟩ := Writer.resume_entering_eq_returns hahead (.call id) n.now
      rw [heq] at hturn
      exact hturn.trial_of_returns hne hbegins

/-- **What an incident is to a write**: it begins with a segment, or it goes on with one, or it has
nothing to do with any. -/
theorem trial (hstep : n.undergo? i = some n') (x : Side) (id : Nat) : n.Trial x id i n' := by
  cases happens hstep x with
  | elsewhere hpeer houtcome =>
    exact .passes (begins_eq_false_of_outcome? houtcome id) (by rw [hpeer]) (by simp [houtcome])
  | @called operation refusal hincident hsession hcalls houtcome =>
    subst hincident
    by_cases hid : id = (n.peer x).calls
    · subst hid
      cases operation with
      | write message => exact trial_write hstep
      | _ =>
        refine .outside rfl (fun w hcall => ?_) (fun hlt => absurd hlt (Nat.lt_irrefl _))
          fun hwrites => (by cases hwrites)
        rw [hsession] at hcall
        obtain ⟨message, hwrite⟩ := Session.exists_of_perform_writing hcall
        cases hwrite
    · refine .passes ?_ ?_ fun hfails => ?_
      · cases operation <;> simp [begins, hid]
      · rw [hsession, Session.call?_perform_of_ne hid]
      · rw [houtcome] at hfails
        exact hid (Session.of_perform_returns (Option.some.inj hfails)).1
  | @turned me signal refusal hincident hallows hsession hcalls houtcome =>
    subst hincident
    by_cases hme : me = .call id
    · subst hme
      by_cases hwriting : ∃ w, (n.peer x).session.call? id = some (.writing w)
      · obtain ⟨w, hcall⟩ := hwriting
        exact trial_turn hcall hstep
      · refine .outside ?_ (fun w hcall => ?_) (fun _ w hthere => absurd ⟨w, hthere⟩ hwriting)
          fun hwrites => absurd (exists_of_writes hwrites) hwriting
        · refine Bool.eq_false_of_not_eq_true fun hbegins => ?_
          have hmatch := (Bool.and_eq_true_iff.mp hbegins).2
          split at hmatch
          · rename_i w hcall
            exact hwriting ⟨w, hcall⟩
          · cases hmatch
        · rw [hsession] at hcall
          exact absurd (Session.exists_of_resume_writing hcall) hwriting
    · refine .passes (by simp [begins, hme]) ?_ fun hfails => ?_
      · rw [hsession, Session.call?_resume_of_ne hme]
      · rw [houtcome] at hfails
        exact hme (Session.of_resume_returns (Option.some.inj hfails)).1
  | cancelled k hsession hcalls houtcome =>
    have hbegins := begins_eq_false_of_outcome? houtcome id
    have hcancel := Session.call?_cancel_eq (n.peer x).session k id
    rw [← hsession] at hcancel
    by_cases hid : id = k
    · rw [if_pos hid] at hcancel
      exact .outside hbegins (by simp [hcancel]) (fun _ _ _ _ => hcancel) (by simp [houtcome])
    · rw [if_neg hid] at hcancel
      exact .passes hbegins hcancel (by simp [houtcome])

/-- A write that begins has a number. -/
theorem lt_calls_of_begins (hn : n.Regular settings x) (hstep : n.undergo? i = some n')
    (h : n.begins x id i = true) : id < (n'.peer x).calls := by
  cases i with
  | event e =>
    cases e with
    | elapse span => cases h
    | call z operation refusal =>
      cases operation with
      | write message =>
        obtain ⟨⟨rfl, rfl⟩, -⟩ : (z = x ∧ id = (n.peer x).calls)
            ∧ Writer.Enters (n.peer x).session.shared (.call id) message := by
          simpa [begins] using h
        rw [(undergo_call hstep).2.1]
        exact Nat.lt_succ_self _
      | _ => cases h
    | turn z me signal refusal =>
      have hmatch := (Bool.and_eq_true_iff.mp h).2
      split at hmatch
      · rename_i w hcall
        exact Nat.lt_of_lt_of_le (hn.call_lt id _ hcall) (happens hstep x).calls_le
      · cases hmatch
  | cancel z k => cases h
  | forge z d => cases h

/-! ## Deadlines -/

/-- What the times at which a write has begun with its segments say about it. -/
structure OnTime (settings : ValidSettings) (n : Network) (side : Side) (id : Nat)
    (times : List Nat) : Prop where
  /-- Inside the section it has begun with its segment, and it meets the deadline that follows from
  the time at which it has done so. -/
  meets : ∀ w, (n.peer side).session.call? id = some (.writing w) → w.isInside = true →
    ∃ t, times.getLast? = some t ∧ w.Meets (t + settings.writeTimeout) n.now
  /-- Once it has begun, it is inside until it is gone. -/
  inside : times ≠ [] → id < (n.peer side).calls
    ∧ ∀ c, (n.peer side).session.call? id = some c → ∃ w, c = .writing w ∧ w.isInside = true

section

variable {times : List Nat}

/-- The write begins with a segment, with the time that the settings tell. -/
theorem Regular.attempt_timely (hn : n.Regular settings x) {y : Shared} {job : Job}
    (hdeadline : job.deadline = n.now + (n.peer x).stream.settings.writeTimeout) :
    Writer.Timely (n.now + settings.writeTimeout) n.now
      (Writer.attempt y (.call id) n.now job) := by
  have hsettings : (n.peer x).stream.settings = settings := hn.sound.stream.settings_eq
  rw [hsettings] at hdeadline
  exact Writer.attempt_timely hdeadline (Nat.le_add_right ..)

/-- A turn that comes to what it should by the deadline. -/
theorem Takes.onTime {r : Shared × Turn Writer Writer.Outcome} (h : n.Takes x id i n' r)
    (hstep : n.undergo? i = some n') (hlt : id < (n'.peer x).calls) {t : Nat}
    (htimes : times.getLast? = some t)
    (htimely : Writer.Timely (t + settings.writeTimeout) n.now r) :
    n'.OnTime settings x id times where
  meets w hcall _ := by
    rw [h.call?] at hcall
    obtain ⟨point, hpoint, heq⟩ := Option.map_eq_some_iff.mp hcall
    cases heq
    rw [now_of_outcome? hstep h.outcome]
    exact ⟨t, htimes, htimely.meets _ hpoint⟩
  inside _ := by
    refine ⟨hlt, fun c hcall => ?_⟩
    rw [h.call?] at hcall
    obtain ⟨point, hpoint, rfl⟩ := Option.map_eq_some_iff.mp hcall
    exact ⟨point, rfl, (htimely.meets _ hpoint).inside⟩

/-- **Whoever has met the deadline so far** meets it in every incident. -/
theorem OnTime.step (h : n.OnTime settings x id times) (hn : n.Regular settings x)
    (hrule : punctual n i = true) (hstep : n.undergo? i = some n') :
    n'.OnTime settings x id (n.beginningsAfter x id times i) := by
  have hcalls := (happens hstep x).calls_le
  cases trial hstep x id with
  | begins hbegins hdeadline hturn =>
    exact hturn.onTime hstep (lt_calls_of_begins hn hstep hbegins)
      (getLast?_beginningsAfter hbegins times)
      (hn.attempt_timely hdeadline)
  | goesOn hbegins hcall hin hahead hturn =>
    obtain ⟨t, htimes, hmeets⟩ := h.meets _ hcall hin
    rw [beginningsAfter_eq_self hbegins]
    exact hturn.onTime hstep (Nat.lt_of_lt_of_le (hn.call_lt id _ hcall) hcalls) htimes
      (Writer.resume_timely hmeets hahead)
  | passes hbegins hsame =>
    rw [beginningsAfter_eq_self hbegins]
    refine ⟨fun w hcall hin => ?_, fun hne => ?_⟩
    · rw [hsame] at hcall
      obtain ⟨t, ht, hmeets⟩ := h.meets w hcall hin
      refine ⟨t, ht, ?_⟩
      rcases now_undergo hstep with hnow | ⟨span, rfl, rfl⟩
      · rwa [hnow]
      · exact hmeets.pass (Session.lets_of_call? (lets_of_punctual hrule x) hcall)
    · obtain ⟨hlt, hinside⟩ := h.inside hne
      rw [hsame]
      exact ⟨Nat.lt_of_lt_of_le hlt hcalls, hinside⟩
  | outside hbegins hout hgone =>
    rw [beginningsAfter_eq_self hbegins]
    refine ⟨fun w hcall hin => ?_, fun hne => ?_⟩
    · rw [hout w hcall] at hin
      cases hin
    · obtain ⟨hlt, hinside⟩ := h.inside hne
      refine ⟨Nat.lt_of_lt_of_le hlt hcalls, fun c hcall => ?_⟩
      -- the write was inside before, if it was there at all, so it is gone now
      cases hthere : (n.peer x).session.call? id with
      | none =>
        rw [((happens hstep x).gone hthere hlt).1] at hcall
        cases hcall
      | some c' =>
        obtain ⟨w, rfl, hin⟩ := hinside c' hthere
        rw [hgone hlt w hthere hin] at hcall
        cases hcall

/-- A turn in which the write gives up. -/
theorem Takes.expires {r : Shared × Turn Writer Writer.Outcome} (h : n.Takes x id i n' r)
    (hfails : n.outcome? x i = some (.returns id (.failed .writeTimeout))) {deadline : Nat}
    (htimely : Writer.Timely deadline n.now r) :
    n.now = deadline ∧ (n'.peer x).stream.IsFull := by
  rw [h.stream]
  exact htimely.expires (h.of_failed hfails)

/-- **A write that gives up** does so at its deadline, and there is no room then. -/
theorem OnTime.expires (h : n.OnTime settings x id times) (hn : n.Regular settings x)
    (hstep : n.undergo? i = some n') (hwrites : n.writes x i = true)
    (hfails : n.outcome? x i = some (.returns id (.failed .writeTimeout))) :
    ∃ t, (n.beginningsAfter x id times i).getLast? = some t
      ∧ n.now = t + settings.writeTimeout ∧ (n'.peer x).stream.IsFull := by
  cases trial hstep x id with
  | begins hbegins hdeadline hturn =>
    exact ⟨n.now, getLast?_beginningsAfter hbegins times,
      hturn.expires hfails (hn.attempt_timely hdeadline)⟩
  | goesOn hbegins hcall hin hahead hturn =>
    obtain ⟨t, htimes, hmeets⟩ := h.meets _ hcall hin
    rw [beginningsAfter_eq_self hbegins]
    exact ⟨t, htimes, hturn.expires hfails (Writer.resume_timely hmeets hahead)⟩
  | passes hbegins hsame hno => exact absurd hfails hno
  | outside hbegins hout hgone hno => exact absurd hfails (hno hwrites)

end

theorem onTime (hstart : start.IsStart settings) (hrun : start.follow? punctual run = some n)
    (x : Side) (id : Nat) : n.OnTime settings x id (start.beginnings x id run) := by
  induction run using List.reverseRecOn generalizing n with
  | nil =>
    cases hrun
    refine ⟨fun w hcall => ?_, fun hne => absurd rfl hne⟩
    obtain ⟨pool, traffic, now, heq⟩ := hstart.peer_eq x
    rw [heq] at hcall
    cases hcall
  | append_singleton run i ih =>
    rw [follow?_concat_of_rule] at hrun
    obtain ⟨mid, hmid, hlast⟩ := Option.bind_eq_some_iff.mp hrun
    obtain ⟨hrule, hstep⟩ := Option.ite_none_right_eq_some.mp hlast
    rw [beginnings_concat (follow?_everything hmid)]
    exact (ih hmid).step ((leads_of_follow? hmid).regular hstart x) hrule hstep

/-- **Segments are added by their deadlines.** Two streams are established, and the clock is exact.
A write that has not returned is inside the section for writing if and only if it has begun with a
segment. The time `t` at which it tried for the first time to add its present segment is the last at
which it has begun with one, and the clock does not go past `t` plus the write timeout until that
segment is added and sent, or the write fails. If it fails because this has taken too long, it does
so exactly then, and there is no room in the send window. Nothing is assumed about who holds the
section for reading, or about what arrives. -/
theorem meets_deadline (hstart : start.IsStart settings)
    (hrun : start.follow? punctual run = some n) (x : Side) (id : Nat) :
    (∀ w, (n.peer x).session.call? id = some (.writing w) →
        (w.isInside = true ↔ start.beginnings x id run ≠ [])
          ∧ ∀ t, (start.beginnings x id run).getLast? = some t →
            n.now ≤ t + settings.writeTimeout)
      ∧ ∀ last n', n.undergo? last = some n' → n.writes x last = true →
        n.outcome? x last = some (.returns id (.failed .writeTimeout)) →
          ∃ t, (start.beginnings x id (run ++ [last])).getLast? = some t
            ∧ n.now = t + settings.writeTimeout ∧ (n'.peer x).stream.IsFull := by
  have htime := onTime hstart hrun x id
  constructor
  · intro w hcall
    have hinside (hne : start.beginnings x id run ≠ []) : w.isInside = true := by
      obtain ⟨w', heq, hin⟩ := (htime.inside hne).2 _ hcall
      cases heq
      exact hin
    refine ⟨⟨fun hin hnil => ?_, hinside⟩, fun t ht => ?_⟩
    · obtain ⟨t, ht, -⟩ := htime.meets w hcall hin
      rw [hnil] at ht
      cases ht
    · have hne : start.beginnings x id run ≠ [] := fun hnil => by
        rw [hnil] at ht
        cases ht
      obtain ⟨t', ht', hmeets⟩ := htime.meets w hcall (hinside hne)
      cases ht.symm.trans ht'
      exact hmeets.now_le
  · intro last n' hstep hwrites hfails
    rw [beginnings_concat (follow?_everything hrun)]
    exact htime.expires ((leads_of_follow? hrun).regular hstart x) hstep hwrites hfails

/-- Settings with a window for one segment, and little time. -/
def hastySettings : ValidSettings where
  mtu := 22
  windowSize := 1
  writeTimeout := 150
  flushInterval := 1000
  fault?_eq_none := by decide +kernel

/-- Both ends have just got their streams. -/
def hastyStart : Network where
  now := 0
  peer _ := { session := .establish (.establish hastySettings (.empty 0)) 0 }
  flights _ := []

theorem hastyStart_isStart : hastyStart.IsStart hastySettings where
  peer_eq _ := ⟨.empty 0, {}, 0, rfl⟩
  flights_eq _ _ hf := absurd hf List.not_mem_nil

/-- A write finds the window full at 20. It listens, which a fault of the socket puts an end to at
60, and waits until 160. Then somebody else listens, and it waits for the rest of the time. -/
def outOfTime : List Incident :=
  [.event (.call .a (.write [7]) none), .event (.turn .a (.call 0) .sent none),
    .event (.elapse 20), .event (.call .a (.write [9]) none),
    .event (.elapse 40), .event (.turn .a (.call 1) (.arrived (.fault "reset")) none),
    .event (.turn .a (.call 1) .sent none), .event (.call .a (.read [0]) none),
    .event (.elapse 100), .event (.turn .a (.call 1) .due none),
    .event (.turn .a (.call 1) .sent none), .event (.elapse 10)]

/-- It is inside the section up to 170, and fails then. -/
theorem meets_deadline_of_outOfTime : ∃ n n' w, hastyStart.follow? punctual outOfTime = some n
    ∧ (n.peer .a).session.call? 1 = some (.writing w) ∧ w.isInside = true
    ∧ n.undergo? (.event (.turn .a (.call 1) .due none)) = some n'
    ∧ n.outcome? .a (.event (.turn .a (.call 1) .due none))
      = some (.returns 1 (.failed .writeTimeout))
    ∧ n.now ≤ 20 + hastySettings.writeTimeout ∧ n.now = 20 + hastySettings.writeTimeout
    ∧ (n'.peer .a).stream.IsFull := by
  have hview : ((hastyStart.follow? punctual outOfTime).bind fun n =>
      (n.undergo? (.event (.turn .a (.call 1) .due none))).map fun _ =>
        ((n.peer .a).session.writer?.map Prod.fst,
          n.writes .a (.event (.turn .a (.call 1) .due none)),
          n.outcome? .a (.event (.turn .a (.call 1) .due none))))
      = some (some 1, true, some (.returns 1 (.failed .writeTimeout))) := by
    decide +kernel
  have hbegins : (hastyStart.beginnings .a 1 outOfTime).getLast? = some 20
      ∧ (hastyStart.beginnings .a 1
          (outOfTime ++ [.event (.turn .a (.call 1) .due none)])).getLast? = some 20 := by
    decide +kernel
  obtain ⟨n, hrun, hrest⟩ := Option.bind_eq_some_iff.mp hview
  obtain ⟨n', hlast, hseen⟩ := Option.map_eq_some_iff.mp hrest
  obtain ⟨hwriter, hseen⟩ := Prod.mk.inj hseen
  obtain ⟨hwrites, hfails⟩ := Prod.mk.inj hseen
  obtain ⟨⟨id, w⟩, hw, rfl⟩ := Option.map_eq_some_iff.mp hwriter
  obtain ⟨-, hcall, hin⟩ := Session.writer?_eq_some hw
  obtain ⟨hinside, hexpires⟩ := meets_deadline hastyStart_isStart hrun .a 1
  obtain ⟨t, ht, hnow, hfull⟩ := hexpires _ n' hlast hwrites hfails
  cases hbegins.2.symm.trans ht
  exact ⟨n, n', w, hrun, hcall, hin, hlast, hfails, (hinside w hcall).2 20 hbegins.1, hnow, hfull⟩

end Network

end Redelivery
