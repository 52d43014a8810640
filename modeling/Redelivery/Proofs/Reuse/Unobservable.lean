import Redelivery.Proofs.Reuse.Strict

/-!
# Nobody sees what was in a buffer before

How many buffers are kept for reuse, and what is in them, makes no difference to anything that can be
seen of an end. So whatever a buffer was used for before, no byte of it gets to a reader or to the
socket.

## Main definitions

* `ValidSettings.withPoolSize`: the same settings with a pool of another size.
* `Handshake.Matches`, `Stage.Matches`: ends that differ in their pools only.

## Main statements

* `Handshake.Matches.resume`, `Stage.Matches.stimulate`: they do the same.
* `Stage.sights_eq_of_reuse`: the same is seen of them in every run.

The main statement puts two results together, one on each of the two ends. The end whose pool is
exchanged runs byte by byte, and `Stage.IsFor.stimulate` turns each of its strict steps into a plain
one on the same pool. Two plain steps are then compared by a simulation, `Stage.Matches`, which is
preserved by exchanging a pool (`Stage.Matches.repool`) and by every step
(`Stage.Matches.stimulate`), and which implies that the same is seen (`Stage.Matches.sight_eq`).
`Stage.Matches.sights_eq` is the induction on the run; it is where the two meet.

For sessions the simulation is not new. `Session.Matches` compares two sessions whose serial numbers
differ by a constant and leaves open what is in their pools and behind the end of their buffers;
with the constant zero it is `Session.Resembles`, and `Session.Matches.stimulate` is the step. That
datagrams are not translated by zero is `Bytes.shift_zero`. Handshakes are compared by what they
have at each point, and a handshake reads no more of a datagram than its header, which does not
depend on the buffer it was received into: `Handshake.exists_open?`.

Nothing is asked of the settings. If they are not valid, both ends fail before they have a pool at
all (`Stage.sights_failed`).
-/

namespace Redelivery

/-! ## Settings -/

/-- The same settings with a pool of another size. -/
def ValidSettings.withPoolSize (settings : ValidSettings) (size : Nat) : ValidSettings where
  toSettings := { settings.toSettings with poolSize := size }
  fault?_eq_none := settings.fault?_eq_none

/-- The size of the pool does not matter for whether settings are valid. -/
theorem ValidSettings.ofSettings_poolSize (raw : Settings) (size : Nat) :
    ofSettings { raw with poolSize := size } = (ofSettings raw).map (·.withPoolSize size) := by
  have hfault : ({ raw with poolSize := size } : Settings).fault? = raw.fault? := rfl
  unfold ofSettings
  split
  · rename_i hnone
    split
    · rfl
    · rename_i hsome
      cases (hfault.symm.trans hnone).symm.trans hsome
  · rename_i hsome
    split
    · rename_i hnone
      cases (hfault.symm.trans hsome).symm.trans hnone
    · rename_i hsome'
      cases (hfault.symm.trans hsome).symm.trans hsome'
      rfl

variable {settings : ValidSettings} {size : Nat}

/-! ## Sessions -/

namespace Session

/-- Two sessions that differ in pools and spare bytes only. -/
abbrev Resembles (settings : ValidSettings) (s t : Session) : Prop :=
  s.Matches settings.toSettings 0 t

theorem resembles_establish (settings : ValidSettings) (size : Nat) (pool pool' : Pool)
    (now : Nat) : Resembles settings (establish (.establish settings pool) now)
      (establish (.establish (settings.withPoolSize size) pool') now) := by
  have hagrees : settings.toSettings.Agrees (settings.withPoolSize size).toSettings := rfl
  exact matches_establish hagrees (Serial.add_zero _).symm pool pool' {} now

variable {s t : Session}

theorem Matches.repool (h : Resembles settings s t) (reuse : Pool → Pool) :
    Resembles settings s (t.repool reuse) :=
  h.withShared (h.shared.withStream (h.shared.stream.withPool s.stream.pool (reuse t.stream.pool)))

theorem Matches.answered (h : Resembles settings s t) (datagram : Bytes) :
    Resembles settings (Handshake.answered s datagram) (Handshake.answered t datagram) := by
  have hcount := h.shared.stream.countSent datagram
  rw [datagram.shift_zero] at hcount
  exact h.withShared (h.shared.withStream hcount)

/-- **The same stimulus** has the same effect. -/
theorem Matches.stimulate_eq (h : Resembles settings s t) (stimulus : Stimulus) :
    Resembles settings (s.stimulate stimulus).1 (t.stimulate stimulus).1
      ∧ (t.stimulate stimulus).2 = (s.stimulate stimulus).2 := by
  have hstep := h.stimulate stimulus
  rwa [stimulus.shift_zero, Outcome.map_shift_zero] at hstep

/-- **The same is seen** of both. -/
theorem Matches.respond_eq_respond (h : Resembles settings s t) (outcome : Option Outcome) :
    t.respond outcome = s.respond outcome := by
  have hrespond := h.respond_eq outcome
  rwa [Response.shift_zero, Outcome.map_shift_zero] at hrespond

end Session

/-! ## Handshakes -/

namespace Handshake

/-- **The same header is read**, whatever is in the pools. -/
theorem exists_open? (settings : ValidSettings) (size : Nat) (p q : Pool) (raw : Bytes) :
    ∃ found p' q', open? settings p raw = (found, p')
      ∧ open? (settings.withPoolSize size) q raw = (found, q') := by
  have hright : (settings.withPoolSize size).mtu = settings.mtu := rfl
  unfold open?
  simp only [Pool.fst_intake, hright]
  exact ⟨_, _, _, rfl, rfl⟩

/-- Two handshakes at the same point, which differ in their pools only. -/
inductive Matches (settings : ValidSettings) (size : Nat) : Handshake → Handshake → Prop where
  /-- Both dial. -/
  | dialing (p q : Pool) (request : Bytes) (tick : Nat) (expiry : Option Nat) :
    Matches settings size (dialing ⟨settings, p, request, tick, expiry⟩)
      (dialing ⟨settings.withPoolSize size, q, request, tick, expiry⟩)
  /-- Both have handed over a request. -/
  | requesting (p q : Pool) (request : Bytes) (tick : Nat) (expiry : Option Nat) :
    Matches settings size (requesting ⟨settings, p, request, tick, expiry⟩)
      (requesting ⟨settings.withPoolSize size, q, request, tick, expiry⟩)
  /-- Both pause while they dial. -/
  | pausing (p q : Pool) (request : Bytes) (tick : Nat) (expiry : Option Nat) (limit : Nat) :
    Matches settings size (pausing ⟨settings, p, request, tick, expiry⟩ limit)
      (pausing ⟨settings.withPoolSize size, q, request, tick, expiry⟩ limit)
  /-- Both listen. -/
  | listening (p q : Pool) :
    Matches settings size (listening settings p) (listening (settings.withPoolSize size) q)
  /-- Both pause while they listen. -/
  | dozing (p q : Pool) (limit : Nat) :
    Matches settings size (dozing settings p limit) (dozing (settings.withPoolSize size) q limit)
  /-- Both have handed over the answer. -/
  | answering {s t : Session} (h : s.Resembles settings t) (datagram : Bytes) :
    Matches settings size (answering s datagram) (answering t datagram)

/-- Two turns that do the same. -/
inductive Alike (settings : ValidSettings) (size : Nat) :
    Turn Handshake Outcome → Turn Handshake Outcome → Prop where
  /-- Both go on to wait. -/
  | waits {p q : Handshake} (h : p.Matches settings size q) :
    Alike settings size (.waits p) (.waits q)
  /-- Both hand over the same datagram. -/
  | hands {p q : Handshake} (h : p.Matches settings size q) (datagram : Bytes) :
    Alike settings size (.hands p datagram) (.hands q datagram)
  /-- Both return a session. -/
  | succeeds {s t : Session} (h : s.Resembles settings t) :
    Alike settings size (.returns (.ok s)) (.returns (.ok t))
  /-- Both fail. -/
  | fails (failure : Failure) :
    Alike settings size (.returns (.error failure)) (.returns (.error failure))

namespace Matches

variable {h k : Handshake}

theorem repool (hmatch : h.Matches settings size k) (reuse : Pool → Pool) :
    h.Matches settings size (k.repool reuse) := by
  cases hmatch with
  | dialing => exact .dialing ..
  | requesting => exact .requesting ..
  | pausing => exact .pausing ..
  | listening => exact .listening ..
  | dozing => exact .dozing ..
  | answering hst datagram => exact .answering (hst.repool reuse) datagram

theorem timers_eq (hmatch : h.Matches settings size k) : k.timers = h.timers := by
  cases hmatch <;> rfl

theorem allows_eq_allows (hmatch : h.Matches settings size k) (now : Nat) (signal : Signal) :
    k.allows now signal = h.allows now signal := by
  cases hmatch <;> cases signal <;> rfl

theorem dialed (p q : Pool) (request : Bytes) (tick : Nat) (expiry : Option Nat) (now : Nat)
    (arrival : Arrival) :
    Alike settings size (Handshake.dialed ⟨settings, p, request, tick, expiry⟩ now arrival)
      (Handshake.dialed ⟨settings.withPoolSize size, q, request, tick, expiry⟩ now arrival) := by
  cases arrival with
  | fault reason => exact .waits (.pausing ..)
  | datagram raw =>
    obtain ⟨found, p, q, hp, hq⟩ := exists_open? settings size p q raw
    unfold Handshake.dialed
    simp only [hp, hq]
    cases found with
    | none => exact .waits (.dialing ..)
    | some header =>
      cases header with
      | dialAck => exact .succeeds (Session.resembles_establish settings size p q now)
      | _ => exact .waits (.dialing ..)

theorem listened (p q : Pool) (now : Nat) (arrival : Arrival) :
    Alike settings size (Handshake.listened settings p now arrival)
      (Handshake.listened (settings.withPoolSize size) q now arrival) := by
  cases arrival with
  | fault reason => exact .waits (.dozing ..)
  | datagram raw =>
    obtain ⟨found, p, q, hp, hq⟩ := exists_open? settings size p q raw
    unfold Handshake.listened
    simp only [hp, hq]
    cases found with
    | none => exact .waits (.listening ..)
    | some header =>
      cases header with
      | dial =>
        obtain ⟨p', hp⟩ := Stream.control_eq (Stream.establish settings p) .dialAck
        obtain ⟨q', hq⟩ :=
          Stream.control_eq (Stream.establish (settings.withPoolSize size) q) .dialAck
        simp only [hp, hq]
        exact .hands (.answering (Session.resembles_establish settings size p' q' now) _) _
      | _ => exact .waits (.listening ..)

/-- **A turn.** Handshakes that differ in their pools only do the same. -/
theorem resume (hmatch : h.Matches settings size k) (now : Nat) (signal : Signal) :
    Alike settings size (h.resume now signal) (k.resume now signal) := by
  have hstay : Alike settings size (.waits h) (.waits k) := .waits hmatch
  cases hmatch with
  | dialing p q request tick expiry =>
    cases signal with
    | due => exact .hands (.requesting ..) request
    | arrived arrival => exact dialed p q request tick expiry now arrival
    | expired => exact .fails _
    | _ => exact hstay
  | requesting p q request tick expiry =>
    cases signal with
    | sent => exact .waits (.dialing ..)
    | unsent reason => exact .waits (.dialing ..)
    | expired => exact .fails _
    | _ => exact hstay
  | pausing p q request tick expiry limit =>
    cases signal with
    | due => exact .waits (.dialing ..)
    | expired => exact .fails _
    | _ => exact hstay
  | listening p q =>
    cases signal with
    | arrived arrival => exact listened p q now arrival
    | _ => exact hstay
  | dozing p q limit =>
    cases signal with
    | due => exact .waits (.listening ..)
    | _ => exact hstay
  | answering hst datagram =>
    cases signal with
    | sent => exact .succeeds (hst.answered datagram)
    | unsent reason => exact .fails _
    | _ => exact hstay

end Matches

/-- **The first turn.** -/
theorem alike_begin (size : Nat) {raw : Settings}
    (hvalid : ValidSettings.ofSettings raw = .ok settings) (role : Role) (now : Nat) :
    Alike settings size (role.begin raw now) (role.begin { raw with poolSize := size } now) := by
  have hother := ValidSettings.ofSettings_poolSize raw size
  rw [hvalid] at hother
  cases role with
  | listens =>
    unfold Role.begin listen
    simp only [hvalid, hother, Except.map]
    exact .waits (.listening ..)
  | dials =>
    unfold Role.begin dial
    simp only [hvalid, hother, Except.map]
    obtain ⟨p, hp⟩ := Stream.control_eq (Stream.establish settings (.empty settings.poolSize)) .dial
    obtain ⟨q, hq⟩ := Stream.control_eq
      (Stream.establish (settings.withPoolSize size) (.empty (settings.withPoolSize size).poolSize))
      .dial
    simp only [hp, hq]
    exact .waits (.dialing ..)

end Handshake

/-! ## Ends -/

namespace Stage

/-- Two ends that have come equally far, and differ in their pools only. -/
inductive Matches (settings : ValidSettings) (size : Nat) : Stage → Stage → Prop where
  /-- Both are at a handshake. -/
  | shaking {p q : Handshake} (h : p.Matches settings size q) :
    Matches settings size (shaking p) (shaking q)
  /-- Both have a session. -/
  | established {s t : Session} (h : s.Resembles settings t) :
    Matches settings size (established s) (established t)
  /-- Both have failed. -/
  | failed (failure : Failure) : Matches settings size (failed failure) (failed failure)

theorem matches_ofTurn {a b : Turn Handshake Handshake.Outcome}
    (h : Handshake.Alike settings size a b) :
    (ofTurn a).1.Matches settings size (ofTurn b).1 ∧ (ofTurn b).2 = (ofTurn a).2 := by
  cases h with
  | waits hpq => exact ⟨.shaking hpq, rfl⟩
  | hands hpq datagram => exact ⟨.shaking hpq, rfl⟩
  | succeeds hst => exact ⟨.established hst, rfl⟩
  | fails failure => exact ⟨.failed failure, rfl⟩

namespace Matches

variable {a b : Stage}

theorem repool (h : a.Matches settings size b) (reuse : Pool → Pool) :
    a.Matches settings size (b.repool reuse) := by
  cases h with
  | shaking hpq => exact .shaking (hpq.repool reuse)
  | established hst => exact .established (hst.repool reuse)
  | failed failure => exact .failed failure

/-- **A step.** Ends that differ in their pools only do the same. -/
theorem stimulate (h : a.Matches settings size b) (stimulus : Stimulus) :
    (a.stimulate stimulus).1.Matches settings size (b.stimulate stimulus).1
      ∧ (b.stimulate stimulus).2 = (a.stimulate stimulus).2 := by
  cases h with
  | failed failure => exact ⟨.failed failure, rfl⟩
  | established hst =>
    obtain ⟨hstep, houtcome⟩ := hst.stimulate_eq stimulus
    exact ⟨.established hstep, houtcome⟩
  | shaking hpq =>
    cases stimulus with
    | call now id operation => exact ⟨.shaking hpq, rfl⟩
    | cancel id => exact ⟨.shaking hpq, rfl⟩
    | turn now me signal =>
      unfold Stage.stimulate
      simp only [hpq.allows_eq_allows]
      split
      · exact matches_ofTurn (hpq.resume now signal)
      · exact ⟨.shaking hpq, rfl⟩

/-- **The same is seen** of both. -/
theorem sight_eq (h : a.Matches settings size b) (outcome : Option Outcome) :
    b.sight outcome = a.sight outcome := by
  cases h with
  | failed failure => rfl
  | shaking hpq => exact congrArg (Sight.shaking outcome) hpq.timers_eq
  | established hst =>
    have hsend := hst.shared.stream.sendWindow.wire_eq
    have hreceive := hst.shared.stream.receiveWindow.wire_eq
    unfold sight Session.stream
    simp only [hst.respond_eq_respond, hsend, hreceive]

/-- **A run** in which the pool of one of the ends is exchanged all the time. -/
theorem sights_eq (h : a.Matches settings size b) (hb : b.IsFor (settings.withPoolSize size))
    (run : List ((Pool → Pool) × Stimulus)) :
    Strict.sights b run = some (a.sights (run.map Prod.snd)) := by
  induction run generalizing a b with
  | nil => rfl
  | cons entry rest ih =>
    obtain ⟨reuse, stimulus⟩ := entry
    obtain ⟨hstrict, hfor⟩ := (hb.repool reuse).stimulate stimulus
    obtain ⟨hnext, houtcome⟩ := (h.repool reuse).stimulate stimulus
    unfold Strict.sights
    simp only [hstrict, ih hnext hfor, hnext.sight_eq, houtcome, Option.bind_eq_bind,
      Option.bind_some]
    rfl

end Matches

/-- An end whose handshake cannot begin has failed for good. -/
theorem sights_failed (failure : Failure) (run : List ((Pool → Pool) × Stimulus)) :
    Strict.sights (failed failure) run = some ((failed failure).sights (run.map Prod.snd)) := by
  induction run with
  | nil => rfl
  | cons entry rest ih =>
    unfold Strict.sights
    simp only [Strict.stimulate, repool, ih, Option.bind_eq_bind, Option.bind_some]
    rfl

/-- With settings that are not valid, neither role gets anywhere. -/
theorem begin_eq_failed (role : Role) {raw : Settings} {now : Nat} {e : SettingsError}
    (h : ValidSettings.ofSettings raw = .error e) : begin role raw now = failed (.settings e) := by
  cases role with
  | dials =>
    unfold begin Role.begin Handshake.dial
    rw [h]
    rfl
  | listens =>
    unfold begin Role.begin Handshake.listen
    rw [h]
    rfl

/-- **The reuse of buffers is unobservable.** An end dials or listens, and then whatever happens to
it, with any datagrams and any faults of the socket. A second end differs in how many buffers it
keeps. The same happens to it, and before each step its pool is exchanged for any other one, with
any bytes in its buffers. All that it does it does in these buffers, byte by byte, and it always has
a result. The same can be seen of both: what calls return, what is handed to the socket, what agents
wait for, the counters, the round trips, and what is in the windows. -/
theorem sights_eq_of_reuse (role : Role) (raw : Settings) (size now : Nat)
    (run : List ((Pool → Pool) × Stimulus)) :
    (do Strict.sights (← Strict.begin role { raw with poolSize := size } now) run)
      = some ((begin role raw now).sights (run.map Prod.snd)) := by
  unfold Strict.begin
  rw [Handshake.Strict.begin_eq]
  show Strict.sights (begin role { raw with poolSize := size } now) run = _
  have hother := ValidSettings.ofSettings_poolSize raw size
  cases hvalid : ValidSettings.ofSettings raw with
  | ok settings =>
    rw [hvalid] at hother
    have hmatches := (matches_ofTurn (Handshake.alike_begin size hvalid role now)).1
    exact Matches.sights_eq hmatches (isFor_begin hother role now) run
  | error e =>
    rw [hvalid] at hother
    rw [begin_eq_failed role hvalid, begin_eq_failed role hother]
    exact sights_failed _ run

end Stage

end Redelivery
