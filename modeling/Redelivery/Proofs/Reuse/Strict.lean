import Redelivery.Proofs.Reuse.Stage
import Redelivery.Proofs.Strict.Session

/-!
# Buffers in use, from the handshake on

A run of an end once more, byte by byte. A buffer that comes from the pool has its old bytes in it,
and a strict operation that makes it longer shows them until they are overwritten. Before everything
that happens, the pool may be exchanged for another one.

The strict run has a result, and each of its steps does what the plain step does on the same pool.

## Main definitions

* `Handshake.Strict.dial`, `Handshake.Strict.listened`, `Handshake.Strict.resume`: strict turns.
* `Stage.Strict.begin`, `Stage.Strict.stimulate`, `Stage.Strict.sights`: strict runs.

## Main statements

* `Handshake.Strict.resume_eq`: strict turns have results.
* `Stage.IsFor.stimulate`: so has a strict step, and it leads to a stage with the same settings.

The equations follow the functions. `Pool.Strict.intake_eq` and `Header.Strict.ofDatagram_eq` are
all that is needed of what arrives, since a handshake looks at the header only;
`Stream.Strict.control_eq` says that the answer can be written. From the handshake on it is
`Session.Sound` that gives the results: what it says of agents and of the stream holds of whatever a
call or a turn leaves behind, and the pool does not occur in it, so it survives `Session.repool`.

`Stage.IsFor` is the invariant of a run. It is `Session.Sound` where there is a session, and before
that what `Handshake.Proceeds` promises of each turn of a handshake.
-/

namespace Redelivery

variable {settings : ValidSettings}

/-! ## Handshakes -/

namespace Handshake

namespace Strict

/-- The header of what arrived, if it is valid. The bytes pass through a buffer from the pool. -/
def open? (settings : ValidSettings) (pool : Pool) (raw : Bytes) :
    Option (Option Header × Pool) := do
  let (datagram, pool) ← Pool.Strict.intake pool settings.mtu raw
  let found ← Header.Strict.ofDatagram datagram
  some (found.map (·.1), pool)

/-- The session of a stream that is established now. -/
def establish (settings : ValidSettings) (pool : Pool) (now : Nat) : Option Session := do
  let stream ← Stream.Strict.establish settings pool
  Session.Strict.establish stream now

/-- The first turn of a dialing end. -/
def dial (settings : Settings) (now : Nat) : Option (Turn Handshake Outcome) :=
  match ValidSettings.ofSettings settings with
  | .error e => some (.returns (.error (.settings e)))
  | .ok settings => do
    let stream ← Stream.Strict.establish settings (.empty settings.poolSize)
    let (request, stream) ← Stream.Strict.control stream .dial
    some <| .waits <| dialing
      { settings := settings
        pool := stream.pool
        request := request
        tick := now
        expiry := settings.dialTimeout.map (now + ·) }

/-- A dialing end takes in what the socket delivered. -/
def dialed (d : Dial) (now : Nat) : Arrival → Option (Turn Handshake Outcome)
  | .fault _ => some (.waits (pausing d (now + d.settings.dialInterval)))
  | .datagram raw => do
    match ← open? d.settings d.pool raw with
    | (some .dialAck, pool) => (establish d.settings pool now).map fun s => .returns (.ok s)
    | (_, pool) => some (.waits (dialing { d with pool := pool }))

/-- A listening end takes in what the socket delivered. -/
def listened (settings : ValidSettings) (pool : Pool) (now : Nat) :
    Arrival → Option (Turn Handshake Outcome)
  | .fault _ => some (.waits (dozing settings pool (now + settings.dialInterval)))
  | .datagram raw => do
    match ← open? settings pool raw with
    | (some .dial, pool) =>
      let stream ← Stream.Strict.establish settings pool
      let (datagram, stream) ← Stream.Strict.control stream .dialAck
      let session ← Session.Strict.establish stream now
      some (.hands (answering session datagram) datagram)
    | (_, pool) => some (.waits (listening settings pool))

/-- The turn that a signal gives to a handshake. Other signals than arrivals touch no buffer. -/
def resume (h : Handshake) (now : Nat) (signal : Signal) : Option (Turn Handshake Outcome) :=
  match h, signal with
  | dialing d, .arrived arrival => dialed d now arrival
  | listening settings pool, .arrived arrival => listened settings pool now arrival
  | h, signal => some (h.resume now signal)

/-- The first turn of a handshake. -/
def begin (settings : Settings) (now : Nat) : Role → Option (Turn Handshake Outcome)
  | .dials => dial settings now
  | .listens => some (Handshake.listen settings)

theorem open?_eq (settings : ValidSettings) (pool : Pool) (raw : Bytes) :
    open? settings pool raw = some (Handshake.open? settings pool raw) := by
  unfold open?
  simp only [Pool.Strict.intake_eq, Header.Strict.ofDatagram_eq, Option.bind_eq_bind,
    Option.bind_some]
  rfl

theorem establish_eq (settings : ValidSettings) (pool : Pool) (now : Nat) :
    establish settings pool now = some (.establish (.establish settings pool) now) :=
  Session.Strict.establish_eq settings pool now

theorem dialed_eq (d : Dial) (now : Nat) (arrival : Arrival) :
    dialed d now arrival = some (Handshake.dialed d now arrival) := by
  cases arrival with
  | fault reason => rfl
  | datagram raw =>
    unfold dialed Handshake.dialed
    simp only [open?_eq, Option.bind_eq_bind, Option.bind_some]
    obtain ⟨found, pool⟩ := Handshake.open? d.settings d.pool raw
    cases found with
    | none => rfl
    | some header =>
      cases header with
      | dialAck =>
        simp only [establish_eq]
        rfl
      | _ => rfl

theorem listened_eq (settings : ValidSettings) (pool : Pool) (now : Nat) (arrival : Arrival) :
    listened settings pool now arrival = some (Handshake.listened settings pool now arrival) := by
  cases arrival with
  | fault reason => rfl
  | datagram raw =>
    unfold listened Handshake.listened
    simp only [open?_eq, Option.bind_eq_bind, Option.bind_some]
    obtain ⟨found, pool⟩ := Handshake.open? settings pool raw
    cases found with
    | none => rfl
    | some header =>
      cases header with
      | dial =>
        obtain ⟨q, hcontrol⟩ := Stream.control_eq (Stream.establish settings pool) .dialAck
        have hstrict := Stream.Strict.control_eq (Stream.establish settings pool) .dialAck
        rw [hcontrol] at hstrict
        simp only [Stream.Strict.establish_eq, hstrict, hcontrol, Option.bind_some,
          Session.Strict.establish, Flusher.begin_strict, Option.bind_eq_bind]
        rfl
      | _ => rfl

/-- **A turn of a handshake has a result**, whatever is in the pool. -/
theorem resume_eq (h : Handshake) (now : Nat) (signal : Signal) :
    resume h now signal = some (h.resume now signal) := by
  unfold resume
  split
  · exact dialed_eq _ now _
  · exact listened_eq _ _ now _
  · rfl

/-- **A handshake begins.** -/
theorem begin_eq (settings : Settings) (now : Nat) (role : Role) :
    begin settings now role = some (role.begin settings now) := by
  cases role with
  | listens => rfl
  | dials =>
    unfold begin Role.begin dial Handshake.dial
    cases ValidSettings.ofSettings settings with
    | error e => rfl
    | ok settings =>
      obtain ⟨q, hcontrol⟩ :=
        Stream.control_eq (Stream.establish settings (.empty settings.poolSize)) .dial
      have hstrict :=
        Stream.Strict.control_eq (Stream.establish settings (.empty settings.poolSize)) .dial
      rw [hcontrol] at hstrict
      simp only [Stream.Strict.establish_eq, hstrict, hcontrol, Option.bind_eq_bind,
        Option.bind_some]

end Strict

end Handshake

/-! ## Sessions -/

namespace Session

/-- What comes of a stimulus. -/
def Strict.stimulate (s : Session) : Stimulus → Option (Session × Option Outcome)
  | .call _ id (.read buffer) => (Strict.read s id buffer).map fun step => (step.1, some step.2)
  | .call now id (.write message) =>
    (Strict.write s now id message).map fun step => (step.1, some step.2)
  | .call _ id .close =>
    let step := s.close id
    some (step.1, some step.2)
  | .cancel id => some (s.cancel id, none)
  | .turn now me signal =>
    if s.allows now me signal then
      (Strict.resume s now me signal).map fun step => (step.1, some step.2)
    else
      some (s, none)

theorem Sound.stimulate {s : Session} (h : s.Sound settings) (stimulus : Stimulus) :
    Strict.stimulate s stimulus = some (s.stimulate stimulus)
      ∧ (s.stimulate stimulus).1.Sound settings := by
  cases stimulus with
  | cancel id => exact ⟨rfl, h.cancel id⟩
  | call now id operation =>
    cases operation with
    | read buffer =>
      exact ⟨congrArg (Option.map _) (h.read id buffer).eq, (h.read id buffer).sound⟩
    | write message =>
      exact ⟨congrArg (Option.map _) (h.write now id message).eq, (h.write now id message).sound⟩
    | close => exact ⟨rfl, (h.close id).sound⟩
  | turn now me signal =>
    unfold Strict.stimulate Session.stimulate
    simp only
    split
    · exact ⟨congrArg (Option.map _) (h.resume now me signal).eq, (h.resume now me signal).sound⟩
    · exact ⟨rfl, h⟩

theorem IsNew.sound {s : Session} (h : s.IsNew settings) : s.Sound settings := by
  obtain ⟨pool, traffic, now, -, rfl⟩ := h
  exact .establish pool traffic now

theorem Sound.repool {s : Session} (h : s.Sound settings) (reuse : Pool → Pool) :
    (s.repool reuse).Sound settings :=
  ⟨h.stream.congr rfl rfl rfl h.stream.size_le, h.calls, h.flusher⟩

end Session

/-! ## Ends -/

namespace Stage

/-- The end establishes a stream with the given settings, or has done so. What its agents have with
them fits. -/
def IsFor (settings : ValidSettings) : Stage → Prop
  | shaking point => point.IsFor settings
  | established session => session.Sound settings
  | failed _ => True

namespace Strict

/-- The first stage of an end. -/
def begin (role : Role) (settings : Settings) (now : Nat) : Option Stage :=
  (Handshake.Strict.begin settings now role).map fun turn => (ofTurn turn).1

/-- What becomes of a stage. -/
def stimulate (stage : Stage) (stimulus : Stimulus) : Option (Stage × Option Outcome) :=
  match stage, stimulus with
  | shaking point, .turn now _ signal =>
    if point.allows now signal then (Handshake.Strict.resume point now signal).map ofTurn
    else some (shaking point, none)
  | established session, stimulus =>
    (Session.Strict.stimulate session stimulus).map fun step => (established step.1, step.2)
  | stage, _ => some (stage, none)

/-- What can be seen of a run in which the pool is exchanged for another one before everything that
happens. -/
def sights (stage : Stage) : List ((Pool → Pool) × Stimulus) → Option (List Sight)
  | [] => some []
  | (reuse, stimulus) :: rest => do
    let (next, outcome) ← stimulate (stage.repool reuse) stimulus
    let others ← sights next rest
    some (next.sight outcome :: others)

end Strict

variable {stage : Stage}

theorem IsFor.repool (h : stage.IsFor settings) (reuse : Pool → Pool) :
    (stage.repool reuse).IsFor settings := by
  cases stage with
  | shaking point => exact Handshake.IsFor.repool h reuse
  | established session => exact Session.Sound.repool h reuse
  | failed failure => trivial

theorem isFor_ofTurn {turn : Turn Handshake Handshake.Outcome}
    (h : Handshake.Proceeds settings turn) : (ofTurn turn).1.IsFor settings := by
  cases turn with
  | waits point => exact h.point point rfl
  | hands point datagram => exact h.point point rfl
  | returns result =>
    cases result with
    | ok session => exact (h.returns session rfl).sound
    | error failure => trivial

/-- **A step has a result**, and the end keeps to its settings. -/
theorem IsFor.stimulate (h : stage.IsFor settings) (stimulus : Stimulus) :
    Strict.stimulate stage stimulus = some (stage.stimulate stimulus)
      ∧ (stage.stimulate stimulus).1.IsFor settings := by
  cases stage with
  | failed failure => exact ⟨rfl, trivial⟩
  | established session =>
    obtain ⟨heq, hsound⟩ := Session.Sound.stimulate h stimulus
    exact ⟨congrArg (Option.map _) heq, hsound⟩
  | shaking point =>
    cases stimulus with
    | call now id operation => exact ⟨rfl, h⟩
    | cancel id => exact ⟨rfl, h⟩
    | turn now me signal =>
      unfold Strict.stimulate Stage.stimulate
      simp only
      split
      · exact ⟨congrArg (Option.map ofTurn) (Handshake.Strict.resume_eq point now signal),
          isFor_ofTurn (Handshake.resume_proceeds h now signal)⟩
      · exact ⟨rfl, h⟩

/-- An end starts with its settings, unless these are not valid. -/
theorem isFor_begin {raw : Settings} (hvalid : ValidSettings.ofSettings raw = .ok settings)
    (role : Role) (now : Nat) : (begin role raw now).IsFor settings := by
  cases role with
  | dials => exact isFor_ofTurn (Handshake.dial_proceeds hvalid now)
  | listens => exact isFor_ofTurn (Handshake.listen_proceeds hvalid)

end Stage

end Redelivery
