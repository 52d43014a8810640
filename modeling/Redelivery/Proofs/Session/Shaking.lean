import Redelivery.Proofs.Reuse.Stage
import Redelivery.Proofs.Strict.Session

/-!
# What a handshake waits for

Either end of a handshake waits for one kind of datagram: an end that dials waits for an answer, an
end that listens waits for a request. When that arrives there is a stream. Everything else that
arrives is ignored, and an end that listens is silent until then.

## Main definitions

* `Role.awaited`: the header that an end waits for.
* `Handshake.role`, `Handshake.stream?`: which end it is, and the stream that it has created.
* `Handshake.Steps`: what a turn of a handshake may come to.

## Main statements

* `Handshake.resume_ignores`: what else arrives is ignored.
* `Handshake.resume_steps`: what a turn comes to.

`Handshake.Steps` leaves time out. Whether a request is due, whether the time is up, and in what
order such signals come with what arrives is not looked at, so `resume_steps` holds for any signal
at any time; which of them may come is up to whoever runs the handshake. Of its cases, one creates a
stream, and it asks for the awaited header. The stream is created in the turn in which that arrives,
also at the end that listens, which still has to send the answer then.

The role of a handshake never changes (`Steps.role_eq`), and the end that listens hands over nothing
before it has a stream. This is what the agreement of both ends rides on.
-/

namespace Redelivery

/-- The header of a datagram as it is received. What does not fit into a buffer is cut off. -/
def ValidSettings.header? (settings : ValidSettings) (raw : Bytes) : Option Header :=
  (Header.ofDatagram? (raw.take settings.mtu)).map (·.1)

/-- Valid settings pass their check. -/
theorem ValidSettings.ofSettings_toSettings (settings : ValidSettings) :
    ofSettings settings.toSettings = .ok settings := by
  unfold ofSettings
  split
  · rfl
  · rename_i e h
    rw [settings.fault?_eq_none] at h
    cases h

/-- The header that an end waits for. -/
def Role.awaited : Role → Header
  | dials => .dialAck
  | listens => .dial

/-- Both windows of the stream start where the settings say, and so do its serial numbers. -/
structure Stream.Begins (settings : ValidSettings) (s : Stream) : Prop where
  /-- The send window. -/
  sendWindow : s.sendWindow
    = .empty settings.windowSize settings.initialSerial settings.windowSize_pos
  /-- The receive window. -/
  receiveWindow : s.receiveWindow
    = .empty settings.windowSize settings.initialSerial settings.windowSize_pos
  /-- The next serial number. -/
  next : s.next = settings.initialSerial

theorem Session.IsNew.begins {settings : ValidSettings} {s : Session} (h : s.IsNew settings) :
    s.stream.Begins settings := by
  obtain ⟨pool, traffic, now, -, rfl⟩ := h
  exact ⟨rfl, rfl, rfl⟩

namespace Handshake

variable {settings : ValidSettings} {h : Handshake} {now : Nat} {signal : Signal}
  {turn : Turn Handshake Outcome}

/-! ## Points -/

/-- Which end it is. -/
def role : Handshake → Role
  | dialing _ => .dials
  | requesting _ => .dials
  | pausing _ _ => .dials
  | listening _ _ => .listens
  | dozing _ _ _ => .listens
  | answering _ _ => .listens

/-- The stream, if there is one already and only the answer has yet to be sent. -/
def stream? : Handshake → Option Stream
  | answering session _ => some session.stream
  | _ => none

/-- The stream that there is after a turn. -/
def streamAfter? : Turn Handshake Outcome → Option Stream
  | .returns (.ok session) => some session.stream
  | turn => turn.point?.bind stream?

/-- The stream that is created in a turn. -/
def created? (h : Handshake) (turn : Turn Handshake Outcome) : Option Stream :=
  if h.stream?.isSome then none else streamAfter? turn

/-- What arrives is read in a buffer from the pool. -/
theorem open?_eq (settings : ValidSettings) (pool : Pool) (raw : Bytes) :
    ∃ pool', open? settings pool raw = (settings.header? raw, pool') := by
  unfold open? ValidSettings.header?
  simp only [Pool.fst_intake]
  exact ⟨_, rfl⟩

/-! ## What is ignored -/

theorem dialed_ignores {d : Dial} (hd : d.settings = settings) {raw : Bytes}
    (hne : settings.header? raw ≠ some .dialAck) (now : Nat) :
    ∃ pool, dialed d now (.datagram raw) = .waits (dialing { d with pool := pool }) := by
  obtain ⟨pool, hopen⟩ := open?_eq d.settings d.pool raw
  rw [hd] at hopen
  unfold dialed
  simp only [hd, hopen]
  cases hheader : settings.header? raw with
  | none => exact ⟨pool, rfl⟩
  | some header =>
    cases header with
    | dialAck => exact absurd hheader hne
    | _ => exact ⟨pool, rfl⟩

theorem listened_ignores (pool : Pool) {raw : Bytes} (hne : settings.header? raw ≠ some .dial)
    (now : Nat) : ∃ pool', listened settings pool now (.datagram raw)
      = .waits (listening settings pool') := by
  obtain ⟨pool', hopen⟩ := open?_eq settings pool raw
  unfold listened
  simp only [hopen]
  cases hheader : settings.header? raw with
  | none => exact ⟨pool', rfl⟩
  | some header =>
    cases header with
    | dial => exact absurd hheader hne
    | _ => exact ⟨pool', rfl⟩

/-- What a turn of a handshake may come to. -/
inductive Steps (settings : ValidSettings) (h : Handshake) (signal : Signal) :
    Turn Handshake Outcome → Prop where
  /-- It goes on. Only an end that dials hands over something. -/
  | goesOn {turn : Turn Handshake Outcome} {h' : Handshake} (hpoint : turn.point? = some h')
      (hrole : h'.role = h.role) (hstream : h'.stream? = h.stream?)
      (hquiet : h.role = .listens → turn.handed? = none) : Steps settings h signal turn
  /-- What it has waited for arrives, and there is a stream. An end that listens answers first. -/
  | creates {turn : Turn Handshake Outcome} {session : Session} {raw : Bytes}
      (hsignal : signal = .arrived (.datagram raw))
      (hawaited : settings.header? raw = some h.role.awaited) (hnone : h.stream? = none)
      (hnew : session.IsNew settings)
      (hturn : turn = .returns (.ok session)
        ∨ h.role = .listens ∧ ∃ datagram, turn = .hands (answering session datagram) datagram) :
      Steps settings h signal turn
  /-- The answer was sent. -/
  | finishes {session : Session} (hnew : session.IsNew settings) (hsome : h.stream?.isSome) :
      Steps settings h signal (.returns (.ok session))
  /-- It fails. -/
  | fails (failure : Failure) : Steps settings h signal (.returns (.error failure))

theorem dialed_steps {d : Dial} (hd : d.settings = settings) (now : Nat) (arrival : Arrival) :
    Steps settings (dialing d) (.arrived arrival) (dialed d now arrival) := by
  cases arrival with
  | fault reason => exact .goesOn rfl rfl rfl fun hrole => by cases hrole
  | datagram raw =>
    by_cases hawaited : settings.header? raw = some .dialAck
    · obtain ⟨pool, hopen⟩ := open?_eq d.settings d.pool raw
      rw [hd, hawaited] at hopen
      unfold dialed
      simp only [hd, hopen]
      exact .creates rfl hawaited rfl ⟨pool, {}, now, ⟨rfl, rfl, rfl⟩, rfl⟩ (Or.inl rfl)
    · obtain ⟨pool, heq⟩ := dialed_ignores hd hawaited now
      rw [heq]
      exact .goesOn rfl rfl rfl fun _ => rfl

theorem listened_steps (pool : Pool) (now : Nat) (arrival : Arrival) :
    Steps settings (listening settings pool) (.arrived arrival)
      (listened settings pool now arrival) := by
  cases arrival with
  | fault reason => exact .goesOn rfl rfl rfl fun _ => rfl
  | datagram raw =>
    by_cases hawaited : settings.header? raw = some .dial
    · have hproceeds := listened_proceeds settings pool now (.datagram raw)
      obtain ⟨pool', hopen⟩ := open?_eq settings pool raw
      rw [hawaited] at hopen
      unfold listened at hproceeds ⊢
      simp only [hopen] at hproceeds ⊢
      split at hproceeds
      · exact .fails _
      · exact .creates rfl hawaited rfl (hproceeds.point _ rfl) (Or.inr ⟨rfl, _, rfl⟩)
    · obtain ⟨pool', heq⟩ := listened_ignores pool hawaited now
      rw [heq]
      exact .goesOn rfl rfl rfl fun _ => rfl

/-- **What a turn comes to.** -/
theorem resume_steps (hfor : h.IsFor settings) (now : Nat) (signal : Signal) :
    Steps settings h signal (h.resume now signal) := by
  have hstay : Steps settings h signal (.waits h) := .goesOn rfl rfl rfl fun _ => rfl
  cases h with
  | dialing d =>
    cases signal with
    | due => exact .goesOn rfl rfl rfl fun hrole => by cases hrole
    | arrived arrival => exact dialed_steps hfor now arrival
    | expired => exact .fails _
    | _ => exact hstay
  | requesting d =>
    cases signal with
    | sent => exact .goesOn rfl rfl rfl fun _ => rfl
    | unsent reason => exact .goesOn rfl rfl rfl fun _ => rfl
    | expired => exact .fails _
    | _ => exact hstay
  | pausing d limit =>
    cases signal with
    | due => exact .goesOn rfl rfl rfl fun _ => rfl
    | expired => exact .fails _
    | _ => exact hstay
  | listening s pool =>
    obtain rfl : s = settings := hfor
    cases signal with
    | arrived arrival => exact listened_steps pool now arrival
    | _ => exact hstay
  | dozing s pool limit =>
    cases signal with
    | due => exact .goesOn rfl rfl rfl fun _ => rfl
    | _ => exact hstay
  | answering session datagram =>
    cases signal with
    | sent => exact .finishes (answered_isNew hfor datagram) rfl
    | unsent reason => exact .fails _
    | _ => exact hstay

theorem Steps.role_eq (hsteps : Steps settings h signal turn) {h' : Handshake}
    (hpoint : turn.point? = some h') : h'.role = h.role := by
  cases hsteps with
  | goesOn hgoes hrole =>
    cases hgoes.symm.trans hpoint
    exact hrole
  | creates hsignal hawaited hnone hnew hturn =>
    rcases hturn with rfl | ⟨hrole, datagram, rfl⟩
    · cases hpoint
    · cases hpoint
      exact hrole.symm
  | finishes => cases hpoint
  | fails => cases hpoint

/-- **The first turn** of a handshake: it waits, and there is no stream. -/
theorem exists_begin (settings : ValidSettings) (now : Nat) (role : Role) :
    ∃ h, role.begin settings.toSettings now = .waits h ∧ h.IsFor settings ∧ h.role = role
      ∧ h.stream? = none := by
  have hvalid := settings.ofSettings_toSettings
  cases role with
  | dials =>
    obtain ⟨pool, hcontrol⟩ :=
      (Stream.establish settings (.empty settings.poolSize)).control_eq .dial
    unfold Role.begin dial
    rw [hvalid]
    simp only [hcontrol]
    exact ⟨_, rfl, rfl, rfl, rfl⟩
  | listens =>
    unfold Role.begin listen
    rw [hvalid]
    exact ⟨_, rfl, rfl, rfl, rfl⟩

/-! ## Streams -/

/-- Whoever goes on creates no stream. -/
theorem created?_of_goesOn {h' : Handshake} (hpoint : turn.point? = some h')
    (hstream : h'.stream? = h.stream?) : h.created? turn = none := by
  unfold created?
  cases hnone : h.stream? with
  | some s => rfl
  | none =>
    rw [hnone] at hstream
    cases turn with
    | waits point =>
      cases hpoint
      exact hstream
    | hands point datagram =>
      cases hpoint
      exact hstream
    | returns outcome => cases hpoint

end Handshake

end Redelivery
