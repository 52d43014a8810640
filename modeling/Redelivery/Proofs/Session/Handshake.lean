import Redelivery.Handshake
import Redelivery.Proofs.Network
import Redelivery.Proofs.Session.Orderly
import Redelivery.Proofs.Stream.Accounting

/-!
# What comes of a handshake

A handshake returns the session of a stream that has just been established, and has at most counted
the datagram that answered the other end. So networks start where two handshakes have ended.

## Main definitions

* `Session.IsNew`: the session of a stream that has just been established.
* `Handshake.follow`: the turns of a handshake.

## Main statements

* `Handshake.isNew_of_dial`, `Handshake.isNew_of_listen`: what a handshake returns.
* `Network.isStart_of_isNew`: where networks start.

A handshake carries its settings with it, as valid ones, from its first turn on. `IsFor` says which,
and `resume_proceeds` is the one step that there is to prove: the handshake goes on for the same
settings, or it returns a new session, or it fails. Counting an answer that was sent is all that
happens to a stream before it is handed out (`answered_isNew`), and it is not counted where the
socket refused it.
-/

namespace Redelivery

/-- The session of a stream that has just been established with the given settings. No segments are
counted. -/
def Session.IsNew (settings : ValidSettings) (session : Session) : Prop :=
  ∃ pool traffic now, traffic.NoSegments
    ∧ session = .establish { Stream.establish settings pool with traffic := traffic } now

namespace Handshake

variable {settings : ValidSettings} {h : Handshake} {turn : Turn Handshake Outcome}

/-- The handshake establishes a stream with the given settings. -/
def IsFor (settings : ValidSettings) : Handshake → Prop
  | dialing d => d.settings = settings
  | requesting d => d.settings = settings
  | pausing d _ => d.settings = settings
  | listening s _ => s = settings
  | dozing s _ _ => s = settings
  | answering session _ => session.IsNew settings

/-- The handshake goes on, or it returns a new session or a failure. -/
structure Proceeds (settings : ValidSettings) (turn : Turn Handshake Outcome) : Prop where
  /-- Where it goes on. -/
  point : ∀ h, turn.point? = some h → h.IsFor settings
  /-- What it returns. -/
  returns : ∀ session, turn = .returns (.ok session) → session.IsNew settings

theorem Proceeds.waits (hfor : h.IsFor settings) : Proceeds settings (.waits h) where
  point _ heq := by cases heq; exact hfor
  returns _ heq := by cases heq

theorem Proceeds.hands (hfor : h.IsFor settings) (datagram : Bytes) :
    Proceeds settings (.hands h datagram) where
  point _ heq := by cases heq; exact hfor
  returns _ heq := by cases heq

theorem Proceeds.succeeds {session : Session} (hnew : session.IsNew settings) :
    Proceeds settings (.returns (.ok session)) where
  point _ heq := by cases heq
  returns _ heq := by cases heq; exact hnew

theorem Proceeds.fails (failure : Failure) : Proceeds settings (.returns (.error failure)) where
  point _ heq := by cases heq
  returns _ heq := by cases heq

theorem dial_proceeds {raw : Settings} (hvalid : ValidSettings.ofSettings raw = .ok settings)
    (now : Nat) : Proceeds settings (dial raw now) := by
  unfold dial
  rw [hvalid]
  simp only
  split
  · exact .fails _
  · exact .waits rfl

theorem listen_proceeds {raw : Settings} (hvalid : ValidSettings.ofSettings raw = .ok settings) :
    Proceeds settings (listen raw) := by
  unfold listen
  rw [hvalid]
  exact .waits rfl

theorem dialed_proceeds {d : Dial} (hd : d.settings = settings) (now : Nat) (arrival : Arrival) :
    Proceeds settings (dialed d now arrival) := by
  unfold dialed
  split
  · exact .waits hd
  · split
    · rename_i pool _
      rw [hd]
      exact .succeeds ⟨pool, {}, now, ⟨rfl, rfl, rfl⟩, rfl⟩
    · exact .waits hd

theorem listened_proceeds (settings : ValidSettings) (pool : Pool) (now : Nat) (arrival : Arrival) :
    Proceeds settings (listened settings pool now arrival) := by
  unfold listened
  split
  · exact .waits rfl
  · split
    · split
      · exact .fails _
      · rename_i datagram stream heq
        -- writing the answer has borrowed a buffer, and changed nothing else
        have hstream : stream = { Stream.establish settings stream.pool with traffic := {} } := by
          obtain rfl := (Prod.mk.inj heq).2
          rfl
        refine .hands (h := answering (.establish stream now) datagram) ?_ _
        exact ⟨stream.pool, {}, now, ⟨rfl, rfl, rfl⟩, congrArg (Session.establish · now) hstream⟩
    · exact .waits rfl

/-- The answer is counted as sent. -/
theorem answered_isNew {session : Session} (hnew : session.IsNew settings) (datagram : Bytes) :
    (answered session datagram).IsNew settings := by
  obtain ⟨pool, traffic, now, hnone, rfl⟩ := hnew
  exact ⟨pool, traffic.sent datagram.length, now, ⟨hnone.1, hnone.2, hnone.3⟩, rfl⟩

/-- **A turn.** -/
theorem resume_proceeds (hfor : h.IsFor settings) (now : Nat) (signal : Signal) :
    Proceeds settings (h.resume now signal) := by
  have hstay : Proceeds settings (.waits h) := .waits hfor
  cases h with
  | dialing d =>
    cases signal with
    | due =>
      exact .hands (h := requesting { d with tick := d.tick + d.settings.dialInterval }) hfor _
    | arrived arrival => exact dialed_proceeds hfor now arrival
    | expired => exact .fails _
    | _ => exact hstay
  | requesting d =>
    cases signal with
    | sent => exact .waits (h := dialing d) hfor
    | unsent reason => exact .waits (h := dialing d) hfor
    | expired => exact .fails _
    | _ => exact hstay
  | pausing d limit =>
    cases signal with
    | due => exact .waits (h := dialing d) hfor
    | expired => exact .fails _
    | _ => exact hstay
  | listening s pool =>
    obtain rfl : s = settings := hfor
    cases signal with
    | arrived arrival => exact listened_proceeds s pool now arrival
    | _ => exact hstay
  | dozing s pool limit =>
    cases signal with
    | due => exact .waits (h := listening s pool) hfor
    | _ => exact hstay
  | answering session datagram =>
    cases signal with
    | sent => exact .succeeds (answered_isNew hfor datagram)
    | unsent reason => exact .fails _
    | _ => exact hstay

/-! ## From the first turn to the last -/

/-- A handshake after some more signals, each at its time. -/
def follow (turn : Turn Handshake Outcome) : List (Nat × Signal) → Turn Handshake Outcome
  | [] => turn
  | (now, signal) :: rest =>
    match turn.point? with
    | some h => follow (h.resume now signal) rest
    | none => turn

theorem Proceeds.follow (hturn : Proceeds settings turn) (signals : List (Nat × Signal)) :
    Proceeds settings (follow turn signals) := by
  induction signals generalizing turn with
  | nil => exact hturn
  | cons entry rest ih =>
    unfold Handshake.follow
    split
    · rename_i h hpoint
      exact ih (resume_proceeds (hturn.point h hpoint) entry.1 entry.2)
    · exact hturn

/-- **An end that dials** gets a new session, if any. -/
theorem isNew_of_dial {raw : Settings} (hvalid : ValidSettings.ofSettings raw = .ok settings)
    {now : Nat} {signals : List (Nat × Signal)} {session : Session}
    (h : follow (dial raw now) signals = .returns (.ok session)) : session.IsNew settings :=
  ((dial_proceeds hvalid now).follow signals).returns session h

/-- **An end that listens** gets a new session, if any. -/
theorem isNew_of_listen {raw : Settings} (hvalid : ValidSettings.ofSettings raw = .ok settings)
    {signals : List (Nat × Signal)} {session : Session}
    (h : follow (listen raw) signals = .returns (.ok session)) : session.IsNew settings :=
  ((listen_proceeds hvalid).follow signals).returns session h

end Handshake

/-- **Networks start** with two new sessions. -/
theorem Network.isStart_of_isNew {settings : ValidSettings} {session : Side → Session}
    (hnew : ∀ side, (session side).IsNew settings) {flights : Side → List Flight}
    (hflights : ∀ side, ∀ f ∈ flights side,
      f.datagram = Header.dial.datagram [] ∨ f.datagram = Header.dialAck.datagram []) (now : Nat) :
    ({ now := now, peer := fun side => { session := session side }, flights := flights } :
      Network).IsStart settings where
  peer_eq side := by
    obtain ⟨pool, traffic, time, -, heq⟩ := hnew side
    exact ⟨pool, traffic, time, congrArg (fun s => ({ session := s } : Peer)) heq⟩
  flights_eq := hflights

end Redelivery
