import Redelivery.Proofs.Network.Closing
import Redelivery.Proofs.Strict.Session

/-!
# Valid settings are enough

Nothing that a stream does can go wrong where its settings are valid. No index is out of range, no
number is too large for its field, nothing counts below zero and no datagram fails to come out,
whatever has arrived, whoever has abandoned a call and however often the socket has failed.

## Main definitions

* `Network.Unfailing`: whatever may follow at one side has the same result without safety nets.

## Main statements

* `Network.Leads.session_sound`: both sessions are sound, whatever has happened.
* `Network.Leads.never_fails`: whatever is done next succeeds, and what is handed to the socket is
  proper.

It rides on `Session.Sound`, which is kept by whatever happens (`session_sound_undergo`), and on the
strict operations, which are equal to the plain ones wherever that holds. The invariant is about
numbers only: settings are valid, a window has as many segments as it says and no fewer, what is put
together is not longer than a message may be. It says nothing about what the peer has sent, and so
forged datagrams can do no harm to it.

`Unfailing` is stated for what may follow and not for what has happened: every operation that a
caller may ask for and every signal that an agent may get from this state on. A strict operation has
no result where an index is out of range, a subtraction goes below zero, a conversion loses bits or
a buffer is too short; that it has one here says that none of this happens. Time is not limited, so
no sum of times can be too large.
-/

namespace Redelivery.Network

variable {settings : ValidSettings} {start n n' : Network} {x : Side} {i : Incident}

theorem session_sound_undergo (h : (n.peer x).session.Sound settings)
    (hstep : n.undergo? i = some n') : (n'.peer x).session.Sound settings :=
  session_undergo (P := Session.Sound settings) h (fun id buffer => (h.read id buffer).sound)
    (fun id message => (h.write n.now id message).sound) (fun id => (h.close id).sound)
    (fun me signal _ => (h.resume n.now me signal).sound) h.cancel hstep

/-- **Sessions are sound**, whatever has happened. -/
theorem Leads.session_sound {rule : Rule} (h : start.Leads rule n) (hstart : start.IsStart settings)
    (x : Side) : (n.peer x).session.Sound settings := by
  refine h.invariant (P := fun m => (m.peer x).session.Sound settings) ?_ ?_
  · obtain ⟨pool, traffic, now, heq⟩ := hstart.peer_eq x
    rw [heq]
    exact Session.Sound.establish pool traffic now
  · intro mid i next hsound _ hstep
    exact session_sound_undergo hsound hstep

/-- Whatever is handed to the socket of a sound session is proper. -/
theorem proper_of_hands (h : (n.peer x).session.Sound settings) {d : Bytes}
    (hands : n.outcome? x i = some (.hands d)) : d.Proper settings := by
  cases i with
  | cancel side id => cases hands
  | forge side datagram => cases hands
  | event e =>
    cases e with
    | elapse span => cases hands
    | call side operation refusal =>
      obtain ⟨rfl, heq⟩ := Option.ite_none_right_eq_some.mp hands
      have hd : (n.called side operation).2.handed? = some d :=
        congrArg Outcome.handed? (Option.some.inj heq)
      cases operation with
      | read buffer => exact (h.read _ buffer).proper d hd
      | write message => exact (h.write n.now _ message).proper d hd
      | close => exact (h.close _).proper d hd
    | turn side me signal refusal =>
      obtain ⟨rfl, heq⟩ := Option.ite_none_right_eq_some.mp hands
      exact (h.resume n.now me signal).proper d (congrArg Outcome.handed? (Option.some.inj heq))

/-- Whatever may follow at one side has the same result without safety nets. -/
structure Unfailing (settings : ValidSettings) (n : Network) (x : Side) : Prop where
  /-- Every call of read. -/
  read : ∀ id buffer, Session.Strict.read (n.peer x).session id buffer
    = some ((n.peer x).session.read id buffer)
  /-- Every call of write. -/
  write : ∀ now id message, Session.Strict.write (n.peer x).session now id message
    = some ((n.peer x).session.write now id message)
  /-- Every turn of an agent, whatever signal it gets. -/
  resume : ∀ now me signal, Session.Strict.resume (n.peer x).session now me signal
    = some ((n.peer x).session.resume now me signal)
  /-- Datagrams that are only a header come out. -/
  control : ∀ header, ∃ d, ((n.peer x).stream.control header).1 = .ok d ∧ d.Proper settings
  /-- The datagrams of a flush come out. -/
  flush : ∀ now, ∃ datagrams count,
    ((n.peer x).stream.flushDatagrams now).1 = .ok (datagrams, count)
      ∧ ∀ d ∈ datagrams, d.Proper settings
  /-- The datagram for a segment comes out right after that was added to the send window. -/
  segment : ∀ now (body : Buffer) more s, body.content.length ≤ settings.maxSegment →
    (n.peer x).stream.insert? now body more = some s →
      ∃ d piggybacked, s.segmentDatagram.1 = .ok (d, piggybacked) ∧ d.Proper settings
  /-- Whatever is handed to the socket is not too long, and is accepted as a datagram. -/
  proper : ∀ i d, n.outcome? x i = some (.hands d) → d.Proper settings

/-- **Valid settings are enough.** A stream is established, and wherever it has come to, whatever
has happened, every call and every turn of an agent that may follow has the same result without
safety nets: no index is out of range, no number is too large for its field, nothing counts below
zero, nothing is divided by zero, and no datagram fails to come out. Whatever is handed to the
socket is not too long, and it is accepted as a datagram. -/
theorem Leads.never_fails (hstart : start.IsStart settings) (h : start.Leads everything n)
    (x : Side) :
    (∀ pool now, (do Session.Strict.establish (← Stream.Strict.establish settings pool) now)
        = some (Session.establish (Stream.establish settings pool) now))
      ∧ n.Unfailing settings x := by
  have hsound := h.session_sound hstart x
  refine ⟨fun pool now => Session.Strict.establish_eq settings pool now,
    { read := fun id buffer => (hsound.read id buffer).eq
      write := fun now id message => (hsound.write now id message).eq
      resume := fun now me signal => (hsound.resume now me signal).eq
      control := fun header => ?_
      flush := fun now => ?_
      segment := fun now body more s hbody hinsert => ?_
      proper := fun i d => proper_of_hands hsound }⟩
  · obtain ⟨s, hok, -, -, hproper⟩ := hsound.stream.exists_control header
    exact ⟨_, congrArg Prod.fst hok, hproper⟩
  · obtain ⟨datagrams, count, s, hok, -, -, hproper⟩ := hsound.stream.exists_flushDatagrams now
    exact ⟨datagrams, count, congrArg Prod.fst hok, hproper⟩
  · obtain ⟨hs, hfind⟩ := hsound.stream.of_insert? hbody hinsert
    obtain ⟨d, piggybacked, s', hok, -, -, hproper⟩ := hs.exists_segmentDatagram hfind
    exact ⟨d, piggybacked, congrArg Prod.fst hok, hproper⟩

/-- The least room that settings may leave in a datagram: an acknowledgement fills it, and a segment
has a body of one byte. -/
def leastSettings : ValidSettings where
  mtu := 14
  windowSize := 1
  initialSerial := ⟨0xFFFFFFFF⟩
  fault?_eq_none := by decide +kernel

/-- Both ends have just got their streams. -/
def leastStart : Network where
  now := 0
  peer _ := { session := .establish (.establish leastSettings (.empty 0)) 0 }
  flights _ := []

theorem leastStart_isStart : leastStart.IsStart leastSettings where
  peer_eq _ := ⟨.empty 0, {}, 0, rfl⟩
  flights_eq _ _ hf := absurd hf List.not_mem_nil

/-- A datagram that nobody has sent. -/
def stray : Bytes :=
  Header.data.datagram [⟨⟨0xFFFFFFFF⟩, true, [5], 0⟩]

/-- A reader waits for the socket, and a writer for room, when a datagram comes that nobody has
sent. -/
def strayArrives : List Incident :=
  [.event (.call .a (.read [0]) none), .event (.call .a (.write [7, 9]) none),
    .event (.turn .a (.call 1) .sent none), .forge .b stray]

/-- The reader acknowledges it, and that datagram fills all the room there is. -/
theorem never_fails_after_stray : ∃ n d, leastStart.Leads everything n
    ∧ n.outcome? .a (.event (.turn .a (.call 0) (.arrived (.datagram stray)) none))
      = some (.hands d)
    ∧ d.length = leastSettings.mtu ∧ d.Proper leastSettings ∧ n.Unfailing leastSettings .a := by
  have hrun : (leastStart.follow? everything strayArrives).map (fun n =>
      n.outcome? .a (.event (.turn .a (.call 0) (.arrived (.datagram stray)) none)))
      = some (some (.hands ((Header.ack ⟨0⟩ 0).datagram []))) := by
    decide +kernel
  obtain ⟨n, hn, hview⟩ := exists_leads _ hrun
  obtain ⟨-, hnext⟩ := Leads.never_fails leastStart_isStart hn .a
  exact ⟨n, _, hn, hview, rfl, hnext.proper _ _ hview, hnext⟩

end Redelivery.Network
