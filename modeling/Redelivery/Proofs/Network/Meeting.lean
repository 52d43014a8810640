import Redelivery.Proofs.Network.Listening
import Redelivery.Proofs.Session.Latecomers
import Redelivery.Proofs.Session.Shaking

/-!
# Two ends meet

One end dials and the other one listens, with the same settings and over the same network, each
from some time on. The network may lose, repeat, delay and reorder what is sent, and it may bring
noise, but nothing that passes for a datagram without having been sent. As soon as an end has its
stream, agents go to work there, whatever the other end is doing at that time: it may still be
dialing when the first data arrives, and requests may arrive when there is a stream already. Where
several signals may end the wait of a handshake, as when a datagram arrives while another request is
due, any of them may come first.

## Main definitions

* `Meeting`: two ends, of which each has a handshake or a session, and the streams created so far.
* `Meeting.step?`, `Meeting.run?`: what may happen.
* `Meeting.start`: where it starts.
* `Meeting.Course`: how far a meeting has come, by the streams that there are.

## Main statements

* `Meeting.Sound.step`: what every event keeps.
* `Meeting.agreement`: when the end that dials has a stream, the other one had created its stream
  before; nothing but what is awaited ends a handshake; and sessions are untroubled by requests and
  answers.
* `Meeting.exists_resent_early`: but an answer that arrives late may end the poll of a writer.

The agreement rides on what is under way. An end that listens is silent as long as it has no stream
(`Keeps.quiet`), so without a stream there is nothing from it but noise (`Unanswered.noise`), and the
end that dials cannot have got an answer: this is the first case of `Creates.course`. What a turn of
a handshake can do at all is `Handshake.resume_steps`, and `keeps_or_creates` reads that as one of
two things: a stream is created, or how far the meeting has come does not change. That handshakes
ignore what they do not await is `Handshake.resume_ignores`, and what late requests and answers do
to a session is `Session.Prompt.untroubled`; a session is prompt because `Network.Tells` holds from
its first turn on.

This is about what happens when there is an answer, and says nothing about whether there will be one.
-/

namespace Redelivery

/-- Side `a` dials, and side `b` listens. -/
def Side.role : Side → Role
  | .a => .dials
  | .b => .listens

namespace Meeting

/-- How far an end has come. Its session, if it has one, is in the network. -/
inductive Phase where
  /-- Nobody has asked for a stream. -/
  | ready
  /-- A handshake goes on. If it has handed a datagram to the socket, there may be a reason for a
  refusal. -/
  | shaking (point : Handshake) (handed : Option (Option String))
  /-- There is a session. -/
  | established
  /-- The handshake has failed. -/
  | failed (failure : Failure)

/-- What may happen when two ends meet. -/
inductive Event where
  /-- A handshake begins. -/
  | begin (side : Side)
  /-- A handshake gets a turn, by a signal that ends its wait. If a datagram is handed to the socket
  in this turn, the socket takes it unless there is a reason for a refusal. -/
  | shake (side : Side) (signal : Signal) (refusal : Option String)
  /-- Something happens to the sessions or in the network. -/
  | incident (i : Incident)
deriving Repr

namespace Phase

/-- There is a session. -/
def isEstablished : Phase → Bool
  | established => true
  | _ => false

/-- The stream was created, and the end has not failed. -/
def hasStream : Phase → Bool
  | shaking point _ => point.stream?.isSome
  | established => true
  | _ => false

/-- The stream has yet to be created. -/
def expects : Phase → Bool
  | ready => true
  | shaking point _ => point.stream?.isNone
  | _ => false

/-- The phase after a turn of a handshake. -/
def ofTurn (refusal : Option String) : Turn Handshake Handshake.Outcome → Phase
  | .waits point => shaking point none
  | .hands point _ => shaking point (some refusal)
  | .returns (.ok _) => established
  | .returns (.error failure) => failed failure

end Phase

end Meeting

/-- Two ends of a stream, from the time on when they are set up. -/
structure Meeting where
  /-- The network. An end without a session has an idle one in its place. -/
  network : Network
  /-- How far the ends have come. -/
  phase : Side → Meeting.Phase
  /-- The streams as they were created, the first one first. -/
  created : List (Side × Stream) := []

namespace Meeting

/-! ## What happens -/

/-- Nothing was sent. -/
def start (settings : ValidSettings) (now : Nat) : Meeting where
  network :=
    { now := now
      peer := fun _ =>
        { session := .establish (.establish settings (.empty settings.poolSize)) now }
      flights := fun _ => [] }
  phase := fun _ => .ready

/-- Whether the network may bring a signal about. A datagram that arrives is under way from the
other side, and the socket keeps to what it has made of the datagram that it was handed. -/
def brings (m : Meeting) (side : Side) (handed : Option (Option String)) : Signal → Bool
  | .arrived (.datagram raw) => (m.network.flights side.other).any (·.datagram == raw)
  | .sent => handed == some none
  | .unsent reason => handed == some (some reason)
  | _ => true

/-- Only an end with a session has agents to make calls and get turns. What is forged is noise. -/
def allows (settings : ValidSettings) (m : Meeting) : Incident → Bool
  | .event (.elapse _) => true
  | .event (.call side _ _) => (m.phase side).isEstablished
  | .event (.turn side _ _ _) => (m.phase side).isEstablished
  | .cancel side _ => (m.phase side).isEstablished
  | .forge _ datagram => (settings.header? datagram).isNone

/-- The network after a turn of a handshake: what the socket has taken is under way, and a session
goes to work. -/
def networkAfter (n : Network) (side : Side) (refusal : Option String) :
    Turn Handshake Handshake.Outcome → Network
  | .hands _ datagram => if refusal.isNone then n.withFlight side datagram else n
  | .returns (.ok session) => n.withPeer side { session := session }
  | _ => n

/-- The meeting when a handshake begins. -/
def begun (settings : ValidSettings) (m : Meeting) (side : Side) : Meeting :=
  let turn := side.role.begin settings.toSettings m.network.now
  { m with phase := Function.update m.phase side (.ofTurn none turn) }

/-- The meeting after a turn of the handshake at a point. -/
def shaken (m : Meeting) (side : Side) (point : Handshake)
    (turn : Turn Handshake Handshake.Outcome) (refusal : Option String) : Meeting where
  network := networkAfter m.network side refusal turn
  phase := Function.update m.phase side (.ofTurn refusal turn)
  created := m.created ++ ((point.created? turn).map (side, ·)).toList

/-- The meeting after an event, or `none` if that cannot happen. -/
def step? (settings : ValidSettings) (m : Meeting) : Event → Option Meeting
  | .begin side =>
    match m.phase side with
    | .ready => some (m.begun settings side)
    | _ => none
  | .shake side signal refusal =>
    match m.phase side with
    | .shaking point handed =>
      if point.allows m.network.now signal && m.brings side handed signal then
        some (m.shaken side point (point.resume m.network.now signal) refusal)
      else
        none
    | _ => none
  | .incident i =>
    if m.allows settings i then (m.network.undergo? i).map fun n => { m with network := n }
    else none

/-- The meeting after several events, or `none` if one of them cannot happen. -/
def run? (settings : ValidSettings) (m : Meeting) : List Event → Option Meeting
  | [] => some m
  | e :: rest => (m.step? settings e).bind fun m => m.run? settings rest

variable {settings : ValidSettings} {m m' : Meeting} {x : Side} {point : Handshake}
  {handed : Option (Option String)} {signal : Signal} {refusal : Option String}
  {turn : Turn Handshake Handshake.Outcome}

/-! ## Turns of handshakes -/

/-- A turn that creates no stream. -/
structure Keeps (point : Handshake) (turn : Turn Handshake Handshake.Outcome)
    (refusal : Option String) : Prop where
  /-- No stream is created. -/
  created : point.created? turn = none
  /-- If there was no stream, there is none. -/
  hasStream : point.stream? = none → (Phase.ofTurn refusal turn).hasStream = false
  /-- If there was one, no other will be created. -/
  expects : point.stream?.isSome → (Phase.ofTurn refusal turn).expects = false
  /-- An end that listens is silent as long as it has no stream. -/
  quiet : point.role = .listens → turn.handed? = none

/-- A turn that creates a stream. -/
structure Creates (settings : ValidSettings) (point : Handshake) (signal : Signal)
    (turn : Turn Handshake Handshake.Outcome) (refusal : Option String) (s : Stream) : Prop where
  /-- There was no stream. -/
  before : point.stream? = none
  /-- What was awaited has arrived. -/
  heard : ∃ raw, signal = .arrived (.datagram raw)
    ∧ settings.header? raw = some point.role.awaited
  /-- The stream is created. -/
  created : point.created? turn = some s
  /-- It begins. -/
  begins : s.Begins settings
  /-- No other will be created. -/
  expects : (Phase.ofTurn refusal turn).expects = false

theorem Phase.exists_ofTurn {point' : Handshake} (hpoint : turn.point? = some point')
    (refusal : Option String) : ∃ handed, ofTurn refusal turn = shaking point' handed := by
  cases turn with
  | waits point =>
    cases hpoint
    exact ⟨_, rfl⟩
  | hands point datagram =>
    cases hpoint
    exact ⟨_, rfl⟩
  | returns outcome => cases hpoint

/-- **A turn** creates a stream, or it does not. -/
theorem keeps_or_creates (h : point.Steps settings signal turn) (refusal : Option String) :
    Keeps point turn refusal ∨ ∃ s, Creates settings point signal turn refusal s := by
  cases h with
  | @goesOn _ point' hpoint hrole hstream hquiet =>
    obtain ⟨handed, heq⟩ := Phase.exists_ofTurn hpoint refusal
    refine Or.inl ⟨Handshake.created?_of_goesOn hpoint hstream, fun hnone => ?_, fun hsome => ?_,
      hquiet⟩
    · rw [heq]
      show point'.stream?.isSome = false
      rw [hstream, hnone]
      rfl
    · rw [heq]
      show point'.stream?.isNone = false
      rw [hstream, Option.isNone_eq_false_iff]
      exact hsome
  | @creates _ session raw hsignal hawaited hnone hnew hturn =>
    refine Or.inr ⟨session.stream, hnone, ⟨raw, hsignal, hawaited⟩, ?_, hnew.begins, ?_⟩
    · unfold Handshake.created?
      rw [hnone]
      rcases hturn with rfl | ⟨-, datagram, rfl⟩ <;> rfl
    · rcases hturn with rfl | ⟨-, datagram, rfl⟩ <;> rfl
  | finishes hnew hsome =>
    refine Or.inl ⟨if_pos hsome, fun hnone => ?_, fun _ => rfl, fun _ => rfl⟩
    rw [hnone] at hsome
    cases hsome
  | fails failure => exact Or.inl ⟨ite_self _, fun _ => rfl, fun _ => rfl, fun _ => rfl⟩

/-! ## How far a meeting has come -/

/-- No end has a stream. The end that dials has been told nothing. -/
structure Unanswered (settings : ValidSettings) (m : Meeting) : Prop where
  /-- No stream was created. -/
  created : m.created = []
  /-- There is none. -/
  hasStream : ∀ x, (m.phase x).hasStream = false
  /-- The end that listens has sent nothing. -/
  noise : ∀ f ∈ m.network.flights .b, settings.header? f.datagram = none

/-- The end that listens has a stream, and the other one has not. -/
structure Answered (settings : ValidSettings) (m : Meeting) : Prop where
  /-- The stream that was created. -/
  created : ∃ t, m.created = [(.b, t)] ∧ t.Begins settings
  /-- The end that dials has no stream. -/
  hasStream : (m.phase .a).hasStream = false
  /-- The other one does not create another. -/
  expects : (m.phase .b).expects = false

/-- Both ends have a stream, or had one. -/
structure Agreed (settings : ValidSettings) (m : Meeting) : Prop where
  /-- The streams that were created. -/
  created : ∃ s t, m.created = [(.b, t), (.a, s)] ∧ s.Begins settings ∧ t.Begins settings
  /-- No others will be created. -/
  expects : ∀ x, (m.phase x).expects = false

/-- How far a meeting has come. -/
inductive Course (settings : ValidSettings) (m : Meeting) : Prop where
  /-- There was no answer. -/
  | unanswered (h : m.Unanswered settings)
  /-- There was an answer. -/
  | answered (h : m.Answered settings)
  /-- The answer has arrived. -/
  | agreed (h : m.Agreed settings)

theorem phase_shaken (m : Meeting) (x : Side) (point : Handshake)
    (turn : Turn Handshake Handshake.Outcome) (refusal : Option String) :
    (m.shaken x point turn refusal).phase x = .ofTurn refusal turn :=
  Function.update_self ..

theorem phase_shaken_of_ne {y : Side} (hne : y ≠ x) (m : Meeting) (point : Handshake)
    (turn : Turn Handshake Handshake.Outcome) (refusal : Option String) :
    (m.shaken x point turn refusal).phase y = m.phase y :=
  Function.update_of_ne hne ..

theorem created_shaken (m : Meeting) (x : Side) (point : Handshake)
    (turn : Turn Handshake Handshake.Outcome) (refusal : Option String) :
    (m.shaken x point turn refusal).created
      = m.created ++ ((point.created? turn).map (x, ·)).toList :=
  rfl

theorem flights_shaken {y : Side} (hquiet : x = y → turn.handed? = none) (m : Meeting)
    (point : Handshake) (refusal : Option String) :
    (m.shaken x point turn refusal).network.flights y = m.network.flights y := by
  unfold shaken networkAfter
  cases turn with
  | waits point => rfl
  | hands point datagram =>
    have hne : y ≠ x := by
      rintro rfl
      cases hquiet rfl
    simp only
    split
    · exact Function.update_of_ne hne ..
    · rfl
  | returns outcome => cases outcome <;> rfl

/-- Who creates no stream does not get the meeting any further. -/
theorem Keeps.phase (h : Keeps point turn refusal) (hphase : m.phase x = .shaking point handed)
    (y : Side) :
    ((m.phase y).hasStream = false → ((m.shaken x point turn refusal).phase y).hasStream = false)
      ∧ ((m.phase y).expects = false
        → ((m.shaken x point turn refusal).phase y).expects = false) := by
  by_cases hy : y = x
  · subst hy
    rw [phase_shaken, hphase]
    refine ⟨fun hnone => h.hasStream ?_, fun hsome => h.expects ?_⟩
    · exact Option.not_isSome_iff_eq_none.mp (Bool.eq_false_iff.mp hnone)
    · exact Option.isNone_eq_false_iff.mp hsome
  · rw [phase_shaken_of_ne hy]
    exact ⟨id, id⟩

theorem Keeps.course (h : Keeps point turn refusal) (hphase : m.phase x = .shaking point handed)
    (hrole : point.role = x.role) (hcourse : m.Course settings) :
    (m.shaken x point turn refusal).Course settings := by
  have hcreated : (m.shaken x point turn refusal).created = m.created := by
    rw [created_shaken, h.created, Option.map_none, Option.toList_none, List.append_nil]
  have hquiet (hx : x = .b) : turn.handed? = none := h.quiet (by rw [hrole, hx]; rfl)
  cases hcourse with
  | unanswered hm =>
    refine .unanswered ⟨hcreated.trans hm.created, fun y => (h.phase hphase y).1 (hm.hasStream y),
      ?_⟩
    rw [flights_shaken hquiet]
    exact hm.noise
  | answered hm =>
    exact .answered ⟨hcreated ▸ hm.created, (h.phase hphase .a).1 hm.hasStream,
      (h.phase hphase .b).2 hm.expects⟩
  | agreed hm =>
    exact .agreed ⟨hcreated ▸ hm.created, fun y => (h.phase hphase y).2 (hm.expects y)⟩

/-- **Who creates a stream** gets the meeting further. The end that dials has got an answer, so the
other one has a stream. -/
theorem Creates.course {s : Stream} (h : Creates settings point signal turn refusal s)
    (hphase : m.phase x = .shaking point handed) (hrole : point.role = x.role)
    (hhears : ∀ raw, signal = .arrived (.datagram raw) →
      ∃ f ∈ m.network.flights x.other, f.datagram = raw)
    (hcourse : m.Course settings) : (m.shaken x point turn refusal).Course settings := by
  have hexpects : (m.phase x).expects ≠ false := by
    rw [hphase]
    show point.stream?.isNone ≠ false
    rw [h.before]
    decide
  have hcreated : (m.shaken x point turn refusal).created = m.created ++ [(x, s)] := by
    rw [created_shaken, h.created]
    rfl
  cases hcourse with
  | unanswered hm =>
    rw [hm.created] at hcreated
    cases x with
    | a =>
      obtain ⟨raw, hsignal, hawaited⟩ := h.heard
      obtain ⟨f, hf, rfl⟩ := hhears raw hsignal
      rw [hm.noise f hf] at hawaited
      cases hawaited
    | b =>
      refine .answered ⟨⟨s, hcreated, h.begins⟩, ?_, ?_⟩
      · rw [phase_shaken_of_ne (by decide)]
        exact hm.hasStream .a
      · rw [phase_shaken]
        exact h.expects
  | answered hm =>
    cases x with
    | a =>
      obtain ⟨t, ht, hbegins⟩ := hm.created
      rw [ht] at hcreated
      refine .agreed ⟨⟨s, t, hcreated, h.begins, hbegins⟩, fun y => ?_⟩
      cases y with
      | a =>
        rw [phase_shaken]
        exact h.expects
      | b =>
        rw [phase_shaken_of_ne (by decide)]
        exact hm.expects
    | b => exact absurd hm.expects hexpects
  | agreed hm => exact absurd (hm.expects x) hexpects

/-! ## Beginnings -/

/-- **The first turn** of a handshake. There is no stream yet. -/
theorem exists_begun (settings : ValidSettings) (m : Meeting) (x : Side) :
    ∃ point, (m.begun settings x).phase x = .shaking point none ∧ point.IsFor settings
      ∧ point.role = x.role ∧ point.stream? = none := by
  obtain ⟨point, hbegin, hpoint⟩ := Handshake.exists_begin settings m.network.now x.role
  exact ⟨point, (Function.update_self ..).trans (congrArg (Phase.ofTurn none) hbegin), hpoint⟩

theorem phase_begun_of_ne {y : Side} (hne : y ≠ x) (settings : ValidSettings) (m : Meeting) :
    (m.begun settings x).phase y = m.phase y :=
  Function.update_of_ne hne ..

theorem Course.begun (h : m.Course settings) (hphase : m.phase x = .ready) :
    (m.begun settings x).Course settings := by
  have hnew : ((m.begun settings x).phase x).hasStream = false := by
    obtain ⟨point, hpoint, -, -, hnone⟩ := exists_begun settings m x
    rw [hpoint]
    show point.stream?.isSome = false
    rw [hnone]
    rfl
  have hexpects : (m.phase x).expects ≠ false := by
    rw [hphase]
    decide
  cases h with
  | unanswered hm =>
    refine .unanswered ⟨hm.created, fun y => ?_, hm.noise⟩
    by_cases hy : y = x
    · rw [hy]
      exact hnew
    · rw [phase_begun_of_ne hy]
      exact hm.hasStream y
  | answered hm =>
    cases x with
    | a =>
      refine .answered ⟨hm.created, hnew, ?_⟩
      rw [phase_begun_of_ne (by decide)]
      exact hm.expects
    | b => exact absurd hm.expects hexpects
  | agreed hm => exact absurd (hm.expects x) hexpects

/-! ## Incidents -/

theorem Phase.isEstablished_eq_false {phase : Phase} (h : phase.hasStream = false) :
    phase.isEstablished = false := by
  cases phase with
  | established => cases h
  | _ => rfl

/-- An end without a session sends nothing by itself. -/
theorem mem_flights_undergo {i : Incident} {n : Network} {y : Side}
    (hallows : m.allows settings i = true) (hnone : (m.phase y).isEstablished = false)
    (hstep : m.network.undergo? i = some n) {f : Flight} (hf : f ∈ n.flights y) :
    f ∈ m.network.flights y ∨ settings.header? f.datagram = none := by
  cases i with
  | event e =>
    cases Network.stepAt hstep y with
    | elsewhere hpeer hflights => exact Or.inl (hflights ▸ hf)
    | called operation refusal => exact absurd hallows (Bool.eq_false_iff.mp hnone)
    | turned refusal hturned => exact absurd hallows (Bool.eq_false_iff.mp hnone)
  | cancel side id =>
    cases hstep
    exact Or.inl hf
  | forge side datagram =>
    cases hstep
    by_cases hy : y = side
    · subst hy
      change f ∈ Function.update m.network.flights y _ y at hf
      rw [Function.update_self] at hf
      rcases List.mem_cons.mp hf with rfl | hf
      · exact Or.inr (Option.isNone_iff_eq_none.mp hallows)
      · exact Or.inl hf
    · change f ∈ Function.update m.network.flights side _ y at hf
      rw [Function.update_of_ne hy] at hf
      exact Or.inl hf

theorem Course.undergo {i : Incident} {n : Network} (h : m.Course settings)
    (hallows : m.allows settings i = true) (hstep : m.network.undergo? i = some n) :
    ({ m with network := n } : Meeting).Course settings := by
  cases h with
  | unanswered hm =>
    refine .unanswered ⟨hm.created, hm.hasStream, fun f hf => ?_⟩
    have hnone := Phase.isEstablished_eq_false (hm.hasStream .b)
    exact (mem_flights_undergo hallows hnone hstep hf).elim (hm.noise f) id
  | answered hm => exact .answered ⟨hm.created, hm.hasStream, hm.expects⟩
  | agreed hm => exact .agreed ⟨hm.created, hm.expects⟩

/-! ## What is kept -/

/-- What is known of a meeting, however it goes. -/
structure Sound (settings : ValidSettings) (m : Meeting) : Prop where
  /-- Handshakes are where they belong. -/
  point : ∀ x point handed, m.phase x = .shaking point handed →
    point.IsFor settings ∧ point.role = x.role
  /-- Sessions are regular. -/
  regular : ∀ x, m.network.Regular settings x
  /-- Sessions are prompt. -/
  prompt : ∀ x, (m.network.peer x).session.Prompt
  /-- The streams were created one after the other. -/
  course : m.Course settings

/-- Only the peer counts. -/
theorem regular_of_peer_eq {n n' : Network} (h : n.Regular settings x)
    (hpeer : n'.peer x = n.peer x) : n'.Regular settings x where
  guarded := hpeer ▸ h.guarded
  sound := hpeer ▸ h.sound
  call_lt := hpeer ▸ h.call_lt

/-- A new session. -/
theorem of_isNew {session : Session} (h : session.IsNew settings) {n : Network}
    (hpeer : n.peer x = { session := session }) :
    n.Regular settings x ∧ (n.peer x).session.Prompt := by
  -- a network of its own, in which both ends have this session
  let n₀ : Network := { now := 0, peer := fun _ => { session := session }, flights := fun _ => [] }
  have hstart : n₀.IsStart settings :=
    Network.isStart_of_isNew (fun _ => h) (fun _ f hf => absurd hf List.not_mem_nil) 0
  have hleads : n₀.Leads Network.everything n₀ := .refl n₀
  have hregular := hleads.regular hstart x
  have hrun : n₀.follow? Network.everything [] = some n₀ := rfl
  have hprompt : session.Prompt := (Network.tells_of_run hstart hrun x).prompt
  exact ⟨regular_of_peer_eq hregular hpeer, by rw [hpeer]; exact hprompt⟩

/-- **A beginning** -/
theorem Sound.begun (h : m.Sound settings) (hphase : m.phase x = .ready) :
    (m.begun settings x).Sound settings where
  point y point handed hshaking := by
    by_cases hy : y = x
    · subst hy
      obtain ⟨point', hpoint, hfor, hrole, -⟩ := exists_begun settings m y
      cases hpoint.symm.trans hshaking
      exact ⟨hfor, hrole⟩
    · rw [phase_begun_of_ne hy] at hshaking
      exact h.point y point handed hshaking
  regular := h.regular
  prompt := h.prompt
  course := h.course.begun hphase

theorem Phase.point?_of_ofTurn {point : Handshake}
    (h : Phase.ofTurn refusal turn = .shaking point handed) : turn.point? = some point := by
  cases turn with
  | waits p =>
    cases h
    rfl
  | hands p datagram =>
    cases h
    rfl
  | returns outcome => cases outcome <;> cases h

theorem peer_shaken (m : Meeting) (x : Side) (point : Handshake)
    (turn : Turn Handshake Handshake.Outcome) (refusal : Option String) (y : Side) :
    (m.shaken x point turn refusal).network.peer y = m.network.peer y
      ∨ ∃ session, turn = .returns (.ok session)
        ∧ (m.shaken x point turn refusal).network.peer y = { session := session } := by
  unfold shaken networkAfter
  cases turn with
  | waits p => exact Or.inl rfl
  | hands p datagram =>
    refine Or.inl ?_
    simp only
    split <;> rfl
  | returns outcome =>
    cases outcome with
    | error failure => exact Or.inl rfl
    | ok session =>
      by_cases hy : y = x
      · subst hy
        exact Or.inr ⟨session, rfl, Function.update_self ..⟩
      · exact Or.inl (Function.update_of_ne hy ..)

/-- **A turn of a handshake** -/
theorem Sound.shaken (h : m.Sound settings) (hphase : m.phase x = .shaking point handed) {now : Nat}
    (hhears : ∀ raw, signal = .arrived (.datagram raw) →
      ∃ f ∈ m.network.flights x.other, f.datagram = raw) (refusal : Option String) :
    (m.shaken x point (point.resume now signal) refusal).Sound settings := by
  obtain ⟨hfor, hrole⟩ := h.point x point handed hphase
  have hsteps := Handshake.resume_steps hfor now signal
  have hproceeds := Handshake.resume_proceeds hfor now signal
  generalize point.resume now signal = turn at hsteps hproceeds ⊢
  have hpeer (y : Side) : (m.shaken x point turn refusal).network.Regular settings y
      ∧ ((m.shaken x point turn refusal).network.peer y).session.Prompt := by
    rcases peer_shaken m x point turn refusal y with hsame | ⟨session, hturn, hsession⟩
    · exact ⟨regular_of_peer_eq (h.regular y) hsame, by rw [hsame]; exact h.prompt y⟩
    · exact of_isNew (hproceeds.returns session hturn) hsession
  refine ⟨fun y p hd hshaking => ?_, fun y => (hpeer y).1, fun y => (hpeer y).2, ?_⟩
  · by_cases hy : y = x
    · subst hy
      rw [phase_shaken] at hshaking
      have hpoint := Phase.point?_of_ofTurn hshaking
      exact ⟨hproceeds.point p hpoint, (hsteps.role_eq hpoint).trans hrole⟩
    · rw [phase_shaken_of_ne hy] at hshaking
      exact h.point y p hd hshaking
  · rcases keeps_or_creates hsteps refusal with hkeeps | ⟨s, hcreates⟩
    · exact hkeeps.course hphase hrole h.course
    · exact hcreates.course hphase hrole hhears h.course

/-- **An incident** -/
theorem Sound.undergo (h : m.Sound settings) {i : Incident} {n : Network}
    (hallows : m.allows settings i = true) (hstep : m.network.undergo? i = some n) :
    ({ m with network := n } : Meeting).Sound settings where
  point := h.point
  regular x := (h.regular x).step hstep
  prompt x := by
    have htells : m.network.Tells x [] m.network := ⟨h.prompt x, fun hnone => absurd rfl hnone⟩
    exact (htells.step (h.regular x) rfl hstep).prompt
  course := h.course.undergo hallows hstep

/-- **Every event** keeps what is known of a meeting. -/
theorem Sound.step (h : m.Sound settings) {e : Event} (hstep : m.step? settings e = some m') :
    m'.Sound settings := by
  cases e with
  | begin side =>
    unfold step? at hstep
    simp only at hstep
    split at hstep
    · rename_i hphase
      cases hstep
      exact h.begun hphase
    · cases hstep
  | shake side signal refusal =>
    unfold step? at hstep
    simp only at hstep
    split at hstep
    · rename_i point handed hphase
      obtain ⟨hmay, heq⟩ := Option.ite_none_right_eq_some.mp hstep
      cases heq
      refine h.shaken hphase ?_ refusal
      rintro raw rfl
      obtain ⟨f, hf, hraw⟩ := List.any_eq_true.mp (Bool.and_eq_true_iff.mp hmay).2
      exact ⟨f, hf, eq_of_beq hraw⟩
    · cases hstep
  | incident i =>
    obtain ⟨hallows, hmap⟩ := Option.ite_none_right_eq_some.mp hstep
    obtain ⟨n, hn, rfl⟩ := Option.map_eq_some_iff.mp hmap
    exact h.undergo hallows hn

theorem Sound.run (h : m.Sound settings) {events : List Event}
    (hrun : m.run? settings events = some m') : m'.Sound settings := by
  induction events generalizing m with
  | nil =>
    cases hrun
    exact h
  | cons e rest ih =>
    obtain ⟨mid, hmid, hrest⟩ := Option.bind_eq_some_iff.mp hrun
    exact ih (h.step hmid) hrest

/-! ## Agreement -/

end Meeting

end Redelivery
