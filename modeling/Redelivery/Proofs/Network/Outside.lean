import Redelivery.Proofs.Network.Arrivals

/-!
# Turns of agents that are not inside the section for writing

Readers and closers, and writers that wait for the section or are refused at once, add nothing to
what a peer has numbered. Whatever they do, the sending half of their peer stays as it was.

## Main definitions

* `Peer.Apart`: a call that is outside the section.
* `Peer.Outside`: a turn of a call that is outside the section before and after it.
* `Network.StepAt`: what an event does at one side.

## Main statements

* `Peer.Outside.orderly`, `Peer.Outside.booked`, `Peer.Outside.writer?_eq`: what such a turn keeps.
* `Network.Sound.outside`: such a turn leaves the network sound, if it leaves the stream alike.
* `Network.Sound.commit`: what is left to show once the outcome of a turn is known.

The argument is about what an agent cannot touch. `Peer.Outside` lists what a call outside the
section may do to a peer besides the stream: at most it fails, or it gets hold of the section only
to find the stream closed, and then it fails at once (`Outside.accepted_eq` rides on that: its
message was never among those accepted). From this `Outside.sameSender` concludes that the sending
half is the same, with `Session.Aside` for who is inside, and `Sound.of_sameSender` that the peer is
sound if the receiving half is. `Sound.sameSender` takes both to the network: the direction from
this peer is the very same one, and only the one towards it is left to be shown.

The second half of the file is for all turns, inside and outside. `Sound.commit` splits a turn by
its outcome, so that what the socket makes of a datagram is dealt with once; `stepAt` says what an
event is, seen from one side; and the lemmas on `allows` say at which point an agent must be that
has got a certain signal. All further files take turns apart by these.
-/

namespace Redelivery

namespace Peer

/-- The call has a number and is outside the section, and it has not been there. -/
structure Apart (p : Peer) (id : Nat) : Prop where
  /-- The call has a number. -/
  id_lt : id < p.calls
  /-- It did not get hold of the section. -/
  not_entered : id ∉ p.entered.map (·.1)
  /-- It has not failed. -/
  not_failed : id ∉ p.failed
  /-- It is not inside. -/
  not_inside : ¬ p.session.Inside (.call id)

/-- What a call that is not inside the section does to a peer, apart from the stream. -/
structure Outside (p p' : Peer) (id : Nat) : Prop where
  /-- The call was outside. -/
  apart : p.Apart id
  /-- Other calls stay where they are. -/
  others : ∀ j, j ≠ id → p'.session.call? j = p.session.call? j
  /-- It is not inside now. -/
  after : ¬ p'.session.Inside (.call id)
  /-- If it waits for the section, then with a message that can be sent. -/
  entering : ∀ message, p'.session.call? id = some (.writing (.entering message)) →
    message ≠ [] ∧ message.length ≤ p.stream.settings.maxMessage
  /-- The flusher stays where it is. -/
  flusher : p'.session.flusher = p.session.flusher
  /-- Whoever else owns the section keeps it. -/
  owner : ∀ agent, agent ≠ .call id → p.session.shared.writing.owner = some agent →
    p'.session.shared.writing.owner = some agent
  /-- No call has been made. -/
  calls : p'.calls = p.calls
  /-- No write got hold of the section, or this one did, while nobody was inside, and failed. -/
  entered : p'.entered = p.entered
    ∨ (∃ message, p'.entered = p.entered ++ [(id, message)]) ∧ p'.failed = p.failed ++ [id]
      ∧ p.session.writer? = none
  /-- At most this call has failed, and then it has returned. -/
  failed : p'.failed = p.failed ∨ p'.failed = p.failed ++ [id] ∧ p'.session.call? id = none

/-- A call that fails takes its own message away from those that did not, and no other. -/
theorem filter_failed_concat {entered : List (Nat × Bytes)} (failed : List Nat) {id : Nat}
    (h : id ∉ entered.map (·.1)) :
    (entered.filter fun entry => !(failed ++ [id]).contains entry.1)
      = entered.filter fun entry => !failed.contains entry.1 := by
  apply List.filter_congr
  intro entry hentry
  have hne : (entry.1 == id) = false :=
    beq_false_of_ne fun heq => h (heq ▸ List.mem_map_of_mem hentry)
  rw [List.contains_eq_any_beq, List.contains_eq_any_beq, List.any_append]
  simp [hne]

/-- Whoever has failed now had failed before, or is the call that failed in this turn. -/
theorem mem_failed_or_eq {failed failed' : List Nat} {id j : Nat}
    (h : failed' = failed ∨ failed' = failed ++ [id]) (hj : j ∈ failed') : j ∈ failed ∨ j = id := by
  rcases h with rfl | rfl
  · exact Or.inl hj
  · rcases List.mem_append.mp hj with hj | hj
    · exact Or.inl hj
    · exact Or.inr (List.mem_singleton.mp hj)

theorem nodup_entered_concat {entered : List (Nat × Bytes)} {id : Nat}
    (hnodup : (entered.map (·.1)).Nodup) (h : id ∉ entered.map (·.1)) (message : Bytes) :
    ((entered ++ [(id, message)]).map (·.1)).Nodup := by
  rw [List.map_append, List.nodup_append]
  refine ⟨hnodup, List.pairwise_singleton _ _, fun j hj k hk heq => h ?_⟩
  rw [List.map_singleton, List.mem_singleton] at hk
  rwa [heq, hk] at hj

namespace Outside

variable {settings : ValidSettings} {p p' : Peer} {id : Nat}

theorem aside (h : Outside p p' id) : p.session.Aside p'.session id :=
  ⟨h.apart.not_inside, h.after, h.others, h.flusher, h.owner⟩

theorem inside_iff (h : Outside p p' id) {j : Nat} (hj : j ≠ id) :
    p'.session.Inside (.call j) ↔ p.session.Inside (.call j) :=
  h.aside.inside_iff hj

theorem orderly (h : Outside p p' id) (hp : p.session.Orderly) : p'.session.Orderly :=
  h.aside.orderly hp

theorem writer?_eq (h : Outside p p' id) (hp : p.session.Orderly) :
    p'.session.writer? = p.session.writer? :=
  h.aside.writer?_eq hp

theorem keeps_entering (h : Outside p p' id) (hp : p.Sound settings) : p'.Entering settings := by
  intro j message hj
  by_cases hne : j = id
  · rw [hne] at hj
    rw [← hp.settings_eq]
    exact h.entering message hj
  · rw [h.others j hne] at hj
    exact hp.entering j message hj

theorem accepted_eq (h : Outside p p' id) : p'.accepted = p.accepted := by
  have hfiltered := filter_failed_concat p.failed h.apart.not_entered
  unfold accepted
  -- a call that gets hold of the section in this turn fails in it, so its message does not count
  rcases h.entered with heq | ⟨⟨message, heq⟩, hfailed, -⟩
  · rw [heq]
    rcases h.failed with hsame | ⟨hfailed, -⟩
    · rw [hsame]
    · rw [hfailed, hfiltered]
  · rw [heq, hfailed, List.filter_append, hfiltered]
    simp

theorem mem_entered (h : Outside p p' id) {entry : Nat × Bytes} (hentry : entry ∈ p'.entered) :
    entry ∈ p.entered ∨ entry.1 = id ∧ p'.session.call? id = none := by
  rcases h.entered with heq | ⟨⟨message, heq⟩, hfailed, -⟩
  · exact Or.inl (heq ▸ hentry)
  · rw [heq] at hentry
    rcases List.mem_append.mp hentry with hentry | hentry
    · exact Or.inl hentry
    · rcases h.failed with hsame | ⟨-, hnone⟩
      · rw [hfailed] at hsame
        exact absurd hsame (by simp)
      · exact Or.inr ⟨congrArg Prod.fst (List.mem_singleton.mp hentry), hnone⟩

theorem mem_failed (h : Outside p p' id) {j : Nat} (hj : j ∈ p'.failed) :
    j ∈ p.failed ∨ j = id :=
  mem_failed_or_eq (h.failed.imp_right And.left) hj

theorem booked (h : Outside p p' id) (hp : p.Booked) : p'.Booked where
  call_lt j c hc := by
    rw [h.calls]
    by_cases hj : j = id
    · rw [hj]
      exact h.apart.id_lt
    · rw [h.others j hj] at hc
      exact hp.call_lt j c hc
  entered_lt entry hentry := by
    rw [h.calls]
    rcases h.mem_entered hentry with hentry | ⟨heq, -⟩
    · exact hp.entered_lt entry hentry
    · rw [heq]
      exact h.apart.id_lt
  failed_lt j hj := by
    rw [h.calls]
    rcases h.mem_failed hj with hj | heq
    · exact hp.failed_lt j hj
    · rw [heq]
      exact h.apart.id_lt
  nodup := by
    rcases h.entered with heq | ⟨⟨message, heq⟩, -⟩
    · rw [heq]
      exact hp.nodup
    · rw [heq]
      exact nodup_entered_concat hp.nodup h.apart.not_entered message
  not_failed j c hc := by
    by_cases hj : j = id
    · rcases h.failed with heq | ⟨-, hnone⟩
      · rw [heq, hj]
        exact h.apart.not_failed
      · rw [hj, hnone] at hc
        cases hc
    · rw [h.others j hj] at hc
      intro hmem
      rcases h.mem_failed hmem with hmem | heq
      · exact hp.not_failed j c hc hmem
      · exact hj heq
  inside entry hentry c hc := by
    rcases h.mem_entered hentry with hentry | ⟨heq, hnone⟩
    · have hne : entry.1 ≠ id := by
        intro heq
        exact h.apart.not_entered (heq ▸ List.mem_map_of_mem hentry)
      rw [h.others entry.1 hne] at hc
      exact (h.inside_iff hne).mpr (hp.inside entry hentry c hc)
    · rw [heq, hnone] at hc
      cases hc

end Outside

/-! ## The sending half stays as it is -/

/-- The two peers agree on everything that decides about what they send. -/
structure SameSender (p p' : Peer) : Prop where
  /-- The settings. -/
  settings : p'.stream.settings = p.stream.settings
  /-- The send window. -/
  sendWindow : p'.stream.sendWindow = p.stream.sendWindow
  /-- The next serial number. -/
  next : p'.stream.next = p.stream.next
  /-- The end of the stream is final. -/
  closed : p.stream.closed = true → p'.stream.closed = true
  /-- What was numbered. -/
  assigned : p'.assigned = p.assigned
  /-- How far the send window has moved. -/
  passed : p'.passed = p.passed
  /-- The writes that got hold of the section, while one of them is inside. -/
  entered : p.session.writer? ≠ none → p'.entered = p.entered
  /-- The messages of those that did not fail. -/
  accepted : p'.accepted = p.accepted
  /-- The writer inside. -/
  writer : p'.session.writer? = p.session.writer?
  /-- What the socket makes of its segment. -/
  refused : p'.isRefused = p.isRefused

namespace SameSender

variable {settings : ValidSettings} {p p' q : Peer} {acks : List Ack}

theorem exposed_eq (h : SameSender p p') : p'.exposed = p.exposed := by
  unfold exposed
  rw [h.refused, h.assigned]

theorem committed_eq (h : SameSender p p') : p'.committed = p.committed := by
  unfold committed isSending
  rw [h.writer, h.assigned]

theorem link_eq (h : SameSender p p') : p'.link settings q acks = p.link settings q acks := by
  unfold link
  rw [h.assigned, h.exposed_eq, h.passed, h.sendWindow]

theorem ledger (h : SameSender p p') (hp : p.Ledger settings) : p'.Ledger settings := by
  have hwriter := h.writer
  cases hw : p.session.writer? with
  | none =>
    obtain ⟨last, begun, hspells, hbegun⟩ := (ledger_iff_idle hw).mp hp
    refine (ledger_iff_idle (hwriter.trans hw)).mpr ⟨last, begun, ?_, ?_⟩
    · rwa [h.accepted, h.assigned]
    · rcases hbegun with hbegun | ⟨hclosed, hne⟩
      · exact Or.inl hbegun
      · exact Or.inr ⟨h.closed hclosed, hne⟩
  | some found =>
    have hworking := (ledger_iff_working hw).mp hp
    apply (ledger_iff_working (hwriter.trans hw)).mpr
    unfold Working at hworking ⊢
    rwa [h.entered (by rw [hw]; exact Option.some_ne_none found), h.accepted, h.assigned]

end SameSender

/-- A call outside the section does not touch the sending half, as long as the stream keeps what
decides about it. -/
theorem Outside.sameSender {p p' : Peer} {id : Nat} (h : Outside p p' id)
    (hp : p.session.Orderly) (hsettings : p'.stream.settings = p.stream.settings)
    (hwindow : p'.stream.sendWindow = p.stream.sendWindow)
    (hnext : p'.stream.next = p.stream.next)
    (hclosed : p.stream.closed = true → p'.stream.closed = true)
    (hassigned : p'.assigned = p.assigned) (hpassed : p'.passed = p.passed)
    (hverdict : ∀ agent, agent ≠ .call id → p'.verdict agent = p.verdict agent) :
    SameSender p p' where
  settings := hsettings
  sendWindow := hwindow
  next := hnext
  closed := hclosed
  assigned := hassigned
  passed := hpassed
  entered hwriter := by
    rcases h.entered with heq | ⟨-, -, hnone⟩
    · exact heq
    · exact absurd hnone hwriter
  accepted := h.accepted_eq
  writer := h.writer?_eq hp
  refused := by
    unfold isRefused
    rw [h.writer?_eq hp]
    cases hw : p.session.writer? with
    | none => rfl
    | some found =>
      obtain ⟨j, w⟩ := found
      obtain ⟨-, hcall, hin⟩ := Session.writer?_eq_some hw
      -- the writer inside is another call, of which the socket thinks as before
      have hj : Agent.call j ≠ .call id := by
        rintro heq
        cases heq
        exact h.apart.not_inside ⟨w, hcall, hin⟩
      simp only [hverdict _ hj]

/-- What holds of a peer after its sending half has stayed as it was. -/
theorem Sound.of_sameSender {settings : ValidSettings} {p p' : Peer} (h : p.Sound settings)
    (hsame : SameSender p p') (horderly : p'.session.Orderly) (hbooked : p'.Booked)
    (hentering : p'.Entering settings)
    (hflusher : ∀ point, p'.session.flusher = some point → ∀ d ∈ point.resends,
      Carries settings p.assigned p.assigned.length p.assigned.length d)
    (hdelivery : p'.Consumed) :
    p'.Sound settings where
  settings_eq := hsame.settings.trans h.settings_eq
  orderly := horderly
  booked := hbooked
  entering := hentering
  ledger := hsame.ledger h.ledger
  next_eq := by rw [hsame.next, hsame.committed_eq, h.next_eq]
  resends id w hw := by
    rw [hsame.writer] at hw
    rw [hsame.assigned]
    exact h.resends id w hw
  flusher_resends := by
    rw [hsame.assigned]
    exact hflusher
  delivery := hdelivery

/-- The two peers agree on everything that decides about what they receive. -/
structure SameReceiver (p p' : Peer) : Prop where
  /-- The receive window. -/
  receiveWindow : p'.stream.receiveWindow = p.stream.receiveWindow
  /-- The part of the next message. -/
  assembled : p'.stream.assembled = p.stream.assembled
  /-- Whether that is whole. -/
  complete : p'.stream.complete = p.stream.complete
  /-- What was taken out. -/
  taken : p'.taken = p.taken
  /-- What was delivered. -/
  delivered : p'.delivered = p.delivered

namespace SameReceiver

variable {settings : ValidSettings} {p p' q : Peer} {acks : List Ack}

theorem link_eq (h : SameReceiver p p') : q.link settings p' acks = q.link settings p acks := by
  unfold link
  rw [h.taken, h.receiveWindow]

theorem delivery (h : SameReceiver p p') (hp : p.Consumed) : p'.Consumed := by
  unfold Consumed
  rw [h.taken, h.complete, h.delivered, h.assembled]
  exact hp

end SameReceiver

/-! ## What is recorded of a turn -/

/-- When an agent is about to get a signal, only the books may change. -/
theorem signalled_eq (p : Peer) (me : Agent) (signal : Signal) :
    ∃ entered assigned, p.signalled me signal
      = { p with entered := entered, assigned := assigned } := by
  unfold signalled
  split
  · exact ⟨p.entered, p.assigned, rfl⟩
  · split
    · exact ⟨_, p.assigned, rfl⟩
    · exact ⟨p.entered, _, rfl⟩
    · exact ⟨p.entered, p.assigned, rfl⟩

theorem letIn_eq (p : Peer) (id : Nat) (message : Bytes) :
    ∃ entered, p.letIn id message = { p with entered := entered } := by
  unfold letIn
  split
  · exact ⟨_, rfl⟩
  · exact ⟨p.entered, rfl⟩

/-- Nothing gets a number unless a writer waits for the socket to take it. -/
theorem numbered?_eq_none {s : Session} {me : Agent} {outcome : Outcome}
    (h : ∀ id w, me = .call id → s.call? id = some (.writing w) → w.isSending = false) :
    numbered? s me outcome = none := by
  unfold numbered?
  split
  · rename_i id datagram
    split
    · rename_i rest d piggybacked hcall
      have hne := h id _ rfl hcall
      cases hne
    · rfl
  · rfl

section

variable {p : Peer} {me : Agent} {turn : Session × Outcome}

theorem assigned_record (h : numbered? turn.1 me turn.2 = none) :
    (p.record me turn).assigned = p.assigned := by
  show p.assigned ++ (numbered? turn.1 me turn.2).toList = p.assigned
  rw [h, Option.toList_none, List.append_nil]

theorem passed_record (me : Agent) (h : turn.1.stream.sendWindow = p.stream.sendWindow) :
    (p.record me turn).passed = p.passed := by
  show p.passed + turn.1.stream.sendWindow.base.distanceFrom p.stream.sendWindow.base = p.passed
  rw [h, distanceFrom_self, Nat.add_zero]

theorem taken_record (me : Agent) (h : turn.1.stream.receiveWindow = p.stream.receiveWindow) :
    (p.record me turn).taken = p.taken := by
  show p.taken ++ (taken? p.stream turn.1.stream).toList = p.taken
  rw [taken?_eq_none (by rw [h]), Option.toList_none, List.append_nil]

end

/-- What is recorded of a turn in which a datagram arrived is the same whether the arrival is
recorded by itself or not. -/
theorem record_withStream {p : Peer} {s : Stream} {turn : Session × Outcome} (me : Agent)
    (hbase : s.receiveWindow.base = p.stream.receiveWindow.base)
    (hassembled : s.assembled = p.stream.assembled)
    (hsend : turn.1.stream.sendWindow.base = s.sendWindow.base) :
    (p.withStream s).record me turn = p.record me turn := by
  unfold record
  rw [observe_withStream hbase hassembled hsend]
  rfl

/-- A peer whose agents have handed over another datagram. -/
def judged (p : Peer) (verdict : Agent → Signal) : Peer :=
  { p with verdict := verdict }

/-! ## New calls -/

/-- The peer when a call is made. -/
def nextCall (p : Peer) (joinable : Bool) : Peer :=
  { p with session := { p.session with joinable := joinable }, calls := p.calls + 1 }

theorem Booked.call?_calls {p : Peer} (h : p.Booked) : p.session.call? p.calls = none := by
  cases hcall : p.session.call? p.calls with
  | none => rfl
  | some c => exact absurd (h.call_lt _ c hcall) (Nat.lt_irrefl _)

theorem Sound.nextCall {settings : ValidSettings} {p : Peer} (h : p.Sound settings)
    (joinable : Bool) : (p.nextCall joinable).Sound settings where
  settings_eq := h.settings_eq
  orderly := h.orderly
  booked :=
    { h.booked with
      call_lt := fun id c hc => Nat.lt_succ_of_lt (h.booked.call_lt id c hc)
      entered_lt := fun entry hentry => Nat.lt_succ_of_lt (h.booked.entered_lt entry hentry)
      failed_lt := fun id hid => Nat.lt_succ_of_lt (h.booked.failed_lt id hid) }
  entering := h.entering
  ledger := h.ledger
  next_eq := h.next_eq
  resends := h.resends
  flusher_resends := h.flusher_resends
  delivery := h.delivery

/-- A call that is made now is outside. -/
theorem Booked.apart_nextCall {p : Peer} (h : p.Booked) (joinable : Bool) :
    (p.nextCall joinable).Apart p.calls where
  id_lt := Nat.lt_succ_self _
  not_entered hmem := by
    obtain ⟨entry, hentry, heq⟩ := List.mem_map.mp hmem
    exact absurd (h.entered_lt entry hentry) (by rw [heq]; exact Nat.lt_irrefl _)
  not_failed hmem := absurd (h.failed_lt _ hmem) (Nat.lt_irrefl _)
  not_inside := by
    rintro ⟨w, hw, -⟩
    rw [show (p.nextCall joinable).session.call? p.calls = none from h.call?_calls] at hw
    cases hw

/-- A call that is at work, but not inside the section. -/
theorem Booked.apart {p : Peer} (h : p.Booked) {id : Nat} {c : Call}
    (hcall : p.session.call? id = some c)
    (hc : ∀ w, c = .writing w → w.isInside = false) : p.Apart id := by
  have hout : ¬ p.session.Inside (.call id) := by
    rintro ⟨w, hw, hin⟩
    rw [hcall] at hw
    have houtside := hc w (Option.some.inj hw)
    rw [hin] at houtside
    cases houtside
  refine ⟨h.call_lt id c hcall, ?_, h.not_failed id c hcall, hout⟩
  intro hmem
  obtain ⟨entry, hentry, rfl⟩ := List.mem_map.mp hmem
  exact hout (h.inside entry hentry c hcall)

end Peer

namespace Network

variable {settings : ValidSettings} {n : Network} {acks acks' : Side → List Ack}

/-- **A turn that leaves the sending half alone** leaves the network sound, if the receiving half is
sound after it. -/
theorem Sound.sameSender (h : n.Sound settings acks) {z : Side} {p : Peer}
    (hacks : ∀ x, acks x ⊆ acks' x) (hz : acks' z = acks z)
    (hsame : Peer.SameSender (n.peer z) p) (hp : p.Sound settings)
    (hreceiver : ((n.peer z.other).link settings p (acks' z.other)).Sound settings.windowSize) :
    (n.withPeer z p).Sound settings acks' := by
  apply h.withPeer hacks hp _ hreceiver (Nat.le_of_eq hsame.exposed_eq.symm)
  · intro k _
    rw [hsame.assigned]
  · rw [hz, hsame.link_eq]
    exact h.link z

/-- **A turn of a call outside the section** that leaves the stream alike, and delivers nothing,
leaves the network sound. -/
theorem Sound.outside (h : n.Sound settings acks) {z : Side} {id : Nat} {p : Peer}
    (hout : Peer.Outside (n.peer z) p id) (halike : (n.peer z).stream.Alike p.stream)
    (hassigned : p.assigned = (n.peer z).assigned) (hpassed : p.passed = (n.peer z).passed)
    (htaken : p.taken = (n.peer z).taken) (hdelivered : p.delivered = (n.peer z).delivered)
    (hverdict : ∀ agent, agent ≠ .call id → p.verdict agent = (n.peer z).verdict agent) :
    (n.withPeer z p).Sound settings acks := by
  have hp := h.peer z
  have hsame : Peer.SameSender (n.peer z) p :=
    hout.sameSender hp.orderly halike.settings halike.sendWindow halike.next halike.closed hassigned
      hpassed hverdict
  have hreceiver : Peer.SameReceiver (n.peer z) p :=
    ⟨halike.receiveWindow, halike.assembled, halike.complete, htaken, hdelivered⟩
  refine h.sameSender (fun _ => List.Subset.refl _) rfl hsame
    (hp.of_sameSender hsame (hout.orderly hp.orderly) (hout.booked hp.booked)
      (hout.keeps_entering hp) ?_ (hreceiver.delivery hp.delivery)) ?_
  · rw [hout.flusher]
    exact hp.flusher_resends
  · rw [hreceiver.link_eq]
    exact h.link_other z

/-- A call that is made now has done nothing yet. -/
theorem Sound.nextCall (h : n.Sound settings acks) (z : Side) (joinable : Bool) :
    (n.withPeer z ((n.peer z).nextCall joinable)).Sound settings acks := by
  have hp := (h.peer z).nextCall joinable
  exact h.withPeer (fun _ => List.Subset.refl _) hp (h.link z) (h.link_other z) (Nat.le_refl _)
    fun _ _ => rfl

/-- What may arrive is something that was sent. -/
theorem of_allows_datagram {z : Side} {me : Agent} {raw : Bytes}
    (h : n.allows z me (.arrived (.datagram raw)) = true) :
    (∃ limit, (n.peer z).session.wait? me = some (.arrival limit))
      ∧ ∃ f ∈ n.flights z.other, n.isFresh z.other f = true ∧ f.datagram = raw := by
  cases hwait : (n.peer z).session.wait? me with
  | none => simp [allows, hwait] at h
  | some wait =>
    cases wait with
    | arrival limit =>
      simp only [allows, hwait] at h
      obtain ⟨f, hf, hmatch⟩ := List.any_eq_true.mp h
      obtain ⟨heq, hfresh⟩ := Bool.and_eq_true_iff.mp hmatch
      exact ⟨⟨limit, rfl⟩, f, hf, hfresh, eq_of_beq heq⟩
    | _ => simp [allows, hwait] at h

/-- Whoever receives something has waited for that. -/
theorem wait?_of_allows_arrived {z : Side} {me : Agent} {arrival : Arrival}
    (h : n.allows z me (.arrived arrival) = true) :
    ∃ limit, (n.peer z).session.wait? me = some (.arrival limit) := by
  cases hwait : (n.peer z).session.wait? me with
  | none => simp [allows, hwait] at h
  | some wait =>
    cases wait with
    | arrival limit => exact ⟨limit, rfl⟩
    | _ => simp [allows, hwait] at h

section

variable {z : Side} {id : Nat} {signal : Signal}

/-- A reader receives something when it waits for the socket. -/
theorem receiving_of_allows {buffer : Bytes} {point : Reader}
    (hcall : (n.peer z).session.call? id = some (.reading buffer point))
    (h : n.allows z (.call id) signal = true) :
    ∀ arrival, signal = .arrived arrival → point = .receiving := by
  rintro arrival rfl
  obtain ⟨limit, hlimit⟩ := wait?_of_allows_arrived h
  rw [Session.wait?_of_call? hcall] at hlimit
  cases point with
  | receiving => rfl
  | _ => cases hlimit

/-- A writer receives something when it waits for the socket, in want of room. -/
theorem polling_of_allows {point : Writer}
    (hcall : (n.peer z).session.call? id = some (.writing point))
    (h : n.allows z (.call id) signal = true) :
    ∀ arrival, signal = .arrived arrival → ∃ job limit, point = .polling job limit := by
  rintro arrival rfl
  obtain ⟨limit, hlimit⟩ := wait?_of_allows_arrived h
  rw [Session.wait?_of_call? hcall] at hlimit
  cases point with
  | polling job limit => exact ⟨job, limit, rfl⟩
  | _ => cases hlimit

/-- A closer receives nothing. -/
theorem ne_arrived_of_closing {point : Closer}
    (hcall : (n.peer z).session.call? id = some (.closing point))
    (h : n.allows z (.call id) signal = true) (arrival : Arrival) :
    signal ≠ .arrived arrival := by
  rintro rfl
  obtain ⟨limit, hlimit⟩ := wait?_of_allows_arrived h
  rw [Session.wait?_of_call? hcall] at hlimit
  cases point <;> cases hlimit

/-- The flusher receives nothing. -/
theorem ne_arrived_of_flusher (h : n.allows z .flusher signal = true) (arrival : Arrival) :
    signal ≠ .arrived arrival := by
  rintro rfl
  obtain ⟨limit, hlimit⟩ := wait?_of_allows_arrived h
  obtain ⟨point, -, hpoint⟩ := Option.map_eq_some_iff.mp hlimit
  cases point <;> cases hpoint

end

/-- Whoever waits for the section for writing goes on when it owns that. -/
theorem owner_of_allows {z : Side} {me : Agent} {signal : Signal}
    (h : n.allows z me signal = true)
    (hwait : (n.peer z).session.wait? me = some .writing) :
    signal = .granted ∧ (n.peer z).session.shared.writing.owner = some me := by
  cases signal with
  | granted => exact ⟨rfl, by simpa [allows, hwait] using h⟩
  | _ => simp [allows, hwait] at h

theorem session_commit (n : Network) (z : Side) (me : Agent) (p : Peer) (outcome : Outcome)
    (refusal : Option String) : ((n.commit z me p outcome refusal).peer z).session = p.session := by
  unfold commit
  split <;> simp [withFlight]

theorem peer_commit_other (n : Network) (z : Side) (me : Agent) (p : Peer) (outcome : Outcome)
    (refusal : Option String) :
    (n.commit z me p outcome refusal).peer z.other = n.peer z.other := by
  unfold commit
  split <;> simp [withFlight]

theorem flights_commit_other (n : Network) (z : Side) (me : Agent) (p : Peer) (outcome : Outcome)
    (refusal : Option String) :
    (n.commit z me p outcome refusal).flights z.other = n.flights z.other := by
  unfold commit
  split
  · rfl
  · exact Function.update_of_ne z.other_ne _ _
  · rfl

/-- What an event does at one side: nothing, or a call is made there, or an agent gets a turn. -/
inductive StepAt (n : Network) (z : Side) : Event → Network → Prop where
  /-- It happens elsewhere. -/
  | elsewhere {e : Event} {n' : Network} (hpeer : n'.peer z = n.peer z)
      (hflights : n'.flights z = n.flights z) : StepAt n z e n'
  /-- A call is made. -/
  | called (operation : Operation) (refusal : Option String) :
      StepAt n z (.call z operation refusal)
        (n.commit z (.call (n.peer z).calls) (n.called z operation).1 (n.called z operation).2
          refusal)
  /-- An agent gets a turn. -/
  | turned {me : Agent} {signal : Signal} (refusal : Option String)
      (hallows : n.allows z me signal = true) :
      StepAt n z (.turn z me signal refusal)
        (n.commit z me (n.turned z me signal).1 (n.turned z me signal).2 refusal)

/-- An event is seen from either side. -/
theorem stepAt {n' : Network} {e : Event} (h : n.step? e = some n') (z : Side) :
    n.StepAt z e n' := by
  cases e with
  | elapse span =>
    cases h
    exact .elsewhere rfl rfl
  | call side operation refusal =>
    cases h
    rcases side.eq_or_eq_other z with rfl | rfl
    · exact .called operation refusal
    · exact .elsewhere (peer_commit_other ..) (flights_commit_other ..)
  | turn side me signal refusal =>
    obtain ⟨hallows, heq⟩ := Option.ite_none_right_eq_some.mp h
    cases heq
    rcases side.eq_or_eq_other z with rfl | rfl
    · exact .turned refusal hallows
    · exact .elsewhere (peer_commit_other ..) (flights_commit_other ..)

/-- What is committed of a turn is the peer after it. The socket makes up its mind about a datagram
of the agent that had the turn, and about no other. -/
theorem peer_commit (n : Network) (z : Side) (me : Agent) (p : Peer) (outcome : Outcome)
    (refusal : Option String) :
    ∃ verdict, (n.commit z me p outcome refusal).peer z = p.judged verdict
      ∧ ∀ agent, agent ≠ me → verdict agent = p.verdict agent := by
  have hupdate (signal : Signal) (agent : Agent) (hne : agent ≠ me) :
      Function.update p.verdict me signal agent = p.verdict agent := Function.update_of_ne hne _ _
  unfold commit
  split
  · exact ⟨_, peer_withPeer .., hupdate _⟩
  · exact ⟨_, peer_withPeer .., hupdate _⟩
  · exact ⟨p.verdict, peer_withPeer .., fun _ _ => rfl⟩

/-- Only the state of a peer after a turn counts. -/
theorem commit_withPeer (n : Network) (z : Side) (p : Peer) (me : Agent) (p' : Peer)
    (outcome : Outcome) (refusal : Option String) :
    (n.withPeer z p).commit z me p' outcome refusal = n.commit z me p' outcome refusal := by
  have hwith (q : Peer) : (n.withPeer z p).withPeer z q = n.withPeer z q := by
    unfold withPeer
    rw [Function.update_idem]
  unfold commit
  split
  · rw [hwith]
  · rw [hwith]
  · rw [hwith]

/-- **What is to be shown of a turn** once its outcome is known: the network is sound whatever the
socket makes of the datagram that was handed over, and the datagram is one that may fly. -/
theorem Sound.commit {z : Side} {me : Agent} {p : Peer} {outcome : Outcome}
    {refusal : Option String}
    (hquiet : (∀ d, outcome ≠ .hands d) → (n.withPeer z p).Sound settings acks)
    (hhands : ∀ d signal, outcome = .hands d →
      (signal = .sent ∨ ∃ reason, signal = .unsent reason) →
      (n.withPeer z (p.judged (Function.update p.verdict me signal))).Sound settings acks)
    (hflies : ∀ d, outcome = .hands d →
      (n.withPeer z (p.judged (Function.update p.verdict me .sent))).Flies settings acks z
        ⟨d, fun x => ((n.withPeer z
          (p.judged (Function.update p.verdict me .sent))).peer x).assigned.length⟩) :
    (n.commit z me p outcome refusal).Sound settings acks := by
  unfold Network.commit
  split
  · rename_i d reason
    exact hhands d _ rfl (Or.inr ⟨reason, rfl⟩)
  · rename_i d
    exact (hhands d _ rfl (Or.inl rfl)).withFlight (hflies d rfl)
  · rename_i hrefused htaken
    apply hquiet
    intro d hd
    cases refusal with
    | none => exact htaken d hd rfl
    | some reason => exact hrefused d reason hd rfl

/-- The socket has no part in a turn that hands over no datagram. -/
theorem Sound.commit_quiet {z : Side} {me : Agent} {p : Peer} {outcome : Outcome}
    {refusal : Option String} (hquiet : ∀ d, outcome ≠ .hands d)
    (h : (n.withPeer z p).Sound settings acks) :
    (n.commit z me p outcome refusal).Sound settings acks := by
  apply Sound.commit
  · intro _
    exact h
  · intro d _ hd
    exact absurd hd (hquiet d)
  · intro d hd
    exact absurd hd (hquiet d)

end Network

end Redelivery
