import Redelivery.Proofs.Network.Answering
import Redelivery.Proofs.Network.Flow

/-!
# Recovery

Whatever was lost, one clean exchange makes up for it. When an end has nothing more to write, and
all that is in its send window is sent again and arrives, then the other end has all that was ever
numbered; and when the acknowledgement arrives that is made there last, the send window is empty.

The exchange is a run in which nothing is written at the first end, and the socket takes whatever it
is handed at the other one. Besides that anything may happen meanwhile: time may pass, more may
arrive, and in any order.

## Main definitions

* `Session.NoWrites`: no write is in progress.
* `Event.isClean`: the events of such a run.
* `Network.Upholds`: what a run keeps up.
* `Flush.datagrams`: all datagrams of a flush.

## Main statements

* `Network.Reachable.upholds_step`, `Network.Reachable.upholds_run`: clean events keep it up.
* `Network.Sound.covers`: a flush covers the send window.
* `Network.Reachable.recovers`: a clean exchange.

The proof has three phases.

* What arrives in a clean run is there at the end of it. `Reachable.arrives_step` says so of one
  arrival, and `Upholds` is what the rest of the run keeps of that; `Reachable.holds_run` says that
  nothing is missing then, since what is not in the send window had arrived before
  (`Sound.sent_or_holds`), and what is there was sent and arrives (`Sound.covers`).
* A reader that waits for the socket has taken out what there is (`Reachable.taken_of_holds`): if
  not all that has a number was taken out, the next segment would be there, and the reader would not
  be waiting.
* The acknowledgement that was sent last says so, and moves the base to the next serial number
  (`Reachable.cleared`), where nothing is left in the window.

All this is about what happens if certain things do, and not about how long it takes or whether they
will. The run at the end of the file is one in which they do.
-/

namespace Redelivery

/-! ## Without writes -/

/-- Whether a call is a write. -/
def Call.isWrite : Call → Bool
  | writing _ => true
  | _ => false

/-- Whether a call is a read that waits for the socket to deliver something. -/
def Call.isReceiving : Call → Bool
  | reading _ .receiving => true
  | _ => false

theorem Call.eq_of_isReceiving {c : Call} (h : c.isReceiving = true) :
    ∃ buffer, c = .reading buffer .receiving := by
  unfold isReceiving at h
  split at h
  · exact ⟨_, rfl⟩
  · cases h

namespace Session

/-- No write is in progress. -/
def NoWrites (s : Session) : Prop :=
  ∀ id w, s.call? id ≠ some (.writing w)

theorem noWrites_of_all {s : Session} (h : s.calls.all fun entry => !entry.2.isWrite) :
    s.NoWrites := by
  intro id w hcall
  obtain ⟨before, after, heq, -⟩ := List.lookup_eq_some_iff.mp hcall
  have hmem : (id, Call.writing w) ∈ s.calls := by
    rw [heq]
    exact List.mem_append_right before List.mem_cons_self
  have hfalse := List.all_eq_true.mp h _ hmem
  cases hfalse

namespace NoWrites

variable {s : Session}

theorem record (h : s.NoWrites) {id : Nat} {x : Shared} {turn : Turn Call Result}
    (hturn : ∀ w, turn.point? ≠ some (.writing w)) : (s.record id x turn).1.NoWrites := by
  intro j w
  by_cases hj : j = id
  · rw [hj, call?_record]
    exact hturn w
  · rw [call?_record_of_ne s hj]
    exact h j w

theorem recordReader (h : s.NoWrites) (id : Nat) (buffer : Bytes)
    (r : Shared × Turn Reader Reader.Outcome) : (s.recordReader id buffer r).1.NoWrites := by
  refine h.record fun w hw => ?_
  rw [Turn.point?_map] at hw
  obtain ⟨point, -, heq⟩ := Option.map_eq_some_iff.mp hw
  cases heq

theorem recordCloser (h : s.NoWrites) (id : Nat) (r : Shared × Turn Closer Unit) :
    (s.recordCloser id r).1.NoWrites := by
  refine h.record fun w hw => ?_
  rw [Turn.point?_map] at hw
  obtain ⟨point, -, heq⟩ := Option.map_eq_some_iff.mp hw
  cases heq

theorem recordFlusher (h : s.NoWrites) (r : Shared × Turn Flusher Unit) :
    (s.recordFlusher r).1.NoWrites := by
  obtain ⟨x, turn⟩ := r
  cases turn <;> exact h

/-- A turn starts no write. -/
theorem resume (h : s.NoWrites) (now : Nat) (me : Agent) (signal : Signal) :
    (s.resume now me signal).1.NoWrites := by
  unfold Session.resume
  cases me with
  | flusher =>
    simp only
    split
    · exact h
    · exact h.recordFlusher _
  | call id =>
    simp only
    split
    · exact h
    · exact h.recordReader id _ _
    · exact absurd ‹_› (h id _)
    · exact h.recordCloser id _

theorem writer?_eq (h : s.NoWrites) : s.writer? = none :=
  writer?_eq_none fun id ⟨w, hw, _⟩ => h id w hw

end NoWrites

end Session

namespace Peer

variable {p : Peer}

/-- Without a write nothing gets a number. -/
theorem assigned_record_of_noWrites {turn : Session × Outcome} (h : turn.1.NoWrites) (me : Agent) :
    (p.record me turn).assigned = p.assigned :=
  assigned_record (numbered?_eq_none fun id w _ hcall => absurd hcall (h id w))

/-- Without a write nothing is given back. -/
theorem signalled_of_noWrites (h : p.session.NoWrites) (me : Agent) (signal : Signal) :
    p.signalled me signal = p := by
  unfold signalled
  split
  · rfl
  · split
    · exact absurd ‹_› (h _ _)
    · exact absurd ‹_› (h _ _)
    · rfl

end Peer

/-! ## Clean events -/

/-- Whether a caller asks for a write. -/
def Operation.isWrite : Operation → Bool
  | write _ => true
  | _ => false

/-- Whether an event belongs to an exchange in which nothing is written at the side `x`, and the
socket at the other side takes whatever it is handed. -/
def Event.isClean (x : Side) : Event → Bool
  | elapse _ => true
  | call side operation refusal => if side = x then !operation.isWrite else refusal.isNone
  | turn side _ _ refusal => if side = x then true else refusal.isNone

namespace Flush

/-- The datagrams of a flush that are still to be sent: all of them, when it has just begun. -/
def datagrams (f : Flush) : List Bytes :=
  f.current :: f.rest

/-- The datagrams with which a flush goes on. -/
def Progress.datagrams : Progress → List Bytes
  | .going flush => flush.datagrams
  | _ => []

theorem begin_eq_going {s s' : Stream} {now count : Nat} {datagrams : List Bytes}
    (h : s.flushDatagrams now = (.ok (datagrams, count), s')) (hne : datagrams ≠ []) :
    ∃ f, begin s now = (s', .going f) ∧ f.datagrams = datagrams := by
  cases datagrams with
  | nil => exact absurd rfl hne
  | cons datagram rest =>
    refine ⟨⟨datagram, rest, count⟩, ?_, rfl⟩
    unfold begin
    rw [h]

end Flush

namespace Network

variable {settings : ValidSettings} {n n' n'' : Network} {acks : Side → List Ack} {x z : Side}
  {e : Event} {me : Agent} {signal : Signal} {refusal : Option String}

theorem refusal_of_isClean_call {operation : Operation}
    (h : (Event.call z operation refusal).isClean z.other = true) : refusal = none := by
  simpa [Event.isClean, z.other_ne.symm] using h

theorem refusal_of_isClean_turn (h : (Event.turn z me signal refusal).isClean z.other = true) :
    refusal = none := by
  simpa [Event.isClean, z.other_ne.symm] using h

/-- Clean events do not start a write, and without one nothing gets a number. -/
theorem noWrites_step (hidle : (n.peer x).session.NoWrites) (hclean : e.isClean x = true)
    (hstep : n.step? e = some n') :
    (n'.peer x).session.NoWrites ∧ (n'.peer x).assigned = (n.peer x).assigned := by
  cases stepAt hstep x with
  | elsewhere hpeer hflights =>
    rw [hpeer]
    exact ⟨hidle, rfl⟩
  | called operation refusal =>
    obtain ⟨verdict, heq, -⟩ := peer_commit n x _ (n.called x operation).1 _ refusal
    rw [heq]
    cases operation with
    | read buffer =>
      have hread : ((n.peer x).session.read (n.peer x).calls buffer).1.NoWrites :=
        hidle.recordReader _ _ _
      exact ⟨hread, Peer.assigned_record_of_noWrites hread _⟩
    | write message => simp [Event.isClean, Operation.isWrite] at hclean
    | close =>
      have hclose : ((n.peer x).session.close (n.peer x).calls).1.NoWrites :=
        Session.NoWrites.recordCloser (s := { (n.peer x).session with joinable := false }) hidle _ _
      exact ⟨hclose, Peer.assigned_record_of_noWrites hclose _⟩
  | @turned me signal refusal hallows =>
    obtain ⟨verdict, heq, -⟩ := peer_commit n x me (n.turned x me signal).1 _ refusal
    rw [heq]
    have hresume := hidle.resume n.now me signal
    refine ⟨hresume, ?_⟩
    show (((n.peer x).signalled me signal).record me _).assigned = _
    rw [Peer.signalled_of_noWrites hidle]
    exact Peer.assigned_record_of_noWrites hresume me

/-! ## What a clean run keeps up -/

/-- What becomes of `n` when it comes to `n'` in an exchange, as far as the side `z` receives. -/
structure Upholds (settings : ValidSettings) (z : Side) (n n' : Network) : Prop where
  /-- No write is in progress at the other side. -/
  noWrites : (n'.peer z.other).session.NoWrites
  /-- Nothing more was numbered there. -/
  assigned_eq : (n'.peer z.other).assigned = (n.peer z.other).assigned
  /-- What had arrived is still here. -/
  holds : ∀ j, j < (n.peer z.other).assigned.length → (n.peer z).Holds settings j →
    (n'.peer z).Holds settings j
  /-- It is still reported. -/
  reported : n.Reported z → n'.Reported z

theorem Upholds.trans (h : Upholds settings z n n') (h' : Upholds settings z n' n'') :
    Upholds settings z n n'' where
  noWrites := h'.noWrites
  assigned_eq := h'.assigned_eq.trans h.assigned_eq
  holds j hj hheld := h'.holds j (by rwa [h.assigned_eq]) (h.holds j hj hheld)
  reported hreported := h'.reported (h.reported hreported)

/-- What is reported is a matter of one side, and of how much the other one has numbered. -/
theorem Reported.congr (h : n.Reported z) (hpeer : n'.peer z = n.peer z)
    (hflights : n'.flights z = n.flights z)
    (hassigned : (n'.peer z.other).assigned = (n.peer z.other).assigned) : n'.Reported z := by
  unfold Reported lastAck? at h ⊢
  rwa [hpeer, hflights, hassigned]

/-- **Clean events** leave reported what is there. -/
theorem Sound.reported_step (h : n.Sound settings acks)
    (hatt : ∀ y, (n.peer y).session.Attentive) (hidle : (n.peer z.other).session.NoWrites)
    (hclean : e.isClean z.other = true) (hstep : n.step? e = some n') (hreported : n.Reported z) :
    n'.Reported z := by
  obtain ⟨-, hassigned⟩ := noWrites_step hidle hclean hstep
  cases stepAt hstep z with
  | elsewhere hpeer hflights => exact hreported.congr hpeer hflights hassigned
  | called operation refusal =>
    obtain rfl := refusal_of_isClean_call hclean
    exact reported_commit (h.serves_called (hatt z) operation).answers
      (Or.inr ⟨rfl, rfl, hreported⟩)
  | @turned me signal refusal hallows =>
    obtain rfl := refusal_of_isClean_turn hclean
    refine reported_commit (h.serves_turned (hatt z) hallows).answers ?_
    refine ((n.peer z).stream.ackDue_heard n.now signal).imp_right fun ⟨hwindow, hdue⟩ => ?_
    exact ⟨hwindow, hdue, hreported⟩

/-- **A clean event.** -/
theorem Reachable.upholds_step (h : Reachable settings n)
    (hidle : (n.peer z.other).session.NoWrites) (hclean : e.isClean z.other = true)
    (hstep : n.step? e = some n') : Upholds settings z n n' := by
  obtain ⟨acks, hsound⟩ := h.sound
  obtain ⟨hidle', hassigned⟩ := noWrites_step hidle hclean hstep
  exact
    { noWrites := hidle'
      assigned_eq := hassigned
      holds := fun j hj hheld => hsound.holds_step h.attentive hstep hj hheld
      reported := hsound.reported_step h.attentive hidle hclean hstep }

/-- **A run of clean events.** -/
theorem Reachable.upholds_run (h : Reachable settings n)
    (hidle : (n.peer z.other).session.NoWrites) {events : List Event}
    (hclean : ∀ e ∈ events, e.isClean z.other = true) (hrun : n.run? events = some n') :
    Upholds settings z n n' := by
  induction events generalizing n with
  | nil =>
    cases hrun
    exact ⟨hidle, rfl, fun _ _ hheld => hheld, id⟩
  | cons e rest ih =>
    obtain ⟨mid, hmid, hrest⟩ := Option.bind_eq_some_iff.mp hrun
    have hfirst := h.upholds_step hidle (hclean e List.mem_cons_self) hmid
    exact hfirst.trans (ih (h.step e hmid) hfirst.noWrites
      (fun e he => hclean e (List.mem_cons_of_mem _ he)) hrest)

/-! ## What arrives in a clean run -/

/-- The segments can be sent in a datagram, and are short enough to be received. -/
def Sendable (settings : ValidSettings) (segments : List (Segment Bytes)) : Prop :=
  (Header.data.datagram segments).length ≤ settings.mtu
    ∧ ∀ t ∈ segments, t.body.length ≤ settings.maxSegment

/-- **When a datagram arrives**, its segments are there, whatever becomes of the answer. -/
theorem Reachable.holds_arrived (h : Reachable settings n) {segments : List (Segment Bytes)}
    (hsendable : Sendable settings segments)
    (hstep : n.step? (.turn z me (.arrived (.datagram (Header.data.datagram segments))) refusal)
      = some n') {t : Segment Bytes} (ht : t ∈ segments) {j : Nat}
    (hj : j < (n.peer z.other).assigned.length) (hseq : t.seq = settings.initialSerial + j) :
    (n'.peer z).Holds settings j := by
  obtain ⟨acks, hsound⟩ := h.sound
  obtain ⟨hlen, hbody⟩ := hsendable
  obtain ⟨hallows, heq⟩ := Option.ite_none_right_eq_some.mp hstep
  cases heq
  rw [← (hsound.peer z).settings_eq] at hlen hbody
  have hserves := hsound.serves_turned (h.attentive z) hallows
  obtain ⟨hheard, hbase⟩ := hsound.heard hallows
  have harrived : t.arrivedAt n.now
      ∈ (n.peer z).stream.arrivals n.now (Header.data.datagram segments) := by
    rw [Stream.arrivals_data hlen hbody]
    exact List.mem_map_of_mem ht
  obtain ⟨verdict, hpeer, -⟩ := peer_commit n z me _ _ refusal
  rw [hpeer]
  exact holds_of_answers hheard hbase (taken_turned z me _) hserves.answers hj
    (hsound.holds_heard hallows hj (Or.inr ⟨_, rfl, _, harrived, hseq⟩))

/-- **When a datagram arrives** whose answer is not refused, its segments are there, and they are
reported. -/
theorem Reachable.arrives_step (h : Reachable settings n) {segments : List (Segment Bytes)}
    (hsendable : Sendable settings segments)
    (hstep : n.step? (.turn z me (.arrived (.datagram (Header.data.datagram segments))) none)
      = some n') :
    n'.Reported z ∧ ∀ t ∈ segments, ∀ j, j < (n.peer z.other).assigned.length →
      t.seq = settings.initialSerial + j → (n'.peer z).Holds settings j := by
  refine ⟨?_, fun t ht j hj hseq => h.holds_arrived hsendable hstep ht hj hseq⟩
  obtain ⟨acks, hsound⟩ := h.sound
  obtain ⟨hallows, heq⟩ := Option.ite_none_right_eq_some.mp hstep
  cases heq
  have hlen := hsendable.1
  rw [← (hsound.peer z).settings_eq] at hlen
  exact reported_commit (hsound.serves_turned (h.attentive z) hallows).answers
    (Or.inl (Stream.receive_data n.now hlen).2.1)

/-- **When a datagram arrives some time** in a clean run, its segments are there at the end of it,
and they are reported. -/
theorem Reachable.arrives_run (h : Reachable settings n)
    (hidle : (n.peer z.other).session.NoWrites) {events : List Event}
    (hclean : ∀ e ∈ events, e.isClean z.other = true) (hrun : n.run? events = some n')
    {segments : List (Segment Bytes)} (hsendable : Sendable settings segments)
    (hmem : .turn z me (.arrived (.datagram (Header.data.datagram segments))) none ∈ events) :
    n'.Reported z ∧ ∀ t ∈ segments, ∀ j, j < (n.peer z.other).assigned.length →
      t.seq = settings.initialSerial + j → (n'.peer z).Holds settings j := by
  induction events generalizing n with
  | nil => cases hmem
  | cons e rest ih =>
    obtain ⟨mid, hmid, hrest⟩ := Option.bind_eq_some_iff.mp hrun
    have hfirst := h.upholds_step hidle (hclean e List.mem_cons_self) hmid
    have hclean' : ∀ e ∈ rest, e.isClean z.other = true :=
      fun e he => hclean e (List.mem_cons_of_mem _ he)
    rw [← hfirst.assigned_eq]
    rcases List.mem_cons.mp hmem with rfl | hlater
    · -- it arrives now, and nothing that follows undoes it
      obtain ⟨hreported, hholds⟩ := h.arrives_step hsendable hmid
      have hkept := (h.step _ hmid).upholds_run hfirst.noWrites hclean' hrest
      refine ⟨hkept.reported hreported, fun t ht j hj hseq => hkept.holds j hj ?_⟩
      exact hholds t ht j (by rwa [← hfirst.assigned_eq]) hseq
    · exact ih (h.step e hmid) hfirst.noWrites hclean' hrest hlater

/-- What is not in the send window has arrived. -/
theorem Sound.sent_or_holds (h : n.Sound settings acks) {j : Nat}
    (hj : j < (n.peer z.other).assigned.length) :
    (∃ u, (n.peer z.other).stream.sendWindow.find? (settings.initialSerial + j) = some u)
      ∨ (n.peer z).Holds settings j := by
  rcases (h.link_other z).somewhere (List.getElem?_eq_getElem hj) with
    ⟨-, u, hu, -⟩ | ⟨-, u, hu, -⟩ | htaken
  · exact Or.inl ⟨u, hu⟩
  · exact Or.inr (Or.inr (Option.isSome_iff_exists.mpr ⟨u, hu⟩))
  · exact Or.inr (Or.inl (List.getElem?_eq_some_iff.mp htaken).1)

/-- **When all that is in the send window arrives** in a clean run, everything has arrived at the
end of it. -/
theorem Reachable.holds_run (h : Reachable settings n)
    (hidle : (n.peer z.other).session.NoWrites) {events : List Event}
    (hclean : ∀ e ∈ events, e.isClean z.other = true) (hrun : n.run? events = some n')
    (harrives : ∀ q u, (n.peer z.other).stream.sendWindow.find? q = some u →
      ∃ segments, u.wire ∈ segments ∧ Sendable settings segments
        ∧ ∃ me, .turn z me (.arrived (.datagram (Header.data.datagram segments))) none ∈ events)
    {j : Nat} (hj : j < (n.peer z.other).assigned.length) : (n'.peer z).Holds settings j := by
  obtain ⟨acks, hsound⟩ := h.sound
  rcases hsound.sent_or_holds hj with ⟨u, hu⟩ | hheld
  · obtain ⟨segments, hin, hsendable, me, hmem⟩ := harrives _ u hu
    have hseq : u.seq = settings.initialSerial + j := Window.seq_of_find? hu
    exact (h.arrives_run hidle hclean hrun hsendable hmem).2 u.wire hin j hj hseq
  · exact (h.upholds_run hidle hclean hrun).holds j hj hheld

/-! ## Flushes -/

/-- A send window that is not empty holds some segment. -/
theorem Sound.exists_of_size_pos (h : n.Sound settings acks)
    (hsize : 0 < (n.peer x).stream.sendWindow.size) :
    ∃ q u, (n.peer x).stream.sendWindow.find? q = some u := by
  have hsend := (h.link x).send
  have hnarrow := hsend.narrow
  exact (hsend.tidy.size_pos_iff (by omega)).mp hsize

/-- What a flush sends can be received. -/
theorem Sound.sendable_of_mem_batches (h : n.Sound settings acks) (x : Side) {now : Nat}
    {group : List (Segment Bytes)}
    (hgroup : group ∈ Segment.batches (n.peer x).stream.settings.segmentRoom
      ((n.peer x).stream.overdue now)) : Sendable settings group := by
  have hp := h.peer x
  obtain ⟨s, hflush⟩ := h.flushDatagrams_eq x now
  constructor
  · obtain ⟨-, -, hlen, -⟩ := Stream.sends_of_flushDatagrams hflush _ (List.mem_map_of_mem hgroup)
    rwa [hp.settings_eq] at hlen
  · intro t ht
    obtain ⟨u, hu, rfl⟩ := Stream.mem_overdue (Segment.mem_of_mem_batches hgroup ht)
    obtain ⟨k, -, -, -, hlog⟩ := (h.link x).send.stored _ u hu
    exact hp.body_le (List.mem_of_getElem? hlog)

/-- **A flush covers the send window**, if all that is there is overdue. It comes to something if
anything is there, and each segment is in one of its datagrams. -/
theorem Sound.covers (h : n.Sound settings acks) (x : Side)
    (hsize : 0 < (n.peer x).stream.sendWindow.size)
    (hdue : ∀ q u, (n.peer x).stream.sendWindow.find? q = some u →
      (n.peer x).stream.roundTrips.recentMin ≤ n.now - u.sentAt) :
    ∃ flush s, Flush.begin (n.peer x).stream n.now = (s, .going flush)
      ∧ ∀ q u, (n.peer x).stream.sendWindow.find? q = some u →
        ∃ segments, Header.data.datagram segments ∈ flush.datagrams ∧ u.wire ∈ segments
          ∧ Sendable settings segments := by
  have hspans : (n.peer x).stream.sendWindow.Spans settings.initialSerial (n.peer x).passed
      (n.peer x).assigned.length (Link.Logged (n.peer x).assigned) := (h.link x).send
  have hoverdue (q : Serial) (u : Segment Buffer)
      (hu : (n.peer x).stream.sendWindow.find? q = some u) :
      u.wire ∈ (n.peer x).stream.overdue n.now :=
    List.mem_map_of_mem
      (List.mem_filter.mpr ⟨hspans.mem_entries hu, decide_eq_true (hdue q u hu)⟩)
  obtain ⟨q, u, hu⟩ := h.exists_of_size_pos hsize
  obtain ⟨s, hflush⟩ := h.flushDatagrams_eq x n.now
  have hbatches : Segment.batches (n.peer x).stream.settings.segmentRoom
      ((n.peer x).stream.overdue n.now) ≠ [] :=
    Segment.batches_ne_nil (List.ne_nil_of_mem (hoverdue q u hu))
  obtain ⟨flush, hbegin, hdatagrams⟩ :=
    Flush.begin_eq_going hflush fun hnil => hbatches (List.map_eq_nil_iff.mp hnil)
  refine ⟨flush, s, hbegin, fun q u hu => ?_⟩
  obtain ⟨group, hgroup, hin⟩ := Segment.exists_mem_batches (hoverdue q u hu)
  refine ⟨group, ?_, hin, h.sendable_of_mem_batches x hgroup⟩
  rw [hdatagrams]
  exact List.mem_map_of_mem hgroup

/-! ## What is over then -/

/-- Whoever receives something while no write is in progress is a reader. -/
theorem reads_of_allows {arrival : Arrival} (hidle : (n.peer x).session.NoWrites)
    (hallows : n.allows x me (.arrived arrival) = true) :
    ∃ id buffer, me = .call id
      ∧ (n.peer x).session.call? id = some (.reading buffer .receiving) := by
  cases me with
  | flusher => exact absurd rfl (ne_arrived_of_flusher hallows arrival)
  | call id =>
    cases hcall : (n.peer x).session.call? id with
    | none => exact absurd (congrArg (Option.map Call.wait) hcall) (wait?_ne_none_of_allows hallows)
    | some c =>
      cases c with
      | reading buffer point =>
        obtain rfl := receiving_of_allows hcall hallows arrival rfl
        exact ⟨id, buffer, rfl, hcall⟩
      | writing point => exact absurd hcall (hidle id point)
      | closing point => exact absurd rfl (ne_arrived_of_closing hcall hallows arrival)

/-- **When all has arrived** and a reader waits for the socket, all was taken out, and the last
acknowledgement says so. -/
theorem Reachable.taken_of_holds (h : Reachable settings n)
    (hholds : ∀ j, j < (n.peer z.other).assigned.length → (n.peer z).Holds settings j)
    (hreported : n.Reported z) {id : Nat} {buffer : Bytes}
    (hcall : (n.peer z).session.call? id = some (.reading buffer .receiving)) :
    (n.peer z).taken = (n.peer z.other).assigned
      ∧ ∃ f, n.lastAck? z = some f
        ∧ f.datagram = (n.peer z).stream.receiveWindow.ackDatagram ∧ n.isFresh z f = true := by
  obtain ⟨acks, hsound⟩ := h.sound
  have hlink := hsound.link_other z
  obtain ⟨-, hbe, hen, -⟩ := hlink.order
  have hdrained : (n.peer z).stream.Drained := (h.attentive z).drained id _ hcall rfl
  have hnone : (n.peer z).stream.receiveWindow.find?
      (settings.initialSerial + (n.peer z).taken.length) = none :=
    hlink.receive.pop?_eq_none_iff.mp hdrained.pop?_eq
  refine ⟨hlink.taken_prefix.eq_of_length (Nat.le_antisymm (Nat.le_trans hbe hen) ?_), ?_⟩
  · -- else the next segment would be there
    by_contra hlt
    have hsome := (hholds (n.peer z).taken.length (Nat.lt_of_not_le hlt)).resolve_left
      (Nat.lt_irrefl _)
    rw [hnone] at hsome
    cases hsome
  · rcases hreported with hdue | ⟨f, hlast, hdatagram, hstamp⟩
    · cases hdue.symm.trans hdrained.ackDue
    · refine ⟨f, hlast, hdatagram, ?_⟩
      unfold isFresh
      rw [hdatagram, Window.ackDatagram, Header.ofDatagram?_datagram]
      simp only [hstamp]
      exact decide_eq_true (Nat.lt_add_of_pos_right (by decide))

/-- The send window after an acknowledgement has arrived while no write is in progress. -/
theorem sendWindow_of_arrived (hidle : (n.peer x).session.NoWrites) {next : Serial}
    {received : UInt32}
    (hstep : n.step? (.turn x me (.arrived (.datagram ((Header.ack next received).datagram [])))
      refusal) = some n') :
    (n'.peer x).stream.sendWindow
      = ((n.peer x).stream.sendWindow.acknowledge next received).window := by
  obtain ⟨hallows, heq⟩ := Option.ite_none_right_eq_some.mp hstep
  obtain ⟨id, buffer, rfl, hcall⟩ := reads_of_allows hidle hallows
  cases heq
  -- a reader takes it in, and leaves the send window as it is then
  have hspares (signal : Signal) : ((n.peer x).stream.heard n.now signal).Spares
      (Reader.resume (n.peer x).session.shared (.call id) buffer n.now .receiving
        signal).1.stream :=
    Reader.resume_spares _ _ _ _ fun _ _ => rfl
  obtain ⟨verdict, hpeer, -⟩ := peer_commit n x (.call id) _ _ refusal
  rw [hpeer]
  show ((n.peer x).session.resume _ _ _).1.stream.sendWindow = _
  unfold Session.resume
  simp only [hcall]
  rw [Session.recordReader, Session.stream_record, (hspares _).sendWindow]
  exact ((n.peer x).stream.receive_ack n.now next received).2.sendWindow

/-- **When it arrives that all was taken out**, the send window is empty. -/
theorem Reachable.cleared (h : Reachable settings n) (hidle : (n.peer z.other).session.NoWrites)
    (htaken : (n.peer z).taken = (n.peer z.other).assigned)
    (hstep : n.step? (.turn z.other me
      (.arrived (.datagram (n.peer z).stream.receiveWindow.ackDatagram)) refusal) = some n') :
    (n'.peer z.other).stream.sendWindow.size = 0
      ∧ (n'.peer z.other).stream.sendWindow.base = (n'.peer z.other).stream.next := by
  obtain ⟨acks, hsound⟩ := h.sound
  obtain ⟨acks', hsound'⟩ := (h.step _ hstep).sound
  have hlink := hsound.link_other z
  have hsend : (n.peer z.other).stream.sendWindow.Spans settings.initialSerial
      (n.peer z.other).passed (n.peer z.other).assigned.length
      (Link.Logged (n.peer z.other).assigned) := hlink.send
  have hbase : (n.peer z).stream.receiveWindow.base
      = settings.initialSerial + (n.peer z.other).assigned.length := by
    rw [← htaken]
    exact hlink.receive.base_eq
  have hpassed : (n.peer z.other).passed ≤ (n.peer z.other).assigned.length := by
    rw [← htaken]
    exact hlink.passed_le
  -- it acknowledges all that have numbers
  have hwindow := sendWindow_of_arrived hidle hstep
  rw [hbase] at hwindow
  obtain ⟨-, hspans, -⟩ :=
    hsend.acknowledge (n.peer z).stream.receiveWindow.received hpassed (Nat.le_refl _)
  rw [← hwindow] at hspans
  have hnarrow := hspans.narrow
  obtain ⟨hidle', hassigned⟩ := noWrites_step hidle (by simp [Event.isClean]) hstep
  have hquiet := Peer.isSending_of_writer?_eq_none hidle'.writer?_eq
  constructor
  · by_contra hsize
    obtain ⟨q, u, hu⟩ := (hspans.tidy.size_pos_iff (by omega)).mp (Nat.pos_of_ne_zero hsize)
    obtain ⟨k, hlo, hhi, -⟩ := hspans.stored q u hu
    omega
  · rw [hspans.base_eq, (hsound'.peer z.other).next_eq, Peer.committed, hquiet, hassigned]
    rfl

/-- **Recovery.** Take any state that can be reached, in which no write is in progress at the side
`x`, and its send window is not empty and everything in it is overdue. A flush comes to something
then. If all its datagrams arrive at the other side in a run in which nothing is written at `x` and
the socket at the other side takes what it is handed, and if a reader is waiting for that socket at
the end of it, then all segments that have numbers were taken out there, and none has got a number
meanwhile. The last acknowledgement that was sent there may be delivered; as soon as it arrives at
`x`, the send window is empty, and starts at the next serial number. -/
theorem Reachable.recovers (h : Reachable settings n) (x : Side)
    (hidle : (n.peer x).session.NoWrites)
    (hsize : 0 < (n.peer x).stream.sendWindow.size)
    (hdue : ∀ q u, (n.peer x).stream.sendWindow.find? q = some u →
      (n.peer x).stream.roundTrips.recentMin ≤ n.now - u.sentAt) :
    ∃ flush s, Flush.begin (n.peer x).stream n.now = (s, .going flush)
      ∧ ∀ events n', n.run? events = some n' → (∀ e ∈ events, e.isClean x = true) →
        (∀ d ∈ flush.datagrams, ∃ me,
          .turn x.other me (.arrived (.datagram d)) none ∈ events) →
        (∃ id buffer,
          (n'.peer x.other).session.call? id = some (.reading buffer .receiving)) →
        (n'.peer x.other).taken = (n'.peer x).assigned
          ∧ (n'.peer x).assigned = (n.peer x).assigned
          ∧ ∃ f, n'.lastAck? x.other = some f ∧ n'.isFresh x.other f = true
            ∧ ∀ me refusal n'',
              n'.step? (.turn x me (.arrived (.datagram f.datagram)) refusal) = some n'' →
              (n''.peer x).stream.sendWindow.size = 0
                ∧ (n''.peer x).stream.sendWindow.base = (n''.peer x).stream.next := by
  obtain ⟨acks, hsound⟩ := h.sound
  obtain ⟨flush, s, hbegin, hcovers⟩ := hsound.covers x hsize hdue
  refine ⟨flush, s, hbegin, ?_⟩
  intro events n' hrun hclean harrives hwaits
  obtain ⟨id, buffer, hcall⟩ := hwaits
  -- from here on it is about what the other side receives
  obtain ⟨z, rfl⟩ : ∃ z : Side, x = z.other := ⟨x.other, x.other_other.symm⟩
  rw [Side.other_other] at harrives hcall ⊢
  have hkept := h.upholds_run hidle hclean hrun
  have hcovered (q : Serial) (u : Segment Buffer)
      (hu : (n.peer z.other).stream.sendWindow.find? q = some u) :
      ∃ segments, u.wire ∈ segments ∧ Sendable settings segments
        ∧ ∃ me, .turn z me (.arrived (.datagram (Header.data.datagram segments))) none
          ∈ events := by
    obtain ⟨segments, hmem, hin, hsendable⟩ := hcovers q u hu
    exact ⟨segments, hin, hsendable, harrives _ hmem⟩
  have hreported : n'.Reported z := by
    obtain ⟨q, u, hu⟩ := hsound.exists_of_size_pos hsize
    obtain ⟨segments, -, hsendable, me, hmem⟩ := hcovered q u hu
    exact (h.arrives_run hidle hclean hrun hsendable hmem).1
  have hholds (j : Nat) (hj : j < (n'.peer z.other).assigned.length) :
      (n'.peer z).Holds settings j :=
    h.holds_run hidle hclean hrun hcovered (by rwa [← hkept.assigned_eq])
  obtain ⟨htaken, f, hlast, hdatagram, hfresh⟩ :=
    (h.run hrun).taken_of_holds hholds hreported hcall
  refine ⟨htaken, hkept.assigned_eq, f, hlast, hfresh, fun me refusal n'' hstep => ?_⟩
  rw [hdatagram] at hstep
  exact (h.run hrun).cleared hkept.noWrites htaken hstep

/-- The acknowledgement of the second segment has arrived, and by the second tick of the flusher the
first one is overdue. -/
def overdueFirst : List Event :=
  lostFirst ++ [.call .a (.read [0]) none, .elapse 5,
    .turn .a (.call 2) (.arrived (.datagram ackOfSecond)) none,
    .elapse 5, .turn .a .flusher .due none, .elapse 10]

/-- The flusher sends the first segment again. It arrives, and both messages are read; then a third
read waits. -/
def cleanExchange : List Event :=
  let first : Segment Bytes := ⟨⟨0xFFFFFFFF⟩, false, [7], 0⟩
  [.turn .a .flusher .due none,
    .turn .b (.call 0) (.arrived (.datagram (Header.data.datagram [first]))) none,
    .turn .b (.call 0) .sent none,
    .call .b (.read (List.replicate 9 0)) none, .turn .b (.call 1) .sent none,
    .call .b (.read (List.replicate 9 0)) none]

/-- The last acknowledgement of that exchange. -/
def ackOfBoth : Bytes :=
  (Header.ack ⟨1⟩ 0).datagram []

/-- After that exchange both segments were taken out, and when the acknowledgement arrives, the send
window is empty. -/
theorem recovers_of_overdueFirst : ∃ n n' n'' : Network, Reachable narrowSettings n
    ∧ 0 < (n.peer .a).stream.sendWindow.size
    ∧ n.run? cleanExchange = some n' ∧ (n'.peer .b).taken = (n'.peer .a).assigned
    ∧ n'.step? (.turn .a (.call 2) (.arrived (.datagram ackOfBoth)) none) = some n''
    ∧ (n''.peer .a).stream.sendWindow.size = 0
    ∧ (n''.peer .a).stream.sendWindow.base = (n''.peer .a).stream.next := by
  have hrun : (narrowStart.run? overdueFirst).map (fun n =>
      (((n.peer .a).session.calls.all fun entry => !entry.2.isWrite)
          && decide (0 < (n.peer .a).stream.sendWindow.size)
          && (n.peer .a).stream.sendWindow.slots.all fun o => o.all fun u =>
            decide ((n.peer .a).stream.roundTrips.recentMin ≤ n.now - u.sentAt),
        (Flush.begin (n.peer .a).stream n.now).2.datagrams,
        (n.run? cleanExchange).map fun n' =>
          ((n'.lastAck? .b).map Flight.datagram,
            ((n'.peer .b).session.call? 2).any Call.isReceiving
              && (n'.step? (.turn .a (.call 2) (.arrived (.datagram ackOfBoth)) none)).isSome)))
      = some (true, [Header.data.datagram [⟨⟨0xFFFFFFFF⟩, false, [7], 0⟩]],
        some (some ackOfBoth, true)) := by
    decide +kernel
  obtain ⟨n, hn, hview⟩ := exists_reachable narrowStart_isStart _ hrun
  obtain ⟨hbefore, hview⟩ := Prod.mk.inj hview
  obtain ⟨hbefore, hslots⟩ := Bool.and_eq_true_iff.mp hbefore
  obtain ⟨hcalls, hsize⟩ := Bool.and_eq_true_iff.mp hbefore
  obtain ⟨hdatagrams, hview⟩ := Prod.mk.inj hview
  obtain ⟨n', hrun', hview⟩ := Option.map_eq_some_iff.mp hview
  obtain ⟨hlast, hview⟩ := Prod.mk.inj hview
  obtain ⟨hcall, hstep⟩ := Bool.and_eq_true_iff.mp hview
  obtain ⟨n'', hstep⟩ := Option.isSome_iff_exists.mp hstep
  have hdue (q : Serial) (u : Segment Buffer)
      (hu : (n.peer .a).stream.sendWindow.find? q = some u) :
      (n.peer .a).stream.roundTrips.recentMin ≤ n.now - u.sentAt := by
    have hmem := (n.peer .a).stream.sendWindow.occupant_mem_slots q
    rw [(Window.find?_eq_some_iff.mp hu).1] at hmem
    have hall := Array.all_eq_true_iff_forall_mem.mp hslots _ hmem
    exact of_decide_eq_true hall
  obtain ⟨flush, s, hbegin, hrecovers⟩ := Reachable.recovers hn .a
    (Session.noWrites_of_all hcalls) (of_decide_eq_true hsize) hdue
  rw [hbegin] at hdatagrams
  obtain ⟨htaken, -, f, hf, -, hcleared⟩ := hrecovers cleanExchange n' hrun'
    (by decide)
    (by
      intro d hd
      rw [show flush.datagrams = _ from hdatagrams] at hd
      rw [List.mem_singleton.mp hd]
      exact ⟨.call 0, List.mem_cons_of_mem _ List.mem_cons_self⟩)
    (by
      obtain ⟨c, hc, hreceiving⟩ := (Option.any_eq_true ..).mp hcall
      obtain ⟨buffer, rfl⟩ := Call.eq_of_isReceiving hreceiving
      exact ⟨2, buffer, hc⟩)
  rw [show n'.lastAck? .b = some f from hf] at hlast
  obtain ⟨hempty, hbase⟩ := hcleared (.call 2) none n''
    (by rw [Option.some.inj hlast]; exact hstep)
  exact ⟨n, n', n'', hn, of_decide_eq_true hsize, hrun', htaken, hstep, hempty, hbase⟩

end Network

end Redelivery
