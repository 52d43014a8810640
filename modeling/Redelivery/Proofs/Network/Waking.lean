import Redelivery.Proofs.Network.Delivery
import Redelivery.Proofs.Network.Sides
import Redelivery.Proofs.Session.Waiting

/-!
# Writers that wait for room

A writer that waits for room in the send window is notified when an acknowledgement removes segments
from it. But room may also come from the base alone, when all segments that it passes were removed
by earlier acknowledgements, out of order. Nobody is notified of that, and the writer waits on in
front of a window with room, until its time is up. This is the only way in which it can happen.

## Main definitions

* `Network.heeds`: a rule by which no acknowledgement moves a send window and removes nothing.

## Main statements

* `Network.exists_unheeded`: a writer waits in vain.
* `Network.isFull_of_heeds`: by that rule, none does.

The result rides on `Session.Alert`: whenever a writer waits inside the section, it has been
notified or the window is full. A writer that begins to wait has just found no room
(`Writer.start_heeds`, `Writer.resume_heeds`), and from there on the window changes by
acknowledgements only, since the writer is the owner of the section. `Heeded.receive` is the one
place where the rule is needed: an acknowledgement that removes something notifies the writer, and
one that does not move the window leaves no more room than before. `alert_resume` and
`Session.Alert.perform` take that through the turns of all agents, `Session.Alert.cancel` through
abandoned calls, and `Leads.alert` through runs.

The rule concerns nothing but what is received. Calls may be abandoned, and datagrams may be forged.
So a writer that is not notified of room has always been passed by an acknowledgement of the kind
that the rule excludes.
-/

namespace Redelivery

/-- The job of a write that waits for room. -/
def Call.awaiting? : Call → Option Job
  | writing (.awaiting job _) => some job
  | _ => none

theorem Call.eq_of_awaiting? {c : Call} {job : Job} (h : c.awaiting? = some job) :
    ∃ limit, c = .writing (.awaiting job limit) := by
  unfold awaiting? at h
  split at h
  · cases h
    exact ⟨_, rfl⟩
  · cases h

/-! ## Sessions -/

namespace Session

variable {s s' : Session} {id : Nat}

/-- A turn of a call keeps a session alert, if it leaves a reason to wait to those that wait. -/
theorem Alert.of_call (hothers : ∀ j, j ≠ id → s'.call? j = s.call? j)
    (hstream : ∀ j w, j ≠ id → s.call? j = some (.writing w) → w.isInside = true →
      w.isSending = false → s'.stream.Heeded)
    (hme : ∀ w, s'.call? id = some (.writing w) → w.isInside = true → w.isSending = false →
      s'.stream.Heeded) : s'.Alert := by
  intro j w hcall hin hquiet
  by_cases hj : j = id
  · exact hme w (hj ▸ hcall) hin hquiet
  · rw [hothers j hj] at hcall
    exact hstream j w hj hcall hin hquiet

/-- A call that is not a write keeps a session alert. -/
theorem Alert.record (h : s.Alert) {x : Shared} {turn : Turn Call Result}
    (hstream : s.stream.Heeded → x.stream.Heeded)
    (hpoint : ∀ w, turn.point? ≠ some (.writing w)) : (s.record id x turn).1.Alert := by
  refine Alert.of_call (fun j hj => call?_record_of_ne s hj x turn) ?_ ?_
  · intro j w _ hcall hin hquiet
    rw [stream_record]
    exact hstream (h j w hcall hin hquiet)
  · intro w hcall
    rw [call?_record] at hcall
    exact absurd hcall (hpoint w)

theorem Alert.recordReader (h : s.Alert) {buffer : Bytes}
    {r : Shared × Turn Reader Reader.Outcome} (hstream : s.stream.Heeded → r.1.stream.Heeded) :
    (s.recordReader id buffer r).1.Alert := by
  apply h.record hstream
  intro w
  rw [Turn.point?_map]
  simp

theorem Alert.recordCloser (h : s.Alert) {r : Shared × Turn Closer Unit}
    (hstream : s.stream.Heeded → r.1.stream.Heeded) : (s.recordCloser id r).1.Alert := by
  apply h.record hstream
  intro w
  rw [Turn.point?_map]
  simp

theorem Alert.recordFlusher (h : s.Alert) {r : Shared × Turn Flusher Unit}
    (hstream : s.stream.Heeded → r.1.stream.Heeded) : (s.recordFlusher r).1.Alert := by
  obtain ⟨x, turn⟩ := r
  intro j w hcall hin hquiet
  cases turn <;> exact hstream (h j w hcall hin hquiet)

/-- A writer keeps a session alert. If it is the owner of the section, no other writer is inside. -/
theorem Alert.recordWriter (h : s.Alert) (horderly : s.Orderly)
    {r : Shared × Turn Writer Writer.Outcome} (hheeds : Writer.Heeds r)
    (hothers : (∀ agent, s.shared.writing.owner = some agent → agent = .call id)
      ∨ (s.stream.Heeded → r.1.stream.Heeded)) : (s.recordWriter id r).1.Alert := by
  refine Alert.of_call (fun j hj => call?_record_of_ne s hj r.1 _) ?_ ?_
  · intro j w hj hcall hin hquiet
    rw [show (s.recordWriter id r).1.stream = r.1.stream from stream_record ..]
    rcases hothers with howner | hstream
    · cases howner (.call j) (horderly (.call j) ⟨w, hcall, hin⟩)
      exact absurd rfl hj
    · exact hstream (h j w hcall hin hquiet)
  · intro w hcall hin hquiet
    rw [show (s.recordWriter id r).1.stream = r.1.stream from stream_record ..]
    rw [show (s.recordWriter id r).1.call? id = r.2.point?.map .writing from
      (call?_record _ id r.1 _).trans (Turn.point?_map _ _ r.2)] at hcall
    obtain ⟨v, hv, heq⟩ := Option.map_eq_some_iff.mp hcall
    cases heq
    exact hheeds w hv hin hquiet

/-- **The start of a write** keeps a session alert. -/
theorem Alert.write (h : s.Alert) (horderly : s.Orderly) (now id : Nat) (message : Bytes) :
    (s.write now id message).1.Alert := by
  unfold Session.write
  rcases Writer.begin_cases s.shared (.call id) now message
    with ⟨outcome, heq, -⟩ | ⟨-, -, -, heq⟩
  · rw [heq]
    exact h.recordWriter horderly (Writer.heeds_of_point?_eq_none rfl) (Or.inr fun hs => hs)
  · rw [heq]
    split
    · rename_i howner
      refine h.recordWriter horderly (Writer.start_heeds message) (Or.inl fun agent hagent => ?_)
      -- the section was free, or the new write would have to wait
      rw [Section.owner_enter_of_owner hagent] at howner
      exact Option.some.inj howner
    · refine h.recordWriter horderly ?_ (Or.inr fun hs => hs)
      intro w hw hin
      cases hw
      cases hin

/-- **A call** keeps a session alert. -/
theorem Alert.perform (h : s.Alert) (horderly : s.Orderly) (now id : Nat) (operation : Operation) :
    (s.perform now id operation).1.Alert := by
  cases operation with
  | read buffer => exact h.recordReader fun hs => hs.spares (Reader.begin_spares _ _ _)
  | write message => exact h.write horderly now id message
  | close =>
    exact recordCloser (s := { s with joinable := false }) h
      fun hs => hs.spares (Closer.begin_spares _ _ _)

/-- **A call that is abandoned** leaves a session alert: it is as good as one that is refused. -/
theorem Alert.cancel (h : s.Alert) (id : Nat) : (s.cancel id).Alert := by
  cases hcall : s.call? id with
  | none =>
    rw [cancel_of_call?_eq_none hcall]
    exact h
  | some c =>
    have hspares : s.stream.Spares (s.cancel id).stream := by
      unfold Session.cancel
      rw [hcall]
      exact ⟨rfl, rfl, rfl, fun hfreed => hfreed⟩
    rw [cancel_eq_record hcall]
    exact h.record (fun hs => hs.spares hspares) fun w hw => by cases hw

end Session

namespace Network

variable {settings : ValidSettings} {start n n' : Network} {i : Incident} {z : Side} {me : Agent}
  {signal : Signal}

/-! ## Turns -/

/-- No acknowledgement that is received moves the send window and removes nothing from it. -/
def heeds : Rule := fun n i =>
  match i with
  | .event (.turn side _ signal _) =>
    let before := (n.peer side).stream
    let after := before.heard n.now signal
    after.roomFreed || decide (after.sendWindow.base = before.sendWindow.base)
  | _ => true

/-- What is received by that rule leaves a stream heeded. -/
theorem heeded_heard {s : Stream} {now : Nat} (h : s.Heeded)
    (hrule : ((s.heard now signal).roomFreed
      || decide ((s.heard now signal).sendWindow.base = s.sendWindow.base)) = true) :
    (s.heard now signal).Heeded := by
  cases signal with
  | arrived arrival =>
    cases arrival with
    | fault reason => exact h
    | datagram raw =>
      rw [Bool.or_eq_true, decide_eq_true_eq] at hrule
      exact h.receive hrule
  | _ => exact h

/-- **A turn** keeps a session alert. -/
theorem alert_resume (horderly : (n.peer z).session.Orderly) (h : (n.peer z).session.Alert)
    (hallows : n.allows z me signal = true)
    (hheard : (n.peer z).stream.Heeded → ((n.peer z).stream.heard n.now signal).Heeded) :
    ((n.peer z).session.resume n.now me signal).1.Alert := by
  unfold Session.resume
  cases me with
  | flusher =>
    simp only
    cases hpoint : (n.peer z).session.flusher with
    | none => exact h
    | some point => exact h.recordFlusher fun hs => hs.spares (Flusher.resume_spares _ _ _ _)
  | call id =>
    simp only
    cases hcall : (n.peer z).session.call? id with
    | none => exact h
    | some call =>
      have hwait := Session.wait?_of_call? hcall
      cases call with
      | reading buffer point =>
        have hpoint := receiving_of_allows hcall hallows
        exact h.recordReader fun hs => (hheard hs).spares (Reader.resume_spares _ _ _ _ hpoint)
      | closing point =>
        exact h.recordCloser fun hs => hs.spares (Closer.resume_spares _ _ _ _)
      | writing point =>
        -- a writer that gets a turn owns the section
        have howner : (n.peer z).session.shared.writing.owner = some (.call id) := by
          by_cases hin : point.isInside = true
          · exact horderly (.call id) ⟨point, hcall, hin⟩
          · cases point with
            | entering message => exact (owner_of_allows hallows hwait).2
            | _ => exact absurd rfl hin
        have hpoint := polling_of_allows hcall hallows
        refine h.recordWriter horderly (Writer.resume_heeds _ _ _ hpoint ?_ ?_) (Or.inl ?_)
        · rintro message rfl
          exact (owner_of_allows hallows hwait).1
        · exact fun hin hquiet => hheard (h id point hcall hin hquiet)
        · intro agent hagent
          exact Option.some.inj (hagent.symm.trans howner)

/-! ## Runs -/

/-- **An incident** keeps a session alert. -/
theorem Happens.alert (h : n.Happens z i n') (horderly : (n.peer z).session.Orderly)
    (halert : (n.peer z).session.Alert) (hrule : heeds n i = true) :
    (n'.peer z).session.Alert := by
  cases h with
  | elsewhere hpeer =>
    rw [hpeer]
    exact halert
  | called hincident hsession =>
    rw [hsession]
    exact halert.perform horderly n.now _ _
  | turned hincident hallows hsession =>
    subst hincident
    rw [hsession]
    exact alert_resume horderly halert hallows fun hs => heeded_heard hs hrule
  | cancelled id hsession =>
    rw [hsession]
    exact halert.cancel id

/-- **Both sessions are alert**, whatever has happened by the rule. -/
theorem Leads.alert (h : start.Leads heeds n) (hstart : start.IsStart settings) (y : Side) :
    (n.peer y).session.Alert := by
  have hfirst : start.Leads heeds start := .refl start
  have hboth : (n.peer y).session.Guarded ∧ (n.peer y).session.Alert := by
    refine h.invariant (P := fun m => (m.peer y).session.Guarded ∧ (m.peer y).session.Alert)
      ⟨hfirst.guarded hstart y, ?_⟩ ?_
    · intro id w hcall
      obtain ⟨pool, traffic, now, heq⟩ := hstart.peer_eq y
      rw [heq] at hcall
      cases hcall
    · rintro mid i next ⟨hguarded, halert⟩ hrule hstep
      have horderly : (mid.peer y).session.Orderly := fun _ hin => hguarded.held.owner hin
      exact ⟨guarded_undergo hguarded hstep, (happens hstep y).alert horderly halert hrule⟩
  exact hboth.2

/-! ## Waiting in vain -/

/-- The second segment is acknowledged before the first one, and the window fills up again behind
the gap that it leaves. Then the second one is read. -/
def movedBase : List Event :=
  let first : Segment Bytes := ⟨⟨0xFFFFFFFF⟩, false, [7], 0⟩
  let ack (next : Serial) : Arrival := .datagram ((Header.ack next 0).datagram [])
  lostFirst ++
    [.call .a (.read [0]) none,
      .turn .a (.call 2) (.arrived (.datagram ackOfSecond)) none,
      .elapse narrowSettings.flushInterval, .turn .a .flusher .due none,
      .elapse narrowSettings.flushInterval, .turn .a .flusher .due none,
      .turn .b (.call 0) (.arrived (.datagram (Header.data.datagram [first]))) none,
      .turn .b (.call 0) .sent none,
      .turn .a (.call 2) (.arrived (ack ⟨0⟩)) none,
      .turn .a .flusher .sent none,
      .call .a (.write [11]) none, .turn .a (.call 3) .sent none,
      .call .a (.write [13]) none, .turn .a (.call 4) .sent none,
      .call .b (.read (List.replicate 9 0)) none,
      .turn .a (.call 2) (.arrived (ack ⟨1⟩)) none]

/-- **A writer waits in vain**: it has not been notified, though there is room for its segment. -/
theorem exists_unheeded : ∃ n, Reachable narrowSettings n
    ∧ (n.peer .a).stream.closed = false ∧ (n.peer .a).stream.roomFreed = false
    ∧ ∃ id job limit, (n.peer .a).session.call? id = some (.writing (.awaiting job limit))
      ∧ ((n.peer .a).stream.insert? n.now job.body (!job.rest.isEmpty)).isSome = true := by
  have hrun : (narrowStart.run? movedBase).map (fun n =>
      ((n.peer .a).stream.closed, (n.peer .a).stream.roomFreed,
        (((n.peer .a).session.call? 4).bind Call.awaiting?).any fun job =>
          ((n.peer .a).stream.insert? n.now job.body (!job.rest.isEmpty)).isSome))
      = some (false, false, true) := by
    decide +kernel
  obtain ⟨n, hn, hview⟩ := exists_reachable narrowStart_isStart _ hrun
  obtain ⟨hopen, hview⟩ := Prod.mk.inj hview
  obtain ⟨hfreed, hroom⟩ := Prod.mk.inj hview
  obtain ⟨job, hwaits, hroom⟩ := (Option.any_eq_true ..).mp hroom
  obtain ⟨c, hcall, hjob⟩ := Option.bind_eq_some_iff.mp hwaits
  obtain ⟨limit, rfl⟩ := Call.eq_of_awaiting? hjob
  exact ⟨n, hn, hopen, hfreed, 4, job, limit, hcall, hroom⟩

/-- **No writer waits in vain** as long as no acknowledgement moves the send window and removes
nothing from it, whatever else happens, calls abandoned and datagrams forged included: a writer that
waits for room, and has not been notified since it began to, would find none. An acknowledgement
that removes anything notifies it at once, so whatever else arrives leaves all segments where they
are. -/
theorem isFull_of_heeds (hstart : start.IsStart settings) (h : start.Leads heeds n) (x : Side) :
    (∀ id job limit, (n.peer x).session.call? id = some (.writing (.awaiting job limit)) →
      (n.peer x).stream.roomFreed = false →
      ∀ now, (n.peer x).stream.insert? now job.body (!job.rest.isEmpty) = none)
      ∧ ∀ now raw, ((n.peer x).stream.receive now raw).1.roomFreed = false →
        ∀ q, ((n.peer x).stream.receive now raw).1.sendWindow.find? q
          = (n.peer x).stream.sendWindow.find? q := by
  refine ⟨?_, ?_⟩
  · intro id job limit hcall hfreed now
    rcases h.alert hstart x id _ hcall rfl rfl with hnotified | hfull
    · exact absurd (hnotified.symm.trans hfreed) (by decide)
    · exact hfull now _ _
  · intro now raw hquiet q
    obtain ⟨hwindow, -⟩ := Stream.sendWindow_of_not_roomFreed hquiet
    rw [hwindow]
    exact Window.find?_congr rfl q

/-- The second segment is acknowledged, which a read takes in. Then a third write finds the window
full, though only the first segment is left in it, and sends that one again. -/
def waitingWrite : List Event :=
  lostFirst ++
    [.call .a (.read [0]) none,
      .turn .a (.call 2) (.arrived (.datagram ackOfSecond)) none,
      .call .a (.write [11]) none, .turn .a (.call 3) .sent none]

/-- That write does not wait in vain. -/
theorem isFull_of_waitingWrite : ∃ n, narrowStart.Leads heeds n
    ∧ (n.peer .a).stream.roomFreed = false ∧ (n.peer .a).stream.sendWindow.size = 1
    ∧ ∃ id job limit, (n.peer .a).session.call? id = some (.writing (.awaiting job limit))
      ∧ ∀ now, (n.peer .a).stream.insert? now job.body (!job.rest.isEmpty) = none := by
  have hrun : (narrowStart.follow? heeds (waitingWrite.map .event)).map (fun n =>
      ((n.peer .a).stream.roomFreed, (n.peer .a).stream.sendWindow.size,
        (((n.peer .a).session.call? 3).bind Call.awaiting?).isSome)) = some (false, 1, true) := by
    decide +kernel
  obtain ⟨n, hn, hview⟩ := exists_leads _ hrun
  obtain ⟨hfreed, hview⟩ := Prod.mk.inj hview
  obtain ⟨hsize, hwaits⟩ := Prod.mk.inj hview
  obtain ⟨hnone, -⟩ := isFull_of_heeds narrowStart_isStart hn .a
  obtain ⟨job, hwaits⟩ := Option.isSome_iff_exists.mp hwaits
  obtain ⟨c, hcall, hjob⟩ := Option.bind_eq_some_iff.mp hwaits
  obtain ⟨limit, rfl⟩ := Call.eq_of_awaiting? hjob
  exact ⟨n, hn, hfreed, hsize, 3, job, limit, hcall, hnone 3 job limit hcall hfreed⟩

end Network

end Redelivery
