import Redelivery.Proofs.Network.Delivery
import Redelivery.Proofs.Network.Incidents

/-!
# Calls that are abandoned

A caller may abandon a call at any point at which it waits. The call gives up what it holds then,
and nothing else happens. That is harmless for all calls but one: a write that has a part of its
message on the way leaves the stream open with a message that is not finished, and what is written
next is taken for the rest of it. A write that *fails* at that point closes the stream.

## Main definitions

* `Call.isUnbegun`: no part of a message hangs on the call.
* `Network.abandons`, `Network.abandonsUnbegun`: calls are abandoned, all or only those.

## Main statements

* `Network.exists_joined`: a write that is abandoned too late spoils the message after it.
* `Network.delivered_of_abandonsUnbegun`: otherwise all messages arrive as they were written, and an
  abandoned read loses none.

To abandon a call is the same as a turn in which it fails and gives up what it holds
(`Peer.record_returns_eq_cancel`), and that reduces what is harmless to what is known of turns
already:

* a call that is outside the section is a case of `Sound.outside` (`outside_cancel`);
* a writer that is inside but has sent nothing is one that fails, a case of `Sound.writer_turn`
  (`Sound.cancel_writing`);
* a read may have a message in hand, or an acknowledgement, but both are kept in the stream and not
  by the call, so the next read goes on where this one was (`Peer.sameReceiver_cancel`).

What is left is a write that has a segment under way. `exists_joined` is a run in which that one is
abandoned. The ledger is out of order then: what was numbered has the beginning of a message in it,
the stream is open, and the next write goes on right behind. A write that fails at the same point
closes the stream, and so it never comes to this.
-/

namespace Redelivery

/-- Whether no part of a message hangs on the call: it is not a write, or none of its segments has
got a number. -/
def Call.isUnbegun : Call → Bool
  | reading _ _ => true
  | writing w => !w.begun
  | closing _ => true

namespace Session

variable {s : Session} {id : Nat} {c : Call}

theorem cancel_of_call? (h : s.call? id = some c) :
    s.cancel id = ({ s with shared := (s.cancel id).shared } : Session).forget id := by
  unfold cancel
  rw [h]
  rfl

theorem call?_cancel (h : s.call? id = some c) (j : Nat) :
    (s.cancel id).call? j = if j = id then none else s.call? j := by
  rw [cancel_of_call? h]
  exact call?_forget _ id j

theorem flusher_cancel (h : s.call? id = some c) : (s.cancel id).flusher = s.flusher := by
  rw [cancel_of_call? h]
  rfl

theorem writing_cancel (h : s.call? id = some c) :
    (s.cancel id).shared.writing = s.shared.writing.leave (.call id) := by
  unfold cancel
  rw [h]
  rfl

/-- Nothing of what decides about the way of a message hangs on an abandoned call. -/
theorem alike_cancel (s : Session) (id : Nat) : s.stream.Alike (s.cancel id).stream := by
  unfold cancel
  cases s.call? id with
  | none => exact Stream.Alike.refl s.stream
  | some c => exact ⟨rfl, rfl, rfl, rfl, rfl, rfl, fun hclosed => hclosed⟩

end Session

namespace Peer

variable {p : Peer} {id : Nat} {c : Call}

theorem cancel_of_call? (h : p.session.call? id = some c) :
    p.cancel id = { p with session := p.session.cancel id, failed := p.failed ++ [id] } := by
  unfold cancel
  rw [h]

theorem cancel_of_call?_eq_none (h : p.session.call? id = none) : p.cancel id = p := by
  unfold cancel
  rw [h]

/-- An abandoned call leaves the receiving half alone. -/
theorem sameReceiver_cancel (p : Peer) (id : Nat) : SameReceiver p (p.cancel id) := by
  have halike := p.session.alike_cancel id
  cases h : p.session.call? id with
  | none =>
    rw [cancel_of_call?_eq_none h]
    exact ⟨rfl, rfl, rfl, rfl, rfl⟩
  | some c =>
    rw [cancel_of_call? h]
    exact ⟨halike.receiveWindow, halike.assembled, halike.complete, rfl, rfl⟩

/-- A call that is outside the section for writing is outside when it is abandoned. -/
theorem outside_cancel (h : p.session.call? id = some c) (hapart : p.Apart id) :
    Outside p (p.cancel id) id := by
  have hgone : (p.session.cancel id).call? id = none :=
    (Session.call?_cancel h id).trans (if_pos rfl)
  rw [cancel_of_call? h]
  exact
    { apart := hapart
      others := fun j hj => (Session.call?_cancel h j).trans (if_neg hj)
      after := by
        rintro ⟨w, hw, -⟩
        cases hgone.symm.trans hw
      entering := fun message hcall => by cases hgone.symm.trans hcall
      flusher := Session.flusher_cancel h
      owner := fun agent hne howner => by
        show (p.session.cancel id).shared.writing.owner = some agent
        rw [Session.writing_cancel h]
        exact Section.owner_leave_of_ne howner hne
      calls := rfl
      entered := Or.inl rfl
      failed := Or.inr ⟨rfl, hgone⟩ }

/-- To abandon a call is the same as a turn in which it fails, and leaves. -/
theorem record_returns_eq_cancel (h : p.session.call? id = some c) (failure : Failure) :
    p.record (.call id)
        (p.session.recordWriter id ((p.session.cancel id).shared, .returns (.error failure)))
      = p.cancel id := by
  have halike := p.session.alike_cancel id
  have hturn : p.session.recordWriter id ((p.session.cancel id).shared, .returns (.error failure))
      = (p.session.cancel id, .returns id (.failed failure)) :=
    Prod.ext (Session.cancel_of_call? h).symm rfl
  have htaken : taken? p.stream (p.session.cancel id).stream = none :=
    taken?_eq_none (congrArg Window.base halike.receiveWindow)
  have hpassed : (p.session.cancel id).stream.sendWindow.base.distanceFrom p.stream.sendWindow.base
      = 0 := by
    rw [halike.sendWindow]
    exact distanceFrom_self _
  rw [cancel_of_call? h, hturn]
  unfold record observe
  simp only [htaken, hpassed, numbered?, Option.toList_none, List.append_nil, Nat.add_zero]

end Peer

namespace Network

variable {settings : ValidSettings} {start n n' : Network} {acks : Side → List Ack} {z : Side}
  {id : Nat}

/-! ## What is harmless -/

/-- **A writer that has sent nothing is abandoned.** It is as if it had failed. -/
theorem Sound.cancel_writing (h : n.Sound settings acks) {w : Writer}
    (hcall : (n.peer z).session.call? id = some (.writing w)) (hin : w.isInside = true)
    (hbegun : w.begun = false) : (n.withPeer z ((n.peer z).cancel id)).Sound settings acks := by
  have hwriter := (h.peer z).orderly.writer?_eq hcall hin
  have hquiet : w.isSending = false := by
    cases w with
    | sending rest datagram piggybacked => cases hbegun
    | _ => rfl
  have hbodies : w.bodies ≠ [] := by
    cases w with
    | entering message => cases hin
    | sending rest datagram piggybacked => cases hbegun
    | _ => exact List.cons_ne_nil _ _
  have hturn := h.quiet_turn hwriter hquiet
    (r := (((n.peer z).session.cancel id).shared, .returns (.error .streamClosed)))
    (fun _ _ _ => .fails hbodies ((n.peer z).session.alike_cancel id)
      (Session.writing_cancel hcall) fun hsome => by rw [hbegun] at hsome; cases hsome) none
  rw [Peer.record_returns_eq_cancel hcall] at hturn
  exact hturn

/-- **A call that has nothing to do with a message under way is abandoned.** -/
theorem Sound.cancel (h : n.Sound settings acks)
    (hall : ((n.peer z).session.call? id).all Call.isUnbegun = true) :
    (n.withPeer z ((n.peer z).cancel id)).Sound settings acks := by
  have hp := h.peer z
  cases hcall : (n.peer z).session.call? id with
  | none =>
    rw [Peer.cancel_of_call?_eq_none hcall]
    show ({ n with peer := Function.update n.peer z (n.peer z) } : Network).Sound settings acks
    rwa [Function.update_eq_self]
  | some c =>
    -- a writer inside the section fails; any other call is outside and leaves no trace
    by_cases hin : ∃ w, c = .writing w ∧ w.isInside = true
    · obtain ⟨w, rfl, hin⟩ := hin
      rw [hcall] at hall
      exact h.cancel_writing hcall hin (by simpa [Call.isUnbegun] using hall)
    · have hapart : (n.peer z).Apart id := by
        apply hp.booked.apart hcall
        intro w hw
        by_contra hne
        exact hin ⟨w, hw, Bool.eq_true_of_not_eq_false hne⟩
      have hout := Peer.outside_cancel hcall hapart
      have halike := (n.peer z).session.alike_cancel id
      have hsame := (n.peer z).sameReceiver_cancel id
      rw [Peer.cancel_of_call? hcall] at hout hsame ⊢
      exact h.outside hout halike rfl rfl rfl rfl fun _ _ => rfl

/-! ## Rules -/

/-- Any call may be abandoned. -/
def abandons : Rule := fun _ i =>
  match i with
  | .event _ => true
  | .cancel _ _ => true
  | .forge _ _ => false

/-- Any call may be abandoned, unless a part of a message hangs on it. -/
def abandonsUnbegun : Rule := fun n i =>
  match i with
  | .event _ => true
  | .cancel side id => ((n.peer side).session.call? id).all Call.isUnbegun
  | .forge _ _ => false

/-- **The network is sound**, whatever has happened and whatever harmless call was abandoned. -/
theorem Leads.sound_of_abandonsUnbegun (h : start.Leads abandonsUnbegun n)
    (hstart : start.IsStart settings) : ∃ acks, n.Sound settings acks := by
  refine h.invariant (P := fun m => ∃ acks, m.Sound settings acks) ⟨_, hstart.sound⟩ ?_
  rintro mid i next ⟨acks, hsound⟩ hrule hstep
  cases i with
  | event e => exact hsound.step hstep
  | cancel side id =>
    cases hstep
    exact ⟨acks, hsound.cancel hrule⟩
  | forge side datagram => cases hrule

/-- The messages that one end delivers are those that the other end accepted, as far as they have
come. -/
theorem Sound.delivered_prefix_accepted (h : n.Sound settings acks) (x : Side) :
    (n.peer x.other).delivered <+: (n.peer x).accepted := by
  have hlink := h.link x
  have htaken : (assemble (n.peer x.other).taken).messages
      <+: (assemble (n.peer x).assigned).messages :=
    assemble_messages_mono hlink.taken_prefix
  exact ((h.peer x.other).delivered_prefix_assemble.trans htaken).trans
    (h.peer x).assemble_prefix_accepted

/-! ## What arrives -/

/-- A write of ten bytes is abandoned when the first nine of them were sent and the window is full.
The other end reads what was sent, and then another message is written. -/
def abandonedWrite : List Incident :=
  let first : Segment Bytes := ⟨⟨0xFFFFFFFF⟩, false, [7], 0⟩
  let part : Segment Bytes := ⟨⟨0⟩, true, [1, 2, 3, 4, 5, 6, 7, 8, 9], 0⟩
  let other : Segment Bytes := ⟨⟨1⟩, false, [13], 0⟩
  [.event (.call .a (.write [7]) none), .event (.turn .a (.call 0) .sent none),
    .event (.call .a (.write [1, 2, 3, 4, 5, 6, 7, 8, 9, 10]) none),
    .event (.turn .a (.call 1) .sent none), .cancel .a 1,
    .event (.call .b (.read [0]) none),
    .event (.turn .b (.call 0) (.arrived (.datagram (Header.data.datagram [first]))) none),
    .event (.turn .b (.call 0) .sent none),
    .event (.call .b (.read (List.replicate 10 0)) none),
    .event (.turn .b (.call 1) (.arrived (.datagram (Header.data.datagram [part]))) none),
    .event (.turn .b (.call 1) .sent none),
    .event (.call .a (.write [13]) none),
    .event (.turn .a (.call 2) (.arrived (.datagram ((Header.ack ⟨1⟩ 0).datagram []))) none),
    .event (.turn .a (.call 2) .room none), .event (.turn .a (.call 2) .sent none),
    .event (.turn .b (.call 1) (.arrived (.datagram (Header.data.datagram [other]))) none),
    .event (.turn .b (.call 1) .sent none)]

/-- **A write that is abandoned too late spoils the message after it.** What was sent of it is
delivered in one piece with that message, which nobody has written so. -/
theorem exists_joined : ∃ n, narrowStart.Leads abandons n
    ∧ (n.peer .a).stream.closed = false
    ∧ ∃ message ∈ (n.peer .b).delivered, ∀ entry ∈ (n.peer .a).entered, entry.2 ≠ message := by
  have hrun : (narrowStart.follow? abandons abandonedWrite).map (fun n =>
      ((n.peer .a).stream.closed, (n.peer .b).delivered, (n.peer .a).entered))
      = some (false, [[7], [1, 2, 3, 4, 5, 6, 7, 8, 9, 13]],
        [(0, [7]), (1, [1, 2, 3, 4, 5, 6, 7, 8, 9, 10]), (2, [13])]) := by
    decide +kernel
  obtain ⟨n, hn, hview⟩ := exists_leads _ hrun
  obtain ⟨hopen, hview⟩ := Prod.mk.inj hview
  obtain ⟨hdelivered, hentered⟩ := Prod.mk.inj hview
  refine ⟨n, hn, hopen, [1, 2, 3, 4, 5, 6, 7, 8, 9, 13], ?_, ?_⟩
  · rw [hdelivered]
    decide
  · rw [hentered]
    decide

/-- **Other calls may be abandoned at any time.** As long as no write is abandoned that has a part
of its message on the way, every message that a read returns was written as a whole by a write that
did not fail, and they come in order, without a gap. No abandoned read loses anything: all segments
with numbers are in one of the windows or were taken out; those that were taken out are the first of
them, and they add up to what was delivered and what the next read goes on with; and to abandon a
call once more does not change that. -/
theorem delivered_of_abandonsUnbegun (hstart : start.IsStart settings)
    (h : start.Leads abandonsUnbegun n) (x : Side) :
    (n.peer x.other).delivered <+: (n.peer x).accepted
      ∧ (∀ message ∈ (n.peer x.other).delivered,
        ∃ id, (id, message) ∈ (n.peer x).entered ∧ id ∉ (n.peer x).failed)
      ∧ (∀ k piece, (n.peer x).assigned[k]? = some piece → n.Kept settings x k piece)
      ∧ (n.peer x.other).taken <+: (n.peer x).assigned
      ∧ (n.peer x.other).Consumed
      ∧ ∀ id, (n.peer x.other).SameReceiver ((n.peer x.other).cancel id) := by
  obtain ⟨acks, hsound⟩ := h.sound_of_abandonsUnbegun hstart
  have hlink := hsound.link x
  have hfront := hsound.delivered_prefix_accepted x
  refine ⟨hfront, ?_, fun k piece => hsound.kept, hlink.taken_prefix,
    (hsound.peer x.other).delivery, (n.peer x.other).sameReceiver_cancel⟩
  intro message hmessage
  obtain ⟨⟨id, m⟩, hentry, rfl⟩ := List.mem_map.mp (hfront.subset hmessage)
  obtain ⟨hentered, hfailed⟩ := List.mem_filter.mp hentry
  exact ⟨id, hentered, by simpa using hfailed⟩

/-- A third write is abandoned while it waits for room, and a read while the socket takes its
acknowledgement, with a whole message in hand; then two more reads are made. -/
def abandonedRead : List Incident :=
  let first : Segment Bytes := ⟨⟨0xFFFFFFFF⟩, false, [7], 0⟩
  let second : Segment Bytes := ⟨⟨0⟩, false, [9], 0⟩
  [.event (.call .a (.write [7]) none), .event (.turn .a (.call 0) .sent none),
    .event (.call .a (.write [9]) none), .event (.turn .a (.call 1) .sent none),
    .event (.call .a (.write [11]) none), .cancel .a 2,
    .event (.call .b (.read [0]) none),
    .event (.turn .b (.call 0) (.arrived (.datagram (Header.data.datagram [first]))) none),
    .cancel .b 0, .event (.call .b (.read [0]) none), .event (.call .b (.read [0]) none),
    .event (.turn .b (.call 2) (.arrived (.datagram (Header.data.datagram [second, first]))) none),
    .event (.turn .b (.call 2) .sent none)]

/-- The message that the abandoned read had in hand goes to the next one. -/
theorem delivered_of_abandonedRead : ∃ n, narrowStart.Leads abandonsUnbegun n
    ∧ (n.peer .b).delivered = [[7], [9]] ∧ (n.peer .b).failed = [0]
    ∧ [[7], [9]] <+: (n.peer .a).accepted := by
  have hrun : (narrowStart.follow? abandonsUnbegun abandonedRead).map (fun n =>
      ((n.peer .b).delivered, (n.peer .b).failed)) = some ([[7], [9]], [0]) := by
    decide +kernel
  obtain ⟨n, hn, hview⟩ := exists_leads _ hrun
  obtain ⟨hdelivered, hfailed⟩ := Prod.mk.inj hview
  obtain ⟨hfront, -⟩ := delivered_of_abandonsUnbegun narrowStart_isStart hn .a
  refine ⟨n, hn, hdelivered, hfailed, ?_⟩
  rw [← hdelivered]
  exact hfront

end Network

end Redelivery
