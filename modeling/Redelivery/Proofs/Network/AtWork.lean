import Redelivery.Proofs.Network.Outside

/-!
# A writer inside the section for writing

What a writer does inside the section is the heart of the matter: it numbers the pieces of its
message one after the other, and when it fails it leaves no trace that a reader could take for a
message. Here a turn of a writer is followed from the moment at which it has got its signal, and
everything that the signal itself brings about is done.

## Main definitions

* `Peer.AtWork`: what holds of a peer while a writer is in the middle of a turn.
* `Network.Serves`: what holds of both directions then.

## Main statements

* `Peer.AtWork.stays`, `Peer.AtWork.leaves`: who is inside after the turn.
* `Network.Sound.writer_turn`: the network is sound after the turn.

A turn of a writer is one of few things: `Writer.Move` has one constructor for each of them, and the
proof of `Sound.writer_turn` is by cases on it. For each case there are two lemmas. One says what
becomes of the peer, and one what becomes of the direction from it:

* the writer rests, or repeats something: `AtWork.sound_of_stays` and `Sound.after_quiet_writer`;
* it numbers its next segment: `AtWork.sound_of_numbers`, where the ledger grows by one piece
  (`AtWork.working_of_numbers`), and `Peer.link_of_numbers`, where the direction does;
* it is done: `AtWork.sound_of_finishes`, where what was sent of the message is all of it;
* it fails: `AtWork.sound_of_fails`. What was sent of the message stays in the ledger as the
  beginning of one that is never completed, and if there is such a beginning, the stream is closed,
  so nothing can follow it.

In the middle of a turn no segment is in the balance. So `Serves` states both directions without
any, and it is only at the end of the turn, in `Sound.writer_after`, that the verdict of the socket
comes in and decides whether the latest segment is exposed.
-/

namespace Redelivery

namespace Peer

/-- The direction from the peer `p` to the peer `q` while nothing that has a number is in the
balance. -/
def fullLink (settings : ValidSettings) (p q : Peer) (acks : List Ack) : Link :=
  { p.link settings q acks with exposed := p.assigned.length }

/-- What is left of a message is cut as finely as the rest of it. -/
theorem Working.body_le {settings : ValidSettings} {p : Peer} {id : Nat} {started : Bool}
    {bodies : List Bytes} (h : p.Working settings id started bodies) :
    ∀ b ∈ bodies, b.length ≤ settings.maxSegment := by
  obtain ⟨others, done, last, begun, -, -, -, -, hpieces, -⟩ := h
  have hchunks := congrArg (List.map Piece.body) hpieces
  rw [Bytes.pieces, List.map_append, Piece.map_body_ofBodies, Piece.map_body_ofBodies] at hchunks
  intro b hb
  have hmem : b ∈ Bytes.chunks settings.maxSegment last := by
    rw [hchunks]
    exact List.mem_append_right _ hb
  exact Bytes.length_le_of_mem_chunks hmem

/-- A write that fails takes its message back. -/
theorem accepted_of_fails {p p' : Peer} {id : Nat} {others : List (Nat × Bytes)} {last : Bytes}
    {done : List Bytes} (hnodup : (p.entered.map (·.1)).Nodup) (hfailed : id ∉ p.failed)
    (hentered : p.entered = others ++ [(id, last)]) (haccepted : p.accepted = done ++ [last])
    (hentered' : p'.entered = p.entered) (hfailed' : p'.failed = p.failed ++ [id]) :
    p'.accepted = done := by
  have hothers : id ∉ others.map (·.1) := by
    rw [hentered, List.map_append, List.nodup_append] at hnodup
    intro hmem
    exact hnodup.2.2 id hmem id List.mem_cons_self rfl
  have hkept : (others.filter fun entry => !p.failed.contains entry.1).map (·.2) = done := by
    unfold accepted at haccepted
    rw [hentered, List.filter_append, List.map_append] at haccepted
    -- the write has not failed before, so its message is the last one that counts
    refine (List.append_inj' haccepted ?_).1
    simp [hfailed]
  unfold accepted
  rw [hentered', hfailed', hentered, List.filter_append, filter_failed_concat _ hothers,
    List.map_append, hkept]
  simp

/-- The writer with call `id` is in the middle of a turn: it owns the section, and it has the given
bodies still to send. -/
structure AtWork (settings : ValidSettings) (p : Peer) (id : Nat) (started : Bool)
    (bodies : List Bytes) : Prop where
  /-- The settings of the stream. -/
  settings_eq : p.stream.settings = settings
  /-- Only the owner of the section for writing is inside. -/
  orderly : p.session.Orderly
  /-- The writer is the owner. -/
  owner : p.session.shared.writing.owner = some (.call id)
  /-- Calls are kept apart. -/
  counted : p.Counted
  /-- Other calls that got hold of the section are where they should be. -/
  inside : ∀ entry ∈ p.entered, entry.1 ≠ id → ∀ c, p.session.call? entry.1 = some c →
    p.session.Inside (.call entry.1)
  /-- Messages that wait for the section can be sent. -/
  entering : p.Entering settings
  /-- The write has not failed. -/
  not_failed : id ∉ p.failed
  /-- What was numbered spells what was accepted, up to the part of the message that was sent. -/
  working : p.Working settings id started bodies
  /-- The next serial number. -/
  next_eq : p.stream.next = settings.initialSerial + p.assigned.length
  /-- What was taken out of the receive window is accounted for. -/
  delivery : p.Consumed

/-- The peer after the turn of a writer, whatever the socket makes of its datagram. -/
def afterWriter (p : Peer) (id : Nat) (r : Shared × Turn Writer Writer.Outcome)
    (verdict : Agent → Signal) : Peer :=
  (p.record (.call id) (p.session.recordWriter id r)).judged verdict

section

variable {p : Peer} {id : Nat} {r : Shared × Turn Writer Writer.Outcome}
  {verdict : Agent → Signal}

theorem shared_afterWriter : (p.afterWriter id r verdict).session.shared = r.1 :=
  Session.shared_record _ id r.1 _

theorem stream_afterWriter : (p.afterWriter id r verdict).stream = r.1.stream :=
  congrArg Shared.stream shared_afterWriter

theorem call?_afterWriter :
    (p.afterWriter id r verdict).session.call? id = r.2.point?.map .writing :=
  (Session.call?_record _ id r.1 _).trans (Turn.point?_map _ _ r.2)

theorem call?_afterWriter_of_ne {j : Nat} (hj : j ≠ id) :
    (p.afterWriter id r verdict).session.call? j = p.session.call? j :=
  Session.call?_record_of_ne _ hj r.1 _

/-- After a writer has returned, all calls that are left are others, and are where they were. -/
theorem of_call?_afterWriter (hpoint : r.2.point? = none) {j : Nat} {c : Call}
    (hc : (p.afterWriter id r verdict).session.call? j = some c) :
    j ≠ id ∧ p.session.call? j = some c := by
  have hj : j ≠ id := by
    rintro rfl
    rw [call?_afterWriter, hpoint] at hc
    cases hc
  rw [call?_afterWriter_of_ne hj] at hc
  exact ⟨hj, hc⟩

theorem flusher_afterWriter : (p.afterWriter id r verdict).session.flusher = p.session.flusher :=
  Session.flusher_record _ id r.1 _

theorem delivered_afterWriter : (p.afterWriter id r verdict).delivered = p.delivered := by
  obtain ⟨x, turn⟩ := r
  cases turn with
  | returns result => cases result <;> rfl
  | _ => rfl

theorem failed_afterWriter_of_point? {w : Writer} (h : r.2.point? = some w) :
    (p.afterWriter id r verdict).failed = p.failed := by
  obtain ⟨x, turn⟩ := r
  cases turn with
  | returns result => cases h
  | _ => rfl

theorem failed_afterWriter (h : r.2.point? = none) :
    (p.afterWriter id r verdict).failed = p.failed
      ∨ (p.afterWriter id r verdict).failed = p.failed ++ [id] := by
  obtain ⟨x, turn⟩ := r
  cases turn with
  | returns result =>
    cases result with
    | ok => exact Or.inl rfl
    | error failure => exact Or.inr rfl
  | _ => cases h

/-- A writer that waits for the socket to take a new segment has just numbered it. -/
theorem numbered?_sending {s : Session} {rest : List Bytes} {datagram handed : Bytes}
    {piggybacked : Nat} {u : Segment Buffer}
    (hcall : s.call? id = some (.writing (.sending rest datagram piggybacked)))
    (hfind : s.stream.sendWindow.find? s.stream.next = some u) :
    numbered? s (.call id) (.hands handed) = some u.wire.piece := by
  unfold numbered?
  simp only [hcall, hfind, Option.map_some]

theorem assigned_afterWriter (h : ∀ w, r.2.point? = some w → w.isSending = false) :
    (p.afterWriter id r verdict).assigned = p.assigned := by
  apply assigned_record
  apply numbered?_eq_none
  intro j w hj hw
  cases hj
  have hcall : (p.afterWriter id r verdict).session.call? id = some (.writing w) := hw
  rw [call?_afterWriter] at hcall
  cases hpoint : r.2.point? with
  | none =>
    rw [hpoint] at hcall
    cases hcall
  | some w' =>
    rw [hpoint] at hcall
    cases hcall
    exact h w hpoint

theorem passed_afterWriter (h : r.1.stream.sendWindow.base = p.stream.sendWindow.base) :
    (p.afterWriter id r verdict).passed = p.passed := by
  have hstream : (p.session.recordWriter id r).1.stream = r.1.stream :=
    congrArg Shared.stream (Session.shared_record _ id r.1 _)
  show p.passed + Serial.distanceFrom _ _ = p.passed
  rw [hstream, h, distanceFrom_self, Nat.add_zero]

/-- A writer leaves the receiving half alone. -/
theorem sameReceiver_afterWriter (hwindow : r.1.stream.receiveWindow = p.stream.receiveWindow)
    (hassembled : r.1.stream.assembled = p.stream.assembled)
    (hcomplete : r.1.stream.complete = p.stream.complete) :
    SameReceiver p (p.afterWriter id r verdict) :=
  ⟨by rw [stream_afterWriter]; exact hwindow, by rw [stream_afterWriter]; exact hassembled,
    by rw [stream_afterWriter]; exact hcomplete,
    taken_record (.call id)
      ((congrArg (·.stream.receiveWindow) (Session.shared_record _ id r.1 _)).trans hwindow),
    delivered_afterWriter⟩

end

/-! ## Who is inside after a turn -/

namespace AtWork

variable {settings : ValidSettings} {p : Peer} {id : Nat} {started : Bool} {bodies : List Bytes}
  {r : Shared × Turn Writer Writer.Outcome} {verdict : Agent → Signal}

theorem id_lt (h : p.AtWork settings id started bodies) : id < p.calls := by
  obtain ⟨others, done, last, begun, hentered, -⟩ := h.working
  apply h.counted.entered_lt (id, last)
  rw [hentered]
  exact List.mem_append_right _ List.mem_cons_self

/-- The writer can number its next segment. -/
theorem ready (h : p.AtWork settings id started bodies) {q : Peer} {acks : List Ack}
    (hlink : (p.fullLink settings q acks).Sound settings.windowSize) : p.stream.Ready := by
  obtain ⟨others, done, last, begun, -, -, -, hspells, -⟩ := h.working
  exact hlink.ready (fun _ => hspells.body_le) h.settings_eq rfl h.next_eq

/-- What the writer repeats was numbered. -/
theorem carries (h : p.AtWork settings id started bodies) {q : Peer} {acks : List Ack}
    (hlink : (p.fullLink settings q acks).Sound settings.windowSize) (d : Bytes)
    (hsends : p.stream.Sends d) :
    Carries settings p.assigned p.assigned.length p.assigned.length d :=
  hlink.carries_of_sends rfl h.settings_eq rfl hsends

/-- What is left to send fits into segments. -/
theorem fits (h : p.AtWork settings id started bodies) :
    ∀ b ∈ bodies, b.length ≤ p.stream.settings.maxSegment := by
  rw [h.settings_eq]
  exact h.working.body_le

/-- Nobody else is inside, so nobody else is affected. -/
theorem orderly_after (h : p.AtWork settings id started bodies)
    (hme : (p.afterWriter id r verdict).session.Inside (.call id) →
      r.1.writing.owner = some (.call id)) : (p.afterWriter id r verdict).session.Orderly :=
  h.orderly.recordWriter h.owner hme

/-- The books after a turn that leaves the writer inside. -/
theorem booked_of_stays (h : p.AtWork settings id started bodies) {w : Writer}
    (hpoint : r.2.point? = some w) (hin : w.isInside = true) :
    (p.afterWriter id r verdict).Booked where
  call_lt j c hc := by
    by_cases hj : j = id
    · rw [hj]
      exact h.id_lt
    · rw [call?_afterWriter_of_ne hj] at hc
      exact h.counted.call_lt j c hc
  entered_lt := h.counted.entered_lt
  failed_lt := by
    rw [failed_afterWriter_of_point? hpoint]
    exact h.counted.failed_lt
  nodup := h.counted.nodup
  not_failed j c hc := by
    rw [failed_afterWriter_of_point? hpoint]
    by_cases hj : j = id
    · rw [hj]
      exact h.not_failed
    · rw [call?_afterWriter_of_ne hj] at hc
      exact h.counted.not_failed j c hc
  inside entry hentry c hc := by
    by_cases hj : entry.1 = id
    · rw [hj]
      exact ⟨w, by rw [call?_afterWriter, hpoint, Option.map_some], hin⟩
    · rw [call?_afterWriter_of_ne hj] at hc
      obtain ⟨v, hv, hinside⟩ := h.inside entry hentry hj c hc
      exact ⟨v, by rwa [call?_afterWriter_of_ne hj], hinside⟩

/-- **The writer stays inside.** -/
theorem stays (h : p.AtWork settings id started bodies) (verdict : Agent → Signal) {w : Writer}
    (hpoint : r.2.point? = some w) (hin : w.isInside = true)
    (hwriting : r.1.writing = p.session.shared.writing) :
    (p.afterWriter id r verdict).session.Orderly ∧ (p.afterWriter id r verdict).Booked
      ∧ (p.afterWriter id r verdict).Entering settings
      ∧ (p.afterWriter id r verdict).session.writer? = some (id, w) := by
  have hcall : (p.afterWriter id r verdict).session.call? id = some (.writing w) := by
    rw [call?_afterWriter, hpoint, Option.map_some]
  have horderly : (p.afterWriter id r verdict).session.Orderly :=
    h.orderly_after fun _ => by rw [hwriting, h.owner]
  refine ⟨horderly, h.booked_of_stays hpoint hin, ?_, horderly.writer?_eq hcall hin⟩
  intro j message hj
  by_cases hne : j = id
  · rw [hne, hcall] at hj
    cases hj
    cases hin
  · rw [call?_afterWriter_of_ne hne] at hj
    exact h.entering j message hj

/-- The books after a turn in which the writer leaves: only its own call is gone, and only that one
may have failed. -/
theorem booked_of_leaves (h : p.AtWork settings id started bodies) (hpoint : r.2.point? = none) :
    (p.afterWriter id r verdict).Booked where
  call_lt j c hc := h.counted.call_lt j c (of_call?_afterWriter hpoint hc).2
  entered_lt := h.counted.entered_lt
  failed_lt j hj := by
    rcases mem_failed_or_eq (failed_afterWriter hpoint) hj with hj | heq
    · exact h.counted.failed_lt j hj
    · rw [heq]
      exact h.id_lt
  nodup := h.counted.nodup
  not_failed j c hc hj := by
    obtain ⟨hne, hbefore⟩ := of_call?_afterWriter hpoint hc
    rcases mem_failed_or_eq (failed_afterWriter hpoint) hj with hj | heq
    · exact h.counted.not_failed j c hbefore hj
    · exact hne heq
  inside entry hentry c hc := by
    obtain ⟨hne, hbefore⟩ := of_call?_afterWriter hpoint hc
    obtain ⟨v, hv, hinside⟩ := h.inside entry hentry hne c hbefore
    exact ⟨v, by rwa [call?_afterWriter_of_ne hne], hinside⟩

/-- **The writer leaves.** -/
theorem leaves (h : p.AtWork settings id started bodies) (verdict : Agent → Signal)
    (hpoint : r.2.point? = none) :
    (p.afterWriter id r verdict).session.Orderly ∧ (p.afterWriter id r verdict).Booked
      ∧ (p.afterWriter id r verdict).Entering settings
      ∧ (p.afterWriter id r verdict).session.writer? = none := by
  have horderly : (p.afterWriter id r verdict).session.Orderly := by
    apply h.orderly_after
    rintro ⟨w, hw, -⟩
    exact absurd rfl (of_call?_afterWriter hpoint hw).1
  refine ⟨horderly, h.booked_of_leaves hpoint, ?_, Session.writer?_eq_none ?_⟩
  · intro j message hj
    exact h.entering j message (of_call?_afterWriter hpoint hj).2
  · rintro j ⟨w, hw, hin⟩
    obtain ⟨hne, hbefore⟩ := of_call?_afterWriter hpoint hw
    have howner := h.orderly (.call j) ⟨w, hbefore, hin⟩
    rw [h.owner] at howner
    cases howner
    exact hne rfl

/-! ## What is numbered after a turn -/

/-- What is left to show of a peer after a turn. While a writer is inside, the flusher has nothing
to repeat. -/
theorem sound (h : p.AtWork settings id started bodies) {p' : Peer}
    (horderly : p'.session.Orderly) (hbooked : p'.Booked) (hentering : p'.Entering settings)
    (hflusher : p'.session.flusher = p.session.flusher) (hreceiver : SameReceiver p p')
    (hsettings : p'.stream.settings = p.stream.settings) (hledger : p'.Ledger settings)
    (hnext : p'.stream.next = settings.initialSerial + p'.committed)
    (hresends : ∀ j w, p'.session.writer? = some (j, w) → ∀ d ∈ w.resends,
      Carries settings p'.assigned p'.assigned.length p'.assigned.length d) :
    p'.Sound settings where
  settings_eq := hsettings.trans h.settings_eq
  orderly := horderly
  booked := hbooked
  entering := hentering
  ledger := hledger
  next_eq := hnext
  resends := hresends
  flusher_resends point hpoint d hd := by
    rw [hflusher] at hpoint
    cases point with
    | waiting time => cases hd
    | flushing time flush =>
      -- the flusher is not inside, for the writer is
      have howner := h.orderly .flusher ⟨_, hpoint, rfl⟩
      rw [h.owner] at howner
      cases howner
  delivery := hreceiver.delivery h.delivery

/-- **The writer rests**, or hands over something that was sent before. -/
theorem sound_of_stays (h : p.AtWork settings id started bodies) (verdict : Agent → Signal)
    {w : Writer} (hpoint : r.2.point? = some w) (hin : w.isInside = true)
    (hsending : w.isSending = false) (hbodies : w.bodies = bodies) (hbegun : w.begun = started)
    (halike : p.session.shared.Alike r.1)
    (hresends : ∀ d ∈ w.resends,
      Carries settings p.assigned p.assigned.length p.assigned.length d) :
    (p.afterWriter id r verdict).Sound settings
      ∧ (p.afterWriter id r verdict).isSending = false := by
  obtain ⟨horderly, hbooked, hentering, hwriter⟩ := h.stays verdict hpoint hin halike.writing
  have hs := halike.stream
  have hquiet : (p.afterWriter id r verdict).isSending = false := by
    unfold isSending
    rw [hwriter]
    exact hsending
  have hassigned : (p.afterWriter id r verdict).assigned = p.assigned :=
    assigned_afterWriter fun v hv => by
      rw [hpoint] at hv
      cases hv
      exact hsending
  refine ⟨h.sound horderly hbooked hentering flusher_afterWriter
    (sameReceiver_afterWriter hs.receiveWindow hs.assembled hs.complete)
    (by rw [stream_afterWriter]; exact hs.settings) ?_ ?_ ?_, hquiet⟩
  · apply (ledger_iff_working hwriter).mpr
    have hworking := h.working
    have haccepted : (p.afterWriter id r verdict).accepted = p.accepted := by
      unfold accepted
      rw [failed_afterWriter_of_point? hpoint]
      rfl
    unfold Working at hworking ⊢
    rw [hbodies, hbegun, haccepted, hassigned]
    exact hworking
  · rw [stream_afterWriter, hs.next, committed, hquiet, hassigned]
    exact h.next_eq
  · intro j v hv d hd
    rw [hwriter] at hv
    cases hv
    rw [hassigned]
    exact hresends d hd

/-- The writer leaves, with its books in order. -/
theorem sound_of_leaves (h : p.AtWork settings id started bodies) (verdict : Agent → Signal)
    (hpoint : r.2.point? = none) (hs : p.stream.Alike r.1.stream)
    (hidle : (p.afterWriter id r verdict).assigned = p.assigned →
      (p.afterWriter id r verdict).Idle settings) :
    (p.afterWriter id r verdict).Sound settings
      ∧ (p.afterWriter id r verdict).isSending = false := by
  obtain ⟨horderly, hbooked, hentering, hwriter⟩ := h.leaves verdict hpoint
  have hquiet := isSending_of_writer?_eq_none hwriter
  have hassigned : (p.afterWriter id r verdict).assigned = p.assigned :=
    assigned_afterWriter fun v hv => by
      rw [hpoint] at hv
      cases hv
  refine ⟨h.sound horderly hbooked hentering flusher_afterWriter
    (sameReceiver_afterWriter hs.receiveWindow hs.assembled hs.complete)
    (by rw [stream_afterWriter]; exact hs.settings)
    ((ledger_iff_idle hwriter).mpr (hidle hassigned)) ?_ ?_, hquiet⟩
  · rw [stream_afterWriter, hs.next, committed, hquiet, hassigned]
    exact h.next_eq
  · intro j v hv
    rw [hwriter] at hv
    cases hv

/-- **The writer fails.** What it has sent of its message is never completed. -/
theorem sound_of_fails (h : p.AtWork settings id started bodies) (verdict : Agent → Signal)
    {x' : Shared} {failure : Failure} (hr : r = (x', .returns (.error failure)))
    (hbodies : bodies ≠ []) (halike : p.stream.Alike x'.stream)
    (hclosed : started = true → x'.stream.closed = true) :
    (p.afterWriter id r verdict).Sound settings
      ∧ (p.afterWriter id r verdict).isSending = false := by
  subst hr
  apply h.sound_of_leaves verdict rfl halike
  intro hassigned
  obtain ⟨others, done, last, begun, hentered, haccepted, -, hspells, hpieces, hstarted⟩ :=
    h.working
  have hdone : (p.afterWriter id (x', .returns (.error failure)) verdict).accepted = done :=
    accepted_of_fails h.counted.nodup h.not_failed hentered haccepted rfl rfl
  refine ⟨last, begun, by rw [hdone, hassigned]; exact hspells, ?_⟩
  -- if a part was sent, the stream is closed, and as something is left the part is not all
  by_cases hbegun : begun = []
  · exact Or.inl hbegun
  · refine Or.inr ⟨?_, fun hall => ?_⟩
    · rw [stream_afterWriter]
      exact hclosed (hstarted.mpr hbegun)
    · rw [hall] at hpieces
      exact Piece.ofBodies_ne_nil hbodies (List.self_eq_append_right.mp hpieces)

/-- **The writer is done.** -/
theorem sound_of_finishes (h : p.AtWork settings id started []) (verdict : Agent → Signal)
    {x' : Shared} (hr : r = (x', .returns (.ok ()))) (halike : p.stream.Alike x'.stream) :
    (p.afterWriter id r verdict).Sound settings
      ∧ (p.afterWriter id r verdict).isSending = false := by
  subst hr
  refine h.sound_of_leaves verdict rfl halike fun hassigned => ⟨[], [], ?_, Or.inl rfl⟩
  obtain ⟨others, done, last, begun, -, haccepted, hlast, hspells, hpieces, -⟩ := h.working
  have hsame : (p.afterWriter id (x', .returns (.ok ())) verdict).accepted = p.accepted := rfl
  rw [Piece.ofBodies, List.append_nil] at hpieces
  rw [hsame, haccepted, hassigned]
  rw [← hpieces] at hspells
  exact hspells.finish hlast

/-- What is observed is the segment that was put into the send window under the next number. -/
theorem assigned_of_numbers {x' : Shared} {u : Segment Buffer} {rest : List Bytes}
    {datagram : Bytes} {piggybacked : Nat}
    (hr : r = (x', .hands (.sending rest datagram piggybacked) datagram))
    (hseq : u.seq = p.stream.next) (hs : (p.stream.holding u).Alike x'.stream) :
    (p.afterWriter id r verdict).assigned = p.assigned ++ [u.wire.piece] := by
  have hcall : (p.session.recordWriter id r).1.call? id
      = some (.writing (.sending rest datagram piggybacked)) := by
    rw [show (p.session.recordWriter id r).1.call? id = r.2.point?.map .writing from
      (Session.call?_record _ id r.1 _).trans (Turn.point?_map _ _ r.2), hr]
    rfl
  have hstream : (p.session.recordWriter id r).1.stream = r.1.stream :=
    congrArg Shared.stream (Session.shared_record _ id r.1 _)
  have hfind : r.1.stream.sendWindow.find? r.1.stream.next = some u := by
    rw [hr, hs.sendWindow, hs.next]
    show (p.stream.sendWindow.store u).find? p.stream.next = some u
    rw [Window.find?_store, if_pos hseq.symm]
  subst hr
  show p.assigned ++ (numbered? _ (.call id) (.hands datagram)).toList = _
  rw [numbered?_sending hcall (by rw [hstream, hfind]), Option.toList_some]

/-- The next piece of a message is added to what was sent of it. -/
theorem working_of_numbers {body : Bytes} {rest : List Bytes} {datagram : Bytes}
    {piggybacked : Nat} {piece : Piece}
    (h : p.Working settings id started (body :: rest)) (hpiece : piece = ⟨!rest.isEmpty, body⟩)
    {p' : Peer} (hentered : p'.entered = p.entered) (haccepted : p'.accepted = p.accepted)
    (hassigned : p'.assigned = p.assigned ++ [piece]) :
    p'.Working settings id (Writer.sending rest datagram piggybacked).begun rest := by
  obtain ⟨others, done, last, begun, hin, hlast, hne, hspells, hpieces, -⟩ := h
  rw [Piece.ofBodies, ← hpiece, ← List.singleton_append, ← List.append_assoc] at hpieces
  refine ⟨others, done, last, begun ++ [piece], hentered.trans hin, haccepted.trans hlast, hne, ?_,
    hpieces, ?_⟩
  · rw [hassigned]
    apply hspells.push
    rw [hpieces]
    exact List.prefix_append _ _
  · simp [Writer.begun]

/-- **The writer has numbered** the next piece of its message. -/
theorem sound_of_numbers {body : Bytes} {rest : List Bytes}
    (h : p.AtWork settings id started (body :: rest)) (verdict : Agent → Signal) {x' : Shared}
    {u : Segment Buffer} {datagram : Bytes} {piggybacked : Nat}
    (hr : r = (x', .hands (.sending rest datagram piggybacked) datagram))
    (hseq : u.seq = p.stream.next) (hpiece : u.wire.piece = ⟨!rest.isEmpty, body⟩)
    (halike : { p.session.shared with stream := p.stream.holding u }.Alike x') :
    (p.afterWriter id r verdict).Sound settings
      ∧ (p.afterWriter id r verdict).assigned = p.assigned ++ [u.wire.piece]
      ∧ (p.afterWriter id r verdict).isRefused = decide (verdict (.call id) ≠ .sent) := by
  have hassigned : (p.afterWriter id r verdict).assigned = p.assigned ++ [u.wire.piece] :=
    assigned_of_numbers hr hseq halike.stream
  subst hr
  have hs := halike.stream
  obtain ⟨horderly, hbooked, hentering, hwriter⟩ := h.stays verdict
    (r := (x', .hands (.sending rest datagram piggybacked) datagram)) rfl rfl halike.writing
  refine ⟨h.sound horderly hbooked hentering flusher_afterWriter
    (sameReceiver_afterWriter hs.receiveWindow hs.assembled hs.complete)
    (by rw [stream_afterWriter]; exact hs.settings) ?_ ?_ ?_, hassigned, ?_⟩
  · -- the next piece has moved from what is left to what was sent
    apply (ledger_iff_working hwriter).mpr
    exact working_of_numbers h.working hpiece rfl rfl hassigned
  · have hsending : (p.afterWriter id (x', .hands (.sending rest datagram piggybacked) datagram)
        verdict).isSending = true := by
      unfold isSending
      rw [hwriter]
      rfl
    rw [stream_afterWriter, hs.next, committed, hsending, hassigned, List.length_append,
      List.length_singleton]
    exact h.next_eq
  · intro j v hv d hd
    rw [hwriter] at hv
    cases hv
    cases hd
  · unfold isRefused
    rw [hwriter]
    rfl

end AtWork

/-! ## The sending half after a turn -/

section

variable {settings : ValidSettings} {p q : Peer} {acks : List Ack} {id : Nat}
  {r : Shared × Turn Writer Writer.Outcome} {verdict : Agent → Signal}

theorem link_afterWriter (hquiet : (p.afterWriter id r verdict).isSending = false)
    (hassigned : (p.afterWriter id r verdict).assigned = p.assigned)
    (hwindow : r.1.stream.sendWindow = p.stream.sendWindow) :
    (p.afterWriter id r verdict).link settings q acks = p.fullLink settings q acks := by
  unfold fullLink link
  rw [exposed_of_not_isSending hquiet, hassigned, passed_afterWriter (by rw [hwindow]),
    stream_afterWriter, hwindow]

/-- A new segment is numbered, and it is on the wire if the socket has taken it. -/
theorem link_of_numbers (h : (p.fullLink settings q acks).Sound settings.windowSize)
    {u : Segment Buffer} (hseq : u.seq = settings.initialSerial + p.assigned.length)
    (hwrite : p.stream.sendWindow.write u = .added (p.stream.sendWindow.store u))
    (hassigned : (p.afterWriter id r verdict).assigned = p.assigned ++ [u.wire.piece])
    (hrefused : (p.afterWriter id r verdict).isRefused = decide (verdict (.call id) ≠ .sent))
    (hwindow : r.1.stream.sendWindow = p.stream.sendWindow.store u) :
    ((p.afterWriter id r verdict).link settings q acks).Sound settings.windowSize := by
  -- the window has accepted the segment, so it was not full
  have hroom : p.assigned.length < p.passed + settings.windowSize := by
    by_contra hfull
    have heq : p.stream.sendWindow.write u = .full := (h.write_eq hseq).trans (if_neg hfull)
    rw [hwrite] at heq
    cases heq
  have hnumber := h.number hseq hroom
  unfold link
  rw [hassigned, passed_afterWriter (by rw [hwindow, Window.base_store]), stream_afterWriter,
    hwindow, exposed, hrefused, hassigned]
  -- a segment that the socket does not take is not exposed, though it has a number
  by_cases hsent : verdict (.call id) = .sent
  · simp only [hsent, ne_eq, not_true_eq_false, decide_false, Bool.false_eq_true, if_false]
    exact hnumber.expose
  · simp only [hsent, ne_eq, not_false_eq_true, decide_true, if_true, List.length_append,
      List.length_singleton, Nat.add_sub_cancel]
    exact hnumber

end

end Peer

/-! ## The network after a turn -/

namespace Network

/-- Both directions are sound while a writer is in the middle of a turn; the peer `p` is what there
is of its side then. -/
structure Serves (settings : ValidSettings) (n : Network) (acks : Side → List Ack) (z : Side)
    (p : Peer) : Prop where
  /-- The direction of the writer. -/
  sender : (p.fullLink settings (n.peer z.other) (acks z)).Sound settings.windowSize
  /-- The other direction. -/
  receiver : ((n.peer z.other).link settings p (acks z.other)).Sound settings.windowSize
  /-- What may have been on the wire has its number still. -/
  exposed_le : (n.peer z).exposed ≤ p.assigned.length
  /-- Nothing of that has changed. -/
  assigned_eq : ∀ k, k < (n.peer z).exposed → p.assigned[k]? = (n.peer z).assigned[k]?

variable {settings : ValidSettings} {n : Network} {acks : Side → List Ack} {z : Side} {p : Peer}
  {id : Nat} {started : Bool} {bodies : List Bytes} {r : Shared × Turn Writer Writer.Outcome}

/-- What is left to show after a turn of a writer: its peer is sound, and so is its direction. -/
theorem Sound.after_writer (h : n.Sound settings acks) (hserves : n.Serves settings acks z p)
    {p' : Peer} (hp' : p'.Sound settings)
    (hsender : (p'.link settings (n.peer z.other) (acks z)).Sound settings.windowSize)
    (hreceiver : Peer.SameReceiver p p') (hassigned : p.assigned <+: p'.assigned)
    (hexposed : p.assigned.length ≤ p'.exposed) : (n.withPeer z p').Sound settings acks := by
  have hle := hserves.exposed_le
  apply h.withPeer (fun _ => List.Subset.refl _) hp' hsender _ (hle.trans hexposed)
  · intro k hk
    obtain ⟨more, hmore⟩ := hassigned
    rw [← hmore, List.getElem?_append_left (by omega), hserves.assigned_eq k hk]
  · rw [hreceiver.link_eq]
    exact hserves.receiver

/-- A turn of a writer in which nothing gets a number. -/
theorem Sound.after_quiet_writer (h : n.Sound settings acks)
    (hserves : n.Serves settings acks z p) {verdict : Agent → Signal}
    (hp' : (p.afterWriter id r verdict).Sound settings)
    (hquiet : (p.afterWriter id r verdict).isSending = false)
    (hpoint : ∀ w, r.2.point? = some w → w.isSending = false)
    (halike : p.stream.Alike r.1.stream) :
    (n.withPeer z (p.afterWriter id r verdict)).Sound settings acks := by
  have hassigned : (p.afterWriter id r verdict).assigned = p.assigned :=
    Peer.assigned_afterWriter hpoint
  apply h.after_writer hserves hp' _
    (Peer.sameReceiver_afterWriter halike.receiveWindow halike.assembled halike.complete)
    (by simp [hassigned])
    (by rw [Peer.exposed_of_not_isSending hquiet, hassigned])
  rw [Peer.link_afterWriter hquiet hassigned halike.sendWindow]
  exact hserves.sender

section

variable (h : n.Sound settings acks) (hwork : p.AtWork settings id started bodies)
  (hserves : n.Serves settings acks z p)
  (hmove : Writer.Move (Carries settings p.assigned p.assigned.length p.assigned.length)
    (.call id) p.session.shared started bodies r)

include h hwork hserves hmove

/-- The network after a turn of a writer, whatever the socket makes of its datagram. -/
theorem Sound.writer_after (verdict : Agent → Signal) :
    (n.withPeer z (p.afterWriter id r verdict)).Sound settings acks := by
  cases hmove with
  | @rests x' w halike hin hsending hbodies hbegun hresends =>
    obtain ⟨hsound, hquiet⟩ := hwork.sound_of_stays verdict (r := (x', .waits w)) rfl hin hsending
      hbodies hbegun halike hresends
    apply h.after_quiet_writer hserves hsound hquiet _ halike.stream
    intro v hv
    cases hv
    exact hsending
  | @replies x' job limit halike hbodies hbegun =>
    obtain ⟨hsound, hquiet⟩ := hwork.sound_of_stays verdict
      (r := (x', .hands (.replying job limit (Header.dialAck.datagram []))
        (Header.dialAck.datagram [])))
      rfl rfl rfl hbodies hbegun halike fun d hd => by cases hd
    apply h.after_quiet_writer hserves hsound hquiet _ halike.stream
    intro v hv
    cases hv
    rfl
  | @resends x' job flush halike hbodies hbegun hcurrent hrest =>
    obtain ⟨hsound, hquiet⟩ := hwork.sound_of_stays verdict
      (r := (x', .hands (.flushing job flush) flush.current)) rfl rfl rfl hbodies hbegun halike
      hrest
    apply h.after_quiet_writer hserves hsound hquiet _ halike.stream
    intro v hv
    cases hv
    rfl
  | @numbers x' u body datagram rest piggybacked hbodies hseq hpiece hwrite halike hsends =>
    subst hbodies
    have hs := halike.stream
    obtain ⟨hsound, hassigned, hrefused⟩ := hwork.sound_of_numbers verdict
      (r := (x', .hands (.sending rest datagram piggybacked) datagram)) rfl hseq hpiece halike
    have hlink := Peer.link_of_numbers hserves.sender (hseq.trans hwork.next_eq) hwrite hassigned
      hrefused hs.sendWindow
    apply h.after_writer hserves hsound hlink
      (Peer.sameReceiver_afterWriter hs.receiveWindow hs.assembled hs.complete)
      (by rw [hassigned]; exact List.prefix_append _ _)
    unfold Peer.exposed
    rw [hassigned, List.length_append, List.length_singleton]
    split <;> omega
  | @fails x' failure hbodies halike hwriting hclosed =>
    obtain ⟨hsound, hquiet⟩ := hwork.sound_of_fails verdict
      (r := (x', .returns (.error failure))) rfl hbodies halike hclosed
    exact h.after_quiet_writer hserves hsound hquiet (fun v hv => by cases hv) halike
  | @finishes x' hbodies halike hwriting =>
    subst hbodies
    obtain ⟨hsound, hquiet⟩ := hwork.sound_of_finishes verdict
      (r := (x', .returns (.ok ()))) rfl halike
    exact h.after_quiet_writer hserves hsound hquiet (fun v hv => by cases hv) halike

omit h in
/-- The datagram of a writer may fly. -/
theorem flies_of_writer {verdict : Agent → Signal} (hsent : verdict (.call id) = .sent)
    {d : Bytes} (hd : (p.session.recordWriter id r).2 = .hands d) :
    (n.withPeer z (p.afterWriter id r verdict)).Flies settings acks z
      ⟨d, fun x => ((n.withPeer z (p.afterWriter id r verdict)).peer x).assigned.length⟩ := by
  cases hmove with
  | @rests => cases hd
  | @fails => cases hd
  | @finishes => cases hd
  | @replies x' job limit halike hbodies hbegun =>
    cases hd
    exact Or.inr (Or.inr ⟨.dialAck, Or.inr rfl, rfl⟩)
  | @resends x' job flush halike hbodies hbegun hcurrent hrest =>
    cases hd
    obtain ⟨-, hquiet⟩ := hwork.sound_of_stays verdict
      (r := (x', .hands (.flushing job flush) flush.current)) rfl rfl rfl hbodies hbegun halike
      hrest
    apply flies_of_carries n acks
    rw [Peer.exposed_of_not_isSending hquiet, Peer.assigned_afterWriter fun v hv => ?_]
    · exact hcurrent
    · cases hv
      rfl
  | @numbers x' u body datagram rest piggybacked hbodies hseq hpiece hwrite halike hsends =>
    cases hd
    subst hbodies
    obtain ⟨-, hassigned, hrefused⟩ := hwork.sound_of_numbers verdict
      (r := (x', .hands (.sending rest d piggybacked) d)) rfl hseq hpiece halike
    have hlink := Peer.link_of_numbers hserves.sender (hseq.trans hwork.next_eq) hwrite hassigned
      hrefused halike.stream.sendWindow
    -- the socket takes the datagram, so all that has a number may be on the wire
    have hexposed : (p.afterWriter id (x', .hands (.sending rest d piggybacked) d)
        verdict).exposed = (p.afterWriter id (x', .hands (.sending rest d piggybacked) d)
        verdict).assigned.length := by
      rw [Peer.exposed, hrefused, hsent]
      rfl
    have hwindow : (p.stream.holding u).sendWindow = (p.afterWriter id
        (x', .hands (.sending rest d piggybacked) d) verdict).stream.sendWindow := by
      rw [Peer.stream_afterWriter]
      exact halike.stream.sendWindow.symm
    apply flies_of_carries n acks
    rw [hexposed]
    exact hlink.carries_of_sends (s := p.stream.holding u) rfl hwork.settings_eq hwindow hsends

/-- **A turn of a writer** leaves the network sound. -/
theorem Sound.writer_turn (refusal : Option String) :
    (n.commit z (.call id) (p.record (.call id) (p.session.recordWriter id r))
      (p.session.recordWriter id r).2 refusal).Sound settings acks :=
  .commit (fun _ => h.writer_after hwork hserves hmove p.verdict)
    (fun _ _ _ _ => h.writer_after hwork hserves hmove _)
    fun _ hd => flies_of_writer hwork hserves hmove (Function.update_self ..) hd

end

end Network

end Redelivery
