import Redelivery.Proofs.Network.Outside

/-!
# Turns of readers

A reader stores nothing itself; it takes the next segment out of the receive window, hands over the
message that is whole, and acknowledges what is there.

## Main statements

* `Network.Sound.reader_turn`: the network is sound after the turn of a reader.

The turn of a reader is one of the cases of `Reader.Move`, and a reader touches nothing of the
sending half (`sameSender_afterReader`), so what is left is the receiving half, case by case:

* a message is handed over: `Sound.reader_delivers`, with `Consumed.emptied` for the account of what
  was delivered;
* the next segment is taken out: `Sound.reader_advances`, with `Consumed.advanced`. It is the
  segment with the next count, as the receive window holds nothing else in that place, and no
  message gets too long by it (`Sound.reader_fits`), since a writer would not have accepted such a
  message;
* nothing is there: `Sound.reader_starves`.

In the last two cases the reader acknowledges what it has. `Sound.issue` adds that acknowledgement
to the direction, and here is the reason why acknowledgements can be trusted later on: when it was
made, all that it reports had arrived, and what has arrived stays so. `Sound.flies_ack` says that
the datagram is this acknowledgement and nothing else.
-/

namespace Redelivery

namespace Peer

variable {settings : ValidSettings} {p : Peer} {id : Nat} {buffer : Bytes}
  {r : Shared × Turn Reader Reader.Outcome} {verdict : Agent → Signal}

/-- The peer after the turn of a reader, whatever the socket makes of its datagram. -/
def afterReader (p : Peer) (id : Nat) (buffer : Bytes) (r : Shared × Turn Reader Reader.Outcome)
    (verdict : Agent → Signal) : Peer :=
  (p.record (.call id) (p.session.recordReader id buffer r)).judged verdict

theorem stream_afterReader (p : Peer) (id : Nat) (buffer : Bytes)
    (r : Shared × Turn Reader Reader.Outcome) (verdict : Agent → Signal) :
    (p.afterReader id buffer r verdict).stream = r.1.stream :=
  congrArg Shared.stream (Session.shared_record _ id r.1 _)

/-- What a reader's turn leaves of its call. -/
theorem call?_afterReader :
    (p.afterReader id buffer r verdict).session.call? id = r.2.point?.map (.reading buffer) :=
  (Session.call?_record _ id r.1 _).trans (Turn.point?_map _ _ r.2)

theorem call?_afterReader_ne (w : Writer) :
    (p.afterReader id buffer r verdict).session.call? id ≠ some (.writing w) := by
  rw [call?_afterReader]
  simp

theorem outside_afterReader (hapart : p.Apart id)
    (hwriting : r.1.writing = p.session.shared.writing) :
    Outside p (p.afterReader id buffer r verdict) id where
  apart := hapart
  others j hj := Session.call?_record_of_ne _ hj r.1 _
  after := by
    rintro ⟨w, hw, -⟩
    exact call?_afterReader_ne w hw
  entering message hcall := absurd hcall (call?_afterReader_ne _)
  flusher := Session.flusher_record _ id r.1 _
  owner agent _ howner := by
    rw [show (p.afterReader id buffer r verdict).session.shared = r.1 from
      Session.shared_record _ id r.1 _, hwriting, howner]
  calls := rfl
  entered := Or.inl rfl
  failed := by
    -- a read that fails has ended, and leaves no call behind
    obtain ⟨x, turn⟩ := r
    cases turn with
    | waits point => exact Or.inl rfl
    | hands point datagram => exact Or.inl rfl
    | returns result =>
      cases result with
      | ok found => exact Or.inl rfl
      | error failure => exact Or.inr ⟨rfl, call?_afterReader⟩

theorem assigned_afterReader : (p.afterReader id buffer r verdict).assigned = p.assigned := by
  apply assigned_record
  apply numbered?_eq_none
  -- only a writer inside numbers anything, and this call is a read
  intro j w hj hw
  cases hj
  have hwriting : (p.afterReader id buffer r verdict).session.call? id = some (.writing w) := hw
  exact absurd hwriting (call?_afterReader_ne w)

theorem passed_afterReader (hwindow : r.1.stream.sendWindow = p.stream.sendWindow) :
    (p.afterReader id buffer r verdict).passed = p.passed :=
  passed_record (.call id)
    ((congrArg Stream.sendWindow (p.stream_afterReader id buffer r verdict)).trans hwindow)

theorem taken_afterReader (hwindow : r.1.stream.receiveWindow = p.stream.receiveWindow) :
    (p.afterReader id buffer r verdict).taken = p.taken :=
  taken_record (.call id)
    ((congrArg Stream.receiveWindow (p.stream_afterReader id buffer r verdict)).trans hwindow)

/-- What is observed is the piece that a reader has taken out. -/
theorem taken_afterReader_advanced {u : Segment Buffer} {w : Window Buffer}
    (hs : (p.stream.advanced u w).Alike r.1.stream)
    (hbase : w.base ≠ p.stream.receiveWindow.base) :
    (p.afterReader id buffer r verdict).taken = p.taken ++ [u.wire.piece] := by
  have hstream : (p.session.recordReader id buffer r).1.stream = r.1.stream :=
    p.stream_afterReader id buffer r verdict
  have hwindow : r.1.stream.receiveWindow = w := hs.receiveWindow
  have hobserved : taken? p.stream (p.session.recordReader id buffer r).1.stream
      = some u.wire.piece := by
    rw [hstream]
    unfold taken?
    rw [hwindow, if_neg hbase, hs.complete, hs.assembled]
    -- what was added to the message is all that stands behind the part that was there
    show some (⟨!!u.more, (p.stream.assembled ++ u.body.content).toList.drop
      p.stream.assembled.size⟩ : Piece) = _
    rw [Bool.not_not, Array.toList_appendList, ← Array.length_toList, List.drop_left]
    rfl
  show p.taken ++ (taken? _ _).toList = _
  rw [hobserved, Option.toList_some]

/-- A message that was handed over is accounted for as delivered. -/
theorem Consumed.emptied {p' : Peer} (h : p.Consumed) (hcomplete : p.stream.complete = true)
    (hs : p.stream.emptied.Alike p'.stream) (htaken : p'.taken = p.taken)
    (hdelivered : p'.delivered = p.delivered ++ [p.stream.assembled.toList]) : p'.Consumed := by
  unfold Consumed at h ⊢
  rw [htaken, h, if_pos hcomplete, hs.complete, hs.assembled, hdelivered]
  rfl

/-- A segment that was taken out is accounted for in what is put together. -/
theorem Consumed.advanced {p' : Peer} {u : Segment Buffer} {w : Window Buffer} (h : p.Consumed)
    (hcomplete : p.stream.complete = false) (hs : (p.stream.advanced u w).Alike p'.stream)
    (htaken : p'.taken = p.taken ++ [u.wire.piece]) (hdelivered : p'.delivered = p.delivered) :
    p'.Consumed := by
  unfold Consumed at h ⊢
  rw [hcomplete, if_neg Bool.false_ne_true] at h
  rw [htaken, assemble_concat, h, hs.complete, hs.assembled, hdelivered]
  show Assembly.add _ ⟨u.more, u.body.content⟩ = if (!u.more) = true then _ else _
  unfold Assembly.add
  cases u.more <;> simp [Stream.advanced]

/-- A reader's turn does not touch the sending half. -/
theorem sameSender_afterReader (hp : p.Sound settings)
    (hout : Outside p (p.afterReader id buffer r verdict) id)
    (hsettings : r.1.stream.settings = p.stream.settings)
    (hwindow : r.1.stream.sendWindow = p.stream.sendWindow)
    (hnext : r.1.stream.next = p.stream.next)
    (hclosed : p.stream.closed = true → r.1.stream.closed = true)
    (hverdict : ∀ agent, agent ≠ .call id → verdict agent = p.verdict agent) :
    SameSender p (p.afterReader id buffer r verdict) := by
  apply hout.sameSender hp.orderly _ _ _ _ assigned_afterReader
    (passed_afterReader hwindow) hverdict
  all_goals rw [stream_afterReader]
  · exact hsettings
  · exact hwindow
  · exact hnext
  · exact hclosed

/-- The acknowledgement that the peer `p` makes of what the peer `q` has sent. -/
def ack (p q : Peer) : Ack :=
  ⟨p.taken.length, p.stream.receiveWindow.received, q.assigned.length⟩

end Peer

namespace Network

variable {settings : ValidSettings} {n : Network} {acks : Side → List Ack} {z : Side} {id : Nat}
  {buffer : Bytes} {r : Shared × Turn Reader Reader.Outcome}

/-! ## Acknowledgements -/

/-- **An acknowledgement is made** by a peer that misses the next segment, or that has just taken
one out. -/
theorem Sound.issue (h : n.Sound settings acks) (z : Side)
    (hwhen : (n.peer z).stream.receiveWindow.find?
        (settings.initialSerial + (n.peer z).taken.length) = none
      ∨ (n.peer z.other).assigned.length < (n.peer z).taken.length + settings.windowSize) :
    n.Sound settings
      (Function.update acks z.other ((n.peer z).ack (n.peer z.other) :: acks z.other)) := by
  have hnew : Function.update acks z.other ((n.peer z).ack (n.peer z.other) :: acks z.other) z.other
      = (n.peer z).ack (n.peer z.other) :: acks z.other := Function.update_self ..
  have hold : Function.update acks z.other ((n.peer z).ack (n.peer z.other) :: acks z.other) z
      = acks z := Function.update_of_ne z.other_ne.symm ..
  have hlink := h.link_other z
  have hissue := hlink.issue hwhen
  refine ⟨h.peer, ?_, ?_⟩
  · intro x
    rcases z.eq_or_eq_other x with rfl | rfl
    · rw [hold]
      exact h.link x
    · rw [hnew, Side.other_other]
      exact hissue
  · intro x f hf
    -- no acknowledgement is forgotten, so what flies on account of one goes on to do so
    rcases h.flights x f hf with hdata | ⟨ack, hack, hstamp, heq⟩ | hhandshake
    · exact Or.inl hdata
    · refine Or.inr (Or.inl ⟨ack, ?_, hstamp, heq⟩)
      rcases z.eq_or_eq_other x.other with hx | hx
      · rw [hx] at hack ⊢
        rwa [hold]
      · rw [hx] at hack ⊢
        rw [hnew]
        exact List.mem_cons_of_mem _ hack
    · exact Or.inr (Or.inr hhandshake)

/-- The datagram with the acknowledgement may fly. -/
theorem Sound.flies_ack (h : n.Sound settings acks) (z : Side) :
    n.Flies settings
      (Function.update acks z.other ((n.peer z).ack (n.peer z.other) :: acks z.other)) z
      ⟨(n.peer z).stream.receiveWindow.ackDatagram, fun x => (n.peer x).assigned.length⟩ := by
  have hlink := h.link_other z
  refine Or.inr (Or.inl ⟨(n.peer z).ack (n.peer z.other), ?_, rfl, ?_⟩)
  · rw [Function.update_self]
    exact List.mem_cons_self
  · have hbase : (n.peer z).stream.receiveWindow.base
        = settings.initialSerial + (n.peer z).taken.length := hlink.receive.base_eq
    show (Header.ack (n.peer z).stream.receiveWindow.base _).datagram [] = _
    rw [hbase]
    rfl

/-- **What is to be shown of a turn that ends with an acknowledgement.** -/
theorem Sound.commit_ack {me : Agent} {p : Peer} {w : Window Buffer} (refusal : Option String)
    (hwindow : p.stream.receiveWindow = w)
    (hafter : ∀ signal,
      (n.withPeer z (p.judged (Function.update p.verdict me signal))).Sound settings acks)
    (hwhen : p.stream.receiveWindow.find? (settings.initialSerial + p.taken.length) = none
      ∨ (n.peer z.other).assigned.length < p.taken.length + settings.windowSize) :
    (n.commit z me p (.hands w.ackDatagram) refusal).Sound settings
      (Function.update acks z.other (p.ack (n.peer z.other) :: acks z.other)) := by
  subst hwindow
  apply Sound.commit
  · intro hd
    exact absurd rfl (hd _)
  · intro d signal _ _
    have hissue := (hafter signal).issue z
    rw [peer_withPeer, peer_withPeer_other] at hissue
    exact hissue hwhen
  · intro d hd
    cases hd
    have hflies := (hafter .sent).flies_ack z
    rw [peer_withPeer, peer_withPeer_other] at hflies
    exact hflies

section

variable (h : n.Sound settings acks) (hapart : (n.peer z).Apart id)

include h hapart

/-- The receiving half after a turn of a reader that takes nothing out. -/
theorem Sound.reader_alike {verdict : Agent → Signal}
    (hverdict : ∀ agent, agent ≠ .call id → verdict agent = (n.peer z).verdict agent)
    (halike : (n.peer z).session.shared.Alike r.1)
    (hdelivered : ((n.peer z).afterReader id buffer r verdict).delivered
      = (n.peer z).delivered) :
    (n.withPeer z ((n.peer z).afterReader id buffer r verdict)).Sound settings acks :=
  h.outside (Peer.outside_afterReader hapart halike.writing)
    (by rw [Peer.stream_afterReader]; exact halike.stream) Peer.assigned_afterReader
    (Peer.passed_afterReader halike.stream.sendWindow)
    (Peer.taken_afterReader halike.stream.receiveWindow) hdelivered hverdict

/-- The network after a turn of a reader that leaves the sending half alone, and accounts for what
it has taken out. -/
theorem Sound.after_reader {verdict : Agent → Signal}
    (hverdict : ∀ agent, agent ≠ .call id → verdict agent = (n.peer z).verdict agent)
    (hwriting : r.1.writing = (n.peer z).session.shared.writing)
    (hsettings : r.1.stream.settings = (n.peer z).stream.settings)
    (hwindow : r.1.stream.sendWindow = (n.peer z).stream.sendWindow)
    (hnext : r.1.stream.next = (n.peer z).stream.next)
    (hclosed : (n.peer z).stream.closed = true → r.1.stream.closed = true)
    (hconsumed : ((n.peer z).afterReader id buffer r verdict).Consumed)
    (hlink : ((n.peer z.other).link settings ((n.peer z).afterReader id buffer r verdict)
      (acks z.other)).Sound settings.windowSize) :
    (n.withPeer z ((n.peer z).afterReader id buffer r verdict)).Sound settings acks := by
  have hp := h.peer z
  have hout : Peer.Outside (n.peer z) ((n.peer z).afterReader id buffer r verdict) id :=
    Peer.outside_afterReader hapart hwriting
  have hsame := Peer.sameSender_afterReader hp hout hsettings hwindow hnext hclosed hverdict
  apply h.sameSender (fun _ => List.Subset.refl _) rfl hsame _ hlink
  apply hp.of_sameSender hsame (hout.orderly hp.orderly) (hout.booked hp.booked)
    (hout.keeps_entering hp) _ hconsumed
  rw [hout.flusher]
  exact hp.flusher_resends

/-- The receiving half after a message was handed over. -/
theorem Sound.reader_delivers {x' : Shared} {verdict : Agent → Signal}
    (hverdict : ∀ agent, agent ≠ .call id → verdict agent = (n.peer z).verdict agent)
    (hcomplete : (n.peer z).stream.complete = true)
    (halike : { (n.peer z).session.shared with
      stream := (n.peer z).stream.emptied }.Alike x')
    (hr : r = (x', .returns (.ok ((n.peer z).stream.assembled.size,
      buffer.overwrite (n.peer z).stream.assembled.toList)))) :
    (n.withPeer z ((n.peer z).afterReader id buffer r verdict)).Sound settings acks := by
  have hfst : r.1 = x' := by rw [hr]
  have hs : (n.peer z).stream.emptied.Alike r.1.stream := by rw [hfst]; exact halike.stream
  have hwindow : r.1.stream.receiveWindow = (n.peer z).stream.receiveWindow := hs.receiveWindow
  have htaken : ((n.peer z).afterReader id buffer r verdict).taken = (n.peer z).taken :=
    Peer.taken_afterReader hwindow
  -- the bytes that are returned are the message, whatever stands behind it in the buffer
  have hmessage : (buffer.overwrite (n.peer z).stream.assembled.toList).take
      (n.peer z).stream.assembled.size = (n.peer z).stream.assembled.toList := by
    rw [Bytes.overwrite, ← Array.length_toList, List.take_left]
  have hdelivered : ((n.peer z).afterReader id buffer r verdict).delivered
      = (n.peer z).delivered ++ [(n.peer z).stream.assembled.toList] := by
    rw [hr]
    show (n.peer z).delivered ++ [_] = _
    rw [hmessage]
  apply h.after_reader hapart hverdict (by rw [hfst]; exact halike.writing) hs.settings
    hs.sendWindow hs.next hs.closed
  · apply (h.peer z).delivery.emptied hcomplete _ htaken hdelivered
    rwa [Peer.stream_afterReader]
  · have hlink := h.link_other z
    unfold Peer.link at hlink ⊢
    rwa [htaken, Peer.stream_afterReader, hwindow]

/-- The receiving half after a segment was taken out, which leaves room for another one. -/
theorem Sound.reader_advances {x' : Shared} {verdict : Agent → Signal} {point : Reader}
    {u : Segment Buffer} {w : Window Buffer} {d : Bytes}
    (hverdict : ∀ agent, agent ≠ .call id → verdict agent = (n.peer z).verdict agent)
    (hcomplete : (n.peer z).stream.complete = false)
    (hpop : (n.peer z).stream.receiveWindow.pop? = some (u, w))
    (halike : { (n.peer z).session.shared with
      stream := (n.peer z).stream.advanced u w }.Alike x')
    (hr : r = (x', .hands point d)) :
    (n.withPeer z ((n.peer z).afterReader id buffer r verdict)).Sound settings acks
      ∧ (n.peer z.other).assigned.length
        < ((n.peer z).afterReader id buffer r verdict).taken.length + settings.windowSize := by
  have hfst : r.1 = x' := by rw [hr]
  have hs : ((n.peer z).stream.advanced u w).Alike r.1.stream := by
    rw [hfst]
    exact halike.stream
  have hlink := h.link_other z
  obtain ⟨-, hsound⟩ := hlink.pop hpop
  have hwindow : r.1.stream.receiveWindow = w := hs.receiveWindow
  have htaken : ((n.peer z).afterReader id buffer r verdict).taken
      = (n.peer z).taken ++ [u.wire.piece] :=
    Peer.taken_afterReader_advanced hs (hlink.base_ne_of_pop hpop)
  have hdelivered : ((n.peer z).afterReader id buffer r verdict).delivered
      = (n.peer z).delivered := by
    rw [hr]
    rfl
  refine ⟨h.after_reader hapart hverdict (by rw [hfst]; exact halike.writing) hs.settings
    hs.sendWindow hs.next hs.closed ?_ ?_, ?_⟩
  · have hs' : ((n.peer z).stream.advanced u w).Alike
        ((n.peer z).afterReader id buffer r verdict).stream := by
      rwa [Peer.stream_afterReader]
    exact (h.peer z).delivery.advanced hcomplete hs' htaken hdelivered
  · unfold Peer.link at hsound ⊢
    rwa [htaken, Peer.stream_afterReader, hwindow]
  · -- the sender was at most a window's width ahead, and the receiver has come one further
    have hna : (n.peer z.other).assigned.length ≤ (n.peer z.other).passed + settings.windowSize :=
      hlink.length_log_le
    have hab : (n.peer z.other).passed ≤ (n.peer z).taken.length := hlink.passed_le
    rw [htaken, List.length_append, List.length_singleton]
    omega

omit hapart in
/-- No message gets too long on the way, so a reader does not fail for that. -/
theorem Sound.reader_fits {u : Segment Buffer} {w : Window Buffer}
    (hcomplete : (n.peer z).stream.complete = false)
    (hpop : (n.peer z).stream.receiveWindow.pop? = some (u, w)) :
    (n.peer z).stream.assembled.size + u.body.length ≤ settings.maxMessage := by
  have hp := h.peer z
  have hlink := h.link_other z
  obtain ⟨hfront, -⟩ := hlink.pop hpop
  obtain ⟨done, last, begun, hspells⟩ := (h.peer z.other).spells
  -- what was taken out so far is a part of what the other end has numbered
  have hfits := hspells.length_add_le hfront
  have hdelivery := hp.delivery
  unfold Peer.Consumed at hdelivery
  rw [hcomplete, if_neg Bool.false_ne_true] at hdelivery
  change (assemble (n.peer z).taken).opened.length + _ ≤ _ at hfits
  rw [hdelivery] at hfits
  exact hfits

/-- The network after a turn of a reader that misses the next segment, and acknowledges what there
is. -/
theorem Sound.reader_starves {x' : Shared} {point : Reader}
    (hpop : (n.peer z).stream.receiveWindow.pop? = none)
    (halike : (n.peer z).session.shared.Alike x')
    (hr : r = (x', .hands point (n.peer z).stream.receiveWindow.ackDatagram))
    (refusal : Option String) :
    ∃ acks', (n.commit z (.call id) ((n.peer z).afterReader id buffer r (n.peer z).verdict)
      (.hands (n.peer z).stream.receiveWindow.ackDatagram) refusal).Sound settings acks' := by
  have hfst : r.1 = x' := by rw [hr]
  have halike' : (n.peer z).session.shared.Alike r.1 := by rwa [hfst]
  have hwindow : ((n.peer z).afterReader id buffer r (n.peer z).verdict).stream.receiveWindow
      = (n.peer z).stream.receiveWindow := by
    rw [Peer.stream_afterReader]
    exact halike'.stream.receiveWindow
  have htaken : ((n.peer z).afterReader id buffer r (n.peer z).verdict).taken = (n.peer z).taken :=
    Peer.taken_afterReader halike'.stream.receiveWindow
  have hafter (signal : Signal) : (n.withPeer z ((n.peer z).afterReader id buffer r
      (Function.update (n.peer z).verdict (.call id) signal))).Sound settings acks := by
    apply h.reader_alike hapart _ halike'
    · rw [hr]
      rfl
    · intro agent hagent
      exact Function.update_of_ne hagent _ _
  have hmissing : (n.peer z).stream.receiveWindow.find?
      (settings.initialSerial + (n.peer z).taken.length) = none :=
    (h.link_other z).receive.pop?_eq_none_iff.mp hpop
  rw [← hwindow, ← htaken] at hmissing
  exact ⟨_, .commit_ack refusal hwindow hafter (Or.inl hmissing)⟩

/-- **A turn of a reader** leaves the network sound. -/
theorem Sound.reader_turn (hmove : Reader.Move (n.peer z).session.shared buffer r)
    (refusal : Option String) :
    ∃ acks', (n.commit z (.call id)
      ((n.peer z).record (.call id) ((n.peer z).session.recordReader id buffer r))
      ((n.peer z).session.recordReader id buffer r).2 refusal).Sound settings acks' := by
  have hupdate (signal : Signal) : ∀ agent, agent ≠ .call id →
      Function.update (n.peer z).verdict (.call id) signal agent = (n.peer z).verdict agent :=
    fun agent hagent => Function.update_of_ne hagent _ _
  cases hmove with
  | @rests x' point halike =>
    refine ⟨acks, .commit_quiet (fun _ => Outcome.noConfusion) ?_⟩
    exact h.reader_alike hapart (r := (x', .waits point)) (fun _ _ => rfl) halike rfl
  | @replies x' point halike =>
    refine ⟨acks, .commit (fun hd => absurd rfl (hd _)) ?_ ?_⟩
    · intro d signal _ _
      exact h.reader_alike hapart (r := (x', .hands point _)) (hupdate signal) halike rfl
    · intro d hd
      cases hd
      exact Or.inr (Or.inr ⟨.dialAck, Or.inr rfl, rfl⟩)
  | @fails x' failure halike =>
    refine ⟨acks, .commit_quiet (fun _ => Outcome.noConfusion) ?_⟩
    exact h.reader_alike hapart (r := (x', .returns (.error failure))) (fun _ _ => rfl) halike rfl
  | @delivers x' hcomplete halike =>
    refine ⟨acks, .commit_quiet (fun _ => Outcome.noConfusion) ?_⟩
    exact h.reader_delivers hapart (fun _ _ => rfl) hcomplete halike rfl
  | @advances x' point u w hcomplete hpop halike =>
    have hadvances (signal : Signal) : (n.withPeer z ((n.peer z).afterReader id buffer
          (x', .hands point w.ackDatagram)
          (Function.update (n.peer z).verdict (.call id) signal))).Sound settings acks ∧ _ :=
      h.reader_advances hapart (hupdate signal) hcomplete hpop halike rfl
    have hwindow : ((n.peer z).afterReader id buffer (x', .hands point w.ackDatagram)
        (n.peer z).verdict).stream.receiveWindow = w := by
      rw [Peer.stream_afterReader]
      exact halike.stream.receiveWindow
    exact ⟨_, .commit_ack refusal hwindow (fun signal => (hadvances signal).1)
      (Or.inr (hadvances .sent).2)⟩
  | @overflows x' failure u w hcomplete hpop hlength halike =>
    -- a message that its writer was let in with does not get too long
    have hfits := h.reader_fits hcomplete hpop
    rw [← (h.peer z).settings_eq] at hfits
    exact absurd hlength (Nat.not_lt_of_le hfits)
  | starves hpop halike => exact h.reader_starves hapart hpop halike rfl refusal

end

/-! ## Reads -/

/-- **A read is called.** -/
theorem Sound.read (h : n.Sound settings acks) (z : Side) (buffer : Bytes)
    (refusal : Option String) :
    ∃ acks', (n.commit z (.call (n.peer z).calls) (n.called z (.read buffer)).1
      (n.called z (.read buffer)).2 refusal).Sound settings acks' := by
  -- the call has a number that no other one has had, so it is nobody else who turns
  have hnext := h.nextCall z (n.peer z).session.joinable
  have hapart := (h.peer z).booked.apart_nextCall (n.peer z).session.joinable
  have hmove := Reader.begin_move (n.peer z).session.shared (.call (n.peer z).calls) buffer
  obtain ⟨acks', hturn⟩ := hnext.reader_turn (by rwa [peer_withPeer])
    (by rw [peer_withPeer]; exact hmove) refusal
  rw [commit_withPeer, peer_withPeer] at hturn
  exact ⟨acks', hturn⟩

/-- **A read goes on.** -/
theorem Sound.reader_resume (h : n.Sound settings acks) {point : Reader}
    (hcall : (n.peer z).session.call? id = some (.reading buffer point)) {signal : Signal}
    (hallows : n.allows z (.call id) signal = true) (refusal : Option String) :
    ∃ acks', (n.commit z (.call id) (n.turned z (.call id) signal).1
      (n.turned z (.call id) signal).2 refusal).Sound settings acks' := by
  have hp := h.peer z
  have hapart := hp.booked.apart hcall fun w hw => by cases hw
  have hturned : n.turned z (.call id) signal
      = ((n.peer z).record (.call id) ((n.peer z).session.recordReader id buffer
          (Reader.resume (n.peer z).session.shared (.call id) buffer n.now point signal)),
        ((n.peer z).session.recordReader id buffer
          (Reader.resume (n.peer z).session.shared (.call id) buffer n.now point signal)).2) := by
    unfold turned Session.resume Peer.signalled
    simp only [hcall]
  rw [hturned]
  -- only a datagram changes the stream before the reader looks at it
  by_cases hsignal : ∃ raw, signal = .arrived (.datagram raw)
  · obtain ⟨raw, rfl⟩ := hsignal
    obtain ⟨⟨limit, hwait⟩, f, hf, hfresh, rfl⟩ := of_allows_datagram hallows
    obtain rfl : point = .receiving := by
      rw [Session.wait?_of_call? hcall] at hwait
      cases point with
      | receiving => rfl
      | _ => cases hwait
    -- the datagram is taken in first, and then the reader goes on
    obtain ⟨hsound, hbase, hassembled⟩ := h.receive n.now hf hfresh
    have hmove := Reader.resume_move_arrived (n.peer z).session.shared (.call id) buffer n.now
      f.datagram
    have hapart' : ((n.peer z).withStream
        ((n.peer z).stream.receive n.now f.datagram).1).Apart id :=
      ⟨hapart.id_lt, hapart.not_entered, hapart.not_failed, hapart.not_inside⟩
    obtain ⟨acks', hturn⟩ := hsound.reader_turn (by rwa [peer_withPeer])
      (by rw [peer_withPeer]; exact hmove) refusal
    rw [commit_withPeer, peer_withPeer, Peer.record_withStream (.call id) hbase hassembled] at hturn
    · exact ⟨acks', hturn⟩
    · apply congrArg Window.base
      exact (congrArg (·.stream.sendWindow) (Session.shared_record _ id _ _)).trans
        hmove.sendWindow_eq
  · exact h.reader_turn hapart (Reader.resume_move _ _ _ _ _ fun raw heq => hsignal ⟨raw, heq⟩)
      refusal

end Network

end Redelivery
