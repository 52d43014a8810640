import Redelivery.Proofs.Stream.Effects

/-!
# The same datagram twice

The network may deliver a datagram twice, and a peer may send one again that was not lost. A stream
that has taken in a datagram is not changed by it again, whatever the datagram is and whatever state
the stream was in: what it holds, what it has measured and what it owes stay as they are. Only the
buffers move, and what arrives is counted.

## Main definitions

* `Stream.Settled`: two states of a stream that agree on all but buffers and counters.

## Main statements

* `Stream.handle_again`: a datagram that comes again makes no difference.

The second time may be at another moment, with another pool, and after other datagrams were counted;
so the statement leaves all of these open. It has two halves, one for each window.
`Window.offerAll_offerAll` says that segments which were offered once change nothing when they are
offered again, and `Window.acknowledge_acknowledge` that an acknowledgement finds nothing to remove
the second time. Neither asks anything of the window, so nothing is asked of the stream.

The same bytes are read as the same segments, but for the times at which they arrive
(`Stream.map_content_of_splits`). That is why the receive window is compared by its contents and not
by its entries.
-/

namespace Redelivery.Stream

/-- The two states agree on what was sent, what was measured, what has arrived, the message that is
being put together and whether an acknowledgement is due. Segments that have arrived may be other
copies, in other buffers. -/
structure Settled (s s' : Stream) : Prop where
  /-- The segments that are not yet acknowledged. -/
  sendWindow : s'.sendWindow = s.sendWindow
  /-- The round trips. -/
  roundTrips : s'.roundTrips = s.roundTrips
  /-- Where the receive window starts. -/
  base : s'.receiveWindow.base = s.receiveWindow.base
  /-- How many segments are in the receive window. -/
  size : s'.receiveWindow.size = s.receiveWindow.size
  /-- What these segments carry, place by place. -/
  contents : s'.receiveWindow.contents = s.receiveWindow.contents
  /-- The part of the next message that was taken out. -/
  assembled : s'.assembled = s.assembled
  /-- Whether it is the whole message. -/
  complete : s'.complete = s.complete
  /-- Whether an acknowledgement is due. -/
  ackDue : s'.ackDue = s.ackDue

/-- What is read in the same payload at two times differs in the times only. -/
theorem map_content_of_splits {limit now again : Nat} {payload tail tail' : Bytes}
    {row row' : List (WireSegment limit)} {found found' : List (Segment Buffer)}
    (h : Segment.Splits payload row tail) (h' : Segment.Splits payload row' tail')
    (hfound : found.map Segment.wire = row.map (WireSegment.read now))
    (hfound' : found'.map Segment.wire = row'.map (WireSegment.read again)) :
    found'.map (fun u => u.wire.content) = found.map fun u => u.wire.content := by
  -- either row is the longest one
  have hrow : row = row' := by
    have hle := (h.longest row' tail' h'.bytes_eq).length_le
    have hprefix := h'.longest row tail h.bytes_eq
    exact hprefix.eq_of_length (Nat.le_antisymm hprefix.length_le hle)
  subst hrow
  have hcontent := congrArg (List.map Segment.content) hfound
  have hcontent' := congrArg (List.map Segment.content) hfound'
  rw [List.map_map, List.map_map] at hcontent hcontent'
  exact hcontent'.trans hcontent.symm

/-- After an acknowledgement was taken in, it removes nothing any more. -/
theorem removed_acknowledge_handle (s : Stream) (now : Nat) {d rest : Bytes} {next : Serial}
    {received : UInt32} (h : d.Opens (.ack next received) rest) :
    ((s.handle now d).1.sendWindow.acknowledge next received).removed = #[] := by
  unfold handle process
  rw [Bytes.opens_iff.mp h]
  exact congrArg Window.Shedding.removed (s.sendWindow.acknowledge_acknowledge next received)

/-- **A datagram that comes again makes no difference**, and neither does any other string of bytes.
This holds in every state of a stream, and wherever buffers and counters have got to in between. An
acknowledgement removes nothing the second time, so there are no more round trips. -/
theorem handle_again (s : Stream) (now again : Nat) (d : Bytes) (pool : Pool) (traffic : Traffic) :
    (s.handle now d).1.Settled
        ({ (s.handle now d).1 with pool := pool, traffic := traffic }.handle again d).1
      ∧ ({ (s.handle now d).1 with pool := pool, traffic := traffic }.handle again
          d).1.traffic.segmentsAcknowledged = traffic.segmentsAcknowledged
      ∧ ∀ next received rest, d.Opens (.ack next received) rest →
        ((s.handle now d).1.sendWindow.acknowledge next received).removed = #[] := by
  rw [← and_assoc]
  refine ⟨?_, fun next received rest => s.removed_acknowledge_handle now⟩
  unfold handle process
  cases hd : Header.ofDatagram? d with
  | none => exact ⟨⟨rfl, rfl, rfl, rfl, rfl, rfl, rfl, rfl⟩, rfl⟩
  | some opened =>
    obtain ⟨header, payload⟩ := opened
    cases header with
    | data =>
      obtain ⟨row, tail, found, pool₁, hsplits, hfound, heq⟩ := s.exists_processData_eq now payload
      obtain ⟨row', tail', found', pool₂, hsplits', hfound', heq'⟩ := exists_processData_eq
        { s with
          receiveWindow := s.receiveWindow.offerAll found
          ackDue := true
          pool := pool
          traffic := traffic } again payload
      have hcontent := map_content_of_splits hsplits hsplits' hfound hfound'
      obtain ⟨hcontents, hsize⟩ := s.receiveWindow.offerAll_offerAll hcontent
      simp only [heq, heq']
      refine ⟨⟨rfl, rfl, Window.base_offerAll _ _, hsize, hcontents, rfl, rfl, rfl⟩, ?_⟩
      split <;> rfl
    | ack next received =>
      have hagain := s.sendWindow.acknowledge_acknowledge next received
      have hwindow := congrArg Window.Shedding.window hagain
      refine ⟨⟨hwindow, ?_, rfl, rfl, rfl, rfl, rfl, rfl⟩, ?_⟩
      · simp only [processAck, hagain]
        rfl
      · simp only [processAck, hagain]
        exact UInt64.add_zero _
    | dial =>
      obtain ⟨pool₁, heq⟩ := s.control_eq .dialAck
      obtain ⟨pool₂, heq'⟩ := control_eq { s with pool := pool, traffic := traffic } .dialAck
      simp only [heq, heq']
      exact ⟨⟨rfl, rfl, rfl, rfl, rfl, rfl, rfl, rfl⟩, trivial⟩
    | dialAck => exact ⟨⟨rfl, rfl, rfl, rfl, rfl, rfl, rfl, rfl⟩, rfl⟩

end Redelivery.Stream
