import Redelivery.Proofs.Network.Flushing
import Redelivery.Proofs.Network.Piggybacking
import Redelivery.Proofs.Stream.Effects

/-!
# What arrives has no side effects

Wherever a stream has come to, whoever sends to it and whatever is sent: what a datagram changes is
told by its header, and all else stays as it is.

## Main statements

* `Network.Leads.effect`: the effect of any string of bytes on any stream that can come about.

`Stream.Effect` has one case for each kind of datagram, and `Stream.effect_of_tidy` proves it for
any stream whose send window is tidy. Here only the run is added, by `Leads.session_sound`. It is
stated for the stream, before the agent that has received the datagram goes on: what a reader or a
writer does then is its own turn, in which it may deliver, acknowledge or flush.
-/

namespace Redelivery.Network

variable {settings : ValidSettings} {start n : Network}

/-- **The effect of any string of bytes**, whatever has happened to the stream before and whatever
it has just counted and taken out of its pool. What is no datagram of this protocol, or has no header
that can be read, is counted as malformed, and that is all. Data goes to the receive window, segment
by segment as far as it can be read, and an acknowledgement is due; if something is left behind, that
is counted as malformed. An acknowledgement goes to the send window, and there is a round trip and a
count for each segment that the window loses. A request for a stream is answered, once; an answer is
ignored. -/
theorem Leads.effect (hstart : start.IsStart settings) (h : start.Leads everything n) (x : Side)
    (pool : Pool) (traffic : Traffic) (now : Nat) (d : Bytes) :
    ({ (n.peer x).stream with pool := pool, traffic := traffic } : Stream).Effect now d
      (({ (n.peer x).stream with pool := pool, traffic := traffic } : Stream).handle now d) := by
  have hcap : (n.peer x).stream.sendWindow.capacity ≤ 2 ^ 32 := by
    rw [(h.roomy hstart x).capacity_eq]
    exact Nat.le_of_dvd (Nat.two_pow_pos 32) settings.windowSize_dvd
  exact Stream.effect_of_tidy
    (s := { (n.peer x).stream with pool := pool, traffic := traffic })
    (h.session_sound hstart x).stream.sendTidy hcap now d

/-- A datagram with a segment, and with a byte behind it that is none. -/
def brokenOff : Bytes :=
  Frame.ofPayload
    (Header.data.encode ++ (⟨⟨0xFFFFFFFE⟩, false, [9], 0⟩ : Segment Bytes).encode ++ [0])

/-- The segment is taken in, the rest is counted, and nothing is sent. What was sent before and is
not yet acknowledged is not touched. -/
theorem effect_brokenOff : ∃ n, wrappingStart.Leads everything n
    ∧ ((n.peer .a).stream.handle n.now brokenOff).1.receiveWindow.size = 1
    ∧ ((n.peer .a).stream.handle n.now brokenOff).1.sendWindow.size = 3
    ∧ ((n.peer .a).stream.handle n.now brokenOff).1.traffic.malformedDropped = 1
    ∧ ((n.peer .a).stream.handle n.now brokenOff).2 = []
    ∧ (n.peer .a).stream.Effect n.now brokenOff ((n.peer .a).stream.handle n.now brokenOff) := by
  have hrun : (wrappingStart.follow? everything gapLeft).map (fun n =>
      (((n.peer .a).stream.handle n.now brokenOff).1.receiveWindow.size,
        ((n.peer .a).stream.handle n.now brokenOff).1.sendWindow.size,
        ((n.peer .a).stream.handle n.now brokenOff).1.traffic.malformedDropped,
        ((n.peer .a).stream.handle n.now brokenOff).2)) = some (1, 3, 1, []) := by
    decide +kernel
  obtain ⟨n, hn, hview⟩ := exists_leads _ hrun
  simp only [Prod.mk.injEq] at hview
  obtain ⟨hreceive, hsend, hcount, hsent⟩ := hview
  exact ⟨n, hn, hreceive, hsend, hcount, hsent, Leads.effect wrappingStart_isStart hn .a
    (n.peer .a).stream.pool (n.peer .a).stream.traffic n.now brokenOff⟩

end Redelivery.Network
