import Mathlib.Algebra.Order.BigOperators.Group.List
import Mathlib.Algebra.Order.Group.Nat
import Redelivery.Proofs.Network.Numbering
import Redelivery.Proofs.Network.Recovery

/-!
# Piggy-backing

The datagram with a new segment carries the segments right before it along, as many as the settings
tell and as fit. So a segment is lost for good only if several datagrams in a row are lost: if of the
datagrams with a segment and its successors a single one arrives, then the segment is there. It may
be missing from that datagram since it is not in the send window any more, but then it had arrived
before. No segment has to be sent again for this, and the acknowledgements may come when they like.

## Main definitions

* `Piece.datagramLength`: the length of a datagram with several pieces.
* `Network.Delivers`: the datagram with a new segment arrives.

## Main statements

* `Window.Spans.sum_size_le`: the segments right before one take no more room than their pieces.
* `Network.Sound.rides`: a segment rides along with its successors.
* `Network.IsStart.holds_of_delivers`: if one of them arrives, then the segment is there.
* `Network.IsStart.holds_of_redundancy`: one datagram out of several in a row is enough.

The proof is about one datagram first, and then about the run around it. `Sound.rides` looks at the
moment at which a datagram was handed over: the new segment is the last that has a number, so one
that is at most `redundancy` steps before it is among the candidates, and if it is still in the send
window, `Stream.mem_companions` puts it into the datagram. All from there on fit into one datagram
by assumption, and those that were acknowledged take no room. If it is not in the window, it has
arrived (`Sound.sent_or_holds`).

`IsStart.holds_of_delivers` places this moment in a run. The count of a segment has to mean the same
then and in the end, which is what `Reachable.extends_run` is good for; and what has arrived once is
there in the end (`Reachable.holds_of_extends`). The last statement only chooses a datagram: one in
any `redundancy + 1` in a row is delivered.
-/

namespace Redelivery

/-- The length of a segment with the given piece in a datagram. -/
def Piece.size (piece : Piece) : Nat :=
  Segment.overhead + piece.body.length

/-- The length of a datagram with segments of the given pieces. -/
def Piece.datagramLength (pieces : List Piece) : Nat :=
  Header.plainSize + (pieces.map size).sum + Frame.checksumLength

theorem Piece.sum_size_le_of_sublist {few all : List Piece} (h : few.Sublist all) :
    (few.map size).sum ≤ (all.map size).sum :=
  List.Sublist.sum_le_sum (h.map size) fun _ _ => Nat.zero_le _

/-! ## The segments right before one -/

/-- **The segments right before one** take no more room than the pieces right before it. -/
theorem Window.Spans.sum_size_le {w : Window Buffer} {first : Serial} {lo hi : Nat}
    {log : List Piece} (h : w.Spans first lo hi (Link.Logged log)) {j i : Nat} (hj : j < hi)
    (hlo : lo + i ≤ j) :
    (((List.range' 1 i).filterMap fun b => w.find? (first + (j - b))).map
        fun u => u.wire.size).sum
      ≤ (((log.drop (j - i)).take i).map Piece.size).sum := by
  induction i with
  | zero => simp
  | succ i ih =>
    have hrest := ih (by omega)
    have hcount : j - (1 + 1 * i) = j - (i + 1) := by omega
    have hdrop := List.drop_eq_getElem?_toList_append (l := log) (i := j - (i + 1))
    rw [show j - (i + 1) + 1 = j - i by omega] at hdrop
    rw [List.range'_concat, List.filterMap_append, List.map_append, List.sum_append, hdrop]
    cases hfind : w.find? (first + (j - (i + 1))) with
    | none =>
      -- it is not there, so its piece makes the bound larger only
      have hsub : ((log.drop (j - i)).take i).Sublist
          ((log[j - (i + 1)]?.toList ++ log.drop (j - i)).take (i + 1)) := by
        cases log[j - (i + 1)]? with
        | none => exact (List.take_prefix_take_left (Nat.le_succ i)).sublist
        | some piece => exact List.sublist_cons_self piece _
      have hsum := Nat.le_trans hrest (Piece.sum_size_le_of_sublist hsub)
      simpa only [List.filterMap_cons, List.filterMap_nil, hcount, hfind, List.map_nil,
        List.sum_nil, Nat.add_zero] using hsum
    | some u =>
      have hlog : log[j - (i + 1)]? = some u.wire.piece :=
        (h.of_find? (by omega) (by have := h.hi_le; have := h.narrow; omega) hfind).2.2
      have hsize : u.wire.size = u.wire.piece.size := rfl
      simp only [hcount, hfind, hlog, List.filterMap_cons, List.filterMap_nil, List.map_cons,
        List.map_nil, List.sum_cons, List.sum_nil, Option.toList_some, List.singleton_append,
        List.take_succ_cons]
      omega

/-- **A segment that stands close before the new one rides along**, if all from there on fit into one
datagram. -/
theorem Stream.mem_companions {s : Stream} {u v : Segment Buffer} {first : Serial} {lo last : Nat}
    {log : List Piece} (h : s.sendWindow.Spans first lo log.length (Link.Logged log))
    (hlast : last + 1 = log.length) (hnext : s.next = first + last)
    (hu : s.sendWindow.find? s.next = some u) {k : Nat} (hlo : lo ≤ k) (hk : k < last)
    (hnear : last ≤ k + s.settings.redundancy)
    (hfit : Piece.datagramLength (log.drop k) ≤ s.settings.mtu)
    (hv : s.sendWindow.find? (first + k) = some v) : v.wire ∈ s.companions u := by
  have hnarrow := h.narrow
  have hwide := h.hi_le
  rw [hnext] at hu
  have hprefix : (List.range' 1 (last - k)).filterMap
        (fun b => s.sendWindow.find? (first + (last - b)))
      <+: s.sendWindow.predecessors (first + last) s.settings.redundancy :=
    h.prefix_predecessors hlast (Option.isSome_of_eq_some hu) (by omega) (by omega)
  have hbefore := hprefix.map Segment.wire
  rw [← hnext] at hbefore
  refine (Segment.prefix_fitting hbefore ?_).mem (List.mem_map_of_mem (List.mem_filterMap.mpr
    ⟨last - k, List.mem_range'_1.mpr (by omega), by rwa [show last - (last - k) = k by omega]⟩))
  -- they and the new one are no longer than all pieces from there on
  have hsum := h.sum_size_le (j := last) (i := last - k) (by omega) (by omega)
  have hlog := (h.of_find? (by omega) (by omega) hu).2.2
  have hdrop := List.drop_eq_getElem?_toList_append (l := log) (i := last)
  rw [hlog, List.drop_eq_nil_of_le (i := last + 1) (by omega)] at hdrop
  have hall : log.drop k = (log.drop k).take (last - k) ++ [u.wire.piece] := by
    conv_lhs => rw [← List.take_append_drop (last - k) (log.drop k)]
    rw [List.drop_drop, show k + (last - k) = last by omega, hdrop]
    rfl
  rw [hall, Piece.datagramLength, List.map_append, List.sum_append] at hfit
  rw [show last - (last - k) = k by omega] at hsum
  have hsize : ([u.wire.piece].map Piece.size).sum = u.wire.size := by rfl
  rw [List.map_map]
  refine Nat.le_trans hsum ?_
  unfold Settings.segmentRoom
  omega

namespace Network

variable {settings : ValidSettings} {start n m n' : Network} {acks : Side → List Ack} {x z : Side}

/-! ## What a new datagram carries -/

/-- **A segment rides along with its successors**, or it has arrived already. -/
theorem Sound.rides (h : n.Sound settings acks) {id : Nat} {rest : List Bytes} {datagram : Bytes}
    {piggybacked : Nat} {s : Stream}
    (hcall : (n.peer z.other).session.call? id
      = some (.writing (.sending rest datagram piggybacked)))
    (hannounces : s.Announces (n.peer z.other).stream datagram piggybacked) {k : Nat}
    (hk : k < (n.peer z.other).assigned.length)
    (hnear : (n.peer z.other).assigned.length ≤ k + settings.redundancy + 1)
    (hfit : Piece.datagramLength ((n.peer z.other).assigned.drop k) ≤ settings.mtu) :
    (∃ segments, datagram = Header.data.datagram segments ∧ Sendable settings segments
        ∧ ∃ t ∈ segments, t.seq = settings.initialSerial + k)
      ∨ (n.peer z).Holds settings k := by
  have hp := h.peer z.other
  have hlink := h.link_other z
  have hsend : (n.peer z.other).stream.sendWindow.Spans settings.initialSerial
      (n.peer z.other).passed (n.peer z.other).assigned.length
      (Link.Logged (n.peer z.other).assigned) := hlink.send
  have hnarrow := hsend.narrow
  have hwide := hsend.hi_le
  -- the new segment is the last one that has a number
  obtain ⟨pool, now, body, more, t, -, hmade⟩ := hannounces
  have halike := t.alike_segmentDatagram
  rw [hmade] at halike
  have hsending : (n.peer z.other).isSending = true := by
    unfold Peer.isSending
    rw [hp.orderly.writer?_eq hcall rfl]
    rfl
  have hnext : t.next = settings.initialSerial + ((n.peer z.other).assigned.length - 1) := by
    have hcommitted := hp.next_eq
    rwa [Peer.committed, if_pos hsending, halike.next] at hcommitted
  obtain ⟨u, hu, hdatagram, -, hlen⟩ := Stream.of_segmentDatagram hmade
  rw [← halike.settings, hp.settings_eq] at hlen
  have hbody (v : Segment Buffer) (hv : t.sendWindow.find? v.seq = some v) :
      v.wire.body.length ≤ settings.maxSegment := by
    rw [← halike.sendWindow] at hv
    obtain ⟨i, -, -, -, hlog⟩ := hsend.stored _ v hv
    exact hp.body_le (List.mem_of_getElem? hlog)
  have hsendable : Sendable settings (u.wire :: t.companions u) := by
    refine ⟨hdatagram ▸ hlen, fun v hv => ?_⟩
    obtain ⟨w, hw, rfl⟩ := Stream.mem_window_of_mem_companions hu hv
    exact hbody w hw
  by_cases hlast : k = (n.peer z.other).assigned.length - 1
  · refine Or.inl ⟨_, hdatagram, hsendable, u.wire, List.mem_cons_self, ?_⟩
    rw [hlast, ← hnext]
    exact Window.seq_of_find? (s := u) hu
  · by_cases hpassed : k < (n.peer z.other).passed
    · exact Or.inr (Or.inl (Nat.lt_of_lt_of_le hpassed hlink.passed_le))
    · rcases h.sent_or_holds hk with ⟨v, hv⟩ | hholds
      · refine Or.inl ⟨_, hdatagram, hsendable, v.wire, List.mem_cons_of_mem _ ?_,
          Window.seq_of_find? (s := v) hv⟩
        rw [halike.sendWindow] at hsend hv
        rw [← hp.settings_eq, halike.settings] at hnear hfit
        exact Stream.mem_companions hsend (by omega) hnext hu (by omega) (by omega) (by omega) hfit
          hv
      · exact Or.inr hholds

/-! ## What is delivered -/

/-- In the run, the segment with the given count gets its number at the side, and the datagram that
is handed over with it arrives at the other side later. -/
def Delivers (start : Network) (side : Side) (run : List Event) (count : Nat) : Prop :=
  ∃ before e after m m' datagram, run = before ++ e :: after ∧ start.run? before = some m
    ∧ m.step? e = some m' ∧ (m.peer side).assigned.length = count
    ∧ (m'.peer side).assigned.length = count + 1 ∧ m.handed? side (.event e) = some datagram
    ∧ ∃ me refusal, .turn side.other me (.arrived (.datagram datagram)) refusal ∈ after

theorem run?_append (n : Network) (events more : List Event) :
    n.run? (events ++ more) = (n.run? events).bind (·.run? more) := by
  induction events generalizing n with
  | nil => rfl
  | cons e rest ih =>
    show (n.step? e).bind (fun m => m.run? (rest ++ more)) = ((n.step? e).bind _).bind _
    rw [Option.bind_assoc]
    congr 1
    funext m
    exact ih m

/-- **What has arrived at some time in a run, or arrives in it, is there at the end of it**, if it
has its number until then. -/
theorem Reachable.holds_of_extends (h : Reachable settings m) {events : List Event}
    (hrun : m.run? events = some n') (hext : (n.peer z.other).Extends (m.peer z.other))
    (hlen : (n.peer z.other).assigned.length ≤ (n'.peer z.other).assigned.length) {k : Nat}
    (hk : k < (n.peer z.other).assigned.length)
    (hheld : (m.peer z).Holds settings k
      ∨ ∃ segments, Sendable settings segments ∧ (∃ t ∈ segments, t.seq = settings.initialSerial + k)
        ∧ ∃ me refusal,
          .turn z me (.arrived (.datagram (Header.data.datagram segments))) refusal ∈ events) :
    (n'.peer z).Holds settings k := by
  induction events generalizing m with
  | nil =>
    cases hrun
    rcases hheld with hheld | ⟨segments, hsendable, hin, me, refusal, hmem⟩
    · exact hheld
    · cases hmem
  | cons e rest ih =>
    obtain ⟨acks, hsound⟩ := h.sound
    obtain ⟨mid, hmid, hrest⟩ := Option.bind_eq_some_iff.mp hrun
    have hlt : k < (m.peer z.other).assigned.length :=
      Nat.lt_of_lt_of_le hk (h.prefix_of_extends hrun hext hlen).length_le
    refine ih (h.step e hmid) hrest (h.extends_step hmid hext) ?_
    rcases hheld with hheld | ⟨segments, hsendable, ⟨t, ht, hseq⟩, me, refusal, hmem⟩
    · exact Or.inl (hsound.holds_step h.attentive hmid hlt hheld)
    · rcases List.mem_cons.mp hmem with rfl | hlater
      · exact Or.inl (h.holds_arrived hsendable hmid ht hlt hseq)
      · exact Or.inr ⟨segments, hsendable, ⟨t, ht, hseq⟩, me, refusal, hlater⟩

/-- **If one of the datagrams with a segment and its successors arrives**, then the segment is
there. -/
theorem IsStart.holds_of_delivers (hstart : start.IsStart settings) {run : List Event}
    (hrun : start.run? run = some n) {j k : Nat} (hkj : k ≤ j) (hnear : j ≤ k + settings.redundancy)
    (hj : j < (n.peer x).assigned.length)
    (hfit : Piece.datagramLength (((n.peer x).assigned.drop k).take (settings.redundancy + 1))
      ≤ settings.mtu)
    (hdelivers : start.Delivers x run j) : (n.peer x.other).Holds settings k := by
  -- from here on it is about what the other side receives
  obtain ⟨z, rfl⟩ : ∃ z : Side, x = z.other := ⟨x.other, x.other_other.symm⟩
  rw [Side.other_other]
  obtain ⟨before, e, after, m, m', datagram, rfl, hbefore, hstep, hlength, hlength', hhanded,
    harrives⟩ := hdelivers
  rw [Side.other_other] at harrives
  rw [run?_append, hbefore] at hrun
  obtain ⟨mid, hmid, hafter⟩ := Option.bind_eq_some_iff.mp
    (show (m.step? e).bind (·.run? after) = some n from hrun)
  obtain rfl : m' = mid := Option.some.inj (hstep.symm.trans hmid)
  have hm' : Reachable settings m' := ((Reachable.start hstart).run hbefore).step e hstep
  obtain ⟨acks, hsound⟩ := hm'.sound
  have hlen : (m'.peer z.other).assigned.length ≤ (n.peer z.other).assigned.length := by omega
  have hprefix : (m'.peer z.other).assigned <+: (n.peer z.other).assigned :=
    (hm'.extends_run hafter z.other).resolve_right fun hless => by omega
  refine hm'.holds_of_extends hafter (Or.inl (List.prefix_refl _)) hlen (by omega) ?_
  cases m.numbers hstep z.other with
  | keeps hassigned => rw [hassigned] at hlength'; omega
  | takesBack hassigned => rw [hassigned, List.length_dropLast] at hlength'; omega
  | adds hopen hassigned hcall hhanded' hannounces =>
    obtain rfl : datagram = _ := Option.some.inj (hhanded.symm.trans hhanded')
    have hfit' : Piece.datagramLength ((m'.peer z.other).assigned.drop k) ≤ settings.mtu := by
      have hsub : ((m'.peer z.other).assigned.drop k).Sublist
          (((n.peer z.other).assigned.drop k).take (settings.redundancy + 1)) := by
        rw [List.prefix_iff_eq_take.mp hprefix, hlength', List.drop_take]
        exact (List.take_prefix_take_left (by omega)).sublist
      have hsum := Piece.sum_size_le_of_sublist hsub
      unfold Piece.datagramLength at hfit ⊢
      omega
    rcases hsound.rides hcall hannounces (by omega) (by omega) hfit' with
      ⟨segments, rfl, hsendable, hin⟩ | hheld
    · exact Or.inr ⟨segments, hsendable, hin, harrives⟩
    · exact Or.inl hheld

/-- **One datagram out of several in a row is enough.** Take any run from the start, in which any
`r + 1` segments in a row fit into one datagram, where `r` is the number of segments that may ride
along. If of any `r + 1` new segments in a row at least one has arrived with the datagram that was
handed over with it, then whatever has `r` successors at least is in the receive window or was taken
out of it. Everything else about the run is open: what is lost besides, when acknowledgements come,
what is read and whether anything is sent again. -/
theorem IsStart.holds_of_redundancy (hstart : start.IsStart settings) {run : List Event}
    (hrun : start.run? run = some n) (x : Side)
    (hfit : ∀ i, i + settings.redundancy < (n.peer x).exposed →
      Piece.datagramLength (((n.peer x).assigned.drop i).take (settings.redundancy + 1))
        ≤ settings.mtu)
    (hdelivers : ∀ i, i + settings.redundancy < (n.peer x).exposed →
      ∃ j, i ≤ j ∧ j ≤ i + settings.redundancy ∧ start.Delivers x run j) :
    ∀ k, k + settings.redundancy < (n.peer x).exposed → (n.peer x.other).Holds settings k := by
  intro k hk
  obtain ⟨j, hkj, hnear, hj⟩ := hdelivers k hk
  have hexposed := (n.peer x).exposed_le
  exact hstart.holds_of_delivers hrun hkj hnear (by omega) (hfit k hk) hj

/-- Two messages are written. The datagram with the first one is lost. The one with the second one
arrives, and the first one is in it. -/
def firstRides : List Event :=
  repairedLoss.take 6

/-- The datagram with the second message reaches the other side. -/
theorem delivers_firstRides : narrowStart.Delivers .a firstRides 1 := by
  have hrun : (narrowStart.run? (firstRides.take 2)).map (fun m =>
      ((m.peer .a).assigned.length, m.handed? .a (.event (.call .a (.write [9]) none)),
        (m.step? (.call .a (.write [9]) none)).map fun m' => (m'.peer .a).assigned.length))
      = some (1, some (Header.data.datagram
          [⟨⟨0⟩, false, [9], 0⟩, ⟨⟨0xFFFFFFFF⟩, false, [7], 0⟩]), some 2) := by
    decide +kernel
  obtain ⟨m, hm, hview⟩ := Option.map_eq_some_iff.mp hrun
  obtain ⟨hlength, hview⟩ := Prod.mk.inj hview
  obtain ⟨hhanded, hstep⟩ := Prod.mk.inj hview
  obtain ⟨m', hm', hlength'⟩ := Option.map_eq_some_iff.mp hstep
  exact ⟨firstRides.take 2, .call .a (.write [9]) none, firstRides.drop 3, m, m', _, rfl, hm, hm',
    hlength, hlength', hhanded, .call 0, none, by simp [firstRides, repairedLoss, Side.other]⟩

/-- In that run the first message has arrived, though its own datagram was lost. -/
theorem holds_of_firstRides : ∃ n, narrowStart.run? firstRides = some n
    ∧ (n.peer .a).exposed = 2 ∧ (n.peer .b).Holds narrowSettings 0 := by
  have hrun : (narrowStart.run? firstRides).map (fun n =>
      ((n.peer .a).exposed, Piece.datagramLength
        (((n.peer .a).assigned.drop 0).take (narrowSettings.redundancy + 1)))) = some (2, 22) := by
    decide +kernel
  obtain ⟨n, hn, hview⟩ := Option.map_eq_some_iff.mp hrun
  obtain ⟨hexposed, hlength⟩ := Prod.mk.inj hview
  refine ⟨n, hn, hexposed, narrowStart_isStart.holds_of_redundancy hn .a ?_ ?_ 0 ?_⟩
  · intro i hi
    rw [hexposed] at hi
    obtain rfl : i = 0 := by
      have hone : narrowSettings.redundancy = 1 := rfl
      omega
    exact Nat.le_of_eq hlength
  · intro i hi
    rw [hexposed] at hi
    have hone : narrowSettings.redundancy = 1 := rfl
    exact ⟨1, by omega, by omega, delivers_firstRides⟩
  · rw [hexposed]
    decide

end Network

end Redelivery
