import Redelivery.Proofs.Network.Flushing
import Redelivery.Proofs.Network.Piggybacking
import Redelivery.Proofs.Window.Preceding

/-!
# What goes along with a new segment

The datagram for a new segment is filled up with those in front of it that are not yet acknowledged:
the nearest first, no further back than the settings ask for, and up to the first that has no room.
Acknowledged ones are passed over. This holds wherever the send window has got to: whatever was
acknowledged, also what was never sent, and wherever the serial numbers wrap around.

## Main definitions

* `Stream.candidates`: the segments that may go along with the new one.
* `Stream.Accompanied`: the new segment goes out in a datagram that is filled up with these.

## Main statements

* `Stream.exists_accompanied`: the datagram for a segment of the window.
* `Network.Leads.accompanied`: the datagram for a segment that was just added.

There are two descriptions of what goes along, and the proof joins them. The stream walks back from
the new segment, step by step, and stops when the room is used up. `Accompanied` says what comes
out: of the candidates, taken in order from the nearest to the farthest, the longest prefix that
fits. `companions_eq` is the equality of both, by the lemma on walks from the window's own file, and
it needs nothing from the network but that all bodies are short enough. `Stream.exists_accompanied`
adds that writing the datagram succeeds and that it reads back as these segments.

Where gaps are, candidates are missing and the walk goes on. A candidate without room ends it, even
if a shorter one behind it would fit: the prefix is maximal, not the selection.
-/

namespace Redelivery

namespace Stream

variable {settings : ValidSettings} {s s' t : Stream} {u : Segment Buffer}

/-- The segments in the send window that may go along with the next one: those up to `redundancy`
steps in front of it, the nearest first. There are no more steps than serial numbers. -/
def candidates (s : Stream) : List (Segment Buffer) :=
  s.sendWindow.preceding s.next (min s.settings.redundancy (2 ^ 32 - 1))

/-- The segment `u` has the next serial number, and goes out in `datagram` along with `group`. -/
structure Accompanied (s : Stream) (u : Segment Buffer) (group : List (Segment Buffer))
    (datagram : Bytes) : Prop where
  /-- The segment is in the send window. -/
  found : s.sendWindow.find? s.next = some u
  /-- None of the candidates is left out as long as there is room. -/
  nearest : group <+: s.candidates
  /-- With more of them the datagram would be too long. -/
  longest : ∀ others, others <+: s.candidates →
    (Header.data.datagram ((u :: others).map Segment.wire)).length ≤ s.settings.mtu →
      others.length ≤ group.length
  /-- The datagram, with its checksum, is not too long. -/
  length_le : datagram.length ≤ s.settings.mtu
  /-- The segment is read in it, and behind it those that go along. -/
  reads : ∀ now, Bytes.segments? s.settings.maxSegment now datagram
    = some ((u :: group).map fun v => v.wire.arrivedAt now)
  /-- None of them is there twice. -/
  nodup : ((u :: group).map Segment.seq).Nodup
  /-- The datagram is made, their number is told, and nothing but the pool changes. -/
  made : ∃ pool, s.segmentDatagram = (.ok (datagram, group.length), { s with pool := pool })

/-- Those of the candidates that fit are the ones that go along. -/
theorem companions_eq (htidy : s.sendWindow.Tidy) (hcap : s.sendWindow.capacity ≤ 2 ^ 32)
    (hfind : s.sendWindow.find? s.next = some u) :
    s.companions u = Segment.fitting (s.settings.segmentRoom - u.wire.size)
      (s.candidates.map Segment.wire) := by
  unfold companions candidates
  rw [htidy.predecessors_eq hcap hfind]

/-- **The datagram for a segment of the window**, if no segment there is too long. -/
theorem exists_accompanied (htidy : s.sendWindow.Tidy) (hcap : s.sendWindow.capacity ≤ 2 ^ 32)
    (hbody : ∀ u : Segment Buffer, s.sendWindow.find? u.seq = some u →
      u.wire.body.length ≤ s.settings.maxSegment)
    (hfind : s.sendWindow.find? s.next = some u) :
    ∃ group datagram, s.Accompanied u group datagram := by
  obtain ⟨datagram, piggybacked, hok, -⟩ := segmentDatagram_eq_ok hfind hbody
  obtain ⟨pool, hpool⟩ := s.snd_segmentDatagram
  have hmade : s.segmentDatagram = (.ok (datagram, piggybacked), { s with pool := pool }) :=
    Prod.ext hok hpool
  obtain ⟨v, hv, rfl, rfl, hlength⟩ := of_segmentDatagram hmade
  obtain rfl : v = u := Option.some.inj (hv.symm.trans hfind)
  -- what fits is the front of the candidates
  have hfits := companions_eq htidy hcap hfind
  obtain ⟨group, hgroup, hwire⟩ : ∃ group, group <+: s.candidates
      ∧ s.companions v = group.map Segment.wire := by
    have hprefix : s.companions v <+: s.candidates.map Segment.wire :=
      hfits ▸ Segment.fitting_sublist _ _
    refine ⟨s.candidates.take (s.companions v).length, List.take_prefix _ _, ?_⟩
    rw [List.map_take]
    exact List.prefix_iff_eq_take.mp hprefix
  have hcount : (s.companions v).length = group.length := by rw [hwire, List.length_map]
  refine ⟨group, _, hfind, hgroup, fun others hothers hfit => ?_, hlength, fun now => ?_, ?_,
    pool, hcount ▸ hmade⟩
  · have hlen := Header.length_data_datagram s.settings ((v :: others).map Segment.wire)
    rw [List.map_cons] at hfit hlen
    rw [List.map_cons, List.sum_cons] at hlen
    have hsum : ((others.map Segment.wire).map Segment.size).sum
        ≤ s.settings.segmentRoom - v.wire.size := by
      omega
    have hchosen := Segment.prefix_fitting (hothers.map Segment.wire) hsum
    rw [← hfits, hwire] at hchosen
    have hle := hchosen.length_le
    rwa [List.length_map, List.length_map] at hle
  · rw [Bytes.segments?_datagram, hwire, ← List.map_cons, List.map_map]
    · rfl
    · intro t ht
      obtain ⟨w, hw, rfl⟩ := mem_window_of_mem_companions hfind ht
      exact ⟨hbody w hw, Nat.lt_of_le_of_lt (hbody w hw) s.settings.maxSegment_lt⟩
  · have hcount : min s.settings.redundancy (2 ^ 32 - 1) < 2 ^ 32 := by omega
    refine (s.sendWindow.nodup_preceding s.next hcount).sublist ?_
    rw [List.map_cons, Window.seq_of_find? hfind]
    exact ((hgroup.map Segment.seq).sublist).cons_cons s.next

/-- What is inserted depends on the send window and the next serial number only. -/
theorem insert?_with (s : Stream) (receiveWindow : Window Buffer) (roundTrips : RoundTrips)
    (now : Nat) (body : Buffer) (more : Bool) :
    ({ s with receiveWindow := receiveWindow, roundTrips := roundTrips } : Stream).insert? now body
        more
      = (s.insert? now body more).map fun s' =>
          { s' with receiveWindow := receiveWindow, roundTrips := roundTrips } := by
  unfold insert?
  simp only
  split <;> rfl

end Stream

namespace Network

variable {settings : ValidSettings} {start n : Network} {s s' : Stream}

/-- **What goes along with a new segment.** Take any send window that can come about, whatever has
happened, any next serial number and any segment that the window takes under it. The datagram for it
is made. It is read as the new segment and, behind it, as many as fit of those that precede it in the
send window, the nearest first; with one more it would be too long. None of them is there twice,
their number is told, and the send window stays as it is. -/
theorem Leads.accompanied (hstart : start.IsStart settings) (h : start.Leads everything n) (x : Side)
    (hsettings : s.settings = settings) (hwindow : s.sendWindow = (n.peer x).stream.sendWindow)
    {now : Nat} {body : Buffer} {more : Bool} (hbody : body.length ≤ settings.maxSegment)
    (hinsert : s.insert? now body more = some s') :
    ∃ u group datagram, s'.Accompanied u group datagram := by
  have hsound := (h.session_sound hstart x).stream
  have hroomy := h.roomy hstart x
  -- the send window is sound, and so is what comes of it
  have hsound' : ({ s with
      receiveWindow := (n.peer x).stream.receiveWindow
      roundTrips := (n.peer x).stream.roundTrips } : Stream).Sound settings :=
    ⟨hsettings, hwindow ▸ hsound.sendTidy, hwindow ▸ hsound.body_le, hsound.receiveTidy,
      hsound.size_le⟩
  have hinsert' := s.insert?_with (n.peer x).stream.receiveWindow (n.peer x).stream.roundTrips now
    body more
  rw [hinsert, Option.map_some] at hinsert'
  obtain ⟨hafter, hfind⟩ := hsound'.of_insert? hbody hinsert'
  have hcap : s'.sendWindow.capacity ≤ 2 ^ 32 := by
    rw [((hroomy.congr hwindow).insert? hinsert).capacity_eq]
    exact Nat.le_of_dvd (Nat.two_pow_pos 32) settings.windowSize_dvd
  obtain ⟨u, hu⟩ := Option.isSome_iff_exists.mp hfind
  have hlimit : s'.settings = settings := hafter.settings_eq
  obtain ⟨group, datagram, hgroup⟩ := Stream.exists_accompanied (s := s') hafter.sendTidy hcap
    (by rw [hlimit]; exact hafter.body_le) hu
  exact ⟨u, group, datagram, hgroup⟩

/-- The body of a segment of one byte. -/
def lastBody : Buffer :=
  (Buffer.zeroed 9).load [4]

/-- The fourth segment is written while the second is missing. The third goes along with it, and the
first, which is the next candidate, has no room. -/
theorem accompanied_gapLeft : ∃ n s', wrappingStart.Leads everything n
    ∧ (n.peer .a).stream.insert? n.now lastBody false = some s'
    ∧ s'.candidates.map (fun u => u.seq) = [⟨0⟩, ⟨0xFFFFFFFE⟩]
    ∧ s'.segmentDatagram.1.toOption = some (Header.data.datagram
        [⟨⟨1⟩, false, [4], 3⟩, ⟨⟨0⟩, false, [3], 0⟩], 1)
    ∧ ∃ u group datagram, s'.Accompanied u group datagram := by
  have hrun : (wrappingStart.follow? everything (gapLeft.take 10)).map (fun n =>
      ((n.peer .a).stream.insert? n.now lastBody false).map fun s' =>
        (s'.candidates.map (fun u => u.seq), s'.segmentDatagram.1.toOption))
      = some (some ([⟨0⟩, ⟨0xFFFFFFFE⟩], some (Header.data.datagram
        [⟨⟨1⟩, false, [4], 3⟩, ⟨⟨0⟩, false, [3], 0⟩], 1))) := by
    decide +kernel
  obtain ⟨n, hn, hview⟩ := exists_leads _ hrun
  obtain ⟨s', hinsert, hview⟩ := Option.map_eq_some_iff.mp hview
  obtain ⟨hcandidates, hmade⟩ := Prod.mk.inj hview
  exact ⟨n, s', hn, hinsert, hcandidates, hmade, Leads.accompanied wrappingStart_isStart hn .a
    ((hn.session_sound wrappingStart_isStart .a).stream.settings_eq) rfl (by decide) hinsert⟩

end Network

end Redelivery
