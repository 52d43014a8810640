import Redelivery.Proofs.Stream.Receiving
import Redelivery.Proofs.Window.Repeating
import Redelivery.Proofs.Window.Trailing
import Redelivery.Proofs.Wire.Grammar
import Redelivery.Session.Reader
import Redelivery.Session.Writer

/-!
# What a datagram may change

Both directions of a stream meet where datagrams come in, and none of them may disturb the other:
data goes to the receive window, an acknowledgement to the send window and the round trips, and the
datagrams of the handshake to neither. What cannot be opened, or has no header that can be read, is
only counted. A datagram with data that breaks off keeps its good part.

This file says so for any string of bytes. What a stream becomes is given as a whole, so that there
is no room for any other change.

## Main definitions

* `Bytes.Opens`, `Bytes.Unreadable`: a string of bytes as a datagram with a header, or not as one.
* `Stream.handle`: a datagram is taken in, and what is owed to it at once goes out.
* `Window.Loses`: a window without the segments that were taken out of it.
* `Stream.Effect`: what a datagram changes, by its header.

## Main statements

* `Stream.exists_processData_eq`: data is stored as far as it can be read.
* `Window.Tidy.loses_acknowledge`: an acknowledgement takes out of a window what is missing then.
* `Stream.effect_of_tidy`: the effect of any datagram.
* `Reader.accept_eq`, `Writer.accept_eq`: this is what agents do with what the socket delivers.

There is one case for each header in `Stream.Effect`, and each of them rides on one lemma. For data
that is `Stream.exists_processData_eq`, by way of `Segment.splits_decodeAll`, which says which row
of segments a payload begins with. For acknowledgements it is `Window.Tidy.loses_acknowledge`: the
segments that are handed back are those that can be found before and not after, each of them once.
To show this an acknowledgement is seen as two rounds of taking out, one for the segments that the
base passes and one for those that are marked. That the window gets smaller by their number is where
it has to be tidy.

An agent receives into a buffer, so it sees a datagram cut to `mtu` bytes. `Stream.receive_eq` takes
care of that, and from there on the two lemmas about agents are by definition. What is left open is
the notice to a writer, since whether it is given is a matter of the writer that waits.
-/

namespace Redelivery

/-! ## Reading a datagram -/

namespace Bytes

/-- The string of bytes is a datagram of this protocol with the given header and the bytes `rest`
behind it. -/
def Opens (d : Bytes) (header : Header) (rest : Bytes) : Prop :=
  ∃ n, Frame.payloadLength? d = some n ∧ Header.decode (d.take n) = (.ok header, rest)

/-- The string of bytes fails verification, or has no header that can be read. -/
def Unreadable (d : Bytes) : Prop :=
  Frame.payloadLength? d = none
    ∨ ∃ n e rest, Frame.payloadLength? d = some n ∧ Header.decode (d.take n) = (.error e, rest)

theorem opens_iff {d rest : Bytes} {header : Header} :
    d.Opens header rest ↔ Header.ofDatagram? d = some (header, rest) := by
  unfold Opens Header.ofDatagram? Frame.payload?
  cases Frame.payloadLength? d with
  | none => simp
  | some n =>
    simp only [Option.map_some, Option.some.injEq, exists_eq_left']
    rcases Header.decode (d.take n) with ⟨_ | header', rest'⟩ <;> simp

theorem unreadable_of_ofDatagram? {d : Bytes} (h : Header.ofDatagram? d = none) :
    d.Unreadable := by
  unfold Header.ofDatagram? Frame.payload? at h
  cases hlength : Frame.payloadLength? d with
  | none => exact Or.inl hlength
  | some n =>
    rw [hlength] at h
    simp only [Option.map_some] at h
    split at h
    · cases h
    · rename_i e rest heq
      exact Or.inr ⟨n, e, rest, hlength, heq⟩

end Bytes

/-! ## What an acknowledgement takes out -/

namespace Window

variable {β : Type}

/-- `w'` is what is left of the window `w` without the segments `removed`. -/
structure Loses (w : Window β) (removed : List (Segment β)) (w' : Window β) : Prop where
  /-- What was removed could be found before, and cannot any more. -/
  mem_iff : ∀ u, u ∈ removed ↔ w.find? u.seq = some u ∧ w'.find? u.seq = none
  /-- What is left was there before. -/
  kept : ∀ seq u, w'.find? seq = some u → w.find? seq = some u
  /-- There are as many segments less as were removed: none of them was removed twice. -/
  size_add : w'.size + removed.length = w.size

/-- **An acknowledgement takes out** just what is missing afterwards. -/
theorem Tidy.loses_acknowledge {w : Window β} (h : w.Tidy) (hcap : w.capacity ≤ 2 ^ 32)
    (next : Serial) (received : UInt32) :
    w.Loses (w.acknowledge next received).removed.toList
      (w.acknowledge next received).window where
  mem_iff u := by
    rcases w.acknowledge_cases next received with heq | ⟨offset, -, hle, heq⟩
    · rw [heq]
      constructor
      · intro hmem
        cases hmem
      · rintro ⟨hfind, hnone⟩
        exact absurd (hfind.symm.trans hnone) nofun
    · rw [heq, Shedding.removed_dropAll (Shedding.nodup_marked _ _),
        Shedding.removed_advance (hle.trans hcap), Shedding.find?_dropAll, List.nil_append,
        List.mem_append, List.mem_filterMap, List.mem_filterMap]
      simp only [Shedding.find?_advance]
      constructor
      · -- it was passed by the base, or it was marked
        rintro (⟨i, hi, hget⟩ | ⟨seq, hmark, hfind⟩)
        · have hseq : u.seq = w.base + i := seq_of_find? hget
          have hpassed : ∃ i < offset, u.seq = w.base + i := ⟨i, List.mem_range.mp hi, hseq⟩
          refine ⟨hseq ▸ hget, ?_⟩
          rw [if_pos hpassed, ite_self]
        · split at hfind
          · cases hfind
          · have hseq := seq_of_find? hfind
            exact ⟨hseq ▸ hfind, if_pos (hseq ▸ hmark)⟩
      · rintro ⟨hfind, hnone⟩
        by_cases hpassed : ∃ i < offset, u.seq = w.base + i
        · obtain ⟨i, hi, hseq⟩ := hpassed
          rw [hseq] at hfind
          exact Or.inl ⟨i, List.mem_range.mpr hi, hfind⟩
        · rw [if_neg hpassed] at hnone
          split at hnone
          · rename_i hmark
            exact Or.inr ⟨u.seq, hmark, by rw [if_neg hpassed, hfind]⟩
          · exact absurd (hfind.symm.trans hnone) nofun
  kept _ _ := find?_of_acknowledge
  size_add := by
    rw [Array.length_toList]
    exact h.size_acknowledge hcap next received

end Window

/-! ## Taking in a datagram -/

namespace Stream

/-- **Segments are stored one after the other.** Their bodies go to buffers. -/
theorem exists_foldl_storeSegment_eq (s : Stream) {segments : List (Segment Bytes)}
    (hbody : ∀ t ∈ segments, t.body.length ≤ s.settings.maxSegment) :
    ∃ (found : List (Segment Buffer)) (pool : Pool), found.map Segment.wire = segments
      ∧ segments.foldl storeSegment s
        = { s with receiveWindow := s.receiveWindow.offerAll found, pool := pool } := by
  induction segments generalizing s with
  | nil => exact ⟨[], s.pool, rfl, rfl⟩
  | cons t rest ih =>
    obtain ⟨u, pool, hstore, -, hwire⟩ := s.exists_storeSegment_eq t
    obtain ⟨found, pool', hfound, hrest⟩ :=
      ih { s with receiveWindow := s.receiveWindow.offer u, pool := pool }
        fun v hv => hbody v (List.mem_cons_of_mem t hv)
    refine ⟨u :: found, pool', ?_, ?_⟩
    · rw [List.map_cons, hfound, hwire (hbody t List.mem_cons_self)]
    · rw [List.foldl_cons, hstore, hrest]
      rfl

/-- **Data is stored as far as it can be read**, and what breaks off is counted. -/
theorem exists_processData_eq (s : Stream) (now : Nat) (payload : Bytes) :
    ∃ (row : List (WireSegment s.settings.maxSegment)) (tail : Bytes)
      (found : List (Segment Buffer)) (pool : Pool), Segment.Splits payload row tail
      ∧ found.map Segment.wire = row.map (WireSegment.read now)
      ∧ s.processData now payload
        = { s with
            receiveWindow := s.receiveWindow.offerAll found
            ackDue := true
            pool := pool
            traffic := if tail = [] then s.traffic else s.traffic.malformed } := by
  obtain ⟨row, tail, hsplits, hread, hstop⟩ :=
    Segment.splits_decodeAll s.settings.maxSegment now payload
  have hbody : ∀ t ∈ row.map (WireSegment.read now), t.body.length ≤ s.settings.maxSegment := by
    intro t ht
    obtain ⟨w, -, rfl⟩ := List.mem_map.mp ht
    exact w.length_le
  obtain ⟨found, pool, hfound, hstore⟩ := s.exists_foldl_storeSegment_eq hbody
  refine ⟨row, tail, found, pool, hsplits, hfound, ?_⟩
  unfold processData
  simp only [hread, hstore]
  by_cases htail : tail = []
  · simp only [hstop.mpr htail, htail, Option.isSome_none, Bool.false_eq_true, if_false, if_true]
  · have hsome : (Segment.decodeAll s.settings.maxSegment now payload).2.isSome = true := by
      rw [Option.isSome_iff_ne_none]
      exact mt hstop.mp htail
    simp only [hsome, htail, if_true, if_false]

/-- A datagram is taken in, and what is owed to it at once goes out. -/
def handle (s : Stream) (now : Nat) (d : Bytes) : Stream × List Bytes :=
  match s.process now d with
  | (s, none) => (s, [])
  | (s, some header) =>
    match s.control header with
    | (.ok datagram, s) => (s, [datagram])
    | (.error _, s) => (s, [])

/-- What a stream becomes when it takes in the string of bytes `d`, and what it sends at once. -/
inductive Effect (s : Stream) (now : Nat) (d : Bytes) : Stream × List Bytes → Prop
  /-- What is no datagram is counted. -/
  | dropped (h : d.Unreadable) : Effect s now d ({ s with traffic := s.traffic.malformed }, [])
  /-- The longest row of segments that can be read is offered to the receive window, in order. An
  acknowledgement is due. If something is left behind the row, that is counted. -/
  | data {payload tail : Bytes} {row : List (WireSegment s.settings.maxSegment)}
      {found : List (Segment Buffer)} (pool : Pool) (h : d.Opens .data payload)
      (hsplits : Segment.Splits payload row tail)
      (hfound : found.map Segment.wire = row.map (WireSegment.read now)) :
      Effect s now d
        ({ s with
            receiveWindow := s.receiveWindow.offerAll found
            ackDue := true
            pool := pool
            traffic := if tail = [] then s.traffic else s.traffic.malformed }, [])
  /-- The send window loses what is acknowledged. For each of these segments there is a round trip,
  and each is counted. The writer that waits for room may be notified. -/
  | ack {next : Serial} {received : UInt32} {rest : Bytes} {removed : List (Segment Buffer)}
      {window : Window Buffer} (pool : Pool) (roomFreed : Bool)
      (h : d.Opens (.ack next received) rest)
      (hwindow : window = (s.sendWindow.acknowledge next received).window)
      (hloses : s.sendWindow.Loses removed window) :
      Effect s now d
        ({ s with
            sendWindow := window
            roundTrips := s.roundTrips.appendAll (removed.map fun u => now - u.sentAt)
            pool := pool
            roomFreed := roomFreed
            traffic := s.traffic.acknowledged removed.length }, [])
  /-- A request for a stream is answered. -/
  | dial {rest : Bytes} (pool : Pool) (h : d.Opens .dial rest) :
      Effect s now d ({ s with pool := pool }, [Header.dialAck.datagram []])
  /-- A late answer makes no difference. -/
  | dialAck {rest : Bytes} (h : d.Opens .dialAck rest) : Effect s now d (s, [])

/-- **The effect of any string of bytes** on a stream with a tidy send window. -/
theorem effect_of_tidy {s : Stream} (h : s.sendWindow.Tidy)
    (hcap : s.sendWindow.capacity ≤ 2 ^ 32) (now : Nat) (d : Bytes) :
    s.Effect now d (s.handle now d) := by
  unfold handle process
  cases hd : Header.ofDatagram? d with
  | none => exact .dropped (Bytes.unreadable_of_ofDatagram? hd)
  | some opened =>
    obtain ⟨header, rest⟩ := opened
    have hopens := Bytes.opens_iff.mpr hd
    cases header with
    | data =>
      obtain ⟨row, tail, found, pool, hsplits, hfound, heq⟩ := s.exists_processData_eq now rest
      simp only [heq]
      exact .data pool hopens hsplits hfound
    | ack next received =>
      exact .ack _ _ hopens rfl (h.loses_acknowledge hcap next received)
    | dial =>
      obtain ⟨pool, heq⟩ := s.control_eq .dialAck
      simp only [heq]
      exact .dial pool hopens
    | dialAck => exact .dialAck hopens

/-- What comes from the socket passes through a buffer before it is looked at. -/
theorem receive_eq (s : Stream) (now : Nat) (raw : Bytes) :
    s.receive now raw = (s.taking raw).process now (raw.take s.settings.mtu) := by
  rw [← Pool.fst_intake s.pool]
  rfl

end Stream

/-! ## Agents -/

/-- **A reader** lets the stream handle what the socket delivered. Then it waits until the answer
has gone out, or goes on at once if there is none. -/
theorem Reader.accept_eq (x : Shared) (me : Agent) (buffer : Bytes) (now : Nat) (raw : Bytes) :
    Reader.accept x me buffer now (.datagram raw)
      = match (x.stream.taking raw).handle now (raw.take x.stream.settings.mtu) with
        | (s, []) => Reader.proceed { x with stream := s } me buffer
        | (s, datagram :: _) =>
          ({ x with stream := s }, .hands (.replying datagram) datagram) := by
  unfold Reader.accept Stream.handle
  simp only [Stream.receive_eq]
  rcases (x.stream.taking raw).process now (raw.take x.stream.settings.mtu) with ⟨s, _ | header⟩
  · rfl
  · simp only
    rcases s.control header with ⟨_ | datagram, s'⟩ <;> rfl

/-- **A writer that waits for room** does the same, before it leaves the section for reading. -/
theorem Writer.accept_eq (x : Shared) (me : Agent) (now : Nat) (job : Job) (limit : Nat)
    (raw : Bytes) :
    Writer.accept x me now job limit (.datagram raw)
      = match (x.stream.taking raw).handle now (raw.take x.stream.settings.mtu) with
        | (s, []) => Writer.leavePolling { x with stream := s } me now job
        | (s, datagram :: _) =>
          ({ x with stream := s }, .hands (.replying job limit datagram) datagram) := by
  unfold Writer.accept Stream.handle
  simp only [Stream.receive_eq]
  rcases (x.stream.taking raw).process now (raw.take x.stream.settings.mtu) with ⟨s, _ | header⟩
  · rfl
  · simp only
    rcases s.control header with ⟨_ | datagram, s'⟩ <;> rfl

end Redelivery
