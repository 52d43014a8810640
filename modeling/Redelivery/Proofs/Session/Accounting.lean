import Redelivery.Proofs.Session.Trying
import Redelivery.Proofs.Stream.Accounting

/-!
# Agents and the books on segments

The books on segments balance with what the agent inside the section for writing is in the middle
of. Here this is shown turn by turn. A writer hands over a new segment, counts those that went along
when the socket has taken them all, and flushes while it waits; the flusher flushes. All others leave
the books alone: what they hand over are acknowledgements and replies.

## Main definitions

* `Writer.work`, `Flusher.work`: what an agent is in the middle of.
* `Reader.inHand?`, `Writer.inHand?`, `Flusher.inHand?`: the datagram that it has handed over.
* `Writer.Accounts`, `Flusher.Accounts`: the books balance after a turn.

## Main statements

* `Flush.begin_balanced`, `Flush.sent_balanced`: flushes.
* `Writer.begin_accounts`, `Writer.resume_accounts`, `Flusher.resume_accounts`: the turns of those
  inside the section.
* `Reader.begin_keeps`, `Reader.resume_keeps`, `Flusher.resume_sameBooks`: the turns of others.

The books are a matter of the stream, `Stream.Balanced`, and what is done here is to follow a turn
and to say what the agent is in the middle of afterwards. A writer that has handed over a new
segment owes its count, and that of those that went along, until the socket has taken the datagram.
A flush owes the counts of all of its segments until the last datagram is sent, as they are counted
together then (`Flush.sent_balanced`).

`Writer.Accounts` has one case for a turn that gives a number away and one for a turn that does not;
a turn can do the first only once, in `attempt_accounts`. A writer that fails with its segment
unsent closes the stream, and closed streams are off the books, so nothing has to be shown of that
case.
-/

namespace Redelivery

variable {settings : ValidSettings} {s : Stream} {x : Shared} {me : Agent} {now : Nat}
  {first : Serial} {assigned sent : Nat}

theorem Stream.Sound.body_le_maxSegment (h : s.Sound settings) :
    ∀ u : Segment Buffer, s.sendWindow.find? u.seq = some u →
      u.wire.body.length ≤ s.settings.maxSegment := by
  rw [h.settings_eq]
  exact h.body_le

theorem Stream.Balanced.heard {work : Work} (h : s.Balanced first work assigned sent) (now : Nat)
    (signal : Signal) : (s.heard now signal).Balanced first work assigned sent := by
  unfold Stream.heard
  split
  · exact h.receive now _
  · exact h

/-! ## Flushes -/

namespace Flush

/-- What a flush is in the middle of: the current datagram is still to be sent, and nothing of it all
is counted yet. -/
def work (f : Flush) : Work where
  due := Bytes.segmentTotal (f.current :: f.rest)
  uncounted := f.count

/-- What a flush is in the middle of from here on. -/
def Progress.work : Progress → Work
  | .done => .none
  | .going flush => flush.work
  | .failed _ => .none

/-- **A flush begins.** -/
theorem begin_balanced (hsound : s.Sound settings)
    (h : s.Balanced first .none assigned sent) (now : Nat) :
    (begin s now).1.Balanced first (begin s now).2.work assigned sent := by
  -- Making the datagrams changes none of the books, so only the work of the agent grows: by what
  -- the datagrams hold on one side, by what they will add to the counter on the other.
  have hbalanced := (s.sameBooks_flushDatagrams now).balanced h
  unfold begin
  split
  · rename_i count s' hmade
    rwa [hmade] at hbalanced
  · rename_i datagram rest count s' hmade
    rw [hmade] at hbalanced
    have hcount := Stream.segmentTotal_flushDatagrams hsound.body_le_maxSegment hmade
    have hsent := hbalanced.sent_eq
    refine ⟨hbalanced.upcoming_eq, hbalanced.trails, hbalanced.assigned_eq, ?_⟩
    simp only [Progress.work, work, Work.none, hcount] at hsent ⊢
    grind
  · rename_i failure s' hmade
    rwa [hmade] at hbalanced

/-- **A datagram of a flush was sent.** All segments are counted with the last one. -/
theorem sent_balanced {f : Flush} (h : s.Balanced first f.work assigned sent) :
    (f.sent s).1.Balanced first (f.sent s).2.work assigned
      (sent + f.current.segmentCount) := by
  have hsent := h.sent_eq
  simp only [work, Bytes.segmentTotal_cons] at hsent
  rw [UInt64.ofNat_add] at hsent
  unfold Flush.sent
  simp only
  split
  · -- that was the last datagram: what the flush had in mind to count is counted
    rename_i hrest
    refine ⟨h.upcoming_eq, h.trails, h.assigned_eq, ?_⟩
    show UInt64.ofNat (sent + f.current.segmentCount) + UInt64.ofNat 0
      = UInt64.ofNat assigned + s.traffic.segmentsPiggybacked
        + (s.traffic.segmentsResent + UInt64.ofNat f.count) + UInt64.ofNat 0
    rw [hrest, Bytes.segmentTotal_nil] at hsent
    rw [UInt64.ofNat_add]
    grind
  · -- more are to come, and none of their segments is counted yet
    rename_i datagram rest hrest
    refine ⟨h.upcoming_eq, h.trails, h.assigned_eq, ?_⟩
    show UInt64.ofNat (sent + f.current.segmentCount)
        + UInt64.ofNat (Bytes.segmentTotal (datagram :: rest))
      = UInt64.ofNat assigned + s.traffic.segmentsPiggybacked + s.traffic.segmentsResent
        + UInt64.ofNat f.count
    rw [hrest] at hsent
    rw [UInt64.ofNat_add]
    grind

end Flush

/-- The datagram that an agent has handed over, if the signal tells that the socket has taken it. -/
def Signal.confirmed? (inHand? : Option Bytes) : Signal → Option Bytes
  | .sent => inHand?
  | _ => none

theorem Signal.segmentTotal_confirmed {inHand? : Option Bytes} (signal : Signal)
    (h : Bytes.segmentTotal inHand?.toList = 0) :
    Bytes.segmentTotal (signal.confirmed? inHand?).toList = 0 := by
  cases signal with
  | sent => exact h
  | _ => rfl

/-- What an agent is in the middle of after a turn. -/
def Turn.work {π ρ : Type} (work : π → Work) (turn : Turn π ρ) : Work :=
  match turn.point? with
  | some point => work point
  | none => .none

/-! ## Readers -/

namespace Reader

variable {buffer : Bytes}

/-- The datagram that a reader has handed over. -/
def inHand? : Reader → Option Bytes
  | entering => none
  | acking datagram _ => some datagram
  | receiving => none
  | replying datagram => some datagram

/-- A reader has handed over no segments. -/
def Replies (point : Reader) : Prop :=
  Bytes.segmentTotal point.inHand?.toList = 0

/-- In the turn nothing happened that is on the books. -/
structure Keeps (s : Stream) (r : Shared × Turn Reader Outcome) : Prop where
  /-- The books. -/
  books : s.SameBooks r.1.stream
  /-- No segments are handed over. -/
  replies : ∀ point, r.2.point? = some point → point.Replies

theorem finish_keeps (h : s.SameBooks x.stream) (me : Agent) (outcome : Outcome) :
    Keeps s (finish x me outcome) :=
  ⟨h, fun _ hpoint => by cases hpoint⟩

theorem waits_keeps (h : s.SameBooks x.stream) {point : Reader} (hpoint : point.Replies) :
    Keeps s (x, .waits point) :=
  ⟨h, fun _ heq => by cases heq; exact hpoint⟩

theorem hands_keeps (h : s.SameBooks x.stream) {point : Reader} {header : Header}
    (hpoint : point.inHand? = some (header.datagram [])) :
    Keeps s (x, .hands point (header.datagram [])) := by
  refine ⟨h, fun _ heq => ?_⟩
  cases heq
  rw [Replies, hpoint, Option.toList_some, Bytes.segmentTotal_cons, Bytes.segmentCount_nil]
  rfl

theorem acknowledge_keeps (h : s.SameBooks x.stream) (again : Bool) :
    Keeps s (acknowledge x again) := by
  have hack := h.trans x.stream.sameBooks_acknowledge
  have hmade : x.stream.acknowledge.1 = .ok x.stream.receiveWindow.ackDatagram :=
    Stream.control_eq_ok _ _
  unfold acknowledge
  split
  · rename_i datagram s' heq
    rw [heq] at hack hmade
    cases hmade
    exact hands_keeps hack rfl
  · rename_i failure s' heq
    rw [heq] at hmade
    cases hmade

theorem proceed_keeps (h : s.SameBooks x.stream) (me : Agent) (buffer : Bytes) :
    Keeps s (proceed x me buffer) := by
  have hdeliver := h.trans (x.stream.sameBooks_deliver buffer)
  unfold proceed
  split
  · exact finish_keeps h me _
  · split
    · rename_i s' length filled heq
      rw [heq] at hdeliver
      exact finish_keeps (x := { x with stream := s' }) hdeliver me _
    · rename_i s' failure heq
      rw [heq] at hdeliver
      exact finish_keeps (x := { x with stream := s' }) hdeliver me _
    · rename_i s' heq
      rw [heq] at hdeliver
      exact acknowledge_keeps (x := { x with stream := s' }) hdeliver true
    · rename_i s' heq
      rw [heq] at hdeliver
      simp only
      split
      · exact acknowledge_keeps (x := { x with stream := s' }) hdeliver false
      · exact waits_keeps (x := { x with stream := s' }) hdeliver rfl

theorem accept_keeps (x : Shared) (me : Agent) (buffer : Bytes) (now : Nat) (arrival : Arrival) :
    Keeps (x.stream.heard now (.arrived arrival)) (accept x me buffer now arrival) := by
  cases arrival with
  | fault reason => exact finish_keeps (.refl x.stream) me _
  | datagram raw =>
    show Keeps (x.stream.receive now raw).1 _
    unfold accept
    simp only
    split
    · rename_i s' heq
      rw [heq]
      exact proceed_keeps (x := { x with stream := s' }) (.refl s') me buffer
    · rename_i s' header heq
      rw [heq]
      have hcontrol := s'.sameBooks_control header
      have hmade := s'.control_eq_ok header
      split
      · rename_i datagram s'' heq'
        rw [heq'] at hcontrol hmade
        cases hmade
        exact hands_keeps (x := { x with stream := s'' }) hcontrol rfl
      · rename_i failure s'' heq'
        rw [heq'] at hmade
        cases hmade

/-- **The first turn of a reader.** -/
theorem begin_keeps (x : Shared) (me : Agent) (buffer : Bytes) :
    Keeps x.stream (begin x me buffer) := by
  unfold begin
  split
  · exact ⟨.refl _, fun _ hpoint => by cases hpoint⟩
  · simp only
    split
    · exact proceed_keeps (x := { x with reading := x.reading.enter me }) (.refl _) me buffer
    · exact waits_keeps (x := { x with reading := x.reading.enter me }) (.refl _) rfl

/-- **A later turn of a reader.** -/
theorem resume_keeps (x : Shared) (me : Agent) (buffer : Bytes) (now : Nat) {point : Reader}
    {signal : Signal} (hpoint : ∀ arrival, signal = .arrived arrival → point = .receiving)
    (hreplies : point.Replies) :
    Keeps (x.stream.heard now signal) (resume x me buffer now point signal) := by
  have hcounted (datagram : Bytes) : x.stream.SameBooks (x.stream.countSent datagram) :=
    x.stream.sameBooks_countSent datagram
  have hstay : Keeps x.stream (x, .waits point) := waits_keeps (.refl _) hreplies
  have hself : Keeps x.stream (proceed x me buffer) := proceed_keeps (.refl _) me buffer
  cases signal with
  | arrived arrival =>
    rw [hpoint arrival rfl]
    exact accept_keeps x me buffer now arrival
  | sent =>
    cases point with
    | acking datagram again =>
      cases again with
      | true =>
        exact proceed_keeps (x := { x with stream := x.stream.countSent datagram })
          (hcounted datagram) me buffer
      | false =>
        exact waits_keeps (x := { x with stream := x.stream.countSent datagram })
          (hcounted datagram) rfl
    | replying datagram =>
      exact proceed_keeps (x := { x with stream := x.stream.countSent datagram })
        (hcounted datagram) me buffer
    | _ => exact hstay
  | unsent reason =>
    cases point with
    | acking datagram again =>
      cases again with
      | true => exact hself
      | false => exact waits_keeps (.refl _) rfl
    | replying datagram => exact hself
    | _ => exact hstay
  | granted =>
    cases point with
    | entering => exact hself
    | _ => exact hstay
  | closed =>
    cases point with
    | receiving => exact finish_keeps (.refl _) me _
    | _ => exact hstay
  | _ => cases point <;> exact hstay

end Reader

/-! ## Writers -/

namespace Writer

variable {job : Job}

/-- The datagram that a writer has handed over. -/
def inHand? : Writer → Option Bytes
  | entering _ => none
  | polling _ _ => none
  | replying _ _ datagram => some datagram
  | flushing _ flush => some flush.current
  | awaiting _ _ => none
  | sending _ datagram _ => some datagram

/-- What a writer is in the middle of. -/
def work : Writer → Work
  | entering _ => .none
  | polling _ _ => .none
  | replying _ _ _ => .none
  | flushing _ flush => flush.work
  | awaiting _ _ => .none
  | sending _ datagram piggybacked => ⟨true, datagram.segmentCount, piggybacked⟩

/-- If a writer has answered a request for a stream, then it has handed over no segments. -/
def Replies : Writer → Prop
  | replying _ _ datagram => datagram.segmentCount = 0
  | _ => True

/-- **The books balance after a turn of a writer**, if they did so before it with `assigned` numbers
given. -/
inductive Accounts (first : Serial) (assigned sent : Nat) (r : Shared × Turn Writer Outcome) :
    Prop where
  /-- The stream is closed. -/
  | closes (hclosed : r.1.stream.closed = true)
  /-- No segment has got a number. -/
  | keeps (hpoint : ∀ w, r.2.point? = some w → w.isSending = false ∧ w.Replies)
      (hbalanced : r.1.stream.Balanced first (r.2.work work) assigned sent)
  /-- One more segment has got a number, and is handed over. -/
  | numbers {rest : List Bytes} {made datagram : Bytes} {piggybacked : Nat}
      (hturn : r.2 = .hands (sending rest made piggybacked) datagram)
      (hfind : (r.1.stream.sendWindow.find? r.1.stream.next).isSome = true)
      (hbalanced : r.1.stream.Balanced first (r.2.work work) (assigned + 1) sent)

theorem Accounts.returns (h : x.stream.Balanced first .none assigned sent) (outcome : Outcome) :
    Accounts first assigned sent (x, .returns outcome) :=
  .keeps (fun _ hpoint => by cases hpoint) h

theorem Accounts.waits {w : Writer} (hw : w.isSending = false ∧ w.Replies)
    (h : x.stream.Balanced first w.work assigned sent) :
    Accounts first assigned sent (x, .waits w) :=
  .keeps (fun _ hpoint => by cases hpoint; exact hw) h

theorem Accounts.hands {w : Writer} (hw : w.isSending = false ∧ w.Replies)
    (h : x.stream.Balanced first w.work assigned sent) (datagram : Bytes) :
    Accounts first assigned sent (x, .hands w datagram) :=
  .keeps (fun _ hpoint => by cases hpoint; exact hw) h

theorem fail_accounts (h : x.stream.Balanced first .none assigned sent) (me : Agent)
    (begun : Bool) (failure : Failure) :
    Accounts first assigned sent (fail x me begun failure) := by
  cases begun with
  | true => exact .closes rfl
  | false => exact .returns (x := x.leaveWriting me) h _

theorem failWith_accounts (h : x.stream.Balanced first .none assigned sent) (me : Agent)
    (job : Job) (failure : Failure) : Accounts first assigned sent (failWith x me job failure) :=
  fail_accounts (x := { x with stream := x.stream.giveBack job.body })
    ((x.stream.sameBooks_giveBack job.body).balanced h) me job.begun failure

theorem flushed_accounts {progress : Flush.Progress}
    (h : x.stream.Balanced first progress.work assigned sent) (me : Agent) (now : Nat) (job : Job) :
    Accounts first assigned sent (flushed x me now job progress) := by
  cases progress with
  | done => exact .waits ⟨rfl, trivial⟩ h
  | going flush => exact .hands (w := flushing job flush) ⟨rfl, trivial⟩ h _
  | failed failure => exact failWith_accounts h me job failure

theorem polled_accounts (hsound : x.stream.Sound settings)
    (h : x.stream.Balanced first .none assigned sent) (me : Agent) (now : Nat) (job : Job) :
    Accounts first assigned sent (polled x me now job) := by
  unfold polled
  split
  · exact failWith_accounts h me job _
  · exact flushed_accounts (x := { x with stream := (Flush.begin x.stream now).1 })
      (Flush.begin_balanced hsound h now) me now job

theorem poll_accounts (hsound : x.stream.Sound settings)
    (h : x.stream.Balanced first .none assigned sent) (me : Agent) (now : Nat) (job : Job) :
    Accounts first assigned sent (poll x me now job) := by
  have hcleared : ({ x.stream with roomFreed := false } : Stream).Balanced first .none assigned
      sent :=
    Stream.SameBooks.balanced (s := x.stream) ⟨rfl, rfl, rfl, rfl, rfl⟩ h
  unfold poll
  simp only
  split
  · refine .waits ?_ hcleared
    exact ⟨rfl, trivial⟩
  · exact polled_accounts (x := { x with stream := { x.stream with roomFreed := false } })
      (hsound.congr rfl rfl rfl hsound.size_le) hcleared me now job

/-- **A writer tries to add its segment.** -/
theorem attempt_accounts (hsound : x.stream.Sound settings)
    (h : x.stream.Balanced first .none assigned sent) (me : Agent) (now : Nat)
    (hjob : job.body.content.length ≤ settings.maxSegment) :
    Accounts first assigned sent (attempt x me now job) := by
  unfold attempt
  split
  · rename_i t hinsert
    -- there was room: the segment is in the window, so its datagram can be made
    obtain ⟨ht, hfind⟩ := hsound.of_insert? hjob hinsert
    obtain ⟨datagram, piggybacked, s', hmade, -⟩ := ht.exists_segmentDatagram hfind
    have hcount := Stream.segmentCount_segmentDatagram ht.body_le_maxSegment hmade
    have halike := t.alike_segmentDatagram
    rw [hmade] at halike ⊢
    rw [← halike.sendWindow, ← halike.next] at hfind
    exact .numbers rfl hfind (h.numbered hinsert hmade hcount)
  · split
    · exact failWith_accounts h me job _
    · exact poll_accounts hsound h me now job

theorem retry_accounts (hsound : x.stream.Sound settings)
    (h : x.stream.Balanced first .none assigned sent) (me : Agent) (now : Nat)
    (hjob : job.body.content.length ≤ settings.maxSegment) :
    Accounts first assigned sent (retry x me now job) := by
  unfold retry
  split
  · exact failWith_accounts h me job _
  · exact attempt_accounts hsound h me now hjob

theorem proceed_accounts (hsound : x.stream.Sound settings)
    (h : x.stream.Balanced first .none assigned sent) (me : Agent) (now : Nat) (begun : Bool)
    {pieces : List Bytes} (hpieces : ∀ b ∈ pieces, b.length ≤ settings.maxSegment) :
    Accounts first assigned sent (proceed x me now begun pieces) := by
  unfold proceed
  split
  · exact .returns (x := x.leaveWriting me) h _
  · rename_i piece rest
    split
    · exact fail_accounts h me begun _
    · have hpiece : piece.length ≤ settings.maxSegment := hpieces piece List.mem_cons_self
      have hcontent : (x.stream.prepare piece).1.content = piece :=
        content_prepare (by rwa [hsound.settings_eq])
      exact attempt_accounts (x := { x with stream := (x.stream.prepare piece).2 })
        (hsound.congr rfl rfl rfl hsound.size_le)
        ((x.stream.sameBooks_prepare piece).balanced h) me now (by rwa [← hcontent] at hpiece)

theorem leavePolling_accounts (hsound : x.stream.Sound settings)
    (h : x.stream.Balanced first .none assigned sent) (me : Agent) (now : Nat) (job : Job) :
    Accounts first assigned sent (leavePolling x me now job) :=
  polled_accounts (x := x.leaveReading me) hsound h me now job

theorem accept_accounts (hsound : x.stream.Sound settings)
    (h : x.stream.Balanced first .none assigned sent) (me : Agent) (now : Nat) (job : Job)
    (limit : Nat) (arrival : Arrival) :
    Accounts first assigned sent (accept x me now job limit arrival) := by
  unfold accept
  split
  · exact leavePolling_accounts hsound h me now job
  · rename_i raw
    have hheard := h.receive now raw
    have hkept := (hsound.receive now raw).2
    split
    · rename_i s' heq
      rw [heq] at hheard hkept
      exact leavePolling_accounts (x := { x with stream := s' }) hkept hheard me now job
    · rename_i s' header heq
      rw [heq] at hheard hkept
      obtain ⟨s'', hmade, -, hsound', -⟩ := hkept.exists_control header
      have hcontrol := (s'.sameBooks_control header).balanced hheard
      rw [hmade] at hcontrol ⊢
      refine .hands ?_ hcontrol _
      exact ⟨rfl, Bytes.segmentCount_nil header⟩

/-- **The first turn of a writer.** -/
theorem begin_accounts (hsound : x.stream.Sound settings)
    (h : x.stream.Balanced first .none assigned sent) (me : Agent) (now : Nat) (message : Bytes) :
    Accounts first assigned sent (begin x me now message) := by
  rcases begin_cases x me now message with ⟨outcome, heq, -⟩ | ⟨-, -, -, heq⟩
  · rw [heq]
    exact .returns h outcome
  · rw [heq]
    split
    · exact proceed_accounts (x := { x with writing := x.writing.enter me }) hsound h me now false
        fun b hb => by
          rw [← hsound.settings_eq]
          exact Bytes.length_le_of_mem_chunks hb
    · exact .waits (x := { x with writing := x.writing.enter me }) ⟨rfl, trivial⟩ h

/-- **A later turn of a writer.** -/
theorem resume_accounts (hsound : x.stream.Sound settings) {point : Writer}
    (hfits : point.Fits settings) (hreplies : point.Replies) {signal : Signal}
    (hsending : point.isSending = true → signal = .sent ∨ ∃ reason, signal = .unsent reason)
    (h : x.stream.Balanced first point.work assigned sent) (me : Agent) (now : Nat) :
    Accounts first assigned
      (sent + Bytes.segmentTotal (signal.confirmed? point.inHand?).toList)
      (resume x me now point signal) := by
  have hpieces := hfits.length_le
  cases point with
  | entering message =>
    have hstay : Accounts first assigned sent (x, .waits (entering message)) :=
      .waits ⟨rfl, trivial⟩ h
    cases signal with
    | granted =>
      exact proceed_accounts hsound h me now false fun b hb => by
        rw [← hsound.settings_eq]
        exact Bytes.length_le_of_mem_chunks hb
    | _ => exact hstay
  | polling job limit =>
    have hstay : Accounts first assigned sent (x, .waits (polling job limit)) :=
      .waits ⟨rfl, trivial⟩ h
    cases signal with
    | arrived arrival => exact accept_accounts hsound h me now job limit arrival
    | closed => exact leavePolling_accounts hsound h me now job
    | due => exact leavePolling_accounts hsound h me now job
    | _ => exact hstay
  | replying job limit datagram =>
    have hstay : Accounts first assigned sent (x, .waits (replying job limit datagram)) :=
      .waits ⟨rfl, hreplies⟩ h
    cases signal with
    | sent =>
      have hzero : Bytes.segmentTotal (Signal.sent.confirmed? (some datagram)).toList = 0 :=
        hreplies
      rw [inHand?, hzero]
      exact leavePolling_accounts (x := { x with stream := x.stream.countSent datagram })
        (hsound.countSent datagram) ((x.stream.sameBooks_countSent datagram).balanced h) me now job
    | unsent reason => exact leavePolling_accounts hsound h me now job
    | due => exact leavePolling_accounts hsound h me now job
    | _ => exact hstay
  | flushing job flush =>
    have hstay : Accounts first assigned sent (x, .waits (flushing job flush)) :=
      .waits ⟨rfl, trivial⟩ h
    cases signal with
    | sent =>
      exact flushed_accounts (x := { x with stream := (flush.sent x.stream).1 })
        (Flush.sent_balanced h) me now job
    | unsent reason =>
      -- the stream is closed already when the writer fails
      refine .closes ?_
      show (failWith { x with stream := x.stream.shut } me job _).1.stream.closed = true
      unfold failWith fail
      split <;> rfl
    | _ => exact hstay
  | awaiting job limit =>
    have hstay : Accounts first assigned sent (x, .waits (awaiting job limit)) :=
      .waits ⟨rfl, trivial⟩ h
    cases signal with
    | room => exact retry_accounts hsound h me now (hpieces _ List.mem_cons_self)
    | due => exact retry_accounts hsound h me now (hpieces _ List.mem_cons_self)
    | _ => exact hstay
  | sending rest datagram piggybacked =>
    -- nothing else reaches a writer whose own segment is on its way to the socket
    rcases hsending rfl with rfl | ⟨reason, rfl⟩
    · exact proceed_accounts
        (x := { x with stream := (x.stream.countSent datagram).commit piggybacked })
        (hsound.congr rfl rfl rfl hsound.size_le) h.commit me now true hpieces
    · exact .closes x.stream.closed_abandon

end Writer

/-! ## The flusher -/

namespace Flusher

/-- The datagram that the flusher has handed over. -/
def inHand? : Flusher → Option Bytes
  | waiting _ => none
  | flushing _ flush => some flush.current

/-- What the flusher is in the middle of. -/
def work : Flusher → Work
  | waiting _ => .none
  | flushing _ flush => flush.work

/-- **The books balance after a turn of the flusher.** -/
def Accounts (first : Serial) (assigned sent : Nat) (r : Shared × Turn Flusher Unit) : Prop :=
  r.1.stream.closed = true ∨ r.1.stream.Balanced first (r.2.work work) assigned sent

theorem flushed_accounts {progress : Flush.Progress}
    (h : x.stream.Balanced first progress.work assigned sent) (tick : Nat) :
    Accounts first assigned sent (flushed x tick progress) := by
  cases progress <;> exact Or.inr h

theorem tick_accounts (hsound : x.stream.Sound settings)
    (h : x.stream.Balanced first .none assigned sent) (now next : Nat) :
    Accounts first assigned sent (tick x now next) := by
  unfold tick
  split
  · exact Or.inr (Stream.SameBooks.balanced (s := x.stream) ⟨rfl, rfl, rfl, rfl, rfl⟩ h)
  · split
    · exact Or.inr h
    · rename_i writing henter
      simp only
      split
      · exact Or.inr h
      · exact flushed_accounts
          (x := { x with stream := (Flush.begin x.stream now).1, writing := writing })
          (Flush.begin_balanced hsound h now) next

/-- **A turn of the flusher.** -/
theorem resume_accounts (hsound : x.stream.Sound settings) {point : Flusher}
    (h : x.stream.Balanced first point.work assigned sent) (now : Nat) (signal : Signal) :
    Accounts first assigned (sent + Bytes.segmentTotal (signal.confirmed? point.inHand?).toList)
      (resume x now point signal) := by
  cases point with
  | waiting time =>
    have hstay : Accounts first assigned sent (x, .waits (waiting time)) := Or.inr h
    cases signal with
    | due => exact tick_accounts hsound h now _
    | closed => exact Or.inr h
    | _ => exact hstay
  | flushing next flush =>
    have hstay : Accounts first assigned sent (x, .waits (flushing next flush)) := Or.inr h
    cases signal with
    | sent =>
      exact flushed_accounts (x := { x with stream := (flush.sent x.stream).1 })
        (Flush.sent_balanced h) next
    | unsent reason => exact Or.inl rfl
    | _ => exact hstay

/-- While the section is taken, the flusher leaves the books alone between two flushes. -/
theorem resume_sameBooks {point : Flusher} (hpoint : point.isFlushing = false)
    (htaken : x.writing.isFree = false) (now : Nat) (signal : Signal) :
    x.stream.SameBooks (resume x now point signal).1.stream
      ∧ ∀ p, (resume x now point signal).2.point? = some p → p.isFlushing = false := by
  have hstay (s : Stream) (tick : Nat) : ∀ p,
      (({ x with stream := s }, .waits (waiting tick)) : Shared × Turn Flusher Unit).2.point?
        = some p → p.isFlushing = false := by
    rintro p hp
    cases hp
    rfl
  cases point with
  | flushing next flush => cases hpoint
  | waiting time =>
    cases signal with
    | due =>
      show x.stream.SameBooks (tick x now _).1.stream
        ∧ ∀ p, (tick x now _).2.point? = some p → p.isFlushing = false
      unfold tick
      split
      · exact ⟨⟨rfl, rfl, rfl, rfl, rfl⟩, hstay _ _⟩
      · split
        · exact ⟨.refl _, hstay x.stream _⟩
        · rename_i writing henter
          rw [(Section.tryEnter?_eq_some_iff.mp henter).1] at htaken
          cases htaken
    | closed => exact ⟨.refl _, fun p hp => by cases hp⟩
    | _ => exact ⟨.refl _, hstay x.stream _⟩

end Flusher

end Redelivery
