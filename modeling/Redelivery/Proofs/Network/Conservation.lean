import Mathlib.Data.List.Induction
import Redelivery.Proofs.Network.Numbering
import Redelivery.Proofs.Network.Recovery
import Redelivery.Proofs.Session.Accounting

/-!
# Segments are conserved

Every segment is on the books just once. What has got a number is in the send window, or it was
acknowledged; and the segments in all datagrams that were sent are those that have numbers, those
that went along with new ones and those that were sent again. This holds in every run, whatever
arrives, as long as nobody gives up while the socket takes a datagram. While an agent sends new
segments or flushes, the books balance with what it is in the middle of.

## Main definitions

* `Session.Balanced`: the books balance with what the agent inside the section is in the middle of.
* `Network.sendsFinish`: the rule by which no call is abandoned while the socket takes a datagram.
* `Network.sent`: the datagrams that were sent.
* `Session.IsCalm`: nobody sends new segments or flushes.

## Main statements

* `Session.Balanced.perform`, `Session.Balanced.resume`, `Session.Balanced.cancel`: the books balance
  after each turn.
* `Network.IsStart.balances_of_run`: they do so in a whole run.
* `Network.IsStart.conserved_of_run`: the counters.

Between two turns an agent may be in the middle of something: a new segment that the socket is about
to take, or a flush that has sent some of its datagrams. `Session.work` says in the middle of what
each agent is, and only one agent can be inside the section for writing, so `Session.Balanced` has
to account for the work of a single one. The proof has a lemma for each kind of turn:

* turns that are not on the books, of readers and closers, and of writers that stand in line:
  `Balanced.keeps`;
* turns of the one who is inside: `Balanced.owns`, with the stream's own account, `Stream.Balanced`,
  for what was sent, added or counted in it;
* abandoned calls: `Balanced.cancel`. The rule excludes those that wait for the socket, as a
  datagram would have gone out then that nobody counts.

A stream that is closed is off the books: a segment that was refused has given its number back, but
those that went along with it are not taken back. So `Balances` speaks of open streams only, and a
closed one does not open again. The counters are `UInt64` and wrap around; the account is kept in
that arithmetic, so it needs no bound on the length of a run.
-/

namespace Redelivery

/-! ## What agents are in the middle of -/

/-- The datagram that a call has handed over. -/
def Call.inHand? : Call → Option Bytes
  | reading _ point => point.inHand?
  | writing point => point.inHand?
  | closing _ => none

/-- A call that is not in the middle of sending segments has handed over none. -/
def Call.Replies : Call → Prop
  | reading _ point => point.Replies
  | writing point => point.Replies
  | closing _ => True

namespace Session

variable {settings : ValidSettings} {s s' : Session} {me other : Agent} {first : Serial}
  {assigned sent : Nat} {now id : Nat} {signal : Signal}

/-- The datagram that an agent has handed over. -/
def inHand? (s : Session) : Agent → Option Bytes
  | .flusher => s.flusher.bind Flusher.inHand?
  | .call id => (s.call? id).bind Call.inHand?

/-- What an agent is in the middle of. -/
def work (s : Session) : Agent → Work
  | .flusher =>
    match s.flusher with
    | some point => point.work
    | none => .none
  | .call id =>
    match s.call? id with
    | some (.writing w) => w.work
    | _ => .none

/-- Who is not inside the section for writing is not in the middle of anything. -/
theorem work_of_not_inside (h : ¬ s.Inside me) : s.work me = .none := by
  cases me with
  | flusher =>
    cases hpoint : s.flusher with
    | none => simp only [work, hpoint]
    | some point =>
      simp only [work, hpoint]
      cases point with
      | waiting tick => rfl
      | flushing tick flush => exact absurd ⟨_, hpoint, rfl⟩ h
  | call id =>
    cases hcall : s.call? id with
    | none => simp only [work, hcall]
    | some c =>
      simp only [work, hcall]
      cases c with
      | writing w =>
        rcases w.inside_or_entering with hin | ⟨message, rfl⟩
        · exact absurd ⟨w, hcall, hin⟩ h
        · rfl
      | _ => rfl

/-- **The books balance** with what the agent inside the section for writing is in the middle
of. -/
structure Balanced (s : Session) (first : Serial) (assigned sent : Nat) : Prop where
  /-- Nobody else has handed over any segments. -/
  replies : ∀ id c, s.call? id = some c → c.Replies
  /-- If somebody is inside. -/
  inside : ∀ agent, s.Inside agent → s.stream.Balanced first (s.work agent) assigned sent
  /-- If nobody is. -/
  calm : (∀ agent, ¬ s.Inside agent) → s.stream.Balanced first .none assigned sent

/-- The books balance with what an agent is in the middle of, if no other is inside. -/
theorem Balanced.alone (h : s.Balanced first assigned sent)
    (hothers : ∀ agent, agent ≠ me → ¬ s.Inside agent) :
    s.stream.Balanced first (s.work me) assigned sent := by
  by_cases hme : s.Inside me
  · exact h.inside me hme
  · rw [work_of_not_inside hme]
    refine h.calm fun agent => ?_
    by_cases hagent : agent = me
    · rwa [hagent]
    · exact hothers agent hagent

/-- An agent has a turn, and all others stay where they are. -/
structure Leaves (s s' : Session) (me : Agent) : Prop where
  /-- The calls. -/
  call : ∀ id, .call id ≠ me → s'.call? id = s.call? id
  /-- The flusher. -/
  flusher : .flusher ≠ me → s'.flusher = s.flusher

namespace Leaves

theorem inside_iff (h : s.Leaves s' me) (hne : other ≠ me) : s'.Inside other ↔ s.Inside other := by
  cases other with
  | call id => simp only [Inside, h.call id hne]
  | flusher => simp only [Inside, h.flusher hne]

theorem work_eq (h : s.Leaves s' me) (hne : other ≠ me) : s'.work other = s.work other := by
  cases other with
  | call id => simp only [work, h.call id hne]
  | flusher => simp only [work, h.flusher hne]

theorem replies (h : s.Leaves s' me) (hreplies : ∀ id c, s.call? id = some c → c.Replies)
    (hme : ∀ id c, .call id = me → s'.call? id = some c → c.Replies) :
    ∀ id c, s'.call? id = some c → c.Replies := by
  intro id c hcall
  by_cases hid : .call id = me
  · exact hme id c hid hcall
  · rw [h.call id hid] at hcall
    exact hreplies id c hcall

theorem record (s : Session) (id : Nat) (x : Shared) (turn : Turn Call Result) :
    s.Leaves (s.record id x turn).1 (.call id) where
  call _ hne := call?_record_of_ne s (fun heq => hne (congrArg _ heq)) x turn
  flusher _ := flusher_record s id x turn

end Leaves

/-- **A turn that is not on the books.** -/
theorem Balanced.keeps (h : s.Balanced first assigned sent) (hleaves : s.Leaves s' me)
    (hwork : s.work me = .none) (hout : ¬ s'.Inside me)
    (hreplies : ∀ id c, .call id = me → s'.call? id = some c → c.Replies)
    (hkeep : ∀ work, s.stream.Balanced first work assigned sent →
      s'.stream.Balanced first work assigned sent) : s'.Balanced first assigned sent where
  replies := hleaves.replies h.replies hreplies
  inside agent hin := by
    have hne : agent ≠ me := fun heq => hout (heq ▸ hin)
    rw [hleaves.work_eq hne]
    exact hkeep _ (h.inside agent ((hleaves.inside_iff hne).mp hin))
  calm hnone := by
    refine hkeep _ (hwork ▸ h.alone fun agent hne hin => ?_)
    exact hnone agent ((hleaves.inside_iff hne).mpr hin)

/-- **A turn of the only one who can be inside.** -/
theorem Balanced.owns (h : s.Balanced first assigned sent) (hheld : s.Held)
    (hleaves : s.Leaves s' me)
    (hmine : ∀ agent, s.shared.writing.owner = some agent → agent = me) {assigned' sent' : Nat}
    (hown : s.stream.Balanced first (s.work me) assigned sent →
      s'.stream.Balanced first (s'.work me) assigned' sent'
        ∧ ∀ id c, .call id = me → s'.call? id = some c → c.Replies) :
    s'.Balanced first assigned' sent' := by
  have hothers : ∀ agent, agent ≠ me → ¬ s.Inside agent :=
    fun agent hne hin => hne (hmine agent (hheld.owner hin))
  obtain ⟨hbalanced, hreplies⟩ := hown (h.alone hothers)
  refine ⟨hleaves.replies h.replies hreplies, fun agent hin => ?_, fun hnone => ?_⟩
  · by_cases hne : agent = me
    · rwa [hne]
    · exact absurd ((hleaves.inside_iff hne).mp hin) (hothers agent hne)
  · rwa [work_of_not_inside (hnone me)] at hbalanced

/-! ## Turns -/

/-- Whoever is not a writer at `sending` after its turn has numbered nothing. -/
theorem numbered?_record {x : Shared} {turn : Turn Call Result}
    (h : ∀ w, turn.point? = some (.writing w) → w.isSending = false) :
    Peer.numbered? (s.record id x turn).1 (.call id) (s.record id x turn).2 = none := by
  refine Peer.numbered?_eq_none fun j w hj hw => ?_
  cases hj
  rw [call?_record] at hw
  exact h w hw

/-- **A turn of a call that is not on the books.** -/
theorem Balanced.record (h : s.Balanced first assigned sent) {x : Shared}
    {turn : Turn Call Result} (hwork : s.work (.call id) = .none)
    (hpoint : ∀ c, turn.point? = some c → c.Replies ∧ ∀ w, c = .writing w → w.isInside = false)
    (hkeep : ∀ work, s.stream.Balanced first work assigned sent →
      x.stream.Balanced first work assigned sent) :
    (s.record id x turn).1.Balanced first
      (assigned + (Peer.numbered? (s.record id x turn).1 (.call id)
        (s.record id x turn).2).toList.length) sent := by
  have hnone : Peer.numbered? (s.record id x turn).1 (.call id) (s.record id x turn).2 = none := by
    refine numbered?_record fun w hw => ?_
    have hout := (hpoint _ hw).2 w rfl
    cases w with
    | entering message => rfl
    | _ => cases hout
  rw [hnone]
  refine h.keeps (.record s id x turn) hwork ?_ ?_ ?_
  · rintro ⟨w, hw, hin⟩
    rw [call?_record] at hw
    cases ((hpoint _ hw).2 w rfl).symm.trans hin
  · intro j c hj hc
    cases hj
    rw [call?_record] at hc
    exact (hpoint c hc).1
  · rw [stream_record]
    exact hkeep

/-- **A turn of a reader.** -/
theorem Balanced.recordReader (h : s.Balanced first assigned sent)
    (hwork : s.work (.call id) = .none) {t : Stream}
    (hheard : ∀ work, s.stream.Balanced first work assigned sent →
      t.Balanced first work assigned sent)
    {r : Shared × Turn Reader Reader.Outcome} (hkeeps : Reader.Keeps t r) (buffer : Bytes) :
    (s.recordReader id buffer r).1.Balanced first
      (assigned + (Peer.numbered? (s.recordReader id buffer r).1 (.call id)
        (s.recordReader id buffer r).2).toList.length) sent := by
  refine h.record hwork (fun c hc => ?_)
    fun work hbalanced => hkeeps.books.balanced (hheard work hbalanced)
  obtain ⟨point, hpoint, rfl⟩ := Turn.point?_map_eq_some_iff.mp hc
  exact ⟨hkeeps.replies point hpoint, fun w hw => by cases hw⟩

/-- **A turn of a writer that stands in line**, or does not even do that. -/
theorem Balanced.recordWriter_of_out (h : s.Balanced first assigned sent)
    (hwork : s.work (.call id) = .none) {r : Shared × Turn Writer Writer.Outcome}
    (hstream : r.1.stream = s.stream) (hout : ∀ w, r.2.point? = some w → w.isInside = false) :
    (s.recordWriter id r).1.Balanced first
      (assigned + (Peer.numbered? (s.recordWriter id r).1 (.call id)
        (s.recordWriter id r).2).toList.length) sent := by
  refine h.record hwork (fun c hc => ?_) fun work hbalanced => by rwa [hstream]
  obtain ⟨w, hw, rfl⟩ := Turn.point?_map_eq_some_iff.mp hc
  have hw := hout w hw
  refine ⟨?_, fun v hv => by cases hv; exact hw⟩
  cases w with
  | entering message => trivial
  | _ => cases hw

/-- What a writer is in the middle of after its turn. -/
theorem work_recordWriter (s : Session) (id : Nat) (r : Shared × Turn Writer Writer.Outcome) :
    (s.recordWriter id r).1.work (.call id) = r.2.work Writer.work := by
  obtain ⟨x, turn⟩ := r
  simp only [work, recordWriter, call?_record]
  cases turn <;> rfl

theorem work_recordFlusher (s : Session) (r : Shared × Turn Flusher Unit) :
    (s.recordFlusher r).1.work .flusher = r.2.work Flusher.work := by
  obtain ⟨x, turn⟩ := r
  cases turn <;> rfl

/-- **A turn of the writer inside the section.** -/
theorem balanced_recordWriter {r : Shared × Turn Writer Writer.Outcome}
    (h : Writer.Accounts first assigned sent r)
    (hopen : (s.recordWriter id r).1.stream.closed = false) :
    (s.recordWriter id r).1.stream.Balanced first ((s.recordWriter id r).1.work (.call id))
        (assigned + (Peer.numbered? (s.recordWriter id r).1 (.call id)
          (s.recordWriter id r).2).toList.length) sent
      ∧ ∀ j c, .call j = Agent.call id → (s.recordWriter id r).1.call? j = some c →
        c.Replies := by
  have hstream : (s.recordWriter id r).1.stream = r.1.stream := stream_record ..
  have hcall : (s.recordWriter id r).1.call? id = r.2.point?.map .writing :=
    (call?_record ..).trans (Turn.point?_map ..)
  rw [work_recordWriter]
  cases h with
  | closes hclosed =>
    -- a closed stream is off the books
    rw [hstream, hclosed] at hopen
    cases hopen
  | keeps hpoint hbalanced =>
    -- the writer is not at `sending`, so nothing has got a number
    have hnone : Peer.numbered? (s.recordWriter id r).1 (.call id) (s.recordWriter id r).2
        = none := by
      refine numbered?_record fun w hw => ?_
      obtain ⟨w', hw', heq⟩ := Turn.point?_map_eq_some_iff.mp hw
      cases heq
      exact (hpoint w hw').1
    rw [hnone, hstream]
    refine ⟨hbalanced, fun j c hj hc => ?_⟩
    cases hj
    rw [hcall] at hc
    obtain ⟨w, hw, rfl⟩ := Option.map_eq_some_iff.mp hc
    exact (hpoint w hw).2
  | @numbers rest made datagram piggybacked hturn hfind hbalanced =>
    -- the segment is in the window under the next number, where the observer finds it
    obtain ⟨u, hu⟩ := Option.isSome_iff_exists.mp hfind
    rw [← hstream] at hu
    have houtcome : (s.recordWriter id r).2 = .hands datagram := by
      obtain ⟨x, turn⟩ := r
      subst hturn
      rfl
    rw [hturn] at hcall
    rw [houtcome, Peer.numbered?_sending hcall hu, hstream]
    refine ⟨hbalanced, fun j c hj hc => ?_⟩
    cases hj
    cases hcall.symm.trans hc
    trivial

/-- **The first turn of a call.** -/
theorem Balanced.perform (h : s.Balanced first assigned sent) (hsound : s.Sound settings)
    (hheld : s.Held) (hfresh : s.call? id = none) (now : Nat) (operation : Operation)
    (hopen : (s.perform now id operation).1.stream.closed = false) :
    (s.perform now id operation).1.Balanced first
      (assigned + (Peer.numbered? (s.perform now id operation).1 (.call id)
        (s.perform now id operation).2).toList.length) sent := by
  have hwork : s.work (.call id) = .none := by simp only [work, hfresh]
  cases operation with
  | read buffer =>
    exact h.recordReader hwork (fun _ hbalanced => hbalanced)
      (Reader.begin_keeps s.shared (.call id) buffer) buffer
  | write message =>
    by_cases hmine : ∀ agent, s.shared.writing.owner = some agent → agent = .call id
    · refine h.owns hheld (.record s id _ _) hmine fun hbalanced => ?_
      rw [hwork] at hbalanced
      exact balanced_recordWriter
        (Writer.begin_accounts hsound.stream hbalanced (.call id) now message) hopen
    · -- somebody else is in the section
      obtain ⟨agent, howner, hne⟩ : ∃ agent, s.shared.writing.owner = some agent
          ∧ agent ≠ .call id := by
        push Not at hmine
        exact hmine
      rcases Writer.begin_cases s.shared (.call id) now message with
        ⟨outcome, heq, -⟩ | ⟨-, -, -, heq⟩
      · refine h.recordWriter_of_out hwork (by rw [heq]; rfl) fun w hw => ?_
        rw [heq] at hw
        cases hw
      · rw [if_neg (by rw [Section.owner_enter_of_owner howner]; simpa using hne)] at heq
        refine h.recordWriter_of_out hwork (by rw [heq]; rfl) fun w hw => ?_
        rw [heq] at hw
        cases hw
        rfl
  | close =>
    have hclosed := Closer.closed_begin s.shared (.call id) s.joinable
    cases (closed_record { s with joinable := false } id hclosed _).symm.trans hopen

/-- A turn of the flusher. -/
theorem Balanced.resume_flusher (h : s.Balanced first assigned sent) (hsound : s.Sound settings)
    (hheld : s.Held) (now : Nat) (signal : Signal)
    (hopen : (s.resume now .flusher signal).1.stream.closed = false) :
    (s.resume now .flusher signal).1.Balanced first assigned
      (sent + Bytes.segmentTotal (signal.confirmed? (s.inHand? .flusher)).toList) := by
  unfold resume at hopen ⊢
  cases hpoint : s.flusher with
  | none =>
    simp only [inHand?, hpoint, Option.bind_none]
    rwa [Signal.segmentTotal_confirmed signal rfl]
  | some point =>
    simp only [hpoint] at hopen
    simp only [inHand?, hpoint, Option.bind_some]
    have hleaves (r : Shared × Turn Flusher Unit) : s.Leaves (s.recordFlusher r).1 .flusher :=
      ⟨fun j _ => call?_recordFlusher s r j, fun hne => absurd rfl hne⟩
    have hstream (r : Shared × Turn Flusher Unit) : (s.recordFlusher r).1.stream = r.1.stream :=
      congrArg Shared.stream (shared_recordFlusher s r)
    by_cases hmine : ∀ agent, s.shared.writing.owner = some agent → agent = .flusher
    · refine h.owns hheld (hleaves _) hmine fun hbalanced => ⟨?_, fun _ _ hj => by cases hj⟩
      have hwork : s.work .flusher = point.work := by simp only [work, hpoint]
      rw [hwork] at hbalanced
      rcases Flusher.resume_accounts hsound.stream hbalanced now signal with hclosed | hafter
      · rw [hstream, hclosed] at hopen
        cases hopen
      · rw [hstream, work_recordFlusher]
        exact hafter
    · -- somebody else is in the section
      have htaken : s.shared.writing.isFree = false := by
        rw [Bool.eq_false_iff]
        intro hfree
        rw [(Section.isFree_iff_owner_eq_none _).mp hfree] at hmine
        exact hmine fun _ hnone => by cases hnone
      have hwaiting : point.isFlushing = false := by
        rw [Bool.eq_false_iff]
        intro hflushing
        rw [(hheld.flusher point hpoint).owner hflushing] at hmine
        exact hmine fun _ howner => (Option.some.inj howner).symm
      obtain ⟨hbooks, hout⟩ := Flusher.resume_sameBooks hwaiting htaken now signal
      have hzero : Bytes.segmentTotal point.inHand?.toList = 0 := by
        cases point with
        | waiting tick => rfl
        | flushing tick flush => cases hwaiting
      rw [Signal.segmentTotal_confirmed signal hzero]
      refine h.keeps (hleaves _) (work_of_not_inside ?_) ?_ (fun _ _ hj => by cases hj) ?_
      · rintro ⟨p, hp, hin⟩
        cases hpoint.symm.trans hp
        cases hwaiting.symm.trans hin
      · rintro ⟨p, hp, hin⟩
        rw [flusher_recordFlusher] at hp
        cases (hout p hp).symm.trans hin
      · rw [hstream]
        exact fun _ hbalanced => hbooks.balanced hbalanced

/-- A turn of a reader at work. -/
theorem Balanced.resume_reader (h : s.Balanced first assigned sent) {buffer : Bytes}
    {point : Reader} (hcall : s.call? id = some (.reading buffer point))
    (hreceiving : ∀ arrival, signal = .arrived arrival → point = .receiving) (now : Nat) :
    (s.resume now (.call id) signal).1.Balanced first
      (assigned + (Peer.numbered? (s.resume now (.call id) signal).1 (.call id)
        (s.resume now (.call id) signal).2).toList.length)
      (sent + Bytes.segmentTotal (signal.confirmed? (s.inHand? (.call id))).toList) := by
  have hturn : s.resume now (.call id) signal
      = s.recordReader id buffer (Reader.resume s.shared (.call id) buffer now point signal) := by
    simp only [resume, hcall]
  have hinhand : s.inHand? (.call id) = point.inHand? := by simp only [inHand?, hcall]; rfl
  have hwork : s.work (.call id) = .none := by simp only [work, hcall]
  have hreplies : point.Replies := h.replies id _ hcall
  rw [hturn, hinhand, Signal.segmentTotal_confirmed signal hreplies]
  refine h.recordReader hwork (fun work hbalanced => ?_)
    (Reader.resume_keeps s.shared (.call id) buffer now hreceiving hreplies) buffer
  exact hbalanced.heard now signal

/-- A turn of a writer at work. -/
theorem Balanced.resume_writer (h : s.Balanced first assigned sent) (hsound : s.Sound settings)
    (hheld : s.Held) (hgrants : s.Grants (.call id) signal) {w : Writer}
    (hcall : s.call? id = some (.writing w))
    (hsending : w.isSending = true → signal = .sent ∨ ∃ reason, signal = .unsent reason)
    (now : Nat) (hopen : (s.resume now (.call id) signal).1.stream.closed = false) :
    (s.resume now (.call id) signal).1.Balanced first
      (assigned + (Peer.numbered? (s.resume now (.call id) signal).1 (.call id)
        (s.resume now (.call id) signal).2).toList.length)
      (sent + Bytes.segmentTotal (signal.confirmed? (s.inHand? (.call id))).toList) := by
  have hinhand : s.inHand? (.call id) = w.inHand? := by simp only [inHand?, hcall]; rfl
  rw [resume_writing hcall] at hopen ⊢
  rw [hinhand]
  by_cases hmine : ∀ agent, s.shared.writing.owner = some agent → agent = .call id
  · refine h.owns hheld (.record s id _ _) hmine fun hbalanced => ?_
    have hwork : s.work (.call id) = w.work := by simp only [work, hcall]
    rw [hwork] at hbalanced
    exact balanced_recordWriter (Writer.resume_accounts hsound.stream (hsound.calls id _ hcall)
      (h.replies id _ hcall) hsending hbalanced (.call id) now) hopen
  · -- somebody else is in the section, so the writer stands in line and stays there
    have hout : ¬ s.Inside (.call id) := fun hin =>
      hmine fun agent howner => Option.some.inj (howner.symm.trans (hheld.owner hin))
    rcases w.inside_or_entering with hin | ⟨message, rfl⟩
    · exact absurd ⟨w, hcall, hin⟩ hout
    · have hungranted : signal ≠ .granted := fun hsignal =>
        hmine fun agent howner => Option.some.inj
          (howner.symm.trans (hgrants.writing (wait?_of_call? hcall) hsignal))
      have hstays : Writer.resume s.shared (.call id) now (.entering message) signal
          = (s.shared, .waits (.entering message)) := by
        cases signal with
        | granted => exact absurd rfl hungranted
        | _ => rfl
      rw [hstays, Signal.segmentTotal_confirmed signal rfl]
      exact h.recordWriter_of_out (work_of_not_inside hout) rfl
        fun w hw => by cases hw; rfl

/-- **A turn of an agent.** -/
theorem Balanced.resume (h : s.Balanced first assigned sent) (hsound : s.Sound settings)
    (hheld : s.Held) (hgrants : s.Grants me signal)
    (hreceiving : ∀ id buffer point, me = .call id → s.call? id = some (.reading buffer point) →
      ∀ arrival, signal = .arrived arrival → point = .receiving)
    (hsending : ∀ id w, me = .call id → s.call? id = some (.writing w) → w.isSending = true →
      signal = .sent ∨ ∃ reason, signal = .unsent reason)
    (now : Nat) (hopen : (s.resume now me signal).1.stream.closed = false) :
    (s.resume now me signal).1.Balanced first
      (assigned + (Peer.numbered? (s.resume now me signal).1 me
        (s.resume now me signal).2).toList.length)
      (sent + Bytes.segmentTotal (signal.confirmed? (s.inHand? me)).toList) := by
  cases me with
  | flusher => exact h.resume_flusher hsound hheld now signal hopen
  | call id =>
    cases hcall : s.call? id with
    | none =>
      have hstays : s.resume now (.call id) signal = (s, .waits) := by simp only [resume, hcall]
      have hidle : s.inHand? (.call id) = none := by simp only [inHand?, hcall, Option.bind_none]
      rw [hstays, hidle, Signal.segmentTotal_confirmed signal rfl]
      exact h
    | some c =>
      cases c with
      | reading buffer point =>
        exact h.resume_reader hcall (hreceiving id buffer point rfl hcall) now
      | closing point =>
        have hclosed : s.stream.closed = true := hheld.call id _ hcall
        cases (hheld.closed_resume hgrants hclosed now).symm.trans hopen
      | writing w =>
        exact h.resume_writer hsound hheld hgrants hcall (hsending id w rfl hcall) now hopen

/-- **A call is abandoned** that does not wait for the socket to take a datagram. -/
theorem Balanced.cancel (h : s.Balanced first assigned sent)
    (hwait : ∀ limit, s.wait? (.call id) ≠ some (.sending limit)) :
    (s.cancel id).Balanced first assigned sent := by
  cases hcall : s.call? id with
  | none =>
    unfold Session.cancel
    rwa [hcall]
  | some c =>
    have hgone : (s.cancel id).call? id = none := by rw [call?_cancel_eq, if_pos rfl]
    have hwait : ∀ limit, c.wait ≠ .sending limit := fun limit heq =>
      hwait limit (by rw [wait?_of_call? hcall, heq])
    -- the pool gets back a buffer, and no number, counter or place in the window is touched
    have hbooks : s.stream.SameBooks (s.cancel id).stream := by
      unfold Session.cancel
      rw [hcall]
      exact ⟨rfl, rfl, rfl, rfl, rfl⟩
    have hleaves : s.Leaves (s.cancel id) (.call id) := by
      refine ⟨fun j hj => ?_, fun _ => flusher_cancel hcall⟩
      rw [call?_cancel_eq, if_neg fun heq => hj (congrArg _ heq)]
    refine h.keeps hleaves ?_ ?_ ?_ fun _ hbalanced => hbooks.balanced hbalanced
    · simp only [work, hcall]
      cases c with
      | writing w =>
        cases w with
        | flushing job flush => exact absurd rfl (hwait _)
        | sending rest datagram piggybacked => exact absurd rfl (hwait _)
        | _ => rfl
      | _ => rfl
    · rintro ⟨w, hw, -⟩
      cases hgone.symm.trans hw
    · intro j d hj hd
      cases hj
      cases hgone.symm.trans hd

/-- At first nobody is at work. -/
theorem balanced_establish {t : Stream} (h : t.Balanced first .none assigned sent) (now : Nat) :
    (Session.establish t now).Balanced first assigned sent where
  replies id c hcall := by cases hcall
  inside agent hin := by
    cases agent with
    | flusher =>
      obtain ⟨point, hpoint, hin⟩ := hin
      cases hpoint
      cases hin
    | call id =>
      obtain ⟨w, hcall, -⟩ := hin
      cases hcall
  calm _ := h

/-- Nobody sends new segments or flushes. -/
def IsCalm (s : Session) : Prop :=
  ∀ agent, s.work agent = .none

/-- It is calm whenever nobody is inside the section for writing. -/
theorem isCalm_of_not_inside (h : ∀ agent, ¬ s.Inside agent) : s.IsCalm :=
  fun agent => work_of_not_inside (h agent)

/-- There are no writers, and the flusher does not flush. -/
def isIdle (s : Session) : Bool :=
  (s.calls.all fun entry => match entry.2 with | .writing _ => false | _ => true)
    && s.flusher.all fun point => !point.isFlushing

theorem isCalm_of_isIdle (h : s.isIdle = true) : s.IsCalm := by
  obtain ⟨hcalls, hflusher⟩ := Bool.and_eq_true_iff.mp h
  refine isCalm_of_not_inside fun agent hin => ?_
  cases agent with
  | call id =>
    obtain ⟨w, hcall, -⟩ := hin
    obtain ⟨before, after, heq, -⟩ := List.lookup_eq_some_iff.mp hcall
    have hmem : (id, .writing w) ∈ s.calls := heq ▸ List.mem_append_right before List.mem_cons_self
    cases List.all_eq_true.mp hcalls _ hmem
  | flusher =>
    obtain ⟨point, hpoint, hin⟩ := hin
    rw [hpoint, Option.all_some, hin] at hflusher
    cases hflusher

theorem Balanced.of_isCalm (h : s.Balanced first assigned sent) (hcalm : s.IsCalm) :
    s.stream.Balanced first .none assigned sent := by
  by_cases hin : ∃ agent, s.Inside agent
  · obtain ⟨agent, hin⟩ := hin
    have hbalanced := h.inside agent hin
    rwa [hcalm agent] at hbalanced
  · exact h.calm fun agent hagent => hin ⟨agent, hagent⟩

end Session

/-! ## Runs -/

namespace Network

variable {settings : ValidSettings} {start n n' : Network} {x : Side} {i : Incident}
  {run : List Incident} {first : Serial}

/-- Anything may happen, but no call is abandoned while the socket takes a datagram that it has
handed over. -/
def sendsFinish : Rule := fun n i =>
  match i with
  | .event _ => true
  | .forge _ _ => true
  | .cancel side id =>
    match (n.peer side).session.wait? (.call id) with
    | some (.sending _) => false
    | _ => true

/-- The datagram that a side has sent, when an agent there learns that the socket has taken it. -/
def sent? (n : Network) (side : Side) : Incident → Option Bytes
  | .event (.turn z me signal _) =>
    if z = side then signal.confirmed? ((n.peer side).session.inHand? me) else none
  | _ => none

/-- The datagrams that a side has sent in a run, in order. -/
def sent (n : Network) (side : Side) (run : List Incident) : List Bytes :=
  (n.history run).filterMap fun entry => entry.1.sent? side entry.2

theorem sent_concat {m : Network} (h : n.follow? everything run = some m) (i : Incident) :
    n.sent x (run ++ [i]) = n.sent x run ++ (m.sent? x i).toList :=
  filterMap_history_concat h i fun entry => entry.1.sent? x entry.2

/-- The books of a side balance, unless its stream is closed. -/
def Balances (n : Network) (side : Side) (first : Serial) (sent : List Bytes) : Prop :=
  (n.peer side).stream.closed = false →
    (n.peer side).session.Balanced first (n.peer side).assigned.length (Bytes.segmentTotal sent)

/-- What happens elsewhere is not on the books. -/
theorem Balances.elsewhere {sent : List Bytes} (h : n.Balances x first sent)
    (hpeer : n'.peer x = n.peer x) (hsent : n.sent? x i = none) :
    n'.Balances x first (sent ++ (n.sent? x i).toList) := by
  unfold Balances
  rw [hpeer, hsent, Option.toList_none, List.append_nil]
  exact h

/-- A call is abandoned. -/
theorem balanced_cancel {id : Nat} (hrule : sendsFinish n (.cancel x id) = true)
    (hstep : n.undergo? (.cancel x id) = some n') {sent : List Bytes}
    (hbefore : (n.peer x).session.Balanced first (n.peer x).assigned.length
      (Bytes.segmentTotal sent)) :
    (n'.peer x).session.Balanced first (n'.peer x).assigned.length (Bytes.segmentTotal sent) := by
  cases hstep
  have hassigned : ((n.peer x).cancel id).assigned = (n.peer x).assigned := by
    unfold Peer.cancel
    split <;> rfl
  rw [(n.peer_cancel x id).1, peer_withPeer, hassigned]
  refine hbefore.cancel fun limit hwait => ?_
  rw [sendsFinish, hwait] at hrule
  cases hrule

/-- A call is made. -/
theorem Regular.balanced_call (h : n.Regular settings x) {operation : Operation}
    {refusal : Option String} (hstep : n.undergo? (.event (.call x operation refusal)) = some n')
    (hopen : (n'.peer x).stream.closed = false) {sent : List Bytes}
    (hbefore : (n.peer x).session.Balanced first (n.peer x).assigned.length
      (Bytes.segmentTotal sent)) :
    (n'.peer x).session.Balanced first (n'.peer x).assigned.length (Bytes.segmentTotal sent) := by
  have hsession := (undergo_call hstep).1
  rw [Peer.stream, hsession] at hopen
  have hfresh : (n.peer x).session.call? (n.peer x).calls = none := by
    by_contra hcall
    obtain ⟨c, hcall⟩ := Option.ne_none_iff_exists'.mp hcall
    exact Nat.lt_irrefl _ (h.call_lt _ c hcall)
  have hassigned : (n'.peer x).assigned = (n.peer x).assigned
      ++ (Peer.numbered? ((n.peer x).session.perform n.now (n.peer x).calls operation).1
        (.call (n.peer x).calls)
        ((n.peer x).session.perform n.now (n.peer x).calls operation).2).toList := by
    cases hstep
    exact (assigned_commit ..).trans (n.assigned_called x operation)
  rw [hsession, hassigned, List.length_append]
  exact hbefore.perform h.sound h.guarded.held hfresh n.now operation hopen

/-- An agent has a turn. -/
theorem Regular.balanced_turn (h : n.Regular settings x) {me : Agent} {signal : Signal}
    {refusal : Option String} (hstep : n.undergo? (.event (.turn x me signal refusal)) = some n')
    (hopen : (n'.peer x).stream.closed = false) {sent : List Bytes}
    (hbefore : (n.peer x).session.Balanced first (n.peer x).assigned.length
      (Bytes.segmentTotal sent)) :
    (n'.peer x).session.Balanced first (n'.peer x).assigned.length
      (Bytes.segmentTotal (sent ++ (signal.confirmed? ((n.peer x).session.inHand? me)).toList)) := by
  obtain ⟨hallows, hsession, -⟩ := undergo_turn hstep
  rw [Peer.stream, hsession] at hopen
  have hassigned : (n'.peer x).assigned = (n.peer x).assigned
      ++ (Peer.numbered? ((n.peer x).session.resume n.now me signal).1 me
        ((n.peer x).session.resume n.now me signal).2).toList := by
    obtain ⟨-, heq⟩ := Option.ite_none_right_eq_some.mp hstep
    cases heq
    refine (assigned_commit ..).trans ((n.assigned_turned x me signal).resolve_right ?_)
    rintro ⟨-, hclosed⟩
    cases hclosed.symm.trans hopen
  rw [hsession, hassigned, List.length_append, Bytes.segmentTotal_append]
  refine hbefore.resume h.sound h.guarded.held (grants_of_allows hallows) ?_ ?_ n.now hopen
  · rintro id buffer point rfl hcall
    exact receiving_of_allows hcall hallows
  · rintro id w rfl hcall
    exact sending_of_allows hcall hallows

/-- **An incident.** -/
theorem Regular.balances (h : n.Regular settings x) (hrule : sendsFinish n i = true)
    (hstep : n.undergo? i = some n') {sent : List Bytes} (hbalanced : n.Balances x first sent) :
    n'.Balances x first (sent ++ (n.sent? x i).toList) := by
  -- a stream that is open has been open before
  have hbefore (hopen : (n'.peer x).stream.closed = false) :
      (n.peer x).session.Balanced first (n.peer x).assigned.length (Bytes.segmentTotal sent) := by
    refine hbalanced (Bool.eq_false_iff.mpr fun hclosed => ?_)
    cases hopen.symm.trans (h.closed hstep hclosed)
  cases i with
  | forge side datagram =>
    cases hstep
    exact hbalanced.elsewhere rfl rfl
  | cancel side id =>
    rcases side.eq_or_eq_other x with rfl | rfl
    · intro hopen
      rw [show n.sent? x (.cancel x id) = none from rfl, Option.toList_none, List.append_nil]
      exact balanced_cancel hrule hstep (hbefore hopen)
    · cases hstep
      exact hbalanced.elsewhere (peer_withPeer_other ..) rfl
  | event e =>
    cases e with
    | elapse span =>
      cases hstep
      exact hbalanced.elsewhere rfl rfl
    | call side operation refusal =>
      rcases side.eq_or_eq_other x with rfl | rfl
      · intro hopen
        rw [show n.sent? x (.event (.call x operation refusal)) = none from rfl,
          Option.toList_none, List.append_nil]
        exact h.balanced_call hstep hopen (hbefore hopen)
      · cases hstep
        exact hbalanced.elsewhere (peer_commit_other ..) rfl
    | turn side me signal refusal =>
      rcases side.eq_or_eq_other x with rfl | rfl
      · intro hopen
        rw [sent?, if_pos rfl]
        exact h.balanced_turn hstep hopen (hbefore hopen)
      · obtain ⟨-, heq⟩ := Option.ite_none_right_eq_some.mp hstep
        cases heq
        exact hbalanced.elsewhere (peer_commit_other ..) (if_neg side.other_ne.symm)

/-- At the start the books balance: nothing has been sent. -/
theorem IsStart.balances {start : Network} (hstart : start.IsStart settings)
    (hnone : (start.peer x).stream.traffic.NoSegments) :
    start.Balances x settings.initialSerial [] := by
  intro hopen
  obtain ⟨pool, traffic, now, heq⟩ := hstart.peer_eq x
  rw [heq] at hnone
  rw [heq]
  exact Session.balanced_establish (Stream.balanced_establish settings pool hnone) now

/-- **A run.** -/
theorem IsStart.balances_of_run {start : Network} (hstart : start.IsStart settings)
    (hbalanced : start.Balances x settings.initialSerial [])
    (hrun : start.follow? sendsFinish run = some n) :
    n.Balances x settings.initialSerial (start.sent x run) := by
  induction run using List.reverseRecOn generalizing n with
  | nil =>
    cases hrun
    exact hbalanced
  | append_singleton run i ih =>
    rw [follow?_concat_of_rule] at hrun
    obtain ⟨m, hm, hlast⟩ := Option.bind_eq_some_iff.mp hrun
    obtain ⟨hrule, hstep⟩ := Option.ite_none_right_eq_some.mp hlast
    have hregular := (leads_of_follow? hm).regular hstart x
    rw [sent_concat (follow?_everything hm)]
    exact hregular.balances hrule hstep (ih hm)

/-- **Segments are conserved.** Take any run from the start, whatever arrives in it, in which no call
is abandoned while the socket takes a datagram. If the stream of a side is open in the end and nobody
there sends new segments or flushes, then its numbers were given in a row, and as many were given as
segments were acknowledged or are in the send window; and as many segments were in all datagrams sent
as have numbers, went along with new ones or were sent again. The counters are words. -/
theorem IsStart.conserved_of_run {start : Network} (hstart : start.IsStart settings) (x : Side)
    (hnone : (start.peer x).stream.traffic.NoSegments)
    (hrun : start.follow? sendsFinish run = some n)
    (hopen : (n.peer x).stream.closed = false) (hcalm : (n.peer x).session.IsCalm) :
    (n.peer x).stream.next = settings.initialSerial + (n.peer x).assigned.length
      ∧ UInt64.ofNat (n.peer x).assigned.length
        = (n.peer x).stream.traffic.segmentsAcknowledged
          + UInt64.ofNat (n.peer x).stream.sendWindow.size
      ∧ UInt64.ofNat (Bytes.segmentTotal (start.sent x run))
        = UInt64.ofNat (n.peer x).assigned.length
          + (n.peer x).stream.traffic.segmentsPiggybacked
          + (n.peer x).stream.traffic.segmentsResent := by
  have hbalanced := (hstart.balances_of_run (hstart.balances hnone) hrun hopen).of_isCalm hcalm
  refine ⟨hbalanced.upcoming_eq, hbalanced.assigned_eq, ?_⟩
  have hsent := hbalanced.sent_eq
  have hzero : UInt64.ofNat 0 = 0 := rfl
  simp only [Work.none, hzero, UInt64.add_zero] at hsent
  exact hsent

/-- Two messages are written. The second segment is acknowledged alone, and the first one is sent
again when it is overdue. Then a read waits. -/
def againFirst : List Incident :=
  overdueFirst.map .event ++ [.event (.turn .a .flusher .due none),
    .event (.turn .a .flusher .sent none)]

/-- In that run two segments got numbers, and three were sent. -/
theorem conserved_of_againFirst : ∃ n, narrowStart.follow? sendsFinish againFirst = some n
    ∧ (n.peer .a).stream.closed = false ∧ (n.peer .a).session.IsCalm
    ∧ (n.peer .a).assigned.length = 2
    ∧ Bytes.segmentTotal (narrowStart.sent .a againFirst) = 3
    ∧ 2 = (n.peer .a).stream.traffic.segmentsAcknowledged
      + UInt64.ofNat (n.peer .a).stream.sendWindow.size
    ∧ 3 = 2 + (n.peer .a).stream.traffic.segmentsPiggybacked
      + (n.peer .a).stream.traffic.segmentsResent := by
  have hrun : (narrowStart.follow? sendsFinish againFirst).map (fun n =>
      ((n.peer .a).stream.closed, (n.peer .a).session.isIdle, (n.peer .a).assigned.length,
        Bytes.segmentTotal (narrowStart.sent .a againFirst))) = some (false, true, 2, 3) := by
    decide +kernel
  obtain ⟨n, hn, hview⟩ := Option.map_eq_some_iff.mp hrun
  obtain ⟨hopen, hview⟩ := Prod.mk.inj hview
  obtain ⟨hidle, hview⟩ := Prod.mk.inj hview
  obtain ⟨hassigned, hsent⟩ := Prod.mk.inj hview
  have hcalm := Session.isCalm_of_isIdle hidle
  obtain ⟨-, hacknowledged, htotal⟩ := narrowStart_isStart.conserved_of_run .a
    ⟨rfl, rfl, rfl⟩ hn hopen hcalm
  rw [hassigned] at hacknowledged htotal
  rw [hsent] at htotal
  exact ⟨n, hn, hopen, hcalm, hassigned, hsent, hacknowledged, htotal⟩

end Network

end Redelivery
