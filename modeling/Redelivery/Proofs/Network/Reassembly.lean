import Redelivery.Proofs.Network.Listening
import Redelivery.Proofs.Stream.Assembling

/-!
# Readers get the messages, one after the other

Segments are taken out of the receive window in sequence, and every segment after which no more
follow makes a message whole. Whatever arrives, from whomever, and whichever reads are called with
whatever buffers, wait, fail and are abandoned: the reads that succeed return these messages, each
of them once and in their order. A message that a buffer is too small for stays, and a message that
gets too long is the end of the stream.

## Main definitions

* `Network.consumed`, `Network.reassembled`: the segments that are taken out at one side in a run,
  and what they add up to.
* `Network.receipts`: what is returned by the reads that succeed there.
* `Network.Reads`, `Network.Unread`: a reader has the turn, or none has.
* `Network.Reassembles`: what reads have returned, and what they can return next.

## Main statements

* `Network.reads_or_unread`: what a reader gets in an incident.
* `Network.Receives.step`: every incident keeps the account.
* `Network.reassembles_of_run`: reads return the messages, one after the other.

It rides on an account that is kept incident by incident. `Receives` says, of a run and the network
that it leads to, that segments were taken out in sequence, where the base is, and, by
`Stream.Assembles`, that what was returned and what the stream holds are what those segments add up
to.

* Who gets anything at all: `reads_or_unread`. Either a reader has the turn, and then `Stream.Gets`
  says what it takes out and what it returns; or nobody has, and then the receiving half withholds
  what it has. Writers receive as well, but they take nothing out.
* One incident: `Receives.reads` and `Receives.unread`, joined in `Receives.step`.
* A whole run: `receives_of_run`, by induction from its end. That a reader is prompt, which
  `reads_or_unread` asks for, comes from the account of what was told to the peer, `tells_of_run`.

The fields of `Reassembles` are then read off the account, each by one lemma: `Receives.holds` for
what was returned, `Receives.answers`, `Receives.keeps` and `Receives.takes` for what the next read
gets, and `Receives.of_consumed?` for the two ways in which a message may go on. Nothing here says
what the segments are. That they are those of the other end is a matter of the network, and false if
somebody forges them.
-/

namespace Redelivery

/-! ## Results -/

/-- What a call has returned, if one has. -/
def Outcome.result? : Outcome → Option Result
  | waits => none
  | hands _ => none
  | returns _ result => some result

/-- What a read returns, as the result of a call. -/
def Result.ofReader : Reader.Outcome → Result
  | .ok (length, buffer) => read length buffer
  | .error failure => failed failure

theorem Result.eq_of_ofReader_eq_failed {outcome? : Option Reader.Outcome} {failure : Failure}
    (h : outcome?.map ofReader = some (.failed failure)) : outcome? = some (.error failure) := by
  obtain ⟨outcome, rfl, heq⟩ := Option.map_eq_some_iff.mp h
  cases outcome with
  | ok found => cases heq
  | error failure =>
    cases heq
    rfl

namespace Session

theorem result?_recordReader (s : Session) (id : Nat) (buffer : Bytes)
    (r : Shared × Turn Reader Reader.Outcome) :
    (s.recordReader id buffer r).2.result? = r.2.result?.map Result.ofReader := by
  obtain ⟨x, turn⟩ := r
  cases turn with
  | returns outcome => cases outcome <;> rfl
  | _ => rfl

theorem result?_recordWriter_ne (s : Session) (id : Nat) (r : Shared × Turn Writer Writer.Outcome)
    (length : Nat) (filled : Bytes) :
    (s.recordWriter id r).2.result? ≠ some (.read length filled) := by
  obtain ⟨x, turn⟩ := r
  intro h
  cases turn with
  | returns outcome => cases outcome <;> cases h
  | _ => cases h

theorem result?_recordCloser_ne (s : Session) (id : Nat) (r : Shared × Turn Closer Unit)
    (length : Nat) (filled : Bytes) :
    (s.recordCloser id r).2.result? ≠ some (.read length filled) := by
  obtain ⟨x, turn⟩ := r
  intro h
  cases turn <;> cases h

/-- Only readers return messages. -/
theorem result?_resume_ne {s : Session} {me : Agent} (now : Nat) (signal : Signal)
    (hother : ∀ id buffer point, me = .call id → s.call? id ≠ some (.reading buffer point))
    (length : Nat) (filled : Bytes) :
    (s.resume now me signal).2.result? ≠ some (.read length filled) := by
  unfold resume
  cases me with
  | flusher =>
    cases s.flusher with
    | none => exact fun h => by cases h
    | some point =>
      show (s.recordFlusher _).2.result? ≠ _
      obtain ⟨x, turn⟩ := Flusher.resume s.shared now point signal
      intro h
      cases turn <;> cases h
  | call id =>
    cases hcall : s.call? id with
    | none =>
      simp only [hcall]
      exact fun h => by cases h
    | some c =>
      simp only [hcall]
      cases c with
      | reading buffer point => exact absurd hcall (hother id buffer point rfl)
      | writing point => exact result?_recordWriter_ne _ _ _ _ _
      | closing point => exact result?_recordCloser_ne _ _ _ _ _

end Session

namespace Network

variable {settings : ValidSettings} {start n m n' : Network} {x : Side} {i : Incident}
  {run : List Incident} {buffer : Bytes} {id : Nat} {signal : Signal}

/-! ## What is seen of a run -/

/-- The buffer of the read that has the turn at one side. -/
def buffer? (n : Network) (side : Side) : Incident → Option Bytes
  | .event (.call z (.read buffer) _) => if z = side then some buffer else none
  | .event (.turn z (.call id) _ _) =>
    if z = side then
      match (n.peer side).session.call? id with
      | some (.reading buffer _) => some buffer
      | _ => none
    else
      none
  | _ => none

/-- Whether a read that has the turn has the section for reading: only one that was just called
may have to wait for it. -/
def isInside (n : Network) : Incident → Bool
  | .event (.call z _ _) => (n.peer z).session.shared.reading.isFree
  | _ => true

/-- The stream at one side after what arrives in an incident was taken in. -/
def heard (n : Network) (side : Side) : Incident → Stream
  | .event (.turn z _ signal _) =>
    if z = side then (n.peer side).stream.heard n.now signal else (n.peer side).stream
  | _ => (n.peer side).stream

/-- The segment that is taken out of the receive window at one side. -/
def consumed? (n : Network) (side : Side) (i : Incident) : Option (Segment Bytes) :=
  (n.undergo? i).bind fun n' => (n.heard side i).consumed? (n'.peer side).stream

/-- What is returned at one side. -/
def result? (n : Network) (side : Side) (i : Incident) : Option Result :=
  (n.outcome? side i).bind Outcome.result?

/-- What is returned by a read at one side, if it succeeds. -/
def receipt? (n : Network) (side : Side) (i : Incident) : Option Receipt :=
  match n.buffer? side i, n.result? side i with
  | some buffer, some (.read length filled) => some ⟨buffer, length, filled⟩
  | _, _ => none

/-- The segments that are taken out of the receive window at one side in a run, in that order. -/
def consumed (n : Network) (side : Side) (run : List Incident) : List (Segment Bytes) :=
  (n.history run).filterMap fun entry => entry.1.consumed? side entry.2

/-- What is returned by the reads that succeed at one side in a run, in that order. -/
def receipts (n : Network) (side : Side) (run : List Incident) : List Receipt :=
  (n.history run).filterMap fun entry => entry.1.receipt? side entry.2

/-- What the segments add up to that are taken out at one side in a run: a message for each of them
that no more follow, and the beginning of the next message. -/
def reassembled (n : Network) (side : Side) (run : List Incident) : Assembly :=
  assemble ((n.consumed side run).map Segment.piece)

theorem consumed_concat (h : n.follow? everything run = some m) (i : Incident) :
    n.consumed x (run ++ [i]) = n.consumed x run ++ (m.consumed? x i).toList :=
  filterMap_history_concat h i _

theorem receipts_concat (h : n.follow? everything run = some m) (i : Incident) :
    n.receipts x (run ++ [i]) = n.receipts x run ++ (m.receipt? x i).toList :=
  filterMap_history_concat h i _

theorem buffer?_eq_none (h : n.outcome? x i = none) : n.buffer? x i = none := by
  cases i with
  | event e =>
    cases e with
    | elapse span => rfl
    | call z operation refusal =>
      have hz : z ≠ x := by
        rintro rfl
        rw [outcome?_call] at h
        cases h
      cases operation with
      | read buffer => exact if_neg hz
      | _ => rfl
    | turn z me signal refusal =>
      have hz : z ≠ x := by
        rintro rfl
        rw [outcome?_turn] at h
        cases h
      cases me with
      | flusher => rfl
      | call id => exact if_neg hz
  | _ => rfl

theorem buffer?_turn (n : Network) (x : Side) (id : Nat) (signal : Signal)
    (refusal : Option String) :
    n.buffer? x (.event (.turn x (.call id) signal refusal))
      = match (n.peer x).session.call? id with
        | some (.reading buffer _) => some buffer
        | _ => none :=
  if_pos rfl

theorem consumed?_eq (hstep : n.undergo? i = some n') :
    n.consumed? x i = (n.heard x i).consumed? (n'.peer x).stream := by
  unfold consumed?
  rw [hstep, Option.bind_some]

theorem receipt?_eq_none_of_failed {failure : Failure}
    (h : n.result? x i = some (.failed failure)) : n.receipt? x i = none := by
  unfold receipt?
  rw [h]
  split
  · rename_i heq
    cases heq
  · rfl

/-- What arrives waits in the receive window. -/
theorem heard_withholds (n : Network) (x : Side) (i : Incident) :
    (n.peer x).stream.Withholds (n.heard x i)
      ∧ (n.heard x i).closed = (n.peer x).stream.closed := by
  have hsignal (signal : Signal) :
      (n.peer x).stream.Withholds ((n.peer x).stream.heard n.now signal)
        ∧ ((n.peer x).stream.heard n.now signal).closed = (n.peer x).stream.closed := by
    cases signal with
    | arrived arrival =>
      cases arrival with
      | datagram raw => exact ⟨.receive _ _ _, (Stream.flags_receive _ _ _).1⟩
      | fault reason => exact ⟨.refl _, rfl⟩
    | _ => exact ⟨.refl _, rfl⟩
  unfold heard
  split
  · split
    · exact hsignal _
    · exact ⟨.refl _, rfl⟩
  · exact ⟨.refl _, rfl⟩

/-! ## Incidents -/

theorem consumed?_eq_none (hstep : n.undergo? i = some n')
    (h : (n.peer x).stream.Withholds (n'.peer x).stream) : n.consumed? x i = none := by
  rw [consumed?_eq hstep]
  exact if_pos (h.base.trans (n.heard_withholds x i).1.base.symm)

/-- A reader gets a turn by a signal that it waits for. -/
theorem awaits_of_allows {point : Reader}
    (hcall : (n.peer x).session.call? id = some (.reading buffer point))
    (h : n.allows x (.call id) signal = true) : point.awaits signal = true := by
  have hwait := Session.wait?_of_call? hcall
  cases point <;> cases signal <;> first
    | rfl
    | simp [allows, hwait, Call.wait, Reader.wait] at h

/-- A reader with the given buffer has the turn at one side. -/
structure Reads (n : Network) (side : Side) (i : Incident) (n' : Network) (buffer : Bytes)
    (outcome? : Option Reader.Outcome) : Prop where
  /-- It was called with the buffer. -/
  buffer?_eq : n.buffer? side i = some buffer
  /-- This is what it gets out of the stream. -/
  gets : (n.heard side i).Gets (n.isInside i = true) buffer (n'.peer side).stream outcome?
  /-- This is what it returns with. -/
  result?_eq : n.result? side i = outcome?.map Result.ofReader

/-- No reader has the turn at one side. -/
structure Unread (n : Network) (side : Side) (i : Incident) (n' : Network) : Prop where
  /-- There is no buffer. -/
  buffer?_eq : n.buffer? side i = none
  /-- No message is returned. -/
  result?_ne : ∀ length filled, n.result? side i ≠ some (.read length filled)
  /-- Nothing gets to a reader. -/
  withholds : (n.peer side).stream.Withholds (n'.peer side).stream

/-- Nobody has the turn. -/
theorem Unread.of_outcome? (h : n.outcome? x i = none)
    (hwithholds : (n.peer x).stream.Withholds (n'.peer x).stream) : n.Unread x i n' where
  buffer?_eq := buffer?_eq_none h
  result?_ne length filled := by
    rw [result?, h]
    exact fun hsome => by cases hsome
  withholds := hwithholds

theorem Unread.receipt?_eq (h : n.Unread x i n') : n.receipt? x i = none := by
  unfold receipt?
  rw [h.buffer?_eq]

theorem Reads.receipt?_eq {outcome? : Option Reader.Outcome}
    (h : n.Reads x i n' buffer outcome?) : n.receipt? x i = Receipt.of? buffer outcome? := by
  unfold receipt?
  rw [h.buffer?_eq, h.result?_eq]
  cases outcome? with
  | none => rfl
  | some outcome => cases outcome <;> rfl

/-- A read is called. -/
theorem reads_called {refusal : Option String}
    (hincident : i = .event (.call x (.read buffer) refusal))
    (hsession : (n'.peer x).session = ((n.peer x).session.read (n.peer x).calls buffer).1)
    (houtcome : n.outcome? x i = some ((n.peer x).session.read (n.peer x).calls buffer).2) :
    ∃ outcome?, n.Reads x i n' buffer outcome? := by
  have hresult : n.result? x i = _ := congrArg (Option.bind · Outcome.result?) houtcome
  subst hincident
  refine ⟨_, if_pos rfl, ?_, hresult.trans (Session.result?_recordReader ..)⟩
  show (n.peer x).stream.Gets _ buffer (n'.peer x).session.stream _
  rw [hsession, Session.read, Session.recordReader, Session.stream_record]
  exact Reader.begin_gets (n.peer x).session.shared _ buffer

/-- A read goes on. -/
theorem reads_turned {point : Reader} {refusal : Option String}
    (hprompt : (n.peer x).session.Prompt)
    (hincident : i = .event (.turn x (.call id) signal refusal))
    (hallows : n.allows x (.call id) signal = true)
    (hcall : (n.peer x).session.call? id = some (.reading buffer point))
    (hsession : (n'.peer x).session = ((n.peer x).session.resume n.now (.call id) signal).1)
    (houtcome : n.outcome? x i = some ((n.peer x).session.resume n.now (.call id) signal).2) :
    ∃ outcome?, n.Reads x i n' buffer outcome? := by
  have hresult : n.result? x i = _ := congrArg (Option.bind · Outcome.result?) houtcome
  subst hincident
  rw [Session.resume_reading hcall] at hsession hresult
  refine ⟨_, ?_, ?_, hresult.trans (Session.result?_recordReader ..)⟩
  · rw [buffer?_turn, hcall]
  · have hheard : n.heard x (.event (.turn x (.call id) signal refusal))
        = (n.peer x).stream.heard n.now signal := if_pos rfl
    show Stream.Gets _ _ buffer (n'.peer x).session.stream _
    rw [hheard, hsession, Session.recordReader, Session.stream_record]
    exact Reader.resume_gets (x := (n.peer x).session.shared) (awaits_of_allows hcall hallows)
      fun hrest => hrest.elim (hprompt.drained id _ hcall) (hprompt.listening id _ hcall)

/-- **A reader has the turn**, or nobody has who gets anything. -/
theorem reads_or_unread (hprompt : (n.peer x).session.Prompt) (hstep : n.undergo? i = some n') :
    (∃ buffer outcome?, n.Reads x i n' buffer outcome?) ∨ n.Unread x i n' := by
  have hunread {turn : Session × Outcome} (hsession : (n'.peer x).session = turn.1)
      (houtcome : n.outcome? x i = some turn.2) (hbuffer : n.buffer? x i = none)
      (hchores : (n.peer x).stream.Chores turn.1.stream)
      (hresult : ∀ length filled, turn.2.result? ≠ some (.read length filled)) :
      n.Unread x i n' := by
    refine ⟨hbuffer, fun length filled => ?_, ?_⟩
    · rw [result?, houtcome]
      exact hresult length filled
    · show (n.peer x).stream.Withholds (n'.peer x).session.stream
      rw [hsession]
      exact hchores.withholds
  cases happens hstep x with
  | elsewhere hpeer houtcome =>
    exact Or.inr (.of_outcome? houtcome (by rw [hpeer]; exact .refl _))
  | @called operation refusal hincident hsession hcalls houtcome =>
    cases operation with
    | read buffer => exact Or.inl ⟨buffer, reads_called hincident hsession houtcome⟩
    | write message =>
      exact Or.inr (hunread hsession houtcome (by rw [hincident]; rfl)
        (Session.chores_write _ _ _ message) (Session.result?_recordWriter_ne _ _ _))
    | close =>
      exact Or.inr (hunread hsession houtcome (by rw [hincident]; rfl) (Session.chores_close _ _)
        (Session.result?_recordCloser_ne _ _ _))
  | @turned me signal refusal hincident hallows hsession hcalls houtcome =>
    by_cases hreader : ∃ id buffer point, me = .call id
        ∧ (n.peer x).session.call? id = some (.reading buffer point)
    · obtain ⟨id, buffer, point, rfl, hcall⟩ := hreader
      exact Or.inl ⟨buffer, reads_turned hprompt hincident hallows hcall hsession houtcome⟩
    · have hother : ∀ id buffer point, me = .call id →
          (n.peer x).session.call? id ≠ some (.reading buffer point) :=
        fun id buffer point hme hcall => hreader ⟨id, buffer, point, hme, hcall⟩
      refine Or.inr (hunread hsession houtcome ?_ (Session.chores_resume n.now signal hother)
        (Session.result?_resume_ne n.now signal hother))
      rw [hincident]
      cases me with
      | flusher => rfl
      | call id =>
        rw [buffer?_turn]
        split
        · rename_i buffer point hcall
          exact absurd hcall (hother id buffer point rfl)
        · rfl
  | cancelled k hsession hcalls houtcome =>
    refine Or.inr (.of_outcome? houtcome ?_)
    show (n.peer x).stream.Withholds (n'.peer x).session.stream
    rw [hsession]
    exact ((n.peer x).session.chores_cancel k).withholds

/-! ## Runs -/

/-- The account of a side: the segments that were taken out are those from the initial serial number
up to the base, and they and what was returned add up to what is in the stream. -/
structure Receives (settings : ValidSettings) (start : Network) (side : Side) (run : List Incident)
    (n : Network) : Prop where
  /-- The settings do not change. -/
  settings_eq : (n.peer side).stream.settings = settings
  /-- They were taken out in sequence. -/
  seq_eq : (start.consumed side run).map Segment.seq
    = (List.range (start.consumed side run).length).map fun k => settings.initialSerial + k
  /-- The next one is at the base. -/
  base_eq : (n.peer side).stream.receiveWindow.base
    = settings.initialSerial + (start.consumed side run).length
  /-- The first messages were returned. -/
  assembles : ∃ front, Stream.Assembles ((start.consumed side run).map Segment.piece)
    (start.receipts side run) front (n.peer side).stream

section

variable (h : start.Receives settings x run n) (hrun : start.follow? everything run = some n)
  (hstep : n.undergo? i = some n')

include h hrun hstep

/-- No reader has the turn. -/
theorem Receives.unread (hunread : n.Unread x i n') :
    start.Receives settings x (run ++ [i]) n' := by
  have hwithholds := hunread.withholds
  have hconsumed := consumed?_eq_none hstep hwithholds
  obtain ⟨front, hassembles⟩ := h.assembles
  refine ⟨hwithholds.settings.trans h.settings_eq, ?_, ?_, ?_⟩
  all_goals rw [consumed_concat hrun, hconsumed, Option.toList_none, List.append_nil]
  · exact h.seq_eq
  · rw [hwithholds.base, h.base_eq]
  · rw [receipts_concat hrun, hunread.receipt?_eq, Option.toList_none, List.append_nil]
    exact ⟨front, hassembles.withholds hwithholds⟩

/-- A reader has a turn. -/
theorem Receives.reads {outcome? : Option Reader.Outcome}
    (hreads : n.Reads x i n' buffer outcome?) : start.Receives settings x (run ++ [i]) n' := by
  have hheard := (n.heard_withholds x i).1
  obtain ⟨front, hassembles⟩ := h.assembles
  obtain ⟨front', hassembles'⟩ := (hassembles.withholds hheard).gets hreads.gets
  have hcases := hreads.gets.consumed?_cases
  rw [← consumed?_eq hstep] at hassembles' hcases
  rw [hheard.base, h.base_eq] at hcases
  refine ⟨hreads.gets.settings_eq.trans (hheard.settings.trans h.settings_eq), ?_, ?_, ?_⟩
  all_goals rw [consumed_concat hrun]
  · rcases hcases with ⟨hnone, -⟩ | ⟨t, hsome, hseq, -⟩
    · rw [hnone, Option.toList_none, List.append_nil, h.seq_eq]
    · rw [hsome, Option.toList_some, List.map_append, List.map_singleton, h.seq_eq, hseq,
        List.length_append, List.length_singleton, List.range_succ, List.map_append,
        List.map_singleton]
  · rcases hcases with ⟨hnone, hbase⟩ | ⟨t, hsome, -, hbase⟩
    · rw [hnone, hbase, Option.toList_none, List.append_nil]
    · rw [hsome, hbase, Serial.next_add, Option.toList_some, List.length_append,
        List.length_singleton]
  · rw [receipts_concat hrun, hreads.receipt?_eq, List.map_append]
    exact ⟨front', hassembles'⟩

/-- **Every incident keeps the account.** -/
theorem Receives.step (hprompt : (n.peer x).session.Prompt) :
    start.Receives settings x (run ++ [i]) n' := by
  rcases reads_or_unread hprompt hstep with ⟨buffer, outcome?, hreads⟩ | hunread
  · exact h.reads hrun hstep hreads
  · exact h.unread hrun hstep hunread

end

/-- The account is kept in a whole run. -/
theorem receives_of_run (hstart : start.IsStart settings)
    (hrun : start.follow? everything run = some n) (x : Side) :
    start.Receives settings x run n := by
  induction run using List.reverseRecOn generalizing n with
  | nil =>
    cases hrun
    obtain ⟨pool, traffic, now, heq⟩ := hstart.peer_eq x
    refine ⟨?_, rfl, ?_, [], .nil, List.nil_prefix, fun _ => ?_⟩
    · rw [heq]
      rfl
    · rw [heq]
      exact (Serial.add_zero _).symm
    · rw [heq]
      rfl
  | append_singleton run i ih =>
    rw [follow?_concat] at hrun
    obtain ⟨m, hm, hstep⟩ := Option.bind_eq_some_iff.mp hrun
    exact (ih hm).step hm hstep (tells_of_run hstart hm x).prompt

/-! ## What readers get -/

/-- The reads that succeed have returned the first messages. -/
theorem Receives.holds (h : start.Receives settings x run n) {k : Nat} {r : Receipt}
    (hr : (start.receipts x run)[k]? = some r) :
    ∃ message, (start.reassembled x run).messages[k]? = some message ∧ r.Holds message := by
  obtain ⟨front, hassembles⟩ := h.assembles
  exact hassembles.holds_of_getElem? hr

section

variable (h : start.Receives settings x run n) {outcome? : Option Reader.Outcome}

include h

/-- The account is one of the stream after what arrives was taken in, too. -/
theorem Receives.assembles_heard (i : Incident) :
    ∃ front, Stream.Assembles ((start.consumed x run).map Segment.piece) (start.receipts x run)
      front (n.heard x i) := by
  obtain ⟨front, hassembles⟩ := h.assembles
  exact ⟨front, hassembles.withholds (n.heard_withholds x i).1⟩

/-- **A message that waits** is returned, if there is room for it. -/
theorem Receives.answers (hreads : n.Reads x i n' buffer outcome?) (hinside : n.isInside i = true)
    (hopen : (n.peer x).stream.closed = false) {message : Bytes}
    (hnext : (start.reassembled x run).messages[(start.receipts x run).length]? = some message) :
    n.result? x i = some (if message.length ≤ buffer.length then
      .read message.length (message ++ buffer.drop message.length)
    else
      .failed (.readBufferTooSmall message.length buffer.length)) := by
  obtain ⟨front, hassembles⟩ := h.assembles_heard i
  rw [hreads.result?_eq, hassembles.answers hreads.gets hinside
    ((n.heard_withholds x i).2.trans hopen) hnext]
  split <;> rfl

/-- **A buffer that is too small** leaves the message where it is. -/
theorem Receives.keeps (hreads : n.Reads x i n' buffer outcome?)
    (hrun : start.follow? everything run = some n) (hstep : n.undergo? i = some n')
    {size length : Nat}
    (hfailed : n.result? x i = some (.failed (.readBufferTooSmall size length))) :
    (∃ message, message.length = size
        ∧ (start.reassembled x run).messages[(start.receipts x run).length]? = some message)
      ∧ length = buffer.length ∧ buffer.length < size
      ∧ start.reassembled x (run ++ [i]) = start.reassembled x run
      ∧ start.receipts x (run ++ [i]) = start.receipts x run
      ∧ (n'.peer x).stream.closed = false := by
  obtain ⟨front, hassembles⟩ := h.assembles_heard i
  rw [hreads.result?_eq] at hfailed
  obtain rfl := Result.eq_of_ofReader_eq_failed hfailed
  obtain ⟨⟨message, hnext, hsize⟩, hlength, hlt, hconsumed, hstill⟩ :=
    hassembles.keeps hreads.gets
  refine ⟨⟨message, hsize, hnext⟩, hlength, hlt, ?_, ?_, hstill⟩
  · unfold reassembled
    rw [consumed_concat hrun, consumed?_eq hstep, hconsumed, Option.toList_none, List.append_nil]
  · rw [receipts_concat hrun, hreads.receipt?_eq]
    exact List.append_nil _

/-- **The next segment** is taken out, if no message waits. -/
theorem Receives.takes (hreads : n.Reads x i n' buffer outcome?) (hstep : n.undergo? i = some n')
    (hinside : n.isInside i = true) (hopen : (n.peer x).stream.closed = false)
    (hnext : (start.reassembled x run).messages[(start.receipts x run).length]? = none)
    {u : Segment Buffer} (hfind : (n.heard x i).receiveWindow.find?
      (settings.initialSerial + (start.consumed x run).length) = some u) :
    n.consumed? x i = some u.wire := by
  obtain ⟨front, hassembles⟩ := h.assembles_heard i
  obtain ⟨hheard, hclosed⟩ := n.heard_withholds x i
  rw [← h.base_eq, ← hheard.base] at hfind
  rw [consumed?_eq hstep]
  exact hassembles.takes hreads.gets hinside (hclosed.trans hopen) hnext hfind

/-- **A segment that is taken out** makes the message too long, or the reader goes on. -/
theorem Receives.of_consumed? (hreads : n.Reads x i n' buffer outcome?)
    (hstep : n.undergo? i = some n') {t : Segment Bytes} (hconsumed : n.consumed? x i = some t) :
    (start.reassembled x run).opened.length + t.body.length ≤ settings.maxMessage
        ∧ n.result? x i = none ∧ (n'.peer x).stream.closed = false
      ∨ settings.maxMessage < (start.reassembled x run).opened.length + t.body.length
        ∧ n.result? x i = some (.failed (.messageTooLarge
          ((start.reassembled x run).opened.length + t.body.length) settings.maxMessage))
        ∧ (n'.peer x).stream.closed = true := by
  obtain ⟨front, hassembles⟩ := h.assembles_heard i
  rw [consumed?_eq hstep] at hconsumed
  have hcases := hassembles.of_consumed? hreads.gets hconsumed
  rw [(n.heard_withholds x i).1.settings, h.settings_eq] at hcases
  rw [hreads.result?_eq]
  rcases hcases with ⟨hle, rfl, hstill⟩ | ⟨hlt, rfl, hclosed⟩
  · exact Or.inl ⟨hle, rfl, hstill⟩
  · exact Or.inr ⟨hlt, rfl, hclosed⟩

end

/-- On a closed stream nothing is returned any more. -/
theorem receipts_of_closed (hstart : start.IsStart settings)
    (hrun : start.follow? everything run = some m) (hclosed : (m.peer x).stream.closed = true)
    {later : List Incident} (hlater : start.follow? everything (run ++ later) = some n) :
    start.receipts x (run ++ later) = start.receipts x run
      ∧ (n.peer x).stream.closed = true := by
  induction later using List.reverseRecOn generalizing n with
  | nil =>
    rw [List.append_nil] at hlater ⊢
    obtain rfl := Option.some.inj (hrun.symm.trans hlater)
    exact ⟨rfl, hclosed⟩
  | append_singleton later i ih =>
    rw [← List.append_assoc] at hlater ⊢
    rw [follow?_concat] at hlater
    obtain ⟨mid, hmid, hstep⟩ := Option.bind_eq_some_iff.mp hlater
    obtain ⟨hsame, hshut⟩ := ih hmid
    have hnone : mid.receipt? x i = none := by
      rcases reads_or_unread (tells_of_run hstart hmid x).prompt hstep with
        ⟨buffer, outcome?, hreads⟩ | hunread
      · rw [hreads.receipt?_eq]
        exact hreads.gets.of?_eq_none ((mid.heard_withholds x i).2.trans hshut)
      · exact hunread.receipt?_eq
    refine ⟨?_, ((leads_of_follow? hmid).regular hstart x).closed hstep hshut⟩
    rw [receipts_concat hmid, hnone, Option.toList_none, List.append_nil, hsame]

/-- What reads have returned at one side in a run, and what they can return next. -/
structure Reassembles (settings : ValidSettings) (start : Network) (side : Side)
    (run : List Incident) (n : Network) : Prop where
  /-- Segments are taken out in sequence, from the initial serial number on. -/
  seq_eq : (start.consumed side run).map Segment.seq
    = (List.range (start.consumed side run).length).map fun k => settings.initialSerial + k
  /-- Whoever returns a message is a reader. -/
  seen : ∀ (i : Incident) (n' : Network) (length : Nat) (filled : Bytes),
    n.undergo? i = some n' → n.result? side i = some (.read length filled) →
      ∃ buffer, n.buffer? side i = some buffer
  /-- The `k`-th read that succeeds returns the `k`-th message, and changes nothing behind it. -/
  holds : ∀ (k : Nat) (r : Receipt), (start.receipts side run)[k]? = some r →
    ∃ message, (start.reassembled side run).messages[k]? = some message ∧ r.Holds message
  /-- A message that waits is returned to the next reader inside if there is room for it in the
  buffer. If there is not, its length is. -/
  answers : ∀ (i : Incident) (n' : Network) (buffer message : Bytes), n.undergo? i = some n' →
    n.buffer? side i = some buffer → n.isInside i = true → (n.peer side).stream.closed = false →
    (start.reassembled side run).messages[(start.receipts side run).length]? = some message →
      n.result? side i = some (if message.length ≤ buffer.length then
        .read message.length (message ++ buffer.drop message.length)
      else
        .failed (.readBufferTooSmall message.length buffer.length))
  /-- A read whose buffer is too small is told the length of the message that waits, and leaves it
  to the next one. -/
  keeps : ∀ (i : Incident) (n' : Network) (buffer : Bytes) (size length : Nat),
    n.undergo? i = some n' → n.buffer? side i = some buffer →
    n.result? side i = some (.failed (.readBufferTooSmall size length)) →
      (∃ message, message.length = size
          ∧ (start.reassembled side run).messages[(start.receipts side run).length]? = some message)
        ∧ length = buffer.length ∧ buffer.length < size
        ∧ start.reassembled side (run ++ [i]) = start.reassembled side run
        ∧ start.receipts side (run ++ [i]) = start.receipts side run
        ∧ (n'.peer side).stream.closed = false
  /-- If no message waits, the next reader inside takes out the next segment. -/
  takes : ∀ (i : Incident) (n' : Network) (buffer : Bytes) (u : Segment Buffer),
    n.undergo? i = some n' → n.buffer? side i = some buffer → n.isInside i = true →
    (n.peer side).stream.closed = false →
    (start.reassembled side run).messages[(start.receipts side run).length]? = none →
    (n.heard side i).receiveWindow.find?
        (settings.initialSerial + (start.consumed side run).length) = some u →
      n.consumed? side i = some u.wire
  /-- The reader that has taken out a segment goes on, as long as the message does not get too
  long. -/
  goesOn : ∀ (i : Incident) (n' : Network) (t : Segment Bytes), n.undergo? i = some n' →
    n.consumed? side i = some t →
    (start.reassembled side run).opened.length + t.body.length ≤ settings.maxMessage →
      n.result? side i = none ∧ (n'.peer side).stream.closed = false
  /-- The reader that has taken out a segment with which the message gets too long fails. The stream
  is closed, and nothing is returned any more. -/
  overflows : ∀ (i : Incident) (n' : Network) (t : Segment Bytes), n.undergo? i = some n' →
    n.consumed? side i = some t →
    settings.maxMessage < (start.reassembled side run).opened.length + t.body.length →
      (∃ buffer, n.buffer? side i = some buffer)
        ∧ n.result? side i = some (.failed (.messageTooLarge
          ((start.reassembled side run).opened.length + t.body.length) settings.maxMessage))
        ∧ (n'.peer side).stream.closed = true
        ∧ ∀ (later : List Incident) (n'' : Network),
          start.follow? everything (run ++ i :: later) = some n'' →
            start.receipts side (run ++ i :: later) = start.receipts side run
  /-- Nothing is returned on a closed stream. -/
  ends : (n.peer side).stream.closed = true → ∀ (later : List Incident) (n' : Network),
    start.follow? everything (run ++ later) = some n' →
      start.receipts side (run ++ later) = start.receipts side run

/-- **Readers get the messages, one after the other.** In every run, whatever arrives and from
whomever, and whatever reads are called, wait and are abandoned: the segments that are taken out of
the receive window come in sequence, and the reads that succeed return the messages that these add
up to, each once and in their order. -/
theorem reassembles_of_run (hstart : start.IsStart settings)
    (hrun : start.follow? everything run = some n) (x : Side) :
    start.Reassembles settings x run n := by
  have hreceives := receives_of_run hstart hrun x
  have hprompt := (tells_of_run hstart hrun x).prompt
  have hreads {i : Incident} {n' : Network} {buffer : Bytes} (hstep : n.undergo? i = some n')
      (hbuffer : n.buffer? x i = some buffer) : ∃ outcome?, n.Reads x i n' buffer outcome? := by
    rcases reads_or_unread hprompt hstep with ⟨buffer', outcome?, hreads⟩ | hunread
    · cases hbuffer.symm.trans hreads.buffer?_eq
      exact ⟨outcome?, hreads⟩
    · rw [hunread.buffer?_eq] at hbuffer
      cases hbuffer
  have hconsumes {i : Incident} {n' : Network} {t : Segment Bytes} (hstep : n.undergo? i = some n')
      (hconsumed : n.consumed? x i = some t) :
      ∃ buffer outcome?, n.Reads x i n' buffer outcome? := by
    rcases reads_or_unread hprompt hstep with hreads | hunread
    · exact hreads
    · rw [consumed?_eq_none hstep hunread.withholds] at hconsumed
      cases hconsumed
  constructor
  case seq_eq => exact hreceives.seq_eq
  case seen =>
    intro i n' length filled hstep hread
    rcases reads_or_unread hprompt hstep with ⟨buffer, outcome?, hreads⟩ | hunread
    · exact ⟨buffer, hreads.buffer?_eq⟩
    · exact absurd hread (hunread.result?_ne length filled)
  case holds => exact fun k r hr => hreceives.holds hr
  case answers =>
    intro i n' buffer message hstep hbuffer hinside hopen hnext
    obtain ⟨outcome?, hreads⟩ := hreads hstep hbuffer
    exact hreceives.answers hreads hinside hopen hnext
  case keeps =>
    intro i n' buffer size length hstep hbuffer hfailed
    obtain ⟨outcome?, hreads⟩ := hreads hstep hbuffer
    exact hreceives.keeps hreads hrun hstep hfailed
  case takes =>
    intro i n' buffer u hstep hbuffer hinside hopen hnext hfind
    obtain ⟨outcome?, hreads⟩ := hreads hstep hbuffer
    exact hreceives.takes hreads hstep hinside hopen hnext hfind
  case goesOn =>
    intro i n' t hstep hconsumed hle
    obtain ⟨buffer, outcome?, hreads⟩ := hconsumes hstep hconsumed
    rcases hreceives.of_consumed? hreads hstep hconsumed with ⟨-, hgoes⟩ | ⟨hlt, -⟩
    · exact hgoes
    · exact absurd hle (Nat.not_le_of_lt hlt)
  case overflows =>
    intro i n' t hstep hconsumed hlt
    obtain ⟨buffer, outcome?, hreads⟩ := hconsumes hstep hconsumed
    rcases hreceives.of_consumed? hreads hstep hconsumed with ⟨hle, -⟩ | ⟨-, hfailed, hclosed⟩
    · exact absurd hle (Nat.not_le_of_lt hlt)
    · refine ⟨⟨buffer, hreads.buffer?_eq⟩, hfailed, hclosed, fun later n'' hlater => ?_⟩
      have hnext : start.follow? everything (run ++ [i]) = some n' := by
        rw [follow?_concat, hrun, Option.bind_some, hstep]
      rw [List.append_cons] at hlater ⊢
      rw [(receipts_of_closed hstart hnext hclosed hlater).1, receipts_concat hrun,
        receipt?_eq_none_of_failed hfailed, Option.toList_none, List.append_nil]
  case ends => exact fun hclosed later n' hlater =>
    (receipts_of_closed hstart hrun hclosed hlater).1

/-- Settings with which messages are not longer than three bytes, and serial numbers wrap around at
once. -/
def briefSettings : ValidSettings where
  mtu := 22
  windowSize := 2
  maxMessage := 3
  initialSerial := ⟨0xFFFFFFFF⟩
  fault?_eq_none := by decide +kernel

/-- Both ends have just got their streams. -/
def briefStart : Network where
  now := 0
  peer _ := { session := .establish (.establish briefSettings (.empty 0)) 0 }
  flights _ := []

theorem briefStart_isStart : briefStart.IsStart briefSettings where
  peer_eq _ := ⟨.empty 0, {}, 0, rfl⟩
  flights_eq _ _ hf := absurd hf List.not_mem_nil

/-- A message comes in two segments. The read that has taken out the first one is abandoned, and the
next one has a buffer that is too small. The third gets the message. What comes then is too long,
and the stream is closed. -/
def inPieces : List Incident :=
  let first := Header.data.datagram [⟨⟨0xFFFFFFFF⟩, true, [1, 2], 0⟩]
  let second := Header.data.datagram [⟨⟨0⟩, false, [3], 0⟩]
  let third := Header.data.datagram [⟨⟨1⟩, false, [4, 5, 6, 7], 0⟩]
  [.event (.call .a (.read [9]) none), .forge .b first,
    .event (.turn .a (.call 0) (.arrived (.datagram first)) none),
    .event (.turn .a (.call 0) .sent none), .cancel .a 0,
    .event (.call .a (.read [9, 9]) none), .forge .b second,
    .event (.turn .a (.call 1) (.arrived (.datagram second)) none),
    .event (.turn .a (.call 1) .sent none),
    .event (.call .a (.read [9, 9, 9, 9, 9]) none),
    .event (.call .a (.read [9]) none), .forge .b third,
    .event (.turn .a (.call 3) (.arrived (.datagram third)) none)]

/-- The message was returned, and nothing else will be. -/
theorem reassembles_of_inPieces : ∃ n, briefStart.follow? everything inPieces = some n
    ∧ briefStart.consumed .a inPieces
      = [⟨⟨0xFFFFFFFF⟩, true, [1, 2], 0⟩, ⟨⟨0⟩, false, [3], 0⟩, ⟨⟨1⟩, false, [4, 5, 6, 7], 0⟩]
    ∧ briefStart.receipts .a inPieces = [⟨[9, 9, 9, 9, 9], 3, [1, 2, 3, 9, 9]⟩]
    ∧ (n.peer .a).stream.closed = true
    ∧ briefStart.Reassembles briefSettings .a inPieces n := by
  have hview : (briefStart.follow? everything inPieces).map (fun n => (n.peer .a).stream.closed)
      = some true := by
    decide +kernel
  have hconsumed : briefStart.consumed .a inPieces
      = [⟨⟨0xFFFFFFFF⟩, true, [1, 2], 0⟩, ⟨⟨0⟩, false, [3], 0⟩,
        ⟨⟨1⟩, false, [4, 5, 6, 7], 0⟩] := by
    decide +kernel
  have hreceipts : briefStart.receipts .a inPieces
      = [⟨[9, 9, 9, 9, 9], 3, [1, 2, 3, 9, 9]⟩] := by
    decide +kernel
  obtain ⟨n, hrun, hclosed⟩ := Option.map_eq_some_iff.mp hview
  exact ⟨n, hrun, hconsumed, hreceipts, hclosed, reassembles_of_run briefStart_isStart hrun .a⟩

end Network

end Redelivery
