import Mathlib.Data.List.Induction
import Redelivery.Proofs.Network.Bystanders
import Redelivery.Proofs.Session.Listening

/-!
# A reader that listens owes nothing

Two kinds of agents receive, and only one of them acknowledges. A writer that finds the send window
full takes in whatever the socket delivers, data as well, and leaves it to the next reader to tell
the peer. This file follows the receiving half of one end through a run in which anything may
arrive, and shows that nothing of that is forgotten: either an acknowledgement is due, or the last
one that was handed to the socket says what is there now. A reader does not wait for the socket
again as long as one is due.

## Main definitions

* `Network.brought`: the data that is taken in at one side in a run.
* `Network.lastTold?`: the last acknowledgement that a side tried to send in a run.
* `Network.Tells`: nothing that has arrived at a side is forgotten.

## Main statements

* `Network.Regular.minds_called`, `Network.Regular.minds_turned`: what an agent does in a turn.
* `Network.Tells.step`: every incident keeps the account.
* `Network.caught_up_of_listening`: a reader that listens owes nothing.

`Session.Prompt` is the invariant that a session keeps: a reader that waits for the socket has
delivered what there was and owes no acknowledgement. `Minds` in the file on sessions is what a turn
adds, and `Regular.minds_called` and `Regular.minds_turned` state it for the first turn of a call
and for any later one. `Tells.step` puts that together with what was told before, incident by
incident:

* if an acknowledgement is handed over, it is the last one, and it says what is there now;
* if data arrives, an acknowledgement is due, whoever has received the data;
* in all other incidents the receive window stays as it is, and so does the last acknowledgement
  (`lastTold?_concat_of_ne`).

`caught_up_of_listening` then only has to note that a reader that waits owes none, so it is the
second half of the account that holds. Nothing depends on whether the socket takes an
acknowledgement: a refused one is not repeated by this end, and the other end gets another one when
it sends its segments again.
-/

namespace Redelivery

/-! ## Sessions -/

namespace Session

variable {s : Session} {me : Agent} {signal : Signal}

theorem retains_cancel (s : Session) (id : Nat) : s.stream.Retains (s.cancel id).stream := by
  unfold cancel
  split <;> exact ⟨rfl, rfl, rfl⟩

/-- Whoever is abandoned gives up what it has, and leaves all else as it is. -/
theorem Prompt.cancel (h : s.Prompt) (id : Nat) : (s.cancel id).Prompt := by
  cases hcall : s.call? id with
  | none =>
    rw [cancel_of_call?_eq_none hcall]
    exact h
  | some c =>
    rw [cancel_eq_record hcall]
    have hconduct : Conduct (.call id) s.shared s.stream Call.isReading Call.isResting
        ((s.cancel id).shared, .returns (Result.failed .streamClosed)) :=
      { others := fun agent hne howner =>
          ⟨(s.respects_cancel id).reading agent hne howner, s.retains_cancel id⟩
        inside := fun _ hp => by cases hp
        resting := fun _ hp => by cases hp
        answers := Stream.answers_none (s.retains_cancel id).receiveWindow
          (s.retains_cancel id).ackDue }
    exact (h.record hconduct (fun _ hp => by cases hp) fun _ hp => by cases hp).prompt

namespace Over

theorem perform (h : s.Over) (now id : Nat) (operation : Operation) :
    (s.perform now id operation).1.Over where
  closed := closed_perform h.closed now id operation
  outside j buffer point hcall := by
    by_cases hj : j = id
    · subst hj
      cases operation with
      | read message =>
        obtain ⟨p, hp, heq⟩ := Turn.point?_map_eq_some_iff.mp ((call?_record ..).symm.trans hcall)
        rw [Reader.begin_of_closed h.closed] at hp
        cases hp
      | _ =>
        obtain ⟨p, -, heq⟩ := Turn.point?_map_eq_some_iff.mp ((call?_record ..).symm.trans hcall)
        cases heq
    · rw [call?_perform_of_ne hj] at hcall
      exact h.outside j buffer point hcall

theorem resume (h : s.Over) (hheld : s.Held) (hgrants : s.Grants me signal) (now : Nat) :
    (s.resume now me signal).1.Over where
  closed := hheld.closed_resume hgrants h.closed now
  outside j buffer point hcall := by
    by_cases hme : me = .call j
    · subst hme
      cases hbefore : s.call? j with
      | none =>
        rw [call?_resume_eq_none hbefore] at hcall
        cases hcall
      | some c =>
        unfold Session.resume at hcall
        simp only [hbefore] at hcall
        cases c with
        | reading buffer' point' =>
          have hidle := Reader.resume_idle h.closed (h.outside j buffer' point' hbefore) (.call j)
            buffer' now signal
          obtain ⟨p, hp, heq⟩ := Turn.point?_map_eq_some_iff.mp ((call?_record ..).symm.trans hcall)
          cases heq
          exact hidle.of_point? hp
        | _ =>
          obtain ⟨p, -, heq⟩ := Turn.point?_map_eq_some_iff.mp ((call?_record ..).symm.trans hcall)
          cases heq
    · rw [call?_resume_of_ne hme] at hcall
      exact h.outside j buffer point hcall

theorem cancel (h : s.Over) (id : Nat) : (s.cancel id).Over where
  closed := (s.alike_cancel id).closed h.closed
  outside j buffer point hcall := by
    rw [call?_cancel_eq] at hcall
    split at hcall
    · cases hcall
    · exact h.outside j buffer point hcall

end Over

end Session

namespace Network

variable {settings : ValidSettings} {start n m n' : Network} {x : Side} {i : Incident}
  {run : List Incident} {me : Agent} {signal : Signal}

/-! ## What is seen of a run -/

/-- The payload of the data that an agent at one side takes in. -/
def brought? (n : Network) (side : Side) : Incident → Option Bytes
  | .event (.turn z _ signal _) => if z = side then (n.peer side).stream.brought? signal else none
  | _ => none

/-- The payloads of the data that is taken in at one side in a run, in that order. -/
def brought (n : Network) (side : Side) (run : List Incident) : List Bytes :=
  (n.history run).filterMap fun entry => entry.1.brought? side entry.2

/-- The last acknowledgement that is handed to the socket at one side in a run, whether the socket
takes it or not. -/
def lastTold? (n : Network) (side : Side) (run : List Incident) : Option Bytes :=
  ((n.handed side run).filter Bytes.isAck).getLast?

theorem brought_concat (h : n.follow? everything run = some m) (i : Incident) :
    n.brought x (run ++ [i]) = n.brought x run ++ (m.brought? x i).toList :=
  filterMap_history_concat h i _

theorem brought?_eq_none (h : n.outcome? x i = none) : n.brought? x i = none := by
  cases i with
  | event e =>
    cases e with
    | turn z me signal refusal =>
      refine if_neg fun hz => ?_
      rw [hz, outcome?_turn] at h
      cases h
    | _ => rfl
  | _ => rfl

/-- What is not an acknowledgement does not matter. -/
theorem lastTold?_concat_of_ne (h : n.follow? everything run = some m)
    (hne : ∀ d, m.handed? x i = some d → d.isAck = false) :
    n.lastTold? x (run ++ [i]) = n.lastTold? x run := by
  unfold lastTold?
  rw [handed_concat h, List.filter_append]
  cases hhanded : m.handed? x i with
  | none => simp
  | some d => simp [hne d hhanded]

theorem lastTold?_concat (h : n.follow? everything run = some m) {d : Bytes}
    (hhanded : m.handed? x i = some d) (hack : d.isAck = true) :
    n.lastTold? x (run ++ [i]) = some d := by
  unfold lastTold?
  rw [handed_concat h, List.filter_append, hhanded]
  simp [hack]

/-! ## Turns -/

/-- **The first turn of a call** -/
theorem Regular.minds_called (h : n.Regular settings x) (hprompt : (n.peer x).session.Prompt)
    (operation : Operation) :
    Session.Minds (n.peer x).stream
      ((n.peer x).session.perform n.now (n.peer x).calls operation) := by
  cases operation with
  | read buffer =>
    refine hprompt.recordReader (Reader.begin_conducts _ _ _) fun d hd => ?_
    exact absurd hd (Reader.point?_begin_ne _ _ _ d)
  | write message =>
    refine hprompt.recordWriter (Writer.begin_conduct _ _ _ _) fun point hpoint => ?_
    exact Writer.begin_resends h.sound.stream (fun _ _ => Stream.Sends.isData) _ _ _ hpoint
  | close =>
    have hprompt' : ({ (n.peer x).session with joinable := false } : Session).Prompt :=
      ⟨⟨hprompt.owner, hprompt.drained⟩, hprompt.listening, hprompt.resends, hprompt.flusher⟩
    exact hprompt'.recordCloser (Closer.begin_conduct _ _ _)

/-- **A turn of an agent** -/
theorem Regular.minds_turned (h : n.Regular settings x) (hprompt : (n.peer x).session.Prompt)
    (hallows : n.allows x me signal = true) :
    Session.Minds ((n.peer x).stream.heard n.now signal)
      ((n.peer x).session.resume n.now me signal) := by
  have hwaits := wait?_ne_none_of_allows hallows
  unfold Session.resume
  cases me with
  | flusher =>
    simp only
    cases hpoint : (n.peer x).session.flusher with
    | none => exact absurd (congrArg (Option.map Flusher.wait) hpoint) hwaits
    | some point =>
      rw [Stream.heard_of_ne (ne_arrived_of_flusher hallows)]
      have hresends := hprompt.flusher point hpoint
      exact hprompt.recordFlusher (Flusher.resume_conduct _ _ _ hresends)
        fun p hp => Flusher.resume_resends (fun _ => Stream.Sends.isData) n.now hresends hp
  | call id =>
    simp only
    cases hcall : (n.peer x).session.call? id with
    | none => exact absurd (congrArg (Option.map Call.wait) hcall) hwaits
    | some c =>
      have hwait := Session.wait?_of_call? hcall
      cases c with
      | reading buffer point =>
        have hlisten := hprompt.listening id _ hcall
        have howner : point.isInside = true ∨ signal = .granted →
            (n.peer x).session.shared.reading.owner = some (.call id) := by
          intro hcase
          by_cases hin : point.isInside = true
          · exact hprompt.owner id _ hcall hin
          · cases point with
            | entering => exact (grants_of_allows hallows).reading hwait (hcase.resolve_left hin)
            | _ => exact absurd rfl hin
        exact hprompt.recordReader
          (Reader.resume_conducts howner
            (fun hrest => hrest.elim (hprompt.drained id _ hcall) hlisten)
            (receiving_of_allows hcall hallows))
          fun d hd => Reader.drained_of_replying hlisten hd
      | writing point =>
        have hfits : point.Fits settings := h.sound.calls id _ hcall
        have hresends := hprompt.resends id point hcall
        exact hprompt.recordWriter
          (Writer.resume_conduct (hprompt.owner id _ hcall) (polling_of_allows hcall hallows)
            hresends)
          fun w hw => Writer.resume_resends h.sound.stream hfits n.now
            (fun _ _ => Stream.Sends.isData) hresends (polling_of_allows hcall hallows)
            (sending_of_allows hcall hallows) _ hw
      | closing point =>
        rw [Stream.heard_of_ne (ne_arrived_of_closing hcall hallows)]
        exact hprompt.recordCloser (Closer.resume_conduct _ _ _ _)

/-! ## Runs -/

/-- Nothing that has arrived at a side is forgotten: an acknowledgement is due, or the last one that
was handed to the socket says what is there now, or nobody will read any more. -/
structure Tells (start : Network) (side : Side) (run : List Incident) (n : Network) : Prop where
  /-- The session is prompt. -/
  prompt : (n.peer side).session.Prompt
  /-- Nothing is forgotten. -/
  told : start.brought side run ≠ [] → (n.peer side).stream.ackDue = true
    ∨ start.lastTold? side run = some (n.peer side).stream.receiveWindow.ackDatagram
    ∨ (n.peer side).session.Over

/-- What is told to the peer in a turn is the last that was told. -/
theorem Tells.minds {heard : Stream} {turn : Session × Outcome}
    (h : start.brought x (run ++ [i]) ≠ [] → heard.ackDue = true
      ∨ start.lastTold? x run = some heard.receiveWindow.ackDatagram ∨ turn.1.Over)
    (hrun : start.follow? everything run = some m) (hminds : Session.Minds heard turn)
    (hsession : (n'.peer x).session = turn.1) (houtcome : m.outcome? x i = some turn.2) :
    start.Tells x (run ++ [i]) n' := by
  have hhanded : m.handed? x i = turn.2.handed? := by
    unfold handed?
    rw [houtcome]
    rfl
  refine ⟨hsession ▸ hminds.prompt, fun hbrought => ?_⟩
  show (n'.peer x).session.stream.ackDue = true
    ∨ _ = some (n'.peer x).session.stream.receiveWindow.ackDatagram ∨ _
  rw [hsession]
  rcases hminds.told with hanswers | ⟨-, hover⟩
  · cases hanswers with
    | silent hwindow hdue hquiet =>
      rw [← hhanded] at hquiet
      rw [lastTold?_concat_of_ne hrun hquiet, hwindow, hdue]
      exact h hbrought
    | acknowledges _ htells =>
      rw [← hhanded] at htells
      exact Or.inr (Or.inl (lastTold?_concat hrun htells (Window.isAck_ackDatagram _)))
  · exact Or.inr (Or.inr hover)

/-- **Every incident** keeps the account. -/
theorem Tells.step (h : start.Tells x run m) (hm : m.Regular settings x)
    (hrun : start.follow? everything run = some m) (hstep : m.undergo? i = some n') :
    start.Tells x (run ++ [i]) n' := by
  have hsame (hnone : m.brought? x i = none) :
      start.brought x (run ++ [i]) = start.brought x run := by
    rw [brought_concat hrun, hnone, Option.toList_none, List.append_nil]
  have hquiet (houtcome : m.outcome? x i = none) :
      start.lastTold? x (run ++ [i]) = start.lastTold? x run := by
    refine lastTold?_concat_of_ne hrun fun d hd => ?_
    rw [handed?, houtcome] at hd
    cases hd
  cases happens hstep x with
  | elsewhere hpeer houtcome =>
    refine ⟨hpeer ▸ h.prompt, ?_⟩
    rw [hsame (brought?_eq_none houtcome), hquiet houtcome, hpeer]
    exact h.told
  | called hincident hsession hcalls houtcome =>
    refine .minds (fun hbrought => ?_) hrun (hm.minds_called h.prompt _) hsession houtcome
    rw [hsame (by rw [hincident]; rfl)] at hbrought
    exact (h.told hbrought).imp_right (Or.imp_right fun hover => hover.perform _ _ _)
  | @turned me signal refusal hincident hallows hsession hcalls houtcome =>
    have hbrought? : m.brought? x i = (m.peer x).stream.brought? signal := by
      rw [hincident]
      exact if_pos rfl
    refine .minds (fun hbrought => ?_) hrun (hm.minds_turned h.prompt hallows) hsession houtcome
    rcases (m.peer x).stream.heard_brought? m.now signal with ⟨-, hdue⟩ | ⟨hnone, hretains⟩
    · exact Or.inl hdue
    · rw [hsame (hbrought?.trans hnone)] at hbrought
      rw [hretains.ackDue, hretains.receiveWindow]
      exact (h.told hbrought).imp_right (Or.imp_right fun hover =>
        hover.resume hm.guarded.held (grants_of_allows hallows) m.now)
  | cancelled k hsession hcalls houtcome =>
    have hretains := (m.peer x).session.retains_cancel k
    refine ⟨hsession ▸ h.prompt.cancel k, fun hbrought => ?_⟩
    rw [hsame (brought?_eq_none houtcome)] at hbrought
    show (n'.peer x).session.stream.ackDue = true
      ∨ _ = some (n'.peer x).session.stream.receiveWindow.ackDatagram ∨ _
    rw [hquiet houtcome, hsession, hretains.ackDue, hretains.receiveWindow]
    exact (h.told hbrought).imp_right (Or.imp_right fun hover => hover.cancel k)

/-- Nothing is forgotten in a whole run. -/
theorem tells_of_run (hstart : start.IsStart settings)
    (hrun : start.follow? everything run = some n) (x : Side) : start.Tells x run n := by
  induction run using List.reverseRecOn generalizing n with
  | nil =>
    cases hrun
    obtain ⟨pool, traffic, now, heq⟩ := hstart.peer_eq x
    refine ⟨?_, fun hbrought => absurd rfl hbrought⟩
    rw [heq]
    have hnobody (id : Nat) (c : Call) (hcall : (Session.establish
        { Stream.establish settings pool with traffic := traffic } now).call? id = some c) :
        False := by
      cases hcall
    exact
      { owner := fun id c hcall => (hnobody id c hcall).elim
        drained := fun id c hcall => (hnobody id c hcall).elim
        listening := fun id c hcall => (hnobody id c hcall).elim
        resends := fun id _ hcall => (hnobody id _ hcall).elim
        flusher := fun point hpoint d hd => by cases hpoint; cases hd }
  | append_singleton run i ih =>
    rw [follow?_concat] at hrun
    obtain ⟨m, hm, hstep⟩ := Option.bind_eq_some_iff.mp hrun
    exact (ih hm).step ((leads_of_follow? hm).regular hstart x) hm hstep

/-- **A reader that listens owes nothing.** In every run, whatever arrives and whoever receives it:
when a read waits for the socket to deliver a datagram, or replies to one, the next segment is not
in the receive window and no acknowledgement is due, and if any data has been taken in so far, the
last acknowledgement that was handed to the socket says exactly what is there now. -/
theorem caught_up_of_listening (hstart : start.IsStart settings)
    (hrun : start.follow? everything run = some n) (x : Side) {id : Nat} {c : Call}
    (hcall : (n.peer x).session.call? id = some c) (hlistening : c.isListening = true) :
    (n.peer x).stream.receiveWindow.find? (n.peer x).stream.receiveWindow.base = none
      ∧ (n.peer x).stream.ackDue = false
      ∧ (start.brought x run ≠ [] → start.lastTold? x run
        = some ((Header.ack (n.peer x).stream.receiveWindow.acknowledgement.1
            (n.peer x).stream.receiveWindow.acknowledgement.2).datagram [])) := by
  have htells := tells_of_run hstart hrun x
  have hdrained : (n.peer x).stream.Drained := htells.prompt.listening id c hcall hlistening
  refine ⟨Window.pop?_eq_none_iff.mp hdrained.pop?_eq, hdrained.ackDue, fun hbrought => ?_⟩
  rcases htells.told hbrought with hdue | htold | hover
  · rw [hdrained.ackDue] at hdue
    cases hdue
  · exact htold
  · -- whoever listens is inside
    cases c with
    | reading buffer point =>
      have hout := hover.outside id buffer point hcall
      rw [Reader.isInside_of_isListening hlistening] at hout
      cases hout
    | _ => cases hlistening

/-- Two segments fill the window, and a third write receives. What it takes in is not the next
segment. A read finds an acknowledgement due, and the socket refuses that. -/
def leftToReader : List Incident :=
  let second : Segment Bytes := ⟨⟨0⟩, false, [1], 0⟩
  [.event (.call .a (.write [7]) none), .event (.turn .a (.call 0) .sent none),
    .event (.call .a (.write [8]) none), .event (.turn .a (.call 1) .sent none),
    .event (.call .a (.write [9]) none), .forge .b (Header.data.datagram [second]),
    .event (.turn .a (.call 2) (.arrived (.datagram (Header.data.datagram [second]))) none),
    .event (.call .a (.read [0]) (some "refused")),
    .event (.turn .a (.call 3) (.unsent "refused") none)]

/-- What the writer took in, the reader has acknowledged when it waits. -/
theorem caught_up_of_leftToReader :
    ∃ n c, narrowStart.follow? everything leftToReader = some n
      ∧ (n.peer .a).session.call? 3 = some c ∧ c.isListening = true
      ∧ (n.peer .a).stream.receiveWindow.find? (n.peer .a).stream.receiveWindow.base = none
      ∧ (n.peer .a).stream.ackDue = false
      ∧ narrowStart.brought .a leftToReader ≠ []
      ∧ narrowStart.lastTold? .a leftToReader
        = some ((Header.ack ⟨0xFFFFFFFF⟩ 1).datagram []) := by
  have hview : (narrowStart.follow? everything leftToReader).map (fun n =>
      (((n.peer .a).session.call? 3).map Call.isListening,
        (n.peer .a).stream.receiveWindow.acknowledgement)) = some (some true, ⟨0xFFFFFFFF⟩, 1) := by
    decide +kernel
  have hbrought : narrowStart.brought .a leftToReader ≠ [] := by
    decide +kernel
  obtain ⟨n, hrun, hseen⟩ := Option.map_eq_some_iff.mp hview
  obtain ⟨hlistens, hack⟩ := Prod.mk.inj hseen
  obtain ⟨c, hcall, hlistening⟩ := Option.map_eq_some_iff.mp hlistens
  obtain ⟨hfind, hdue, htold⟩ :=
    caught_up_of_listening narrowStart_isStart hrun .a hcall hlistening
  rw [hack] at htold
  exact ⟨n, c, hrun, hcall, hlistening, hfind, hdue, hbrought, htold hbrought⟩

end Network

end Redelivery
