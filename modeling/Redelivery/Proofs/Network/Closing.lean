import Redelivery.Proofs.Network.Abandoning
import Redelivery.Proofs.Session.Closing

/-!
# Close is final

Once a call of close has returned, its stream is done with: nothing is handed to the socket any
more, and whoever still waits is refused. It does not matter what the others were in the middle of
when the stream was closed, how many of them there are and how many close it at the same time, what
arrives, and who abandons a call.

## Main definitions

* `Network.everything`: the rule by which whatever can happen may happen.
* `Network.outcome?`, `Network.closes`: what is seen of an incident at one side.

## Main statements

* `Network.Leads.guarded`: both sessions are guarded, whatever has happened.
* `Network.Leads.cleared`: a stream at rest stays so.
* `Network.Leads.silent_after_close`: close is final.

The argument is about who may be inside the sections. `Session.Guarded` is an invariant of sessions:
every agent has what it needs at the point where it is, and a closer that has come past the section
for writing has seen nobody inside. It is kept in every incident, `guarded_undergo`, by one lemma
for each kind of turn. Two facts follow.

* When a close returns, nobody is inside (`cleared_of_outcome?`): it was the owner of both sections
  at that moment, one after the other, and the stream was closed before, so nobody has come back.
* A session where nobody is inside and whose stream is closed stays so, `cleared_undergo`, and all
  that can be seen of it is that calls are refused or that closes return (`isFinal_outcome?`).

`session_undergo` is the induction step that both ride on, and later files as well: whatever all
operations, turns and abandoned calls keep of a session is kept in every incident. Nothing is asked
of what arrives.
-/

namespace Redelivery

/-! ## Abandoned calls -/

namespace Session

variable {s : Session} {reads : Bool}

theorem respects_cancel (s : Session) (id : Nat) :
    s.shared.Respects (.call id) (s.cancel id).shared := by
  unfold cancel
  cases s.call? id with
  | none => exact .refl _ s.shared
  | some c =>
    have hleft := (Shared.Respects.leaveReading (.call id) s.shared).trans (.leaveWriting _ _)
    exact hleft.trans (.of_closed fun hclosed => hclosed)

theorem cancel_of_call?_eq_none {id : Nat} (h : s.call? id = none) : s.cancel id = s := by
  unfold cancel
  rw [h]

/-- To abandon a call is as good as a turn in which it is refused. -/
theorem cancel_eq_record {id : Nat} {c : Call} (h : s.call? id = some c) :
    s.cancel id = (s.record id (s.cancel id).shared (.returns (.failed .streamClosed))).1 :=
  cancel_of_call? h

theorem Cleared.cancel (h : s.Cleared reads) (id : Nat) : (s.cancel id).Cleared reads := by
  cases hcall : s.call? id with
  | none =>
    rw [cancel_of_call?_eq_none hcall]
    exact h
  | some c =>
    rw [cancel_eq_record hcall]
    exact h.record (s.respects_cancel id) fun _ hc => by cases hc

theorem Guarded.cancel (h : s.Guarded) (id : Nat) : (s.cancel id).Guarded := by
  cases hcall : s.call? id with
  | none =>
    rw [cancel_of_call?_eq_none hcall]
    exact h
  | some c =>
    rw [cancel_eq_record hcall]
    refine h.record (.returns (s.respects_cancel id) _) (fun _ _ hc => ?_) fun hpoint => ?_
    · cases hc
    · cases hpoint

/-- Nobody is at work where a session starts, and no closer has come past anybody. -/
theorem guarded_establish (stream : Stream) (now : Nat) : (establish stream now).Guarded where
  held :=
    { call := fun _ _ hcall => by cases hcall
      flusher := fun point hpoint => by
        cases hpoint
        trivial }
  passed _ hcall := by cases hcall

end Session

namespace Network

variable {settings : ValidSettings} {start n mid n' : Network} {x : Side} {i : Incident}

/-! ## What is seen of an incident -/

/-- Whatever can happen may happen. -/
def everything : Rule := fun _ _ => true

/-- What comes of an agent's turn at one side, if an agent there has a turn. -/
def outcome? (n : Network) (side : Side) : Incident → Option Outcome
  | .event (.call z operation _) => if z = side then some (n.called z operation).2 else none
  | .event (.turn z me signal _) => if z = side then some (n.turned z me signal).2 else none
  | .event (.elapse _) => none
  | .cancel _ _ => none
  | .forge _ _ => none

/-- Whether it is a close that has the turn. -/
def closes (n : Network) : Incident → Bool
  | .event (.call _ .close _) => true
  | .event (.turn z me _ _) => (n.peer z).session.isClosing me
  | _ => false

/-! ## Steps -/

/-- Nobody is told that it owns a section that it does not own. -/
theorem grants_of_allows {me : Agent} {signal : Signal} (h : n.allows x me signal = true) :
    (n.peer x).session.Grants me signal where
  writing hwait _ := (owner_of_allows h hwait).2
  reading hwait hsignal := by
    subst hsignal
    simpa [allows, hwait] using h

/-- What all operations, turns and abandoned calls keep of a session is kept in every incident. -/
theorem session_undergo {P : Session → Prop} (h : P (n.peer x).session)
    (hread : ∀ id buffer, P ((n.peer x).session.read id buffer).1)
    (hwrite : ∀ id message, P ((n.peer x).session.write n.now id message).1)
    (hclose : ∀ id, P ((n.peer x).session.close id).1)
    (hresume : ∀ me signal, (n.peer x).session.Grants me signal →
      P ((n.peer x).session.resume n.now me signal).1)
    (hcancel : ∀ id, P ((n.peer x).session.cancel id)) (hstep : n.undergo? i = some n') :
    P (n'.peer x).session := by
  cases i with
  | event e =>
    cases stepAt hstep x with
    | elsewhere hpeer hflights =>
      rw [hpeer]
      exact h
    | called operation refusal =>
      rw [session_commit]
      cases operation with
      | read buffer => exact hread _ buffer
      | write message => exact hwrite _ message
      | close => exact hclose _
    | turned refusal hallows =>
      rw [session_commit]
      exact hresume _ _ (grants_of_allows hallows)
  | cancel side id =>
    cases hstep
    rcases side.eq_or_eq_other x with rfl | rfl
    · rw [peer_withPeer]
      unfold Peer.cancel
      split
      · exact h
      · exact hcancel id
    · rw [peer_withPeer_other]
      exact h
  | forge side datagram =>
    cases hstep
    exact h

theorem guarded_undergo (h : (n.peer x).session.Guarded) (hstep : n.undergo? i = some n') :
    (n'.peer x).session.Guarded :=
  session_undergo (P := Session.Guarded) h h.read (h.write n.now) h.close
    (fun _ _ hgrants => h.resume hgrants n.now) h.cancel hstep

theorem cleared_undergo (h : (n.peer x).session.Guarded)
    (hcleared : (n.peer x).session.Cleared true) (hstep : n.undergo? i = some n') :
    (n'.peer x).session.Cleared true :=
  session_undergo (P := fun s => s.Cleared true) hcleared hcleared.read (hcleared.write n.now)
    hcleared.close (fun _ _ hgrants => hcleared.resume h.held hgrants n.now) hcleared.cancel hstep

/-- A close that returns leaves nobody at work. -/
theorem cleared_of_outcome? (h : (n.peer x).session.Guarded) {id : Nat}
    (hclose : n.outcome? x i = some (.returns id .closed)) (hstep : n.undergo? i = some n') :
    (n'.peer x).session.Cleared true := by
  cases i with
  | cancel side id => cases hclose
  | forge side datagram => cases hclose
  | event e =>
    cases e with
    | elapse span => cases hclose
    | call side operation refusal =>
      obtain ⟨rfl, heq⟩ := Option.ite_none_right_eq_some.mp hclose
      have hreturns := Option.some.inj heq
      cases hstep
      rw [session_commit]
      cases operation with
      | read buffer => exact absurd hreturns (Session.recordReader_ne_closed _ _ _ _ _)
      | write message => exact absurd hreturns (Session.recordWriter_ne_closed _ _ _ _)
      | close => exact h.cleared_of_close hreturns
    | turn side me signal refusal =>
      obtain ⟨rfl, heq⟩ := Option.ite_none_right_eq_some.mp hclose
      have hreturns := Option.some.inj heq
      obtain ⟨hallows, hnext⟩ := Option.ite_none_right_eq_some.mp hstep
      cases hnext
      rw [session_commit]
      exact h.cleared_of_resume (grants_of_allows hallows) hreturns

/-- On a closed stream all that is called is refused at once, but for a close. -/
theorem refused_of_closed (h : (n.peer x).stream.closed = true) {operation : Operation}
    (hoperation : operation ≠ .close) :
    (n.called x operation).2 = .returns (n.peer x).calls (.failed .streamClosed) := by
  cases operation with
  | read buffer => exact Session.snd_read_of_closed h _ buffer
  | write message => exact Session.snd_write_of_closed h n.now _ message
  | close => exact absurd rfl hoperation

/-- Where nobody is at work, nothing is done in a turn. -/
theorem isFinal_outcome? (h : (n.peer x).session.Guarded)
    (hcleared : (n.peer x).session.Cleared true) (hstep : n.undergo? i = some n')
    {outcome : Outcome} (houtcome : n.outcome? x i = some outcome) :
    outcome.IsFinal (n.closes i) := by
  cases i with
  | cancel side id => cases houtcome
  | forge side datagram => cases houtcome
  | event e =>
    cases e with
    | elapse span => cases houtcome
    | call side operation refusal =>
      obtain ⟨rfl, heq⟩ := Option.ite_none_right_eq_some.mp houtcome
      cases heq
      cases operation with
      | read buffer =>
        rw [refused_of_closed hcleared.closed Operation.noConfusion]
        exact .returns .refused
      | write message =>
        rw [refused_of_closed hcleared.closed Operation.noConfusion]
        exact .returns .refused
      | close => exact Session.isFinal_close _ _
    | turn side me signal refusal =>
      obtain ⟨rfl, heq⟩ := Option.ite_none_right_eq_some.mp houtcome
      cases heq
      obtain ⟨hallows, -⟩ := Option.ite_none_right_eq_some.mp hstep
      exact hcleared.isFinal_resume h.held (grants_of_allows hallows) n.now

/-! ## Runs -/

/-- **Sessions are guarded**, whatever has happened. -/
theorem Leads.guarded {rule : Rule} (h : start.Leads rule n) (hstart : start.IsStart settings)
    (x : Side) : (n.peer x).session.Guarded := by
  refine h.invariant (P := fun m => (m.peer x).session.Guarded) ?_ ?_
  · obtain ⟨pool, traffic, now, heq⟩ := hstart.peer_eq x
    rw [heq]
    exact Session.guarded_establish _ now
  · intro mid i next hguarded _ hstep
    exact guarded_undergo hguarded hstep

/-- **A stream at rest stays so**, whatever happens. -/
theorem Leads.cleared {rule : Rule} (h : mid.Leads rule n) (hguarded : (mid.peer x).session.Guarded)
    (hcleared : (mid.peer x).session.Cleared true) :
    (n.peer x).session.Guarded ∧ (n.peer x).session.Cleared true := by
  refine h.invariant (P := fun m => (m.peer x).session.Guarded ∧ (m.peer x).session.Cleared true)
    ⟨hguarded, hcleared⟩ ?_
  rintro m i next ⟨hm, hrest⟩ _ hstep
  exact ⟨guarded_undergo hm hstep, cleared_undergo hm hrest hstep⟩

/-- **Close is final.** From the moment at which any call of close has returned, whatever has
happened before and whatever happens afterwards, nobody waits for the socket to take a datagram of
the stream, none is handed to it, and whatever call returns is a close, or it is refused because the
stream is closed. A read or a write that is called then is refused at once. -/
theorem Leads.silent_after_close (hstart : start.IsStart settings)
    (h : start.Leads everything n) (hstep : n.undergo? i = some mid) {id : Nat}
    (hclose : n.outcome? x i = some (.returns id .closed)) (hlater : mid.Leads everything n') :
    (∀ me limit, (n'.peer x).session.wait? me ≠ some (.sending limit))
      ∧ (∀ j next outcome, n'.undergo? j = some next → n'.outcome? x j = some outcome →
        (∀ datagram, outcome ≠ .hands datagram)
          ∧ ∀ k result, outcome = .returns k result →
            n'.closes j = true ∨ result = .failed .streamClosed)
      ∧ ∀ operation, operation ≠ .close →
        (n'.called x operation).2 = .returns (n'.peer x).calls (.failed .streamClosed) := by
  have hguarded := h.guarded hstart x
  obtain ⟨hheld, hcleared⟩ := hlater.cleared (guarded_undergo hguarded hstep)
    (cleared_of_outcome? hguarded hclose hstep)
  refine ⟨hcleared.wait?_ne_sending, ?_, fun operation => refused_of_closed hcleared.closed⟩
  intro j next outcome hnext houtcome
  have hfinal := isFinal_outcome? hheld hcleared hnext houtcome
  refine ⟨?_, ?_⟩
  · rintro datagram rfl
    cases hfinal
  · rintro k result rfl
    cases hfinal with
    | returns hresult =>
      cases hresult with
      | refused => exact Or.inr rfl
      | closed hcloses => exact Or.inl hcloses

/-- A read waits for the socket to deliver something and a write for the socket to take its segment,
and another write stands in line, when two closes are called. The flusher ends and the socket takes
the segment. So the first write is done, the second one and the read are refused, and the closer
that was called last has the section for reading. -/
def closedTogether : List Incident :=
  [.event (.call .a (.read [0]) none), .event (.call .a (.write [7]) none),
    .event (.call .a (.write [9]) none), .event (.call .a .close none),
    .event (.call .a .close none), .event (.turn .a .flusher .closed none),
    .event (.turn .a (.call 3) .ended none), .event (.turn .a (.call 1) .sent none),
    .event (.turn .a (.call 2) .granted none), .event (.turn .a (.call 4) .granted none),
    .event (.turn .a (.call 0) .closed none)]

/-- That one returns, while the other one still waits for the section for writing. A third write is
refused, and all is quiet then. -/
theorem silent_after_closedTogether : ∃ n mid n' id, narrowStart.Leads everything n
    ∧ n.undergo? (.event (.turn .a (.call 4) .granted none)) = some mid
    ∧ n.outcome? .a (.event (.turn .a (.call 4) .granted none)) = some (.returns id .closed)
    ∧ mid.Leads everything n' ∧ (n'.peer .a).session.calls.length = 1
    ∧ (∀ me limit, (n'.peer .a).session.wait? me ≠ some (.sending limit))
    ∧ (∀ j next outcome, n'.undergo? j = some next → n'.outcome? .a j = some outcome →
      (∀ datagram, outcome ≠ .hands datagram)
        ∧ ∀ k result, outcome = .returns k result →
          n'.closes j = true ∨ result = .failed .streamClosed)
    ∧ ∀ operation, operation ≠ .close →
      (n'.called .a operation).2 = .returns (n'.peer .a).calls (.failed .streamClosed) := by
  have hrun : ((narrowStart.follow? everything closedTogether).bind fun n =>
      (n.undergo? (.event (.turn .a (.call 4) .granted none))).bind fun mid =>
        (mid.follow? everything [.event (.call .a (.write [11]) none)]).map fun n' =>
          (n.outcome? .a (.event (.turn .a (.call 4) .granted none)),
            (n'.peer .a).session.calls.length)) = some (some (.returns 4 .closed), 1) := by
    decide +kernel
  obtain ⟨n, hfollow, hrest⟩ := Option.bind_eq_some_iff.mp hrun
  obtain ⟨mid, hstep, hrest⟩ := Option.bind_eq_some_iff.mp hrest
  obtain ⟨n', hlater, hview⟩ := Option.map_eq_some_iff.mp hrest
  obtain ⟨hclose, hcalls⟩ := Prod.mk.inj hview
  have hn := leads_of_follow? hfollow
  have hn' := leads_of_follow? hlater
  exact ⟨n, mid, n', 4, hn, hstep, hclose, hn', hcalls,
    Leads.silent_after_close narrowStart_isStart hn hstep hclose hn'⟩

end Network

end Redelivery
