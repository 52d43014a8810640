import Redelivery.Proofs.Network.Closing
import Redelivery.Proofs.Session.Trying

/-!
# What is seen at one side

Most of what happens to a network happens at one side of it: a call is made there, or an agent gets
a turn, or a call is abandoned. All the rest leaves the session at that side as it was. This file
takes incidents apart in this way, and tells what is seen of a run at one side: the acknowledgements
that are taken in there, and the datagrams that are handed to the socket.

## Main definitions

* `Session.perform`: the first turn of a call.
* `Network.ack?`, `Network.acks`, `Network.handed`: what is seen of an incident and of a run.
* `Network.Happens`: what an incident does at one side.

## Main statements

* `Network.happens`: every incident does one of the few things that may happen at a side.
* `Network.follow?_concat`, `Network.acks_concat`, `Network.handed_concat`: runs, one incident after
  the other.
* `Network.Happens.call?_eq_none_of_returns`: whoever returns is no longer at work.
* `Network.Leads.call_lt`: calls have numbers.

Two things are prepared here for all that follows. `happens` has one case for each way in which a
session can change, with what is seen of it in that case, and it is proved once from `undergo_call`,
`undergo_turn` and `peer_cancel`; whoever goes through a run at one side takes its incidents apart
by it and never unfolds a step again.

And what is seen of a run is defined by recursion on it, incident by incident from its start, while
inductions go from its end: a run is what it was before the last incident, and that one.
`follow?_concat`, `history_concat` and `filterMap_history_concat` turn the one into the other. All
logs in the later files, of acknowledgements, datagrams, messages or times, are views of the same
history, so each of them needs no more than one line to grow by one entry.
-/

namespace Redelivery

/-! ## Sessions -/

namespace Session

variable {s : Session} {now id k : Nat} {operation : Operation} {me : Agent} {signal : Signal}
  {result : Result}

/-- The first turn of a call. -/
def perform (s : Session) (now id : Nat) : Operation → Session × Outcome
  | .read buffer => s.read id buffer
  | .write message => s.write now id message
  | .close => s.close id

theorem call?_perform_of_ne (hk : k ≠ id) :
    (s.perform now id operation).1.call? k = s.call? k := by
  cases operation with
  | read buffer => exact call?_record_of_ne s hk _ _
  | write message => exact call?_record_of_ne s hk _ _
  | close => exact call?_record_of_ne { s with joinable := false } hk _ _

theorem call?_resume_of_ne (hk : me ≠ .call k) :
    (s.resume now me signal).1.call? k = s.call? k := by
  unfold resume
  cases me with
  | flusher =>
    simp only
    split
    · rfl
    · exact call?_recordFlusher s _ k
  | call id =>
    have hne : k ≠ id := fun heq => hk (by rw [heq])
    simp only
    split
    · rfl
    · exact call?_record_of_ne s hne _ _
    · exact call?_record_of_ne s hne _ _
    · exact call?_record_of_ne s hne _ _

/-- A call that is not at work gets no turn. -/
theorem call?_resume_eq_none (h : s.call? k = none) :
    (s.resume now me signal).1.call? k = none := by
  by_cases hme : me = .call k
  · subst hme
    unfold resume
    simp only [h]
  · rw [call?_resume_of_ne hme, h]

/-- Only a write is a write after its first turn. -/
theorem exists_of_perform_writing {w : Writer}
    (h : (s.perform now id operation).1.call? id = some (.writing w)) :
    ∃ message, operation = .write message := by
  cases operation with
  | write message => exact ⟨message, rfl⟩
  | _ =>
    obtain ⟨point, -, heq⟩ := Turn.point?_map_eq_some_iff.mp ((call?_record ..).symm.trans h)
    cases heq

/-- Only a write is a write after a later turn. -/
theorem exists_of_resume_writing {w : Writer}
    (h : (s.resume now (.call id) signal).1.call? id = some (.writing w)) :
    ∃ v, s.call? id = some (.writing v) := by
  unfold resume at h
  cases hcall : s.call? id with
  | none => simp [hcall] at h
  | some c =>
    simp only [hcall] at h
    cases c with
    | writing v => exact ⟨v, rfl⟩
    | _ =>
      obtain ⟨point, -, heq⟩ := Turn.point?_map_eq_some_iff.mp ((call?_record ..).symm.trans h)
      cases heq

/-- The session without the call with the given number, if it is at work. -/
theorem call?_cancel_eq (s : Session) (id k : Nat) :
    (s.cancel id).call? k = if k = id then none else s.call? k := by
  cases hcall : s.call? id with
  | none =>
    rw [cancel_of_call?_eq_none hcall]
    split
    · rename_i heq
      rw [heq, hcall]
    · rfl
  | some c => exact call?_cancel hcall k

/-- Whoever returns in a turn is the agent whose turn it is, and it is not at work any more. -/
theorem of_record_returns {x : Shared} {turn : Turn Call Result}
    (h : (s.record id x turn).2 = .returns k result) :
    k = id ∧ (s.record id x turn).1.call? k = none := by
  cases turn with
  | returns outcome =>
    cases h
    exact ⟨rfl, call?_record s id x (.returns result)⟩
  | _ => cases h

theorem of_perform_returns (h : (s.perform now id operation).2 = .returns k result) :
    k = id ∧ (s.perform now id operation).1.call? k = none := by
  cases operation with
  | read buffer => exact of_record_returns h
  | write message => exact of_record_returns h
  | close => exact of_record_returns h

theorem of_resume_returns (h : (s.resume now me signal).2 = .returns k result) :
    me = .call k ∧ s.call? k ≠ none ∧ (s.resume now me signal).1.call? k = none := by
  unfold resume at h ⊢
  cases me with
  | flusher =>
    simp only at h
    split at h
    · cases h
    · exact absurd h (recordFlusher_ne_returns _ _ _ _)
  | call id =>
    simp only at h ⊢
    cases hcall : s.call? id with
    | none =>
      rw [hcall] at h
      cases h
    | some c =>
      rw [hcall] at h
      cases c with
      | reading buffer point =>
        obtain ⟨rfl, hnone⟩ := of_record_returns h
        exact ⟨rfl, by simp [hcall], hnone⟩
      | writing point =>
        obtain ⟨rfl, hnone⟩ := of_record_returns h
        exact ⟨rfl, by simp [hcall], hnone⟩
      | closing point =>
        obtain ⟨rfl, hnone⟩ := of_record_returns h
        exact ⟨rfl, by simp [hcall], hnone⟩

end Session

namespace Network

variable {settings : ValidSettings} {start n m n' : Network} {x : Side} {i : Incident}
  {run : List Incident}

/-! ## What is seen of a run -/

/-- The acknowledgement that an agent at one side takes in. -/
def ack? (n : Network) (side : Side) : Incident → Option (Serial × UInt32)
  | .event (.turn z _ signal _) => if z = side then (n.peer side).stream.told? signal else none
  | _ => none

/-- The datagram that an agent at one side hands to the socket. -/
def handed? (n : Network) (side : Side) (i : Incident) : Option Bytes :=
  (n.outcome? side i).bind Outcome.handed?

/-- The incidents of a run, each with the network in which it happens. -/
def history (n : Network) : List Incident → List (Network × Incident)
  | [] => []
  | i :: rest =>
    (n, i) :: match n.undergo? i with
      | some n' => n'.history rest
      | none => []

/-- The acknowledgements that are taken in at one side in a run, in that order. -/
def acks (n : Network) (side : Side) (run : List Incident) : List (Serial × UInt32) :=
  (n.history run).filterMap fun entry => entry.1.ack? side entry.2

/-- The datagrams that are handed to the socket at one side in a run, in that order. -/
def handed (n : Network) (side : Side) (run : List Incident) : List Bytes :=
  (n.history run).filterMap fun entry => entry.1.handed? side entry.2

/-- A run goes on with one more incident, if the rule allows that. -/
theorem follow?_concat_of_rule (rule : Rule) (n : Network) (run : List Incident) (i : Incident) :
    n.follow? rule (run ++ [i])
      = (n.follow? rule run).bind fun m => if rule m i then m.undergo? i else none := by
  induction run generalizing n with
  | nil =>
    show (if rule n i then (n.undergo? i).bind some else none)
      = if rule n i then n.undergo? i else none
    rw [Option.bind_fun_some]
  | cons j rest ih =>
    show (if rule n j then (n.undergo? j).bind fun m => m.follow? rule (rest ++ [i]) else none)
      = (if rule n j then (n.undergo? j).bind fun m => m.follow? rule rest else none).bind _
    split
    · rw [Option.bind_assoc]
      exact congrArg _ (funext fun m => ih m)
    · rfl

/-- A run goes on with one more incident. -/
theorem follow?_concat (n : Network) (run : List Incident) (i : Incident) :
    n.follow? everything (run ++ [i]) = (n.follow? everything run).bind (·.undergo? i) :=
  follow?_concat_of_rule everything n run i

/-- A run that keeps to a rule is a run. -/
theorem follow?_everything {rule : Rule} (h : n.follow? rule run = some m) :
    n.follow? everything run = some m := by
  induction run generalizing n with
  | nil => exact h
  | cons i rest ih =>
    obtain ⟨-, hbind⟩ := Option.ite_none_right_eq_some.mp h
    obtain ⟨mid, hmid, hrest⟩ := Option.bind_eq_some_iff.mp hbind
    exact Option.bind_eq_some_iff.mpr ⟨mid, hmid, ih hrest⟩

theorem history_concat (h : n.follow? everything run = some m) (i : Incident) :
    n.history (run ++ [i]) = n.history run ++ [(m, i)] := by
  induction run generalizing n with
  | nil =>
    cases h
    show (m, i) :: _ = [(m, i)]
    split <;> rfl
  | cons j rest ih =>
    obtain ⟨mid, hmid, hrest⟩ := Option.bind_eq_some_iff.mp h
    show (n, j) :: _ = (n, j) :: _
    simp only [hmid]
    exact congrArg _ (ih hrest)

/-- What is seen of a run is seen of its incidents, one after the other. -/
theorem filterMap_history_concat {α : Type} (h : n.follow? everything run = some m) (i : Incident)
    (view : Network × Incident → Option α) :
    (n.history (run ++ [i])).filterMap view
      = (n.history run).filterMap view ++ (view (m, i)).toList := by
  rw [history_concat h, List.filterMap_append]
  cases hview : view (m, i) <;> simp [hview]

theorem acks_concat (h : n.follow? everything run = some m) (i : Incident) :
    n.acks x (run ++ [i]) = n.acks x run ++ (m.ack? x i).toList :=
  filterMap_history_concat h i _

theorem handed_concat (h : n.follow? everything run = some m) (i : Incident) :
    n.handed x (run ++ [i]) = n.handed x run ++ (m.handed? x i).toList :=
  filterMap_history_concat h i _

theorem mem_handed_concat (h : n.follow? everything run = some m) {i : Incident} {d : Bytes} :
    d ∈ n.handed x (run ++ [i]) ↔ d ∈ n.handed x run ∨ m.handed? x i = some d := by
  rw [handed_concat h, List.mem_append, Option.mem_toList]

/-! ## What happens at a side -/

/-- What an incident does to the session at one side, and what is seen of it. -/
inductive Happens (n : Network) (side : Side) (i : Incident) (n' : Network) : Prop where
  /-- It happens elsewhere. -/
  | elsewhere (hpeer : n'.peer side = n.peer side) (houtcome : n.outcome? side i = none)
      (hack : n.ack? side i = none)
  /-- A call is made. -/
  | called {operation : Operation} {refusal : Option String}
      (hincident : i = .event (.call side operation refusal))
      (hsession : (n'.peer side).session
        = ((n.peer side).session.perform n.now (n.peer side).calls operation).1)
      (hcalls : (n'.peer side).calls = (n.peer side).calls + 1)
      (houtcome : n.outcome? side i
        = some ((n.peer side).session.perform n.now (n.peer side).calls operation).2)
      (hack : n.ack? side i = none)
  /-- An agent gets a turn. -/
  | turned {me : Agent} {signal : Signal} {refusal : Option String}
      (hincident : i = .event (.turn side me signal refusal))
      (hallows : n.allows side me signal = true)
      (hsession : (n'.peer side).session = ((n.peer side).session.resume n.now me signal).1)
      (hcalls : (n'.peer side).calls = (n.peer side).calls)
      (houtcome : n.outcome? side i = some ((n.peer side).session.resume n.now me signal).2)
      (hack : n.ack? side i = (n.peer side).stream.told? signal)
  /-- A call is abandoned. -/
  | cancelled (id : Nat) (hsession : (n'.peer side).session = (n.peer side).session.cancel id)
      (hcalls : (n'.peer side).calls = (n.peer side).calls) (houtcome : n.outcome? side i = none)
      (hack : n.ack? side i = none)

section

variable {me : Agent} {signal : Signal} {operation : Operation} {refusal : Option String}

theorem calls_commit (n : Network) (z : Side) (me : Agent) (p : Peer) (outcome : Outcome)
    (refusal : Option String) : ((n.commit z me p outcome refusal).peer z).calls = p.calls := by
  obtain ⟨verdict, heq, -⟩ := peer_commit n z me p outcome refusal
  rw [heq]
  rfl

theorem entered_commit (n : Network) (z : Side) (me : Agent) (p : Peer) (outcome : Outcome)
    (refusal : Option String) :
    ((n.commit z me p outcome refusal).peer z).entered = p.entered := by
  obtain ⟨verdict, heq, -⟩ := peer_commit n z me p outcome refusal
  rw [heq]
  rfl

theorem outcome?_call (n : Network) (x : Side) (operation : Operation) (refusal : Option String) :
    n.outcome? x (.event (.call x operation refusal))
      = some ((n.peer x).session.perform n.now (n.peer x).calls operation).2 := by
  refine (if_pos rfl).trans ?_
  cases operation <;> rfl

theorem outcome?_turn (n : Network) (x : Side) (me : Agent) (signal : Signal)
    (refusal : Option String) :
    n.outcome? x (.event (.turn x me signal refusal))
      = some ((n.peer x).session.resume n.now me signal).2 :=
  if_pos rfl

/-- **A call that is made** at a side. -/
theorem undergo_call (h : n.undergo? (.event (.call x operation refusal)) = some n') :
    (n'.peer x).session = ((n.peer x).session.perform n.now (n.peer x).calls operation).1
      ∧ (n'.peer x).calls = (n.peer x).calls + 1
      ∧ (n'.peer x).entered = (n.called x operation).1.entered := by
  cases h
  refine ⟨?_, ?_, entered_commit ..⟩
  · rw [session_commit]
    cases operation <;> rfl
  · rw [calls_commit]
    cases operation <;> rfl

/-- **A turn** at a side. -/
theorem undergo_turn (h : n.undergo? (.event (.turn x me signal refusal)) = some n') :
    n.allows x me signal = true
      ∧ (n'.peer x).session = ((n.peer x).session.resume n.now me signal).1
      ∧ (n'.peer x).calls = (n.peer x).calls
      ∧ (n'.peer x).entered = ((n.peer x).signalled me signal).entered := by
  obtain ⟨hallows, heq⟩ := Option.ite_none_right_eq_some.mp h
  cases heq
  refine ⟨hallows, session_commit .., ?_, entered_commit ..⟩
  obtain ⟨entered, assigned, hsignalled⟩ := Peer.signalled_eq (n.peer x) me signal
  rw [calls_commit]
  show ((n.peer x).signalled me signal).calls = (n.peer x).calls
  rw [hsignalled]

/-- **A call that is abandoned** at a side. -/
theorem peer_cancel (n : Network) (x : Side) (id : Nat) :
    ((n.withPeer x ((n.peer x).cancel id)).peer x).session = (n.peer x).session.cancel id
      ∧ ((n.withPeer x ((n.peer x).cancel id)).peer x).calls = (n.peer x).calls := by
  rw [peer_withPeer]
  cases hcall : (n.peer x).session.call? id with
  | none =>
    rw [Peer.cancel_of_call?_eq_none hcall, Session.cancel_of_call?_eq_none hcall]
    exact ⟨rfl, rfl⟩
  | some c =>
    rw [Peer.cancel_of_call? hcall]
    exact ⟨rfl, rfl⟩

end

/-- **Every incident does one of few things** at a side. -/
theorem happens (h : n.undergo? i = some n') (x : Side) : n.Happens x i n' := by
  cases i with
  | forge side datagram =>
    cases h
    exact .elsewhere rfl rfl rfl
  | cancel side id =>
    cases h
    rcases side.eq_or_eq_other x with rfl | rfl
    · obtain ⟨hsession, hcalls⟩ := n.peer_cancel x id
      exact .cancelled id hsession hcalls rfl rfl
    · exact .elsewhere (peer_withPeer_other ..) rfl rfl
  | event e =>
    cases e with
    | elapse span =>
      cases h
      exact .elsewhere rfl rfl rfl
    | call side operation refusal =>
      rcases side.eq_or_eq_other x with rfl | rfl
      · obtain ⟨hsession, hcalls, -⟩ := undergo_call h
        exact .called rfl hsession hcalls (outcome?_call ..) rfl
      · cases h
        exact .elsewhere (peer_commit_other ..) (if_neg side.other_ne.symm) rfl
    | turn side me signal refusal =>
      rcases side.eq_or_eq_other x with rfl | rfl
      · obtain ⟨hallows, hsession, hcalls, -⟩ := undergo_turn h
        exact .turned rfl hallows hsession hcalls (outcome?_turn ..) (if_pos rfl)
      · obtain ⟨-, heq⟩ := Option.ite_none_right_eq_some.mp h
        cases heq
        exact .elsewhere (peer_commit_other ..) (if_neg side.other_ne.symm)
          (if_neg side.other_ne.symm)

namespace Happens

theorem calls_le (h : n.Happens x i n') : (n.peer x).calls ≤ (n'.peer x).calls := by
  cases h with
  | elsewhere hpeer => rw [hpeer]
  | called hincident hsession hcalls =>
    rw [hcalls]
    exact Nat.le_succ _
  | turned hincident hallows hsession hcalls => rw [hcalls]
  | cancelled k hsession hcalls => rw [hcalls]

/-- Whoever returns is no longer at work. -/
theorem call?_eq_none_of_returns (h : n.Happens x i n') {id : Nat} {result : Result}
    (hreturns : n.outcome? x i = some (.returns id result)) :
    (n'.peer x).session.call? id = none := by
  cases h with
  | elsewhere hpeer houtcome =>
    rw [houtcome] at hreturns
    cases hreturns
  | called hincident hsession hcalls houtcome =>
    rw [houtcome] at hreturns
    rw [hsession]
    exact (Session.of_perform_returns (Option.some.inj hreturns)).2
  | turned hincident hallows hsession hcalls houtcome =>
    rw [houtcome] at hreturns
    rw [hsession]
    exact (Session.of_resume_returns (Option.some.inj hreturns)).2.2
  | cancelled k hsession hcalls houtcome =>
    rw [houtcome] at hreturns
    cases hreturns

/-- A call that is no longer at work stays so, and it does not return again. -/
theorem gone (h : n.Happens x i n') {id : Nat} (hcall : (n.peer x).session.call? id = none)
    (hlt : id < (n.peer x).calls) :
    (n'.peer x).session.call? id = none ∧ id < (n'.peer x).calls
      ∧ ∀ result, n.outcome? x i ≠ some (.returns id result) := by
  cases h with
  | elsewhere hpeer houtcome =>
    rw [hpeer, houtcome]
    exact ⟨hcall, hlt, by simp⟩
  | called hincident hsession hcalls houtcome =>
    have hne : id ≠ (n.peer x).calls := Nat.ne_of_lt hlt
    rw [hsession, hcalls, houtcome, Session.call?_perform_of_ne hne]
    refine ⟨hcall, Nat.lt_succ_of_lt hlt, fun result hreturns => ?_⟩
    exact hne (Session.of_perform_returns (Option.some.inj hreturns)).1
  | turned hincident hallows hsession hcalls houtcome =>
    rw [hsession, hcalls, houtcome]
    refine ⟨Session.call?_resume_eq_none hcall, hlt, fun result hreturns => ?_⟩
    exact (Session.of_resume_returns (Option.some.inj hreturns)).2.1 hcall
  | cancelled k hsession hcalls houtcome =>
    rw [hsession, hcalls, houtcome, Session.call?_cancel_eq, hcall]
    exact ⟨ite_self none, hlt, by simp⟩

/-- **Calls have numbers**: those that have been given away. -/
theorem call_lt (h : n.Happens x i n')
    (hlt : ∀ id c, (n.peer x).session.call? id = some c → id < (n.peer x).calls) (id : Nat)
    (c : Call) (hcall : (n'.peer x).session.call? id = some c) : id < (n'.peer x).calls := by
  cases h with
  | elsewhere hpeer =>
    rw [hpeer] at hcall ⊢
    exact hlt id c hcall
  | called hincident hsession hcalls =>
    rw [hsession] at hcall
    rw [hcalls]
    by_cases hid : id = (n.peer x).calls
    · rw [hid]
      exact Nat.lt_succ_self _
    · rw [Session.call?_perform_of_ne hid] at hcall
      exact Nat.lt_succ_of_lt (hlt id c hcall)
  | turned hincident hallows hsession hcalls =>
    rw [hsession] at hcall
    rw [hcalls]
    cases hbefore : (n.peer x).session.call? id with
    | none =>
      rw [Session.call?_resume_eq_none hbefore] at hcall
      cases hcall
    | some before => exact hlt id before hbefore
  | cancelled k hsession hcalls =>
    rw [hsession, Session.call?_cancel_eq] at hcall
    rw [hcalls]
    split at hcall
    · cases hcall
    · exact hlt id c hcall

end Happens

/-- Calls have numbers, whatever has happened. -/
theorem Leads.call_lt {rule : Rule} (h : start.Leads rule n) (hstart : start.IsStart settings)
    (x : Side) (id : Nat) (c : Call) (hcall : (n.peer x).session.call? id = some c) :
    id < (n.peer x).calls := by
  refine h.invariant (P := fun m => ∀ id c, (m.peer x).session.call? id = some c →
    id < (m.peer x).calls) ?_ ?_ id c hcall
  · obtain ⟨pool, traffic, now, heq⟩ := hstart.peer_eq x
    rw [heq]
    intro id c hcall
    cases hcall
  · intro mid i next hmid _ hstep
    exact (happens hstep x).call_lt hmid

end Network

end Redelivery
