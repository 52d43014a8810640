import Redelivery.Proofs.Network.Bystanders
import Redelivery.Proofs.Session.Announcing

/-!
# How segments get their numbers

In a step of the network one of three things happens to what is numbered at a side. It stays as it
is; or one more segment gets a number, and is handed to the socket together with some of those
before it; or the last segment gives its number back, since the socket did not take it, and then the
stream is closed for good and nothing gets a number any more. So what has a number at the end of a
run has had it ever since it was handed over.

## Main definitions

* `Session.Announces`: in a turn, a call hands over a new segment.
* `Network.Numbers`: what a step does to what is numbered.
* `Peer.Extends`: what a run does to it.

## Main statements

* `Network.numbers`: a step.
* `Network.Reachable.extends_run`, `Network.Reachable.prefix_of_extends`: a run.

A step is taken apart by who has the turn. In a turn of a writer, `Peer.numbered?` tells whether a
segment has got a number, and `of_numbered?` finds out from that which turn it was: the writer has
handed over a datagram with the segment in it, and the stream was open. Whether a number is given
back is decided when the agent gets its signal (`assigned_signalled`), before anything else is done
in the turn; so `assigned_turned` treats both together, and `numbers` is by cases on it.

For a run, `Peer.Extends` is the transitive form: either what had numbers is the beginning of what
has them now, or the stream is closed and less has a number than before. The second case is for
good, `Reachable.length_assigned_le`. So whoever knows at the end of a run that as much has a number
as at some time before can exclude it, which is what `Reachable.prefix_of_extends` is for.
-/

namespace Redelivery

/-! ## In a turn -/

namespace Session

variable {s : Session} {t : Stream} {now id : Nat} {me : Agent} {signal : Signal} {piece : Piece}

/-- In the turn, the call hands over a new segment of the stream `s`, which is open. -/
def Announces (turn : Session × Outcome) (id : Nat) (s : Stream) : Prop :=
  ∃ rest datagram piggybacked,
    turn.1.call? id = some (.writing (.sending rest datagram piggybacked))
      ∧ turn.2 = .hands datagram ∧ s.closed = false
      ∧ s.Announces turn.1.stream datagram piggybacked

/-- **A segment that gets a number** is handed over by a writer. -/
theorem of_numbered? {turn : Session × Outcome} (h : Peer.numbered? turn.1 me turn.2 = some piece) :
    ∃ id rest made piggybacked datagram, me = .call id ∧ turn.2 = .hands datagram
      ∧ turn.1.call? id = some (.writing (.sending rest made piggybacked)) := by
  unfold Peer.numbered? at h
  split at h
  · rename_i id datagram houtcome
    split at h
    · exact ⟨id, _, _, _, datagram, rfl, houtcome, ‹_›⟩
    · cases h
  · cases h

theorem announces_of_recordWriter {r : Shared × Turn Writer Writer.Outcome}
    (h : Writer.Announcing t r) {rest : List Bytes} {made datagram : Bytes} {piggybacked : Nat}
    (hcall : (s.recordWriter id r).1.call? id = some (.writing (.sending rest made piggybacked)))
    (houtcome : (s.recordWriter id r).2 = .hands datagram) :
    Announces (s.recordWriter id r) id t := by
  have hstream : (s.recordWriter id r).1.stream = r.1.stream := stream_record ..
  obtain ⟨x, turn⟩ := r
  cases turn with
  | waits point => cases houtcome
  | returns result => cases houtcome
  | hands point d =>
    rw [recordWriter, call?_record] at hcall
    cases hcall
    obtain ⟨rfl, hopen, hannounces⟩ := h rest made piggybacked d rfl
    exact ⟨rest, made, piggybacked, by rw [recordWriter, call?_record]; rfl, rfl, hopen,
      by rwa [hstream]⟩

/-- **A segment that gets a number when a call is made**. -/
theorem announces_of_perform {operation : Operation}
    (h : Peer.numbered? (s.perform now id operation).1 (.call id) (s.perform now id operation).2
      = some piece) : Announces (s.perform now id operation) id s.stream := by
  obtain ⟨j, rest, made, piggybacked, datagram, hj, houtcome, hcall⟩ := of_numbered? h
  cases hj
  obtain ⟨message, rfl⟩ := exists_of_perform_writing hcall
  exact announces_of_recordWriter (Writer.begin_announcing s.shared (.call id) now message) hcall
    houtcome

/-- **A segment that gets a number in a later turn**. -/
theorem announces_of_resume
    (h : Peer.numbered? (s.resume now me signal).1 me (s.resume now me signal).2 = some piece) :
    ∃ id w, me = .call id ∧ s.call? id = some (.writing w)
      ∧ Announces (s.resume now me signal) id (Writer.settled s.stream w signal) := by
  obtain ⟨id, rest, made, piggybacked, datagram, rfl, houtcome, hcall⟩ := of_numbered? h
  obtain ⟨w, hw⟩ := exists_of_resume_writing hcall
  refine ⟨id, w, rfl, hw, ?_⟩
  rw [resume_writing hw] at hcall houtcome ⊢
  exact announces_of_recordWriter (Writer.resume_announcing s.shared (.call id) now w signal) hcall
    houtcome

end Session

theorem Writer.closed_settled (s : Stream) (w : Writer) (signal : Signal) :
    (settled s w signal).closed = s.closed := by
  unfold settled
  split <;> rfl

namespace Peer

/-- **What is numbered when an agent is about to get a signal**: the socket may have refused the
last segment. -/
theorem assigned_signalled (p : Peer) (me : Agent) (signal : Signal) :
    (p.signalled me signal).assigned = p.assigned
      ∨ (p.signalled me signal).assigned = p.assigned.dropLast
        ∧ ∃ id rest datagram piggybacked reason, me = .call id ∧ signal = .unsent reason
          ∧ p.session.call? id = some (.writing (.sending rest datagram piggybacked)) := by
  unfold signalled
  split
  · exact Or.inl rfl
  · split
    · exact Or.inl rfl
    · exact Or.inr ⟨rfl, _, _, _, _, _, rfl, rfl, ‹_›⟩
    · exact Or.inl rfl

end Peer

/-! ## In a step -/

namespace Network

variable {settings : ValidSettings} {n m n' : Network} {x : Side} {e : Event}

/-- What a step does to what is numbered at a side. -/
inductive Numbers (n : Network) (side : Side) (e : Event) (n' : Network) : Prop where
  /-- It stays as it is. -/
  | keeps (hassigned : (n'.peer side).assigned = (n.peer side).assigned)
  /-- One more segment gets a number. It is handed over. -/
  | adds {id : Nat} {rest : List Bytes} {datagram : Bytes} {piggybacked : Nat} {piece : Piece}
      {s : Stream} (hopen : (n.peer side).stream.closed = false)
      (hassigned : (n'.peer side).assigned = (n.peer side).assigned ++ [piece])
      (hcall : (n'.peer side).session.call? id
        = some (.writing (.sending rest datagram piggybacked)))
      (hhanded : n.handed? side (.event e) = some datagram)
      (hannounces : s.Announces (n'.peer side).stream datagram piggybacked)
  /-- The last one gives its number back, and the stream is closed. -/
  | takesBack (hassigned : (n'.peer side).assigned = (n.peer side).assigned.dropLast)
      (hclosed : (n'.peer side).stream.closed = true)

theorem assigned_commit (n : Network) (z : Side) (me : Agent) (p : Peer) (outcome : Outcome)
    (refusal : Option String) :
    ((n.commit z me p outcome refusal).peer z).assigned = p.assigned := by
  obtain ⟨verdict, hpeer, -⟩ := peer_commit n z me p outcome refusal
  rw [hpeer]
  rfl

theorem assigned_called (z : Side) (operation : Operation) :
    (n.called z operation).1.assigned = (n.peer z).assigned
      ++ (Peer.numbered? ((n.peer z).session.perform n.now (n.peer z).calls operation).1
        (.call (n.peer z).calls)
        ((n.peer z).session.perform n.now (n.peer z).calls operation).2).toList := by
  cases operation with
  | write message =>
    obtain ⟨entered, hin⟩ := (n.peer z).letIn_eq (n.peer z).calls message
    show ((n.peer z).letIn (n.peer z).calls message).assigned ++ _ = _
    rw [hin]
    rfl
  | _ => rfl

/-- What has a number after a turn, unless the last segment has given its number back, and the
stream is closed. -/
theorem assigned_turned (n : Network) (z : Side) (me : Agent) (signal : Signal) :
    (n.turned z me signal).1.assigned = (n.peer z).assigned
        ++ (Peer.numbered? ((n.peer z).session.resume n.now me signal).1 me
          ((n.peer z).session.resume n.now me signal).2).toList
      ∨ (n.turned z me signal).1.assigned = (n.peer z).assigned.dropLast
        ∧ ((n.peer z).session.resume n.now me signal).1.stream.closed = true := by
  have hassigned : (n.turned z me signal).1.assigned = ((n.peer z).signalled me signal).assigned
      ++ (Peer.numbered? ((n.peer z).session.resume n.now me signal).1 me
        ((n.peer z).session.resume n.now me signal).2).toList := rfl
  rcases (n.peer z).assigned_signalled me signal with
    hkept | ⟨hback, id, rest, datagram, piggybacked, reason, rfl, rfl, hcall⟩
  · exact Or.inl (by rw [hassigned, hkept])
  · -- the socket has refused the last segment
    have hfails : (n.peer z).session.resume n.now (.call id) (.unsent reason)
        = (n.peer z).session.recordWriter id (Writer.resume (n.peer z).session.shared (.call id)
          n.now (.sending rest datagram piggybacked) (.unsent reason)) :=
      Session.resume_writing hcall
    refine Or.inr ⟨?_, ?_⟩
    · rw [hassigned, hback, hfails]
      exact List.append_nil _
    · rw [hfails]
      exact (n.peer z).stream.closed_abandon

/-- A turn in which a segment got a number. -/
theorem Numbers.of_announces {turn : Session × Outcome} {id : Nat} {s : Stream} {piece : Piece}
    (h : Session.Announces turn id s) (hopen : (n.peer x).stream.closed = s.closed)
    (hsession : (n'.peer x).session = turn.1) (houtcome : n.outcome? x (.event e) = some turn.2)
    (hassigned : (n'.peer x).assigned = (n.peer x).assigned ++ [piece]) :
    n.Numbers x e n' := by
  obtain ⟨rest, datagram, piggybacked, hcall, hhands, hs, hannounces⟩ := h
  rw [← hsession] at hcall hannounces
  refine .adds (hopen.trans hs) hassigned hcall ?_ hannounces
  rw [handed?, houtcome, hhands]
  rfl

/-- **A step.** -/
theorem numbers (h : n.step? e = some n') (x : Side) : n.Numbers x e n' := by
  cases stepAt h x with
  | elsewhere hpeer => exact .keeps (by rw [hpeer])
  | called operation refusal =>
    have hassigned := n.assigned_called x operation
    cases hnumber : Peer.numbered? ((n.peer x).session.perform n.now (n.peer x).calls operation).1
        (.call (n.peer x).calls)
        ((n.peer x).session.perform n.now (n.peer x).calls operation).2 with
    | none =>
      rw [hnumber, Option.toList_none, List.append_nil] at hassigned
      exact .keeps ((assigned_commit ..).trans hassigned)
    | some piece =>
      rw [hnumber, Option.toList_some] at hassigned
      exact .of_announces (Session.announces_of_perform hnumber) rfl (undergo_call h).1
        (outcome?_call n x operation refusal) ((assigned_commit ..).trans hassigned)
  | @turned me signal refusal hallows =>
    have hsession := (undergo_turn h).2.1
    rcases n.assigned_turned x me signal with hassigned | ⟨hassigned, hclosed⟩
    · cases hnumber : Peer.numbered? ((n.peer x).session.resume n.now me signal).1 me
          ((n.peer x).session.resume n.now me signal).2 with
      | none =>
        rw [hnumber, Option.toList_none, List.append_nil] at hassigned
        exact .keeps ((assigned_commit ..).trans hassigned)
      | some piece =>
        rw [hnumber, Option.toList_some] at hassigned
        obtain ⟨id, w, -, -, hannounces⟩ := Session.announces_of_resume hnumber
        exact .of_announces hannounces (w.closed_settled _ signal).symm hsession
          (outcome?_turn n x me signal refusal) ((assigned_commit ..).trans hassigned)
    · refine .takesBack ((assigned_commit ..).trans hassigned) ?_
      show (Network.peer _ x).session.stream.closed = true
      rwa [hsession]

end Network

/-! ## In a run -/

/-- What was numbered has kept its number, or some was given back and the stream is closed. -/
def Peer.Extends (p p' : Peer) : Prop :=
  p.assigned <+: p'.assigned
    ∨ p'.assigned.length < p.assigned.length ∧ p'.stream.closed = true

namespace Network

variable {settings : ValidSettings} {n m n' : Network} {x : Side} {e : Event}

theorem Reachable.regular (h : Reachable settings n) (x : Side) : n.Regular settings x := by
  induction h with
  | @start n hstart =>
    have hleads : Leads everything n n := .refl n
    exact hleads.regular hstart x
  | step e h hstep ih => exact ih.step (i := .event e) hstep

theorem Reachable.extends_step (h : Reachable settings m) (hstep : m.step? e = some n')
    (hn : (n.peer x).Extends (m.peer x)) : (n.peer x).Extends (n'.peer x) := by
  have hclosed := (h.regular x).closed (i := .event e) hstep
  cases m.numbers hstep x with
  | keeps hassigned =>
    unfold Peer.Extends
    rw [hassigned]
    exact hn.imp_right fun ⟨hlt, hshut⟩ => ⟨hlt, hclosed hshut⟩
  | adds hopen hassigned =>
    rcases hn with hle | ⟨-, hshut⟩
    · exact Or.inl (hle.trans (hassigned ▸ List.prefix_append _ _))
    · cases hshut.symm.trans hopen
  | takesBack hassigned hshut =>
    unfold Peer.Extends
    rw [hassigned]
    rcases hn with hle | ⟨hlt, -⟩
    · rcases List.eq_nil_or_concat (m.peer x).assigned with hnil | ⟨others, last, hlast⟩
      · rw [hnil] at hle ⊢
        exact Or.inl hle
      · rw [hlast, List.concat_eq_append] at hle ⊢
        rw [List.dropLast_concat]
        rcases List.prefix_concat_iff.mp hle with heq | hle
        · exact Or.inr ⟨by rw [heq]; simp, hshut⟩
        · exact Or.inl hle
    · exact Or.inr ⟨by rw [List.length_dropLast]; omega, hshut⟩

theorem Reachable.extends_of_extends (h : Reachable settings m) {events : List Event}
    (hrun : m.run? events = some n') (hn : (n.peer x).Extends (m.peer x)) :
    (n.peer x).Extends (n'.peer x) := by
  induction events generalizing m with
  | nil =>
    cases hrun
    exact hn
  | cons e rest ih =>
    obtain ⟨mid, hmid, hrest⟩ := Option.bind_eq_some_iff.mp hrun
    exact ih (h.step e hmid) hrest (h.extends_step hmid hn)

/-- Once the stream is closed, nothing gets a number. -/
theorem Reachable.length_assigned_le (h : Reachable settings m) {events : List Event}
    (hrun : m.run? events = some n') (hclosed : (m.peer x).stream.closed = true) :
    (n'.peer x).assigned.length ≤ (m.peer x).assigned.length := by
  induction events generalizing m with
  | nil =>
    cases hrun
    exact Nat.le_refl _
  | cons e rest ih =>
    obtain ⟨mid, hmid, hrest⟩ := Option.bind_eq_some_iff.mp hrun
    refine Nat.le_trans (ih (h.step e hmid) hrest
      ((h.regular x).closed (i := .event e) hmid hclosed)) ?_
    cases m.numbers hmid x with
    | keeps hassigned => rw [hassigned]
    | adds hopen => cases hclosed.symm.trans hopen
    | takesBack hassigned => rw [hassigned, List.length_dropLast]; omega

/-- If as much has a number at the end of a run as once had, then that was never given back. -/
theorem Reachable.prefix_of_extends (h : Reachable settings m) {events : List Event}
    (hrun : m.run? events = some n') (hn : (n.peer x).Extends (m.peer x))
    (hlen : (n.peer x).assigned.length ≤ (n'.peer x).assigned.length) :
    (n.peer x).assigned <+: (m.peer x).assigned := by
  refine hn.resolve_right fun ⟨hlt, hclosed⟩ => ?_
  have hle := h.length_assigned_le hrun hclosed
  omega

/-- **A run.** -/
theorem Reachable.extends_run (h : Reachable settings n) {events : List Event}
    (hrun : n.run? events = some n') (x : Side) : (n.peer x).Extends (n'.peer x) :=
  h.extends_of_extends hrun (Or.inl (List.prefix_refl _))

end Network

end Redelivery
