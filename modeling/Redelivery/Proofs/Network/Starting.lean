import Redelivery.Proofs.Network.Bystanders

/-!
# Writes that get hold of the section

A write gets hold of the section for writing at its call, if it finds the section free, or when its
turn in the line has come. It starts with its message at once then. So whoever is inside the section
has started in some incident before, and a write that returns was refused at its call, or it starts
in the incident in which it returns, or it was inside.

## Main definitions

* `Network.Starts`: an incident in which a write gets hold of the section.
* `Network.writes`: an incident in which a write has the turn.

## Main statements

* `Network.undergo_write`, `Network.Regular.starts_of_entering`: how a write starts.
* `Network.Regular.inside_or_starts`: whoever is inside was there before, or starts.
* `Network.Regular.of_returns`: how a write returns.

These are the lemmas by which runs are cut into the time before a write got hold of the section and
the time since. `undergo_write` is for the call itself and has three cases, by whether the write is
refused, finds the section free or has to stand in line. `Regular.starts_of_entering` is for a later
turn, in which the section is granted. In both cases `Starts` gives the turn that the write has
then, which is that of `Writer.start`, so that whoever uses it does not have to ask how the write
came there.
-/

namespace Redelivery.Network

variable {settings : ValidSettings} {n n' : Network} {x : Side} {i : Incident} {id : Nat}

/-- In the incident, the write `id` gets hold of the section for writing and starts with its
message. -/
structure Starts (n : Network) (side : Side) (id : Nat) (i : Incident) (n' : Network) : Prop where
  /-- It gets hold of the section. -/
  entered : ∃ message, (n'.peer side).entered = (n.peer side).entered ++ [(id, message)]
  /-- It starts. -/
  turn : ∃ y message, y.stream = (n.peer side).stream
    ∧ (n'.peer side).session
      = ((n.peer side).session.recordWriter id (Writer.start y (.call id) n.now message)).1
    ∧ n.outcome? side i
      = some ((n.peer side).session.recordWriter id (Writer.start y (.call id) n.now message)).2
  /-- It takes in nothing. -/
  ack : n.ack? side i = none
  /-- The call has a number. -/
  id_lt : id < (n'.peer side).calls

/-! ## How a write starts -/

/-- **The call of a write**: it is refused, or it starts, or it stands in line. -/
theorem undergo_write {message : Bytes} {refusal : Option String} (hid : id = (n.peer x).calls)
    (hstep : n.undergo? (.event (.call x (.write message) refusal)) = some n') :
    (∃ result, (n'.peer x).stream = (n.peer x).stream
        ∧ n.outcome? x (.event (.call x (.write message) refusal)) = some (.returns id result))
      ∨ n.Starts x id (.event (.call x (.write message) refusal)) n'
      ∨ (n'.peer x).session.call? id = some (.writing (.entering message))
        ∧ n.outcome? x (.event (.call x (.write message) refusal)) = some .waits := by
  subst hid
  obtain ⟨hsession, hcalls, hentered⟩ := undergo_call hstep
  have houtcome := n.outcome?_call x (.write message) refusal
  unfold Session.perform Session.write at hsession houtcome
  rcases Writer.begin_cases (n.peer x).session.shared (.call (n.peer x).calls) n.now message with
    ⟨outcome, heq, -⟩ | ⟨hopen, hlength, hmessage, heq⟩
  · simp only [heq] at hsession houtcome
    have hstream : (n'.peer x).session.stream = _ := congrArg Session.stream hsession
    exact Or.inl ⟨_, hstream, houtcome⟩
  · by_cases howner : ((n.peer x).session.shared.writing.enter (.call (n.peer x).calls)).owner
        = some (.call (n.peer x).calls)
    · simp only [heq, if_pos howner] at hsession houtcome
      have hletIn : ((n.peer x).letIn (n.peer x).calls message).entered
          = (n.peer x).entered ++ [((n.peer x).calls, message)] :=
        congrArg Peer.entered (if_pos ⟨hopen, hlength, hmessage, howner⟩)
      refine Or.inr (Or.inl ⟨⟨message, hentered.trans hletIn⟩,
        ⟨_, message, ?_, hsession, houtcome⟩, rfl, ?_⟩)
      · rfl
      · rw [hcalls]
        exact Nat.lt_succ_self _
    · simp only [heq, if_neg howner] at hsession houtcome
      refine Or.inr (Or.inr ⟨?_, houtcome⟩)
      rw [hsession]
      exact Session.call?_record ..

/-- **A write that stands in line** starts when it has a turn. -/
theorem Regular.starts_of_entering (h : n.Regular settings x) {message : Bytes} {signal : Signal}
    {refusal : Option String}
    (hcall : (n.peer x).session.call? id = some (.writing (.entering message)))
    (hstep : n.undergo? (.event (.turn x (.call id) signal refusal)) = some n') :
    n.Starts x id (.event (.turn x (.call id) signal refusal)) n' := by
  obtain ⟨hallows, hsession, hcalls, hentered⟩ := undergo_turn hstep
  obtain ⟨rfl, -⟩ := owner_of_allows hallows (Session.wait?_of_call? hcall)
  have houtcome := n.outcome?_turn x (.call id) .granted refusal
  rw [Session.resume_writing hcall] at hsession houtcome
  have hsignalled : ((n.peer x).signalled (.call id) .granted).entered
      = (n.peer x).entered ++ [(id, message)] := by
    simp [Peer.signalled, hcall]
  exact ⟨⟨message, hentered.trans hsignalled⟩, ⟨_, message, rfl, hsession, houtcome⟩, if_pos rfl,
    by rw [hcalls]; exact h.call_lt id _ hcall⟩

/-- **Whoever is inside the section** was there before, or starts now. -/
theorem Regular.inside_or_starts (h : n.Regular settings x) (hstep : n.undergo? i = some n')
    {w : Writer} (hcall : (n'.peer x).session.call? id = some (.writing w))
    (hin : w.isInside = true) :
    (∃ v, (n.peer x).session.call? id = some (.writing v) ∧ v.isInside = true)
      ∨ n.Starts x id i n' := by
  cases happens hstep x with
  | elsewhere hpeer =>
    rw [hpeer] at hcall
    exact Or.inl ⟨w, hcall, hin⟩
  | @called operation refusal hincident hsession =>
    by_cases hid : id = (n.peer x).calls
    · have hplaced := hcall
      rw [hsession, hid] at hplaced
      obtain ⟨message, rfl⟩ := Session.exists_of_perform_writing hplaced
      subst hincident
      rcases undergo_write hid hstep with ⟨result, -, houtcome⟩ | hstarts | ⟨hwaits, -⟩
      · simp [(happens hstep x).call?_eq_none_of_returns houtcome] at hcall
      · exact Or.inr hstarts
      · rw [hwaits] at hcall
        cases hcall
        cases hin
    · rw [hsession, Session.call?_perform_of_ne hid] at hcall
      exact Or.inl ⟨w, hcall, hin⟩
  | @turned me signal refusal hincident hallows hsession =>
    by_cases hme : me = .call id
    · subst hme hincident
      rw [hsession] at hcall
      obtain ⟨v, hv⟩ := Session.exists_of_resume_writing hcall
      rcases v.inside_or_entering with hinside | ⟨message, rfl⟩
      · exact Or.inl ⟨v, hv, hinside⟩
      · exact Or.inr (h.starts_of_entering hv hstep)
    · rw [hsession, Session.call?_resume_of_ne hme] at hcall
      exact Or.inl ⟨w, hcall, hin⟩
  | cancelled k hsession =>
    rw [hsession, Session.call?_cancel_eq] at hcall
    split at hcall
    · cases hcall
    · exact Or.inl ⟨w, hcall, hin⟩

/-! ## How a write returns -/

/-- Whether it is a write at the given side that has the turn. -/
def writes (n : Network) (side : Side) : Incident → Bool
  | .event (.call z (.write _) _) => z = side
  | .event (.turn z (.call id) _ _) =>
    z = side && match (n.peer side).session.call? id with
      | some (.writing _) => true
      | _ => false
  | _ => false

theorem exists_of_writes {signal : Signal} {refusal : Option String}
    (h : n.writes x (.event (.turn x (.call id) signal refusal)) = true) :
    ∃ w, (n.peer x).session.call? id = some (.writing w) := by
  have hwriting := (Bool.and_eq_true_iff.mp h).2
  split at hwriting
  · rename_i w hcall
    exact ⟨w, hcall⟩
  · cases hwriting

/-- **A write that returns** is refused at its call, or it starts and returns at once, or it was
inside the section. -/
theorem Regular.of_returns (h : n.Regular settings x) (hstep : n.undergo? i = some n')
    (hwrites : n.writes x i = true) {result : Result}
    (hreturns : n.outcome? x i = some (.returns id result)) :
    (∃ message refusal, i = .event (.call x (.write message) refusal)
        ∧ (n'.peer x).stream = (n.peer x).stream)
      ∨ n.Starts x id i n'
      ∨ ∃ w, (n.peer x).session.call? id = some (.writing w) ∧ w.isInside = true := by
  cases happens hstep x with
  | elsewhere hpeer houtcome => simp [houtcome] at hreturns
  | @called operation refusal hincident hsession hcalls houtcome =>
    subst hincident
    rw [houtcome] at hreturns
    have hid := (Session.of_perform_returns (Option.some.inj hreturns)).1
    cases operation with
    | read buffer => cases hwrites
    | close => cases hwrites
    | write message =>
      rcases undergo_write hid hstep with ⟨_, hstream, -⟩ | hstarts | ⟨-, hwaits⟩
      · exact Or.inl ⟨message, refusal, rfl, hstream⟩
      · exact Or.inr (Or.inl hstarts)
      · rw [← houtcome, hwaits] at hreturns
        cases hreturns
  | @turned me signal refusal hincident hallows hsession hcalls houtcome =>
    subst hincident
    rw [houtcome] at hreturns
    obtain ⟨rfl, -, -⟩ := Session.of_resume_returns (Option.some.inj hreturns)
    obtain ⟨w, hcall⟩ := exists_of_writes hwrites
    rcases w.inside_or_entering with hin | ⟨message, rfl⟩
    · exact Or.inr (Or.inr ⟨w, hcall, hin⟩)
    · exact Or.inr (Or.inl (h.starts_of_entering hcall hstep))
  | cancelled k hsession hcalls houtcome => simp [houtcome] at hreturns

end Redelivery.Network
