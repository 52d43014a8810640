import Redelivery.Proofs.Session.Flusher
import Redelivery.Proofs.Session.Reader
import Redelivery.Proofs.Session.Writer
import Redelivery.Session

/-!
# Who works inside the section for writing

Only the owner of the section for writing adds segments or repeats them. A session is *orderly* if
this shows at the points at which its agents wait: whoever waits at a point inside the section owns
it. So at most one does, and that one is found by looking at the owner.

## Main definitions

* `Turn.point?`: where an agent is after a turn.
* `Session.Inside`, `Session.Orderly`: an agent is inside; only owners are.
* `Session.Aside`: a turn of a call that is outside.
* `Session.writer?`: the writer inside the section.

## Main statements

* `Session.call?_place`, `Session.call?_forget`: the calls after a turn.
* `Session.Orderly.update`: a turn keeps a session orderly.
* `Session.writer?_congr`: other agents leave the writer alone.
* `Session.Aside.orderly`, `Session.Orderly.recordWriter`: two kinds of turns.

All there is to show of a turn is about calls by number. `Session.call?_record` and
`Session.call?_record_of_ne` say where the call that had the turn is found and that all others are
found where they were, and whatever is a statement about all calls is kept by these two:
`Orderly.update` is the general form of that. It asks that nobody but the one who had the turn comes
or loses the section by it.

`writer?` is how later files speak of the writer inside. It is defined from the owner, so that it
computes, and `Orderly.writer?_eq` is the way back: whoever is found at a point inside is that one.
`Session.Aside` is the case of a call that is outside before and after its turn, in which everything
about writers stays as it was.
-/

namespace Redelivery

/-! ## Turns and sections -/

namespace Turn

variable {π π' ρ ρ' : Type}

/-- The point at which an agent waits after a turn. -/
def point? : Turn π ρ → Option π
  | waits point => some point
  | hands point _ => some point
  | returns _ => none

theorem point?_map (f : π → π') (g : ρ → ρ') (turn : Turn π ρ) :
    (turn.map f g).point? = turn.point?.map f := by
  cases turn <;> rfl

theorem point?_map_eq_some_iff {f : π → π'} {g : ρ → ρ'} {turn : Turn π ρ} {q : π'} :
    (turn.map f g).point? = some q ↔ ∃ p, turn.point? = some p ∧ f p = q := by
  rw [point?_map, Option.map_eq_some_iff]

end Turn

namespace Section

variable {α : Type}

theorem owner_enter_of_owner {s : Section α} {a : α} (h : s.owner = some a) (agent : α) :
    (s.enter agent).owner = some a := by
  rw [owner_enter, h, Option.some_or]

theorem owner_enter_of_isFree {s : Section α} (h : s.isFree = true) (agent : α) :
    (s.enter agent).owner = some agent := by
  rw [owner_enter, s.isFree_iff_owner_eq_none.mp h, Option.none_or]

/-- Whoever owns the section keeps it when another one leaves. -/
theorem owner_leave_of_ne [DecidableEq α] {s : Section α} {a agent : α} (h : s.owner = some a)
    (hne : a ≠ agent) : (s.leave agent).owner = some a := by
  obtain ⟨line⟩ := s
  cases line with
  | nil => cases h
  | cons b rest =>
    cases h
    -- another one that leaves stands behind the owner, or not in line at all
    show ((a :: rest).erase agent).head? = some a
    rw [List.erase_cons_tail (by simpa using hne)]
    rfl

end Section

namespace Session

/-! ## Calls -/

theorem lookup_cons_eq (i : Nat) (c : Call) (rest : List (Nat × Call)) (j : Nat) :
    List.lookup j ((i, c) :: rest) = if j = i then some c else List.lookup j rest := by
  rw [List.lookup_cons]
  by_cases h : j = i
  · rw [if_pos h, h, beq_self_eq_true]
  · rw [if_neg h, beq_false_of_ne h]

theorem lookup_map_eq (id : Nat) (call : Call) (calls : List (Nat × Call)) (j : Nat) :
    List.lookup j (calls.map fun entry => if entry.1 == id then (id, call) else entry)
      = if j = id then (List.lookup id calls).map fun _ => call else List.lookup j calls := by
  induction calls with
  | nil => simp
  | cons entry rest ih =>
    obtain ⟨i, c⟩ := entry
    rw [List.map_cons]
    by_cases hi : i = id
    · rw [if_pos (by simpa using hi), lookup_cons_eq, ih, hi, lookup_cons_eq, lookup_cons_eq]
      by_cases hj : j = id
      · simp [hj]
      · simp [hj]
    · rw [if_neg (by simpa using hi), lookup_cons_eq, ih, lookup_cons_eq, lookup_cons_eq,
        if_neg (Ne.symm hi)]
      by_cases hj : j = i
      · rw [if_pos hj, if_pos hj, if_neg (by rwa [hj])]
      · rw [if_neg hj, if_neg hj]

theorem lookup_filter_eq (id : Nat) (calls : List (Nat × Call)) (j : Nat) :
    List.lookup j (calls.filter fun entry => entry.1 != id)
      = if j = id then none else List.lookup j calls := by
  induction calls with
  | nil => simp
  | cons entry rest ih =>
    obtain ⟨i, c⟩ := entry
    by_cases hi : i = id
    · rw [List.filter_cons_of_neg (by simpa using hi), ih, hi, lookup_cons_eq]
      by_cases hj : j = id
      · rw [if_pos hj, if_pos hj]
      · rw [if_neg hj, if_neg hj, if_neg hj]
    · rw [List.filter_cons_of_pos (by simpa using hi), lookup_cons_eq, ih, lookup_cons_eq]
      by_cases hj : j = i
      · rw [if_pos hj, if_pos hj, if_neg (by rwa [hj])]
      · rw [if_neg hj, if_neg hj]

theorem wait?_of_call? {s : Session} {id : Nat} {c : Call} (h : s.call? id = some c) :
    s.wait? (.call id) = some c.wait := by
  show (s.call? id).map Call.wait = some c.wait
  rw [h, Option.map_some]

/-- A call that is placed is found where it was placed. -/
theorem call?_place (s : Session) (id : Nat) (call : Call) (j : Nat) :
    (s.place id call).call? j = if j = id then some call else s.call? j := by
  unfold call? place
  split
  · rename_i hany
    show List.lookup j (s.calls.map _) = _
    rw [lookup_map_eq]
    cases hlookup : List.lookup id s.calls with
    | some c => rfl
    | none =>
      obtain ⟨entry, hentry, hid⟩ := List.any_eq_true.mp hany
      have hne := List.lookup_eq_none_iff.mp hlookup entry hentry
      rw [eq_of_beq hid, bne_self_eq_false] at hne
      cases hne
  · rename_i hany
    -- no call has the number, so the new one at the end is the one that is found
    have hnone : List.lookup id s.calls = none := by
      rw [List.lookup_eq_none_iff]
      intro entry hentry
      refine bne_iff_ne.mpr fun heq => hany (List.any_eq_true.mpr ⟨entry, hentry, ?_⟩)
      exact beq_iff_eq.mpr heq.symm
    show List.lookup j (s.calls ++ [(id, call)]) = _
    rw [List.lookup_append, lookup_cons_eq]
    by_cases hj : j = id
    · rw [if_pos hj, if_pos hj, hj, hnone, Option.none_or]
    · rw [if_neg hj, if_neg hj]
      exact Option.or_none

/-- A call that is forgotten is not found. -/
theorem call?_forget (s : Session) (id j : Nat) :
    (s.forget id).call? j = if j = id then none else s.call? j :=
  lookup_filter_eq id s.calls j

@[simp]
theorem shared_place (s : Session) (id : Nat) (call : Call) :
    (s.place id call).shared = s.shared := by
  unfold place
  split <;> rfl

@[simp]
theorem flusher_place (s : Session) (id : Nat) (call : Call) :
    (s.place id call).flusher = s.flusher := by
  unfold place
  split <;> rfl

@[simp]
theorem shared_forget (s : Session) (id : Nat) : (s.forget id).shared = s.shared :=
  rfl

@[simp]
theorem flusher_forget (s : Session) (id : Nat) : (s.forget id).flusher = s.flusher :=
  rfl

/-! ## What is recorded of a turn -/

@[simp]
theorem shared_record (s : Session) (id : Nat) (x : Shared) (turn : Turn Call Result) :
    (s.record id x turn).1.shared = x := by
  cases turn with
  | waits call => exact shared_place _ id call
  | hands call datagram => exact shared_place _ id call
  | returns result => rfl

theorem stream_record (s : Session) (id : Nat) (x : Shared) (turn : Turn Call Result) :
    (s.record id x turn).1.stream = x.stream :=
  congrArg Shared.stream (shared_record s id x turn)

@[simp]
theorem flusher_record (s : Session) (id : Nat) (x : Shared) (turn : Turn Call Result) :
    (s.record id x turn).1.flusher = s.flusher := by
  cases turn with
  | waits call => exact flusher_place _ id call
  | hands call datagram => exact flusher_place _ id call
  | returns result => rfl

theorem call?_record_of_ne (s : Session) {id j : Nat} (hj : j ≠ id) (x : Shared)
    (turn : Turn Call Result) : (s.record id x turn).1.call? j = s.call? j := by
  cases turn with
  | waits call => exact (call?_place _ id call j).trans (if_neg hj)
  | hands call datagram => exact (call?_place _ id call j).trans (if_neg hj)
  | returns result => exact (call?_forget _ id j).trans (if_neg hj)

/-- After its turn a call is at the point that the turn has taken it to, if it is still there. -/
theorem call?_record (s : Session) (id : Nat) (x : Shared) (turn : Turn Call Result) :
    (s.record id x turn).1.call? id = turn.point? := by
  cases turn with
  | waits call => exact (call?_place _ id call id).trans (if_pos rfl)
  | hands call datagram => exact (call?_place _ id call id).trans (if_pos rfl)
  | returns result => exact (call?_forget _ id id).trans (if_pos rfl)

/-- A turn of a read. -/
theorem resume_reading {s : Session} {now id : Nat} {signal : Signal} {buffer : Bytes} {r : Reader}
    (h : s.call? id = some (.reading buffer r)) :
    s.resume now (.call id) signal
      = s.recordReader id buffer (Reader.resume s.shared (.call id) buffer now r signal) := by
  unfold resume
  simp only [h]

/-- A turn of a write. -/
theorem resume_writing {s : Session} {now id : Nat} {signal : Signal} {w : Writer}
    (h : s.call? id = some (.writing w)) :
    s.resume now (.call id) signal
      = s.recordWriter id (Writer.resume s.shared (.call id) now w signal) := by
  unfold resume
  simp only [h]

theorem shared_recordFlusher (s : Session) (r : Shared × Turn Flusher Unit) :
    (s.recordFlusher r).1.shared = r.1 := by
  obtain ⟨x, turn⟩ := r
  cases turn <;> rfl

theorem call?_recordFlusher (s : Session) (r : Shared × Turn Flusher Unit) (id : Nat) :
    (s.recordFlusher r).1.call? id = s.call? id := by
  obtain ⟨x, turn⟩ := r
  cases turn <;> rfl

theorem flusher_recordFlusher (s : Session) (r : Shared × Turn Flusher Unit) :
    (s.recordFlusher r).1.flusher = r.2.point? := by
  obtain ⟨x, turn⟩ := r
  cases turn <;> rfl

/-! ## Inside the section -/

/-- The agent waits at a point inside the section for writing. -/
def Inside (s : Session) : Agent → Prop
  | .call id => ∃ w, s.call? id = some (.writing w) ∧ w.isInside = true
  | .flusher => ∃ point, s.flusher = some point ∧ point.isFlushing = true

/-- Only the owner of the section for writing is inside. -/
def Orderly (s : Session) : Prop :=
  ∀ agent, s.Inside agent → s.shared.writing.owner = some agent

/-- The writer inside the section for writing, if there is one, with the number of its call. -/
def writer? (s : Session) : Option (Nat × Writer) :=
  match s.shared.writing.owner with
  | some (.call id) =>
    match s.call? id with
    | some (.writing w) => if w.isInside then some (id, w) else none
    | _ => none
  | _ => none

theorem writer?_eq_some {s : Session} {id : Nat} {w : Writer} (h : s.writer? = some (id, w)) :
    s.shared.writing.owner = some (.call id) ∧ s.call? id = some (.writing w)
      ∧ w.isInside = true := by
  unfold writer? at h
  split at h
  · rename_i j howner
    split at h
    · rename_i v hcall
      split at h
      · rename_i hin
        cases h
        exact ⟨howner, hcall, hin⟩
      · cases h
    · cases h
  · cases h

theorem Orderly.writer?_eq {s : Session} (h : s.Orderly) {id : Nat} {w : Writer}
    (hcall : s.call? id = some (.writing w)) (hin : w.isInside = true) :
    s.writer? = some (id, w) := by
  have howner := h (.call id) ⟨w, hcall, hin⟩
  unfold writer?
  simp only [howner, hcall, hin, if_true]

theorem writer?_eq_none {s : Session} (h : ∀ id, ¬ s.Inside (.call id)) : s.writer? = none := by
  cases hw : s.writer? with
  | none => rfl
  | some found =>
    obtain ⟨-, hcall, hin⟩ := writer?_eq_some hw
    exact absurd ⟨found.2, hcall, hin⟩ (h found.1)

/-- While the flusher is in the middle of a flush, no writer is inside. -/
theorem Orderly.writer?_eq_none_of_flushing {s : Session} (h : s.Orderly) {point : Flusher}
    (hpoint : s.flusher = some point) (hin : point.isFlushing = true) : s.writer? = none := by
  have howner := h .flusher ⟨point, hpoint, hin⟩
  apply writer?_eq_none
  intro id hinside
  have hother := h (.call id) hinside
  rw [howner] at hother
  cases hother

/-- A turn of an agent keeps a session orderly if no other comes or loses the section by it. -/
theorem Orderly.update {s s' : Session} (h : s.Orderly) (me : Agent)
    (hothers : ∀ agent, agent ≠ me → s'.Inside agent → s.Inside agent)
    (howner : ∀ agent, agent ≠ me → s.shared.writing.owner = some agent →
      s'.shared.writing.owner = some agent)
    (hme : s'.Inside me → s'.shared.writing.owner = some me) : s'.Orderly := by
  intro agent hin
  by_cases hagent : agent = me
  · rw [hagent] at hin ⊢
    exact hme hin
  · exact howner agent hagent (h agent (hothers agent hagent hin))

/-- The writer inside the section is the same if the same calls are at the same points inside. -/
theorem writer?_congr {s s' : Session} (h : s.Orderly) (h' : s'.Orderly)
    (hsame : ∀ id w, w.isInside = true →
      (s'.call? id = some (.writing w) ↔ s.call? id = some (.writing w))) :
    s'.writer? = s.writer? := by
  cases hw : s.writer? with
  | some found =>
    obtain ⟨id, w⟩ := found
    obtain ⟨-, hcall, hin⟩ := writer?_eq_some hw
    exact h'.writer?_eq ((hsame id w hin).mpr hcall) hin
  | none =>
    apply writer?_eq_none
    rintro id ⟨w, hcall, hin⟩
    have hsome := h.writer?_eq ((hsame id w hin).mp hcall) hin
    rw [hw] at hsome
    cases hsome

/-- What a turn of a call that is outside the section, before and after it, does to a session apart
from the stream. -/
structure Aside (s s' : Session) (id : Nat) : Prop where
  /-- The call was outside. -/
  before : ¬ s.Inside (.call id)
  /-- It is outside now. -/
  after : ¬ s'.Inside (.call id)
  /-- Other calls stay where they are. -/
  others : ∀ j, j ≠ id → s'.call? j = s.call? j
  /-- The flusher stays where it is. -/
  flusher : s'.flusher = s.flusher
  /-- Whoever else owns the section keeps it. -/
  owner : ∀ agent, agent ≠ .call id → s.shared.writing.owner = some agent →
    s'.shared.writing.owner = some agent

namespace Aside

variable {s s' : Session} {id : Nat}

theorem inside_iff (h : Aside s s' id) {j : Nat} (hj : j ≠ id) :
    s'.Inside (.call j) ↔ s.Inside (.call j) := by
  show (∃ w, s'.call? j = some (.writing w) ∧ _) ↔ ∃ w, s.call? j = _ ∧ _
  rw [h.others j hj]

theorem orderly (h : Aside s s' id) (hs : s.Orderly) : s'.Orderly := by
  apply hs.update (.call id) _ h.owner fun hin => absurd hin h.after
  intro agent hagent hin
  cases agent with
  | call j =>
    have hj : j ≠ id := by
      intro heq
      exact hagent (by rw [heq])
    exact (h.inside_iff hj).mp hin
  | flusher =>
    obtain ⟨point, hpoint, hflushing⟩ := hin
    rw [h.flusher] at hpoint
    exact ⟨point, hpoint, hflushing⟩

theorem writer?_eq (h : Aside s s' id) (hs : s.Orderly) : s'.writer? = s.writer? := by
  refine writer?_congr hs (h.orderly hs) fun j w hin => ?_
  by_cases hj : j = id
  · subst hj
    constructor
    · intro hcall
      exact absurd ⟨w, hcall, hin⟩ h.after
    · intro hcall
      exact absurd ⟨w, hcall, hin⟩ h.before
  · rw [h.others j hj]

end Aside

/-- What is recorded of a turn does not depend on the shared state before it. -/
theorem record_withShared (s : Session) (y : Shared) (id : Nat) (x : Shared)
    (turn : Turn Call Result) :
    ({ s with shared := y } : Session).record id x turn = s.record id x turn := by
  cases turn <;> rfl

/-- A turn that does not take a call inside. -/
theorem aside_record {s : Session} {id : Nat} {x : Shared} {turn : Turn Call Result}
    (hbefore : ¬ s.Inside (.call id))
    (hpoint : ∀ w, turn.point? = some (.writing w) → w.isInside = false)
    (howner : ∀ agent, agent ≠ .call id → s.shared.writing.owner = some agent →
      x.writing.owner = some agent) : s.Aside (s.record id x turn).1 id where
  before := hbefore
  after := by
    rintro ⟨w, hw, hin⟩
    rw [call?_record] at hw
    rw [hpoint w hw] at hin
    cases hin
  others j hj := call?_record_of_ne s hj x turn
  flusher := flusher_record s id x turn
  owner agent hne hagent := by
    rw [shared_record]
    exact howner agent hne hagent

/-- After a turn of the owner of the section, nobody else is inside. -/
theorem Orderly.recordWriter {s : Session} (h : s.Orderly) {id : Nat}
    (howner : s.shared.writing.owner = some (.call id))
    {r : Shared × Turn Writer Writer.Outcome}
    (hme : (s.recordWriter id r).1.Inside (.call id) → r.1.writing.owner = some (.call id)) :
    (s.recordWriter id r).1.Orderly := by
  apply h.update (.call id)
  · intro agent hne hin
    cases agent with
    | call j =>
      obtain ⟨w, hw, hinside⟩ := hin
      rw [show (s.recordWriter id r).1.call? j = s.call? j from
        call?_record_of_ne s (fun heq => hne (by rw [heq])) r.1 _] at hw
      exact ⟨w, hw, hinside⟩
    | flusher =>
      obtain ⟨point, hpoint, hflushing⟩ := hin
      rw [show (s.recordWriter id r).1.flusher = s.flusher from flusher_record s id r.1 _] at hpoint
      exact ⟨point, hpoint, hflushing⟩
  · intro agent hne hagent
    rw [howner] at hagent
    exact absurd (Option.some.inj hagent).symm hne
  · rw [show (s.recordWriter id r).1.shared = r.1 from shared_record s id r.1 _]
    exact hme

end Session

end Redelivery
