import Redelivery.Proofs.Session.Holding

/-!
# Turns on a closed stream

On a stream that is closed nobody gets to work any more: whoever waits outside of the sections is
refused when its turn comes. A closer waits outside as well: until it owns the section for writing,
unless nobody does, and then in the same way for the one for reading.

## Main definitions

* `Turn.IsIdle`: a turn in which nothing is done.
* `Closer.Passes`: a closer gets past no section that another agent owns.

## Main statements

* `Reader.resume_idle`, `Writer.resume_idle`, `Flusher.resume_idle`: turns of those outside.
* `Closer.begin_passes`, `Closer.resume_passes`: turns of closers.

A point outside is one at which an agent has no section: a reader or a writer that stands in line,
the flusher between two flushes. Such an agent may be granted the section, and then its first look
is at the end of the stream. That is where `Reader.begin_of_closed` and `Writer.begin_of_closed`
come in: on a closed stream the agent leaves again at once, having done nothing.

Closers are different, as they are not refused. `Closer.Passes` says what a closer has found out
when it is past a section. It cannot say that nobody is inside now, for that is a matter of all
agents; this conclusion is drawn for sessions, where agents have what goes with their points.
-/

namespace Redelivery

/-! ## Idle turns -/

/-- Nothing is done in the turn: the agent still waits `outside`, or it ends with a result of the
kind `refused`. -/
inductive Turn.IsIdle {π ρ : Type} (outside : π → Prop) (refused : ρ → Prop) : Turn π ρ → Prop
  /-- The agent waits. -/
  | waits {p : π} (h : outside p) : IsIdle outside refused (.waits p)
  /-- The agent has ended. -/
  | returns {result : ρ} (h : refused result) : IsIdle outside refused (.returns result)

namespace Turn.IsIdle

variable {π π' ρ ρ' : Type} {outside : π → Prop} {refused : ρ → Prop} {turn : Turn π ρ}

theorem of_point? (h : turn.IsIdle outside refused) {p : π} (hp : turn.point? = some p) :
    outside p := by
  cases h with
  | waits h =>
    cases hp
    exact h
  | returns => cases hp

/-- The points and results may be seen as something else. -/
theorem map (h : turn.IsIdle outside refused) (f : π → π') (g : ρ → ρ') {outside' : π' → Prop}
    {refused' : ρ' → Prop} (houtside : ∀ p, outside p → outside' (f p))
    (hrefused : ∀ result, refused result → refused' (g result)) :
    (turn.map f g).IsIdle outside' refused' := by
  cases h with
  | waits h => exact .waits (houtside _ h)
  | returns h => exact .returns (hrefused _ h)

end Turn.IsIdle

namespace Reader

variable {x : Shared}

/-- The turn of a reader that is outside and stays there, or is refused. -/
abbrev IsIdle (turn : Turn Reader Outcome) : Prop :=
  turn.IsIdle (fun p => p.isInside = false) fun outcome => outcome = .error .streamClosed

theorem begin_of_closed (hclosed : x.stream.closed = true) (me : Agent) (buffer : Bytes) :
    begin x me buffer = (x, .returns (.error .streamClosed)) :=
  if_pos hclosed

theorem begin_idle (hclosed : x.stream.closed = true) (me : Agent) (buffer : Bytes) :
    IsIdle (begin x me buffer).2 := by
  rw [begin_of_closed hclosed]
  exact .returns rfl

theorem resume_idle (hclosed : x.stream.closed = true) {point : Reader}
    (hout : point.isInside = false) (me : Agent) (buffer : Bytes) (now : Nat) (signal : Signal) :
    IsIdle (resume x me buffer now point signal).2 := by
  cases point with
  | entering =>
    cases signal with
    | granted =>
      show IsIdle (proceed x me buffer).2
      unfold proceed
      rw [if_pos hclosed]
      exact .returns rfl
    | _ => exact .waits rfl
  | _ => cases hout

end Reader

namespace Writer

variable {x : Shared}

/-- The turn of a writer that is outside and stays there, or is refused. -/
abbrev IsIdle (turn : Turn Writer Outcome) : Prop :=
  turn.IsIdle (fun w => w.isInside = false) fun outcome => outcome = .error .streamClosed

theorem begin_of_closed (hclosed : x.stream.closed = true) (me : Agent) (now : Nat)
    (message : Bytes) : begin x me now message = (x, .returns (.error .streamClosed)) :=
  if_pos hclosed

theorem begin_idle (hclosed : x.stream.closed = true) (me : Agent) (now : Nat) (message : Bytes) :
    IsIdle (begin x me now message).2 := by
  rw [begin_of_closed hclosed]
  exact .returns rfl

theorem resume_idle (hclosed : x.stream.closed = true) {me : Agent} {point : Writer}
    (h : point.Holds me x) (hout : point.isInside = false) (now : Nat) (signal : Signal) :
    IsIdle (resume x me now point signal).2 := by
  cases point with
  | entering message =>
    cases signal with
    | granted =>
      show IsIdle (start x me now message).2
      rw [start_of_closed me hclosed now h]
      exact .returns rfl
    | _ => exact .waits rfl
  | _ => cases hout

end Writer

namespace Flusher

variable {x : Shared}

/-- The turn of the flusher when it is outside and stays there, or ends. -/
abbrev IsIdle (turn : Turn Flusher Unit) : Prop :=
  turn.IsIdle (fun p => p.isFlushing = false) fun _ => True

theorem tick_idle (hclosed : x.stream.closed = true) (now next : Nat) :
    IsIdle (tick x now next).2 := by
  unfold tick
  split
  · exact .waits rfl
  · split
    · exact .waits rfl
    · simp only
      rw [if_pos hclosed]
      exact .returns trivial

theorem resume_idle (hclosed : x.stream.closed = true) {point : Flusher}
    (hout : point.isFlushing = false) (now : Nat) (signal : Signal) :
    IsIdle (resume x now point signal).2 := by
  cases point with
  | waiting time =>
    cases signal with
    | due => exact tick_idle hclosed now _
    | closed => exact .returns trivial
    | _ => exact .waits rfl
  | flushing time flush => cases hout

end Flusher

/-! ## Closers wait for the owners of the sections -/

/-- Nobody else owns the section. -/
def Section.FreeBut {α : Type} (s : Section α) (me : α) : Prop :=
  ∀ agent, s.owner = some agent → agent = me

namespace Section

variable {α : Type} {s : Section α} {me : α}

theorem freeBut_of_isFree (h : s.isFree = true) (me : α) : s.FreeBut me := by
  intro agent howner
  rw [s.isFree_iff_owner_eq_none.mp h] at howner
  cases howner

theorem freeBut_of_owner (h : s.owner = some me) : s.FreeBut me := by
  intro agent howner
  exact Option.some.inj (howner.symm.trans h)

end Section

namespace Closer

variable {me : Agent} {x : Shared}

/-- The closer does not wait for the section for writing any more. -/
def IsPast (turn : Turn Closer Unit) : Prop :=
  turn = .returns () ∨ turn.point? = some enteringReading

/-- A closer has come past a section only if no other agent owns it, or if it had come past the one
for writing before. -/
structure Passes (me : Agent) (x : Shared) (before : Prop) (turn : Turn Closer Unit) : Prop where
  /-- The section for writing. -/
  writing : IsPast turn → before ∨ x.writing.FreeBut me
  /-- The section for reading. -/
  reading : turn = .returns () → x.reading.FreeBut me
  /-- A closer hands over nothing. -/
  idle : turn.IsIdle (fun _ => True) fun _ => True

theorem Passes.of_waits {before : Prop} {point : Closer}
    (h : point = enteringReading → before ∨ x.writing.FreeBut me) :
    Passes me x before (.waits point) where
  writing hpast := by
    rcases hpast with hturn | hpoint
    · cases hturn
    · exact h (Option.some.inj hpoint)
  reading hturn := by cases hturn
  idle := .waits trivial

theorem passReading_passes {before : Prop} (h : before ∨ x.writing.FreeBut me) :
    Passes me x before (passReading x me).2 := by
  unfold passReading
  split
  · rename_i hfree
    exact ⟨fun _ => h, fun _ => Section.freeBut_of_isFree hfree me, .returns trivial⟩
  · exact .of_waits fun _ => h

theorem passWriting_passes (x : Shared) (me : Agent) (before : Prop) :
    Passes me x before (passWriting x me).2 := by
  unfold passWriting
  split
  · rename_i hfree
    exact passReading_passes (Or.inr (Section.freeBut_of_isFree hfree me))
  · exact .of_waits fun hpoint => by cases hpoint

/-- **The first turn of a close** gets past no section that another agent owns. -/
theorem begin_passes (x : Shared) (me : Agent) (joins : Bool) :
    Passes me x False (begin x me joins).2 := by
  unfold begin
  simp only
  split
  · exact .of_waits fun hpoint => by cases hpoint
  · have hpasses := passWriting_passes { x with stream := x.stream.shut } me False
    exact ⟨hpasses.writing, hpasses.reading, hpasses.idle⟩

theorem closed_begin (x : Shared) (me : Agent) (joins : Bool) :
    (begin x me joins).1.stream.closed = true := by
  unfold begin
  simp only
  split
  · rfl
  · exact (passWriting_settles (x := { x with stream := x.stream.shut }) rfl me).respects.closed rfl

/-- **A turn of a closer** gets past no section that another agent owns. -/
theorem resume_passes {point : Closer} {signal : Signal}
    (hwriting : point = enteringWriting → signal = .granted → x.writing.owner = some me)
    (hreading : point = enteringReading → signal = .granted → x.reading.owner = some me) :
    Passes me x (point = enteringReading) (resume x me point signal).2 := by
  unfold resume
  split
  · exact passWriting_passes x me _
  · -- the owner of the section for writing leaves it, and then looks at the other one
    have hmine := Section.freeBut_of_owner (hwriting rfl rfl)
    have hpasses : Passes me (x.leaveWriting me) (x.writing.FreeBut me) _ :=
      passReading_passes (Or.inl hmine)
    exact ⟨fun _ => Or.inr hmine, hpasses.reading, hpasses.idle⟩
  · exact ⟨fun _ => Or.inl rfl, fun _ => Section.freeBut_of_owner (hreading rfl rfl),
      .returns trivial⟩
  · exact .of_waits Or.inl

end Closer

end Redelivery
