import Redelivery.Proofs.Session.Flush
import Redelivery.Session.Closer
import Redelivery.Session.Flusher

/-!
# What the flusher and a closer do in a turn

The flusher only repeats what is in the send window, and only while it has the section for writing.
A closer does no more than to close the stream and to pass through the sections.

## Main definitions

* `Flusher.Move`, `Closer.Move`: what a turn can come to.

## Main statements

* `Flusher.resume_move`: the turns of the flusher.
* `Closer.begin_move`, `Closer.resume_move`: the turns of a closer.

`Flusher.Move` is parametrised by what is known of the datagrams of a flush, as it is with writers.
What is known when the flush begins, namely that they come from the send window, is known of those
that are left, until none is. In between the flusher owns the section, so nobody else can have
numbered anything.

Closers get by with two lemmas, `passReading_eq` and `passWriting_move`, since a closer that does
not have to wait at the first section goes on to the second one in the same turn.
-/

namespace Redelivery

/-! ## The flusher -/

namespace Flusher

/-- Whether the flusher is in the middle of a flush. -/
def isFlushing : Flusher → Bool
  | waiting _ => false
  | flushing _ _ => true

/-- The datagrams of a flush that are still to be handed over. -/
def resends : Flusher → List Bytes
  | waiting _ => []
  | flushing _ flush => flush.rest

/-- What a turn of the flusher can come to. `D` is what is known of the datagrams of a flush. -/
inductive Move (D : Bytes → Prop) (x : Shared) (point : Flusher) :
    Shared × Turn Flusher Unit → Prop
  /-- Nothing happens. -/
  | stays : Move D x point (x, .waits point)
  /-- The flusher waits for its next tick, or it ends. If it was in the middle of a flush, it has
  left the section. -/
  | rests {x' : Shared} {turn : Turn Flusher Unit} (halike : x.stream.Alike x'.stream)
      (hturn : turn = .returns () ∨ ∃ time, turn = .waits (waiting time))
      (hwriting : x'.writing
        = if point.isFlushing then x.writing.leave .flusher else x.writing) :
      Move D x point (x', turn)
  /-- The flusher is in the middle of a flush, and has the section. -/
  | resends {x' : Shared} {time : Nat} {flush : Flush} (halike : x.stream.Alike x'.stream)
      (hcurrent : D flush.current) (hrest : ∀ d ∈ flush.rest, D d)
      (hwriting : if point.isFlushing then x'.writing = x.writing
        else x.writing.isFree = true ∧ x'.writing = x.writing.enter .flusher) :
      Move D x point (x', .hands (flushing time flush) flush.current)

variable {D : Bytes → Prop} {x : Shared}

theorem leave_enter_of_isFree {s : Section Agent} (h : s.isFree = true) (agent : Agent) :
    (s.enter agent).leave agent = s := by
  obtain ⟨line⟩ := s
  cases line with
  | nil => simp [Section.enter, Section.leave]
  | cons => cases h

theorem tick_move (hD : ∀ d, x.stream.Sends d → D d) (now next time : Nat) :
    Move D x (waiting time) (tick x now next) := by
  unfold tick
  split
  · exact .rests ⟨rfl, rfl, rfl, rfl, rfl, rfl, id⟩ (Or.inr ⟨next, rfl⟩) rfl
  · split
    · exact .rests (.refl _) (Or.inr ⟨next, rfl⟩) rfl
    · rename_i writing henter
      -- the section is free, so the flusher is all alone in it
      obtain ⟨hfree, rfl⟩ := Section.tryEnter?_eq_some_iff.mp henter
      have hleave := leave_enter_of_isFree hfree .flusher
      simp only
      split
      · exact .rests (.refl _) (Or.inl rfl) hleave
      · have halike := Flush.begin_alike x.stream now
        have hall := Flush.all_begin x.stream now
        unfold flushed
        split
        · exact .rests halike (Or.inr ⟨next, rfl⟩) hleave
        · rename_i flush heq
          rw [heq] at hall
          exact .resends halike (hD _ hall.1) (fun d hd => hD d (hall.2 d hd)) ⟨hfree, rfl⟩
        · exact .rests halike (Or.inl rfl) hleave

/-- **A turn of the flusher.** -/
theorem resume_move (hD : ∀ d, x.stream.Sends d → D d) (now : Nat) {point : Flusher}
    (hresends : ∀ d ∈ point.resends, D d) (signal : Signal) :
    Move D x point (resume x now point signal) := by
  cases point with
  | waiting time =>
    cases signal with
    | due => exact tick_move hD now _ time
    | closed => exact .rests (.refl _) (Or.inl rfl) rfl
    | _ => exact .stays
  | flushing time flush =>
    cases signal with
    | sent =>
      have halike := flush.sent_alike x.stream
      have hall := Flush.all_sent (f := flush) hresends x.stream
      show Move D x _ (flushed _ time (flush.sent x.stream).2)
      unfold flushed
      split
      · exact .rests halike (Or.inr ⟨time, rfl⟩) rfl
      · rename_i next heq
        rw [heq] at hall
        exact .resends halike hall.1 hall.2 rfl
      · exact .rests halike (Or.inl rfl) rfl
    | unsent reason => exact .rests (flush.unsent_alike x.stream reason) (Or.inl rfl) rfl
    | _ => exact .stays

end Flusher

/-! ## Closers -/

namespace Closer

/-- What a turn of a closer can come to. It never hands over a datagram. -/
inductive Move (me : Agent) (x : Shared) (granted : Prop) : Shared × Turn Closer Unit → Prop
  /-- The closer is somewhere else. -/
  | passes {x' : Shared} {turn : Turn Closer Unit} (halike : x.Alike x')
      (hturn : ∀ point datagram, turn ≠ .hands point datagram) : Move me x granted (x', turn)
  /-- The closer stands in line for the section for writing. -/
  | enters {x' : Shared} {point : Closer} (halike : x.stream.Alike x'.stream)
      (hfree : x.writing.isFree = false) (hwriting : x'.writing = x.writing.enter me) :
      Move me x granted (x', .waits point)
  /-- The closer leaves the section for writing. -/
  | leaves {x' : Shared} {turn : Turn Closer Unit} (hgranted : granted)
      (halike : x.stream.Alike x'.stream) (hwriting : x'.writing = x.writing.leave me)
      (hturn : ∀ point datagram, turn ≠ .hands point datagram) : Move me x granted (x', turn)

variable {me : Agent} {x : Shared} {granted : Prop}

theorem passReading_eq (x : Shared) (me : Agent) :
    ∃ x' turn, passReading x me = (x', turn) ∧ x'.stream = x.stream ∧ x'.writing = x.writing
      ∧ ∀ point datagram, turn ≠ .hands point datagram := by
  unfold passReading
  split
  · exact ⟨_, _, rfl, rfl, rfl, by simp⟩
  · exact ⟨_, _, rfl, rfl, rfl, by simp⟩

theorem passWriting_move {x' : Shared} (h : x.Alike x') :
    Move me x granted (passWriting x' me) := by
  unfold passWriting
  split
  · obtain ⟨y, turn, heq, hstream, hwriting, hturn⟩ := passReading_eq x' me
    rw [heq]
    exact .passes ⟨by rw [hstream]; exact h.stream, by rw [hwriting]; exact h.writing⟩ hturn
  · rename_i hfree
    rw [h.writing] at hfree
    exact .enters h.stream (by simpa using hfree) (by rw [h.writing])

/-- **The start of a close.** -/
theorem begin_move (x : Shared) (me : Agent) (joins : Bool) :
    Move me x granted (begin x me joins) := by
  have halike : x.Alike { x with stream := x.stream.shut } := .of_stream x.stream.alike_shut
  unfold begin
  simp only
  split
  · exact .passes halike (by simp)
  · exact passWriting_move halike

/-- **A turn of a closer.** -/
theorem resume_move (x : Shared) (me : Agent) (point : Closer) (signal : Signal) :
    Move me x (point = enteringWriting ∧ signal = .granted) (resume x me point signal) := by
  have hstay : Move me x (point = enteringWriting ∧ signal = .granted) (x, .waits point) :=
    .passes (.refl x) (by simp)
  cases point with
  | joining =>
    cases signal with
    | ended => exact passWriting_move (.refl x)
    | _ => exact hstay
  | enteringWriting =>
    cases signal with
    | granted =>
      obtain ⟨y, turn, heq, hstream, hwriting, hturn⟩ := passReading_eq (x.leaveWriting me) me
      show Move me x _ (passReading (x.leaveWriting me) me)
      rw [heq]
      exact .leaves ⟨rfl, rfl⟩ (by rw [hstream]; exact .refl _) hwriting hturn
    | _ => exact hstay
  | enteringReading =>
    cases signal with
    | granted => exact .passes ⟨.refl _, rfl⟩ (by simp)
    | _ => exact hstay

end Closer

end Redelivery
