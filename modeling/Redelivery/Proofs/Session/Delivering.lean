import Redelivery.Proofs.Session.Evolution
import Redelivery.Proofs.Session.Listening

/-!
# What a reader gets

A reader that has the section gets on with the next message as soon as there is anything to get on
with, whoever has received that and however many reads have begun on the message before. This file
says for each of its turns what it returns, and what is left of the message for the next read.

## Main definitions

* `Stream.Starved`: there is nothing to get on with.
* `Reader.Fruitless`: a turn that has nothing to do with the messages.
* `Stream.Gets`: what a reader gets out of a stream in a turn, and what it makes of the stream.
* `Reader.awaits`: signals that end the wait of a reader.

## Main statements

* `Reader.begin_gets`, `Reader.resume_gets`: the turns of a reader.

A reader looks at the message that waits, then at the next segment, and it does so in every turn in
which it is inside the section; `proceed_gets` follows it. So it does not matter which reader took
out the first part of a message, or whether that one was abandoned: what was put together so far is
kept by the stream. `Gets.of_alike` makes that precise. What a reader gets does not depend on the
sending half, on the counters or on the pool.

`begin_gets` and `resume_gets` say when a reader is inside. At its call it is if the section is
free; in a later turn it is, unless it still stands in line. `awaits` excludes signals that it does
not wait for; after those it would rest where it is.
-/

namespace Redelivery

/-- What an agent has ended with, if it has. -/
def Turn.result? {π ρ : Type} : Turn π ρ → Option ρ
  | waits _ => none
  | hands _ _ => none
  | returns result => some result

/-- A reader goes on, or it returns for a reason that lies outside the messages. -/
inductive Reader.Fruitless : Option Reader.Outcome → Prop
  /-- It does not return. -/
  | goesOn : Fruitless none
  /-- The stream is closed. -/
  | closed : Fruitless (some (.error .streamClosed))
  /-- The socket has failed. -/
  | fault (reason : String) : Fruitless (some (.error (.socket reason)))

namespace Stream

/-- No message waits for a reader, and the next segment is not there. -/
structure Starved (s : Stream) : Prop where
  /-- No message is whole. -/
  complete : s.complete = false
  /-- The next segment is not there. -/
  pop?_eq : s.receiveWindow.pop? = none

/-- What a reader with the given buffer gets out of the stream `s` in a turn: the stream that it
leaves, and the result that it returns with, if it returns. If the reader is `inside` the section,
it takes whatever there is. -/
inductive Gets (inside : Prop) (s : Stream) (buffer : Bytes) :
    Stream → Option Reader.Outcome → Prop
  /-- It gets nothing, and returns no message. -/
  | nothing {s' : Stream} {outcome? : Option Reader.Outcome} (hwithholds : s.Withholds s')
      (hreason : inside → s.closed = true ∨ s.Starved) (hfruitless : Reader.Fruitless outcome?) :
      Gets inside s buffer s' outcome?
  /-- Its buffer is too small for the message that waits, which stays. -/
  | keeps {s' : Stream} (hcomplete : s.complete = true) (hlength : buffer.length < s.assembled.size)
      (hwithholds : s.Withholds s') (hopen : s.closed = false) (hstill : s'.closed = false) :
      Gets inside s buffer s' (some (.error (.readBufferTooSmall s.assembled.size buffer.length)))
  /-- It gets the message that waits. -/
  | empties {s' : Stream} (hcomplete : s.complete = true)
      (hlength : s.assembled.size ≤ buffer.length) (hafter : s.emptied.Withholds s')
      (hopen : s.closed = false) :
      Gets inside s buffer s'
        (some (.ok (s.assembled.size, buffer.overwrite s.assembled.toList)))
  /-- It appends the next segment to the message. -/
  | advances {s' : Stream} {u : Segment Buffer} {w : Window Buffer} (hcomplete : s.complete = false)
      (hpop : s.receiveWindow.pop? = some (u, w))
      (hlength : s.assembled.size + u.body.length ≤ s.settings.maxMessage)
      (hafter : (s.advanced u w).Withholds s') (hopen : s.closed = false)
      (hstill : s'.closed = false) : Gets inside s buffer s' none
  /-- The next segment makes the message too long, and it closes the stream. -/
  | overflows {s' : Stream} {u : Segment Buffer} {w : Window Buffer}
      (hcomplete : s.complete = false) (hpop : s.receiveWindow.pop? = some (u, w))
      (hlength : s.settings.maxMessage < s.assembled.size + u.body.length)
      (hafter : (s.popped w).Withholds s') (hopen : s.closed = false) (hclosed : s'.closed = true) :
      Gets inside s buffer s'
        (some (.error (.messageTooLarge (s.assembled.size + u.body.length) s.settings.maxMessage)))

variable {s t s' : Stream} {inside : Prop} {buffer : Bytes} {outcome? : Option Reader.Outcome}

theorem Drained.starved (h : s.Drained) : s.Starved :=
  ⟨h.complete, h.pop?_eq⟩

/-- What a reader gets does not depend on the rest of the stream. -/
theorem Gets.of_alike (h : s.Alike t) (hclosed : t.closed = s.closed)
    (hgets : t.Gets inside buffer s' outcome?) : s.Gets inside buffer s' outcome? := by
  have hst := Withholds.of_alike h
  cases hgets with
  | nothing hwithholds hreason hfruitless =>
    refine .nothing (hst.trans hwithholds) (fun hin => ?_) hfruitless
    rw [← hclosed]
    refine (hreason hin).imp_right fun hstarved => ⟨?_, ?_⟩
    · rw [← h.complete, hstarved.complete]
    · rw [← h.receiveWindow, hstarved.pop?_eq]
  | keeps hcomplete hlength hwithholds hopen hstill =>
    rw [h.complete] at hcomplete
    rw [h.assembled] at hlength ⊢
    exact .keeps hcomplete hlength (hst.trans hwithholds) (hclosed ▸ hopen) hstill
  | empties hcomplete hlength hafter hopen =>
    rw [h.complete] at hcomplete
    rw [h.assembled] at hlength ⊢
    exact .empties hcomplete hlength ((Withholds.of_alike h.emptied).trans hafter) (hclosed ▸ hopen)
  | advances hcomplete hpop hlength hafter hopen hstill =>
    rw [h.complete] at hcomplete
    rw [h.receiveWindow] at hpop
    rw [h.assembled, h.settings] at hlength
    exact .advances hcomplete hpop hlength ((Withholds.of_alike (h.advanced _ _)).trans hafter)
      (hclosed ▸ hopen) hstill
  | overflows hcomplete hpop hlength hafter hopen hshut =>
    rw [h.complete] at hcomplete
    rw [h.receiveWindow] at hpop
    rw [h.assembled, h.settings] at hlength ⊢
    exact .overflows hcomplete hpop hlength ((Withholds.of_alike (h.popped _)).trans hafter)
      (hclosed ▸ hopen) hshut

end Stream

namespace Reader

/-- Whether a reader waits for the signal. -/
def awaits : Reader → Signal → Bool
  | entering, .granted => true
  | acking _ _, .sent => true
  | acking _ _, .unsent _ => true
  | receiving, .arrived _ => true
  | receiving, .closed => true
  | replying _, .sent => true
  | replying _, .unsent _ => true
  | _, _ => false

variable {x : Shared} {me : Agent} {buffer : Bytes} {inside : Prop}

/-- A reader that has nothing to get on with. -/
theorem gets_nothing {r : Shared × Turn Reader Outcome}
    (hwithholds : x.stream.Withholds r.1.stream)
    (hreason : x.stream.closed = true ∨ x.stream.Starved) (hfruitless : Fruitless r.2.result?) :
    x.stream.Gets inside buffer r.1.stream r.2.result? :=
  .nothing hwithholds (fun _ => hreason) hfruitless

/-- **A reader inside gets whatever there is.** -/
theorem proceed_gets (x : Shared) (me : Agent) (buffer : Bytes) :
    x.stream.Gets inside buffer (proceed x me buffer).1.stream (proceed x me buffer).2.result? := by
  unfold proceed
  split
  · rename_i hclosed
    exact gets_nothing (r := finish x me _) (.refl _) (Or.inl hclosed) .closed
  · rename_i hopen
    have hopen := Bool.eq_false_of_not_eq_true hopen
    have hdeliver := x.stream.deliver_delivers buffer
    generalize x.stream.deliver buffer = r at hdeliver ⊢
    cases hdeliver with
    | keeps hcomplete hlength => exact .keeps hcomplete hlength (.refl _) hopen hopen
    | empties hcomplete hlength => exact .empties hcomplete hlength (.refl _) hopen
    | starves hcomplete hpop =>
      simp only
      split
      · rw [acknowledge_eq_hands]
        exact gets_nothing (r := (_, .hands _ _)) (.of_alike x.stream.alike_acknowledge)
          (Or.inr ⟨hcomplete, hpop⟩) .goesOn
      · exact gets_nothing (r := (x, .waits _)) (.refl _) (Or.inr ⟨hcomplete, hpop⟩) .goesOn
    | overflows hcomplete hpop hlength =>
      exact .overflows hcomplete hpop hlength ⟨rfl, rfl, rfl, rfl, fun _ => rfl⟩ hopen rfl
    | advances hcomplete hpop hlength =>
      -- the segment is acknowledged, which leaves the message alone
      simp only [acknowledge_eq_hands]
      exact .advances hcomplete hpop hlength ⟨rfl, rfl, rfl, rfl, id⟩ hopen hopen

/-- **The start of a read.** It is inside at once if the section is free. -/
theorem begin_gets (x : Shared) (me : Agent) (buffer : Bytes) :
    x.stream.Gets (x.reading.isFree = true) buffer (begin x me buffer).1.stream
      (begin x me buffer).2.result? := by
  unfold begin
  split
  · rename_i hclosed
    exact gets_nothing (r := (x, .returns _)) (.refl _) (Or.inl hclosed) .closed
  · simp only
    split
    · exact proceed_gets { x with reading := x.reading.enter me } me buffer
    · rename_i howner
      refine .nothing (.refl _) (fun hfree => absurd ?_ howner) .goesOn
      exact Section.owner_enter_of_isFree hfree me

/-- **A turn of a reader.** Whatever has just arrived is there for it. -/
theorem resume_gets {now : Nat} {point : Reader} {signal : Signal}
    (hawaits : point.awaits signal = true)
    (hrest : point.isResting = true ∨ point.isListening = true → x.stream.Drained) :
    (x.stream.heard now signal).Gets inside buffer (resume x me buffer now point signal).1.stream
      (resume x me buffer now point signal).2.result? := by
  have hsent (datagram : Bytes) : x.stream.Gets inside buffer
      (proceed { x with stream := x.stream.countSent datagram } me buffer).1.stream
      (proceed { x with stream := x.stream.countSent datagram } me buffer).2.result? :=
    (proceed_gets { x with stream := x.stream.countSent datagram } me buffer).of_alike
      (x.stream.alike_countSent datagram) rfl
  cases point with
  | entering =>
    cases signal with
    | granted => exact proceed_gets x me buffer
    | _ => cases hawaits
  | acking datagram again =>
    cases again with
    | true =>
      cases signal with
      | sent => exact hsent datagram
      | unsent reason => exact proceed_gets x me buffer
      | _ => cases hawaits
    | false =>
      have hstarved := (hrest (Or.inl rfl)).starved
      cases signal with
      | sent =>
        exact gets_nothing (r := (_, .waits _)) (.of_alike (x.stream.alike_countSent datagram))
          (Or.inr hstarved) .goesOn
      | unsent reason =>
        exact gets_nothing (r := (x, .waits _)) (.refl _) (Or.inr hstarved) .goesOn
      | _ => cases hawaits
  | receiving =>
    have hdrained := hrest (Or.inl rfl)
    cases signal with
    | arrived arrival =>
      cases arrival with
      | fault reason =>
        exact gets_nothing (r := finish x me _) (.refl _) (Or.inr hdrained.starved) (.fault reason)
      | datagram raw =>
        cases hreply : (x.stream.receive now raw).2 with
        | none =>
          rw [resume_arrived_eq me buffer hreply]
          exact proceed_gets { x with stream := (x.stream.receive now raw).1 } me buffer
        | some header =>
          -- what is answered at once brings no segments
          have hstarved := ((Stream.retains_of_reply hreply).drained hdrained).starved
          rw [resume_arrived_eq_of_reply me buffer hreply]
          exact gets_nothing (x := { x with stream := (x.stream.receive now raw).1 })
            (.of_alike (Stream.alike_control _ _)) (Or.inr hstarved) .goesOn
    | closed =>
      exact gets_nothing (r := finish x me _) (.refl _) (Or.inr hdrained.starved) .closed
    | _ => cases hawaits
  | replying datagram =>
    cases signal with
    | sent => exact hsent datagram
    | unsent reason => exact proceed_gets x me buffer
    | _ => cases hawaits

end Reader

end Redelivery
