import Redelivery.Proofs.Pieces
import Redelivery.Proofs.Session.Delivering

/-!
# Messages are put together

What a stream has on its way to its readers is made of the segments that were taken out of the
receive window: the messages that reads have returned, in that order, and one more that is whole or
in the making. It does not matter which of the reads took which segment, or gave up in between.

## Main definitions

* `Receipt`: what a read was called with, and what it has returned.
* `Stream.consumed?`: the segment that was taken out between two states of a stream.
* `Stream.Assembles`: the account of what was taken out and of what was returned.

## Main statements

* `Stream.Assembles.gets`: a reader's turn keeps the account.

Whether a segment was taken out is read off the two states: a base that has moved stands for the
segment that was there (`Stream.consumed?`). With that the account needs no record of its own of
what readers did. `Stream.Assembles` says that the pieces taken out add up to the messages returned
and the assembly of the stream, and its steps are the cases of `Stream.Gets`, which is all that a
turn of a reader can do. Most of them change neither side; one more message is returned by
`Stream.Assembles.empties`, and one more segment is taken out by `Stream.Assembles.advances`.

The last section turns the account round. It is an equation, so what a reader is about to do can be
told from it: whether the stream has a whole message depends on how many messages were put together
and how many were returned (`Stream.Assembles.next_eq`). These are the lemmas by which what is read
is known in advance. All of them are about open streams, since nothing is returned on a closed one.
-/

namespace Redelivery

/-- What a read was called with, and what it has returned. -/
structure Receipt where
  /-- The buffer that it was called with. -/
  buffer : Bytes
  /-- The length that it has returned. -/
  length : Nat
  /-- The buffer as it is afterwards. -/
  filled : Bytes
deriving DecidableEq, Repr

namespace Receipt

/-- The read has returned just this message. -/
structure Holds (r : Receipt) (message : Bytes) : Prop where
  /-- There was room for it. -/
  length_le : message.length ≤ r.buffer.length
  /-- Its length is returned. -/
  length_eq : r.length = message.length
  /-- It is in front of the buffer, and behind it nothing is changed. -/
  filled_eq : r.filled = message ++ r.buffer.drop message.length

/-- What a read has returned, if it has returned a message. -/
def of? (buffer : Bytes) : Option Reader.Outcome → Option Receipt
  | some (.ok (length, filled)) => some ⟨buffer, length, filled⟩
  | _ => none

theorem of?_eq_none {buffer : Bytes} {outcome? : Option Reader.Outcome}
    (h : Reader.Fruitless outcome?) : of? buffer outcome? = none := by
  cases h <;> rfl

end Receipt

namespace Stream

/-- The segment that was taken out of the receive window between two states of a stream: the one at
the base, if that has moved. -/
def consumed? (s s' : Stream) : Option (Segment Bytes) :=
  if s'.receiveWindow.base = s.receiveWindow.base then
    none
  else
    (s.receiveWindow.find? s.receiveWindow.base).map Segment.wire

/-- What was taken out of the receive window adds up to, when the messages in `front` were
returned. -/
def assembly (s : Stream) (front : List Bytes) : Assembly :=
  if s.complete then
    { messages := front ++ [s.assembled.toList] }
  else
    { messages := front, opened := s.assembled.toList }

/-- The account of a stream: the segments that were taken out of the receive window carried the
pieces in `log`, and reads have returned the messages in `front`. -/
structure Assembles (log : List Piece) (receipts : List Receipt) (front : List Bytes) (s : Stream) :
    Prop where
  /-- These messages were returned. -/
  holds : List.Forall₂ Receipt.Holds receipts front
  /-- They are the first ones. -/
  first : front <+: (assemble log).messages
  /-- The next one waits or is in the making, as long as the stream is open. -/
  assembly_eq : s.closed = false → assemble log = s.assembly front

variable {log : List Piece} {receipts : List Receipt} {front : List Bytes} {s s' : Stream}
  {inside : Prop} {buffer : Bytes} {outcome? : Option Reader.Outcome} {u : Segment Buffer}
  {w : Window Buffer}

/-! ## Segments that are taken out -/

theorem Withholds.consumed?_eq (h : s.Withholds s') : s.consumed? s' = none :=
  if_pos h.base

/-- The segment that is taken out is seen, since the base moves. -/
theorem consumed?_of_pop? (hpop : s.receiveWindow.pop? = some (u, w))
    (hafter : s'.receiveWindow.base = w.base) :
    s.consumed? s' = some u.wire ∧ s'.receiveWindow.base = s.receiveWindow.base.next := by
  obtain ⟨hfind, rfl⟩ := Window.pop?_eq_some_iff.mp hpop
  refine ⟨?_, hafter⟩
  unfold consumed?
  rw [hafter, if_neg, hfind, Option.map_some]
  exact Serial.next_ne _

theorem Gets.settings_eq (h : s.Gets inside buffer s' outcome?) : s'.settings = s.settings := by
  cases h with
  | nothing hwithholds => exact hwithholds.settings
  | keeps _ _ hwithholds => exact hwithholds.settings
  | empties _ _ hafter => exact hafter.settings
  | advances _ _ _ hafter => exact hafter.settings
  | overflows _ _ _ hafter => exact hafter.settings

/-- **Segments are taken out in sequence**, one in a turn. -/
theorem Gets.consumed?_cases (h : s.Gets inside buffer s' outcome?) :
    s.consumed? s' = none ∧ s'.receiveWindow.base = s.receiveWindow.base
      ∨ ∃ t, s.consumed? s' = some t ∧ t.seq = s.receiveWindow.base
        ∧ s'.receiveWindow.base = s.receiveWindow.base.next := by
  have hpopped {u : Segment Buffer} {w : Window Buffer} (hpop : s.receiveWindow.pop? = some (u, w))
      (hafter : s'.receiveWindow.base = w.base) : ∃ t, s.consumed? s' = some t
        ∧ t.seq = s.receiveWindow.base ∧ s'.receiveWindow.base = s.receiveWindow.base.next := by
    obtain ⟨hconsumed, hbase⟩ := consumed?_of_pop? hpop hafter
    have hseq : u.seq = s.receiveWindow.base :=
      Window.seq_of_find? (Window.pop?_eq_some_iff.mp hpop).1
    exact ⟨u.wire, hconsumed, hseq, hbase⟩
  cases h with
  | nothing hwithholds => exact Or.inl ⟨if_pos hwithholds.base, hwithholds.base⟩
  | keeps _ _ hwithholds => exact Or.inl ⟨if_pos hwithholds.base, hwithholds.base⟩
  | empties _ _ hafter => exact Or.inl ⟨if_pos hafter.base, hafter.base⟩
  | advances _ hpop _ hafter => exact Or.inr (hpopped hpop hafter.base)
  | overflows _ hpop _ hafter => exact Or.inr (hpopped hpop hafter.base)

/-! ## What is left for the next read -/

theorem Withholds.assembly_eq (h : s.Withholds s') (front : List Bytes) :
    s'.assembly front = s.assembly front := by
  unfold assembly
  rw [h.complete, h.assembled]

theorem assembly_of_complete (h : s.complete = true) (front : List Bytes) :
    s.assembly front = { messages := front ++ [s.assembled.toList] } :=
  if_pos h

theorem assembly_of_not_complete (h : s.complete = false) (front : List Bytes) :
    s.assembly front = { messages := front, opened := s.assembled.toList } := by
  unfold assembly
  rw [h, if_neg Bool.false_ne_true]

/-- A segment adds what it carries. -/
theorem assembly_advanced (h : s.complete = false) (u : Segment Buffer) (w : Window Buffer)
    (front : List Bytes) :
    (s.advanced u w).assembly front = (s.assembly front).add u.wire.piece := by
  rw [assembly_of_not_complete h]
  show (if (!u.more) = true then _ else _) = Assembly.add _ ⟨u.more, u.body.content⟩
  unfold Assembly.add
  cases u.more <;> simp [advanced]

namespace Assembles

theorem withholds (h : Assembles log receipts front s) (hwithholds : s.Withholds s') :
    Assembles log receipts front s' where
  holds := h.holds
  first := h.first
  assembly_eq hopen := by
    rw [hwithholds.assembly_eq]
    exact h.assembly_eq (Bool.eq_false_of_not_eq_true fun hclosed =>
      ne_true_of_eq_false hopen (hwithholds.closed hclosed))

/-- One more message is returned. -/
theorem empties (h : Assembles log receipts front s) (hopen : s.closed = false)
    (hcomplete : s.complete = true) (hlength : s.assembled.size ≤ buffer.length)
    (hafter : s.emptied.Withholds s') :
    Assembles log (receipts ++ [⟨buffer, s.assembled.size, buffer.overwrite s.assembled.toList⟩])
      (front ++ [s.assembled.toList]) s' := by
  have hlog : assemble log = { messages := front ++ [s.assembled.toList] } :=
    (h.assembly_eq hopen).trans (assembly_of_complete hcomplete front)
  have hmade : s.emptied.assembly (front ++ [s.assembled.toList])
      = { messages := front ++ [s.assembled.toList] } :=
    assembly_of_not_complete rfl _
  refine ⟨List.rel_append h.holds (.cons ⟨hlength, Array.length_toList.symm, rfl⟩ .nil), ?_,
    fun _ => ?_⟩
  · exact congrArg Assembly.messages hlog ▸ List.prefix_rfl
  · exact hlog.trans (hmade.symm.trans (hafter.assembly_eq _).symm)

/-- One more segment is taken out. -/
theorem advances (h : Assembles log receipts front s) (hopen : s.closed = false)
    (hcomplete : s.complete = false) (hafter : (s.advanced u w).Withholds s') :
    Assembles (log ++ [u.wire.piece]) receipts front s' where
  holds := h.holds
  first := h.first.trans (assemble_messages_mono (List.prefix_append _ _))
  assembly_eq _ := by
    rw [hafter.assembly_eq, assembly_advanced hcomplete, assemble_concat, h.assembly_eq hopen]

/-- A segment is taken out that closes the stream. -/
theorem overflows (h : Assembles log receipts front s) (hclosed : s'.closed = true) (p : Piece) :
    Assembles (log ++ [p]) receipts front s' where
  holds := h.holds
  first := h.first.trans (assemble_messages_mono (List.prefix_append _ _))
  assembly_eq hopen := absurd hclosed (ne_true_of_eq_false hopen)

/-- **A reader's turn keeps the account.** -/
theorem gets (h : Assembles log receipts front s) (hgets : s.Gets inside buffer s' outcome?) :
    ∃ front', Assembles (log ++ (s.consumed? s').toList.map Segment.piece)
      (receipts ++ (Receipt.of? buffer outcome?).toList) front' s' := by
  cases hgets with
  | nothing hwithholds hreason hfruitless =>
    rw [hwithholds.consumed?_eq, Receipt.of?_eq_none hfruitless]
    simp only [Option.toList_none, List.map_nil, List.append_nil]
    exact ⟨front, h.withholds hwithholds⟩
  | keeps hcomplete hlength hwithholds =>
    rw [hwithholds.consumed?_eq]
    simp only [Receipt.of?, Option.toList_none, List.map_nil, List.append_nil]
    exact ⟨front, h.withholds hwithholds⟩
  | empties hcomplete hlength hafter hopen =>
    have hnone : s.consumed? s' = none := if_pos hafter.base
    rw [hnone, Option.toList_none, List.map_nil, List.append_nil]
    exact ⟨_, h.empties hopen hcomplete hlength hafter⟩
  | advances hcomplete hpop hlength hafter hopen =>
    rw [(consumed?_of_pop? hpop hafter.base).1]
    simp only [Receipt.of?, Option.toList_none, List.append_nil]
    exact ⟨front, h.advances hopen hcomplete hafter⟩
  | overflows hcomplete hpop hlength hafter hopen hclosed =>
    rw [(consumed?_of_pop? hpop hafter.base).1]
    simp only [Receipt.of?, Option.toList_none, List.append_nil]
    exact ⟨front, h.overflows hclosed _⟩

/-! ### What the account tells of a turn -/

/-- Each receipt is for the message in its place. -/
theorem holds_of_getElem? (h : Assembles log receipts front s) {k : Nat} {r : Receipt}
    (hr : receipts[k]? = some r) :
    ∃ message, (assemble log).messages[k]? = some message ∧ r.Holds message := by
  obtain ⟨hk, rfl⟩ := List.getElem?_eq_some_iff.mp hr
  have hfront : k < front.length := h.holds.length_eq ▸ hk
  refine ⟨front[k], ?_, h.holds.get hk hfront⟩
  obtain ⟨rest, hrest⟩ := h.first
  rw [← hrest, List.getElem?_append_left hfront, List.getElem?_eq_getElem hfront]

/-- The message that waits is the first that was not returned. -/
theorem next_eq (h : Assembles log receipts front s) (hopen : s.closed = false) :
    (assemble log).messages[receipts.length]?
      = if s.complete then some s.assembled.toList else none := by
  rw [h.assembly_eq hopen, h.holds.length_eq]
  cases hcomplete : s.complete with
  | true => simp [assembly_of_complete hcomplete]
  | false => simp [assembly_of_not_complete hcomplete]

theorem complete_of_next (h : Assembles log receipts front s) (hopen : s.closed = false)
    {message : Bytes} (hnext : (assemble log).messages[receipts.length]? = some message) :
    s.complete = true ∧ s.assembled.toList = message := by
  rw [h.next_eq hopen] at hnext
  obtain ⟨hcomplete, heq⟩ := Option.ite_none_right_eq_some.mp hnext
  exact ⟨hcomplete, Option.some.inj heq⟩

theorem complete_of_next_eq_none (h : Assembles log receipts front s) (hopen : s.closed = false)
    (hnext : (assemble log).messages[receipts.length]? = none) : s.complete = false := by
  rw [h.next_eq hopen] at hnext
  cases hcomplete : s.complete with
  | true =>
    rw [hcomplete] at hnext
    cases hnext
  | false => rfl

theorem opened_eq (h : Assembles log receipts front s) (hopen : s.closed = false)
    (hcomplete : s.complete = false) : (assemble log).opened.length = s.assembled.size := by
  rw [h.assembly_eq hopen, assembly_of_not_complete hcomplete]
  exact Array.length_toList

/-- **A message that waits** is returned to the next reader inside, if there is room for it. -/
theorem answers (h : Assembles log receipts front s) (hgets : s.Gets inside buffer s' outcome?)
    (hinside : inside) (hopen : s.closed = false) {message : Bytes}
    (hnext : (assemble log).messages[receipts.length]? = some message) :
    outcome? = some (if message.length ≤ buffer.length then
      .ok (message.length, message ++ buffer.drop message.length)
    else
      .error (.readBufferTooSmall message.length buffer.length)) := by
  obtain ⟨hcomplete, rfl⟩ := h.complete_of_next hopen hnext
  rw [Array.length_toList]
  cases hgets with
  | nothing hwithholds hreason =>
    have hstarved := (hreason hinside).resolve_left (ne_true_of_eq_false hopen)
    exact absurd hcomplete (ne_true_of_eq_false hstarved.complete)
  | keeps hcomplete' hlength => rw [if_neg (Nat.not_le_of_lt hlength)]
  | empties hcomplete' hlength =>
    rw [if_pos hlength, Bytes.overwrite, Array.length_toList]
  | advances hpart => exact absurd hcomplete (ne_true_of_eq_false hpart)
  | overflows hpart => exact absurd hcomplete (ne_true_of_eq_false hpart)

/-- **A buffer that is too small** leaves the message where it is. -/
theorem keeps (h : Assembles log receipts front s) {size length : Nat}
    (hgets : s.Gets inside buffer s' (some (.error (.readBufferTooSmall size length)))) :
    (∃ message, (assemble log).messages[receipts.length]? = some message ∧ message.length = size)
      ∧ length = buffer.length ∧ buffer.length < size ∧ s.consumed? s' = none
      ∧ s'.closed = false := by
  generalize houtcome : some (Except.error (Failure.readBufferTooSmall size length)) = outcome?
    at hgets
  cases hgets with
  | nothing hwithholds hreason hfruitless =>
    rw [← houtcome] at hfruitless
    cases hfruitless
  | keeps hcomplete hlength hwithholds hopen hstill =>
    cases houtcome
    refine ⟨⟨s.assembled.toList, ?_, Array.length_toList⟩, rfl, hlength, hwithholds.consumed?_eq,
      hstill⟩
    rw [h.next_eq hopen, if_pos hcomplete]
  | _ => cases houtcome

/-- **The next segment** is taken out by the next reader inside, if no message waits. -/
theorem takes (h : Assembles log receipts front s) (hgets : s.Gets inside buffer s' outcome?)
    (hinside : inside) (hopen : s.closed = false)
    (hnext : (assemble log).messages[receipts.length]? = none)
    (hfind : s.receiveWindow.find? s.receiveWindow.base = some u) :
    s.consumed? s' = some u.wire := by
  have hpart := h.complete_of_next_eq_none hopen hnext
  have hpopped {v : Segment Buffer} {w : Window Buffer} (hpop : s.receiveWindow.pop? = some (v, w))
      (hafter : s'.receiveWindow.base = w.base) : s.consumed? s' = some u.wire := by
    obtain rfl := Option.some.inj ((Window.pop?_eq_some_iff.mp hpop).1.symm.trans hfind)
    exact (consumed?_of_pop? hpop hafter).1
  cases hgets with
  | nothing hwithholds hreason =>
    have hstarved := (hreason hinside).resolve_left (ne_true_of_eq_false hopen)
    rw [Window.pop?_eq_none_iff.mp hstarved.pop?_eq] at hfind
    cases hfind
  | keeps hcomplete => exact absurd hcomplete (ne_true_of_eq_false hpart)
  | empties hcomplete => exact absurd hcomplete (ne_true_of_eq_false hpart)
  | advances _ hpop _ hafter => exact hpopped hpop hafter.base
  | overflows _ hpop _ hafter => exact hpopped hpop hafter.base

/-- **A segment that is taken out** makes the message too long, or the reader goes on. -/
theorem of_consumed? (h : Assembles log receipts front s)
    (hgets : s.Gets inside buffer s' outcome?) {t : Segment Bytes}
    (hconsumed : s.consumed? s' = some t) :
    (assemble log).opened.length + t.body.length ≤ s.settings.maxMessage ∧ outcome? = none
        ∧ s'.closed = false
      ∨ s.settings.maxMessage < (assemble log).opened.length + t.body.length
        ∧ outcome? = some (.error (.messageTooLarge
          ((assemble log).opened.length + t.body.length) s.settings.maxMessage))
        ∧ s'.closed = true := by
  have hnone (hbase : s'.receiveWindow.base = s.receiveWindow.base) : False := by
    rw [consumed?, if_pos hbase] at hconsumed
    cases hconsumed
  cases hgets with
  | nothing hwithholds => exact (hnone hwithholds.base).elim
  | keeps _ _ hwithholds => exact (hnone hwithholds.base).elim
  | empties _ _ hafter => exact (hnone hafter.base).elim
  | advances hcomplete hpop hlength hafter hopen hstill =>
    obtain rfl := Option.some.inj ((consumed?_of_pop? hpop hafter.base).1.symm.trans hconsumed)
    rw [h.opened_eq hopen hcomplete]
    exact Or.inl ⟨hlength, rfl, hstill⟩
  | overflows hcomplete hpop hlength hafter hopen hclosed =>
    obtain rfl := Option.some.inj ((consumed?_of_pop? hpop hafter.base).1.symm.trans hconsumed)
    rw [h.opened_eq hopen hcomplete]
    exact Or.inr ⟨hlength, rfl, hclosed⟩

end Assembles

/-- **Nothing is returned on a closed stream.** -/
theorem Gets.of?_eq_none (h : s.Gets inside buffer s' outcome?) (hclosed : s.closed = true) :
    Receipt.of? buffer outcome? = none := by
  cases h with
  | nothing hwithholds hreason hfruitless => exact Receipt.of?_eq_none hfruitless
  | empties _ _ _ hopen => exact absurd hclosed (ne_true_of_eq_false hopen)
  | _ => rfl

end Stream

end Redelivery
