import Mathlib.Data.List.Basic
import Redelivery.Segment

/-!
# Messages in pieces

A segment without its serial number is a *piece*: a body, and whether more pieces of the same
message follow. A sender cuts messages into pieces, a receiver puts pieces together; this file says
that the second undoes the first, also when the receiver has seen only a part of what was sent, and
when the last message was given up on the way.

## Main definitions

* `Piece`, `Bytes.pieces`: pieces, and those of a message.
* `Assembly`, `assemble`: what a list of pieces adds up to.
* `Spells`: a list of pieces spells some messages and the beginning of another.

## Main statements

* `assemble_messages_mono`: more pieces only ever add messages at the end.
* `Spells.assemble_messages`: what is put together are the messages that were cut.
* `Spells.length_add_le`: no message gets longer on the way than those that were cut.

Cutting and putting together are both folds, and `Assembly.addAll_append` says that the second one
may stop anywhere and go on later. So a log is looked at message by message: whole messages add
themselves (`addAll_ofBodies`), and a beginning that is not the whole of a message stays open
(`addAll_of_prefix_ofBodies`). The one difficulty is the last piece, since what was begun may turn
out to be everything. `Spells` allows for that, and `Spells.assemble_messages` is about both cases,
while `Spells.assemble_of_ne` excludes it.

A receiver has seen only a part of the log. `Spells.of_prefix` says that this spells something as
well, so each bound on what was sent is one on what was put together, and `Spells.length_add_le` is
the one that a reader needs: it never comes to refuse a message of a peer that keeps to the same
maximum.
-/

namespace Redelivery

/-- What a segment carries, apart from its serial number. -/
structure Piece where
  /-- Whether more pieces of the same message follow. -/
  more : Bool
  /-- The body. -/
  body : Bytes
deriving DecidableEq, Repr

/-- What a segment carries. -/
def Segment.piece (s : Segment Bytes) : Piece :=
  ⟨s.more, s.body⟩

/-! ## Cutting -/

namespace Bytes

theorem flatten_chunks {size : Nat} (hsize : 0 < size) (message : Bytes) :
    (message.chunks size).flatten = message := by
  fun_induction chunks size message with
  | case1 message h =>
    rcases h with h | rfl
    · omega
    · rfl
  | case2 message h ih => rw [List.flatten_cons, ih, List.take_append_drop]

theorem length_le_of_mem_chunks {size : Nat} {message body : Bytes}
    (h : body ∈ message.chunks size) : body.length ≤ size := by
  fun_induction chunks size message with
  | case1 => cases h
  | case2 message _ ih =>
    rcases List.mem_cons.mp h with rfl | h
    · exact List.length_take_le size message
    · exact ih h

theorem chunks_ne_nil {size : Nat} (hsize : 0 < size) {message : Bytes} (h : message ≠ []) :
    message.chunks size ≠ [] := by
  intro hnil
  have hwhole := flatten_chunks hsize message
  rw [hnil] at hwhole
  exact h hwhole.symm

end Bytes

/-- The pieces with the given bodies that make up one message: more follow each but the last. -/
def Piece.ofBodies : List Bytes → List Piece
  | [] => []
  | body :: rest => ⟨!rest.isEmpty, body⟩ :: ofBodies rest

/-- The pieces of a message. -/
def Bytes.pieces (size : Nat) (message : Bytes) : List Piece :=
  Piece.ofBodies (message.chunks size)

theorem Piece.map_body_ofBodies (bodies : List Bytes) :
    (ofBodies bodies).map Piece.body = bodies := by
  induction bodies with
  | nil => rfl
  | cons body rest ih => rw [ofBodies, List.map_cons, ih]

theorem Piece.ofBodies_append (xs ys : List Bytes) :
    ∃ front, front.length = xs.length ∧ ofBodies (xs ++ ys) = front ++ ofBodies ys := by
  induction xs with
  | nil => exact ⟨[], rfl, rfl⟩
  | cons body rest ih =>
    obtain ⟨front, hlen, heq⟩ := ih
    exact ⟨_ :: front, congrArg Nat.succ hlen, congrArg (_ :: ·) heq⟩

/-- The last piece that was sent of a message can be put back in front of those that were not. -/
theorem Piece.exists_ofBodies_cons {bodies rest : List Bytes} {begun : List Piece} {p : Piece}
    (h : ofBodies bodies = begun ++ [p] ++ ofBodies rest) :
    ofBodies bodies = begun ++ ofBodies (p.body :: rest) := by
  have hbodies := congrArg (List.map Piece.body) h
  rw [map_body_ofBodies, List.map_append, map_body_ofBodies, List.map_append, List.append_assoc]
    at hbodies
  obtain ⟨front, hlen, heq⟩ := ofBodies_append (begun.map Piece.body) (p.body :: rest)
  rw [List.length_map] at hlen
  have hsplit : front ++ ofBodies (p.body :: rest) = begun ++ ([p] ++ ofBodies rest) := by
    rw [← heq, ← List.append_assoc, ← h, hbodies]
    rfl
  -- both sides have the same bodies, and as many of them in front of `p`
  rw [hbodies]
  show ofBodies (begun.map Piece.body ++ (p.body :: rest)) = _
  rw [heq, (List.append_inj hsplit hlen).1]

theorem Piece.ofBodies_ne_nil {bodies : List Bytes} (h : bodies ≠ []) : ofBodies bodies ≠ [] := by
  cases bodies with
  | nil => exact absurd rfl h
  | cons body rest => exact List.cons_ne_nil _ _

/-! ## Putting together -/

/-- What some pieces add up to. -/
@[ext]
structure Assembly where
  /-- The messages that are whole. -/
  messages : List Bytes := []
  /-- The beginning of the next one. -/
  opened : Bytes := []

/-- One more piece is added. -/
def Assembly.add (a : Assembly) (p : Piece) : Assembly :=
  if p.more then { a with opened := a.opened ++ p.body }
  else { messages := a.messages ++ [a.opened ++ p.body] }

/-- Some more pieces are added. -/
def Assembly.addAll (a : Assembly) (pieces : List Piece) : Assembly :=
  pieces.foldl add a

/-- What a list of pieces adds up to. -/
def assemble (pieces : List Piece) : Assembly :=
  Assembly.addAll {} pieces

namespace Assembly

@[simp]
theorem addAll_nil (a : Assembly) : a.addAll [] = a :=
  rfl

@[simp]
theorem addAll_cons (a : Assembly) (p : Piece) (rest : List Piece) :
    a.addAll (p :: rest) = (a.add p).addAll rest :=
  rfl

theorem addAll_append (a : Assembly) (xs ys : List Piece) :
    a.addAll (xs ++ ys) = (a.addAll xs).addAll ys :=
  List.foldl_append

/-- Messages that are whole stay, and others only come behind them. -/
theorem messages_prefix_addAll (a : Assembly) (pieces : List Piece) :
    a.messages <+: (a.addAll pieces).messages := by
  induction pieces generalizing a with
  | nil => exact List.prefix_rfl
  | cons p rest ih =>
    -- one piece adds a message at the end, or none
    apply List.IsPrefix.trans _ (ih (a.add p))
    unfold add
    split
    · exact List.prefix_rfl
    · exact List.prefix_append _ _

/-- All pieces of a message add that message. -/
theorem addAll_ofBodies (a : Assembly) {bodies : List Bytes} (h : bodies ≠ []) :
    a.addAll (Piece.ofBodies bodies)
      = { messages := a.messages ++ [a.opened ++ bodies.flatten] } := by
  induction bodies generalizing a with
  | nil => exact absurd rfl h
  | cons body rest ih =>
    rw [Piece.ofBodies, addAll_cons]
    -- only the last piece closes the message; one before it adds to what is open
    cases rest with
    | nil => simp [add, Piece.ofBodies]
    | cons next rest =>
      have hadd : a.add ⟨true, body⟩ = { a with opened := a.opened ++ body } := rfl
      show (a.add ⟨true, body⟩).addAll (Piece.ofBodies (next :: rest)) = _
      rw [ih _ (List.cons_ne_nil next rest), hadd, List.flatten_cons (l := body), List.append_assoc]

/-- Not all pieces of a message add no message, but a part of it to what is open. -/
theorem addAll_of_prefix_ofBodies (a : Assembly) {bodies : List Bytes} {begun : List Piece}
    (h : begun <+: Piece.ofBodies bodies) (hne : begun ≠ Piece.ofBodies bodies) :
    ∃ part, part <+: bodies.flatten ∧ a.addAll begun = { a with opened := a.opened ++ part } := by
  induction bodies generalizing a begun with
  | nil => exact absurd (List.prefix_nil.mp h) hne
  | cons body rest ih =>
    rw [Piece.ofBodies] at h hne
    cases begun with
    | nil => exact ⟨[], List.nil_prefix, by simp⟩
    | cons p begun =>
      obtain ⟨rfl, hrest⟩ := List.cons_prefix_cons.mp h
      have hne' : begun ≠ Piece.ofBodies rest := by
        intro heq
        exact hne (by rw [heq])
      -- the pieces end before the last one, so this one is not the last
      have hopen : rest.isEmpty = false := by
        cases rest with
        | nil => exact absurd (List.prefix_nil.mp hrest) hne'
        | cons => rfl
      obtain ⟨part, hpart, hadd⟩ := ih (a.add ⟨!rest.isEmpty, body⟩) hrest hne'
      refine ⟨body ++ part, ?_, ?_⟩
      · rw [List.flatten_cons]
        exact (List.prefix_append_right_inj body).mpr hpart
      · rw [addAll_cons, hadd, hopen]
        simp [add]

end Assembly

theorem assemble_append (xs ys : List Piece) : assemble (xs ++ ys) = (assemble xs).addAll ys :=
  Assembly.addAll_append {} xs ys

theorem assemble_concat (xs : List Piece) (p : Piece) :
    assemble (xs ++ [p]) = (assemble xs).add p :=
  assemble_append xs [p]

/-- **More pieces only add messages at the end.** -/
theorem assemble_messages_mono {xs ys : List Piece} (h : xs <+: ys) :
    (assemble xs).messages <+: (assemble ys).messages := by
  obtain ⟨zs, rfl⟩ := h
  rw [assemble_append]
  exact Assembly.messages_prefix_addAll _ zs

/-! ## Logs of pieces -/

/-- The list of pieces spells the messages `done`, and then the beginning `begun` of `last`. None
of the messages is empty or longer than `maximum`. -/
structure Spells (size maximum : Nat) (done : List Bytes) (last : Bytes) (begun log : List Piece) :
    Prop where
  /-- Pieces have a size. -/
  size_pos : 0 < size
  /-- The list is made up of these pieces. -/
  log_eq : log = done.flatMap (Bytes.pieces size) ++ begun
  /-- The last message has been sent up to some piece. -/
  begun_prefix : begun <+: last.pieces size
  /-- The messages are not empty, and short enough. -/
  done_sound : ∀ m ∈ done, m ≠ [] ∧ m.length ≤ maximum
  /-- So is the last one, which may be empty while there is none. -/
  last_le : last.length ≤ maximum

namespace Spells

variable {size maximum : Nat} {done : List Bytes} {last : Bytes} {begun log : List Piece}

theorem empty (hsize : 0 < size) : Spells size maximum [] [] [] [] where
  size_pos := hsize
  log_eq := rfl
  begun_prefix := List.nil_prefix
  done_sound _ hm := absurd hm List.not_mem_nil
  last_le := Nat.zero_le _

/-- A new message is about to be sent. -/
theorem start (h : Spells size maximum done last [] log) {m : Bytes} (hm : m.length ≤ maximum) :
    Spells size maximum done m [] log :=
  { h with begun_prefix := List.nil_prefix, last_le := hm }

/-- The next piece of the last message is sent. -/
theorem push (h : Spells size maximum done last begun log) {p : Piece}
    (hp : begun ++ [p] <+: last.pieces size) :
    Spells size maximum done last (begun ++ [p]) (log ++ [p]) :=
  { h with log_eq := by rw [h.log_eq, List.append_assoc], begun_prefix := hp }

/-- The latest piece is given up. -/
theorem pop (h : Spells size maximum done last begun log) (hne : begun ≠ []) :
    Spells size maximum done last begun.dropLast log.dropLast :=
  { h with
    log_eq := by rw [h.log_eq, List.dropLast_append_of_ne_nil hne]
    begun_prefix := (List.dropLast_prefix begun).trans h.begun_prefix }

/-- The last message has been sent as a whole. -/
theorem finish (h : Spells size maximum done last (last.pieces size) log) (hlast : last ≠ []) :
    Spells size maximum (done ++ [last]) [] [] log where
  size_pos := h.size_pos
  log_eq := by rw [h.log_eq, List.flatMap_append, List.flatMap_singleton, List.append_nil]
  begun_prefix := List.nil_prefix
  done_sound m hm := by
    rcases List.mem_append.mp hm with hm | hm
    · exact h.done_sound m hm
    · rw [List.mem_singleton.mp hm]
      exact ⟨hlast, h.last_le⟩
  last_le := Nat.zero_le _

/-- Whole messages are put together as they were cut. -/
theorem addAll_flatMap_pieces (hsize : 0 < size) (messages : List Bytes) {done : List Bytes}
    (h : ∀ m ∈ done, m ≠ []) :
    ({ messages := messages } : Assembly).addAll (done.flatMap (Bytes.pieces size))
      = { messages := messages ++ done } := by
  induction done generalizing messages with
  | nil => simp
  | cons m rest ih =>
    have hm := Bytes.chunks_ne_nil hsize (h m List.mem_cons_self)
    rw [List.flatMap_cons, Assembly.addAll_append, Bytes.pieces, Assembly.addAll_ofBodies _ hm,
      Bytes.flatten_chunks hsize, List.nil_append,
      ih _ fun t ht => h t (List.mem_cons_of_mem m ht), List.append_assoc, List.singleton_append]

theorem assemble_eq (h : Spells size maximum done last begun log) :
    assemble log = ({ messages := done } : Assembly).addAll begun := by
  rw [h.log_eq, assemble_append]
  congr 1
  exact addAll_flatMap_pieces h.size_pos [] fun m hm => (h.done_sound m hm).1

/-- **While a message is under way**, just those before it are whole. -/
theorem assemble_of_ne (h : Spells size maximum done last begun log)
    (hne : begun ≠ last.pieces size) :
    ∃ part, part <+: last ∧ assemble log = { messages := done, opened := part } := by
  obtain ⟨part, hpart, hadd⟩ :=
    Assembly.addAll_of_prefix_ofBodies { messages := done } h.begun_prefix hne
  rw [Bytes.flatten_chunks h.size_pos] at hpart
  exact ⟨part, hpart, by rw [h.assemble_eq, hadd, List.nil_append]⟩

/-- What is put together are the messages that were cut, and at most the last one with them. -/
theorem assemble_messages (h : Spells size maximum done last begun log) :
    (assemble log).messages <+: done ++ [last] := by
  -- the last message is whole just when all its pieces are there; it has none if it is empty
  by_cases hne : begun = last.pieces size
  · by_cases hlast : last.chunks size = []
    · rw [h.assemble_eq, hne, Bytes.pieces, hlast]
      exact List.prefix_append done [last]
    · rw [h.assemble_eq, hne, Bytes.pieces, Assembly.addAll_ofBodies _ hlast,
        Bytes.flatten_chunks h.size_pos]
      exact List.prefix_rfl
  · obtain ⟨part, -, heq⟩ := h.assemble_of_ne hne
    rw [heq]
    exact List.prefix_append done [last]

/-- No message is longer than it may be. -/
theorem length_le_of_mem_messages (h : Spells size maximum done last begun log) {m : Bytes}
    (hm : m ∈ (assemble log).messages) : m.length ≤ maximum := by
  rcases List.mem_append.mp (h.assemble_messages.subset hm) with hm | hm
  · exact (h.done_sound m hm).2
  · rw [List.mem_singleton.mp hm]
    exact h.last_le

theorem mem_of_mem_ofBodies {p : Piece} {bodies : List Bytes} (h : p ∈ Piece.ofBodies bodies) :
    p.body ∈ bodies := by
  rw [← Piece.map_body_ofBodies bodies]
  exact List.mem_map_of_mem h

/-- Pieces are as large as they may be, or smaller. -/
theorem body_le (h : Spells size maximum done last begun log) {p : Piece} (hp : p ∈ log) :
    p.body.length ≤ size := by
  rw [h.log_eq] at hp
  rcases List.mem_append.mp hp with hp | hp
  · obtain ⟨m, -, hp⟩ := List.mem_flatMap.mp hp
    exact Bytes.length_le_of_mem_chunks (mem_of_mem_ofBodies hp)
  · exact Bytes.length_le_of_mem_chunks (mem_of_mem_ofBodies (h.begun_prefix.subset hp))

/-- A part of what was sent spells some messages and the beginning of another, too. -/
theorem of_prefix (h : Spells size maximum done last begun log) {part : List Piece}
    (hpart : part <+: log) : ∃ done' last' begun', Spells size maximum done' last' begun' part := by
  obtain ⟨hsize, rfl, hbegun, hdone, hlast⟩ := h
  -- along the messages, those that are passed go from `done` to `whole`
  suffices ∀ whole : List Bytes, (∀ m ∈ whole, m ≠ [] ∧ m.length ≤ maximum) →
      ∃ done' last' begun', Spells size maximum done' last' begun'
        (whole.flatMap (Bytes.pieces size) ++ part) from this [] (by simp)
  induction done generalizing part with
  | nil =>
    intro whole hwhole
    exact ⟨whole, last, part, hsize, rfl, hpart.trans hbegun, hwhole, hlast⟩
  | cons m rest ih =>
    intro whole hwhole
    have hm := hdone m List.mem_cons_self
    rw [List.flatMap_cons, List.append_assoc] at hpart
    rcases Nat.le_total part.length (m.pieces size).length with hle | hle
    · -- the part ends within the message `m`
      have hinside := List.prefix_of_prefix_length_le hpart (List.prefix_append _ _) hle
      exact ⟨whole, m, part, hsize, rfl, hinside, hwhole, hm.2⟩
    · -- the part goes beyond `m`, which is passed
      obtain ⟨tail, rfl⟩ := List.prefix_of_prefix_length_le (List.prefix_append _ _) hpart hle
      obtain ⟨done', last', begun', h'⟩ := ih (fun t ht => hdone t (List.mem_cons_of_mem m ht))
        ((List.prefix_append_right_inj _).mp hpart) (whole ++ [m]) (by
          intro t ht
          rcases List.mem_append.mp ht with ht | ht
          · exact hwhole t ht
          · exact List.mem_singleton.mp ht ▸ hm)
      refine ⟨done', last', begun', ?_⟩
      rwa [List.flatMap_append, List.flatMap_singleton, List.append_assoc] at h'

/-- What is open after a part of what was sent is not longer than a message may be. -/
theorem length_opened_le (h : Spells size maximum done last begun log) {part : List Piece}
    (hpart : part <+: log) : (assemble part).opened.length ≤ maximum := by
  obtain ⟨done', last', begun', h'⟩ := h.of_prefix hpart
  by_cases hne : begun' = last'.pieces size
  · by_cases hlast : last'.chunks size = []
    · rw [h'.assemble_eq, hne, Bytes.pieces, hlast]
      exact Nat.zero_le _
    · rw [h'.assemble_eq, hne, Bytes.pieces, Assembly.addAll_ofBodies _ hlast]
      exact Nat.zero_le _
  · obtain ⟨part', hfront, heq⟩ := h'.assemble_of_ne hne
    rw [heq]
    exact Nat.le_trans hfront.length_le h'.last_le

/-- **No message gets too long on the way**: the next piece still fits behind what is open. -/
theorem length_add_le (h : Spells size maximum done last begun log) {taken : List Piece} {p : Piece}
    (hp : taken ++ [p] <+: log) :
    (assemble taken).opened.length + p.body.length ≤ maximum := by
  rw [← List.length_append]
  have hadd := assemble_concat taken p
  -- a piece with others behind it is open after that; the last one makes a whole message
  by_cases hmore : p.more = true
  · have hopened := h.length_opened_le hp
    rw [hadd, Assembly.add, if_pos hmore] at hopened
    exact hopened
  · refine h.length_le_of_mem_messages ((assemble_messages_mono hp).subset ?_)
    rw [hadd, Assembly.add, if_neg hmore]
    exact List.mem_append_right _ (List.mem_singleton.mpr rfl)

end Spells

end Redelivery
