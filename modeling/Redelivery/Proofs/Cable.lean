import Mathlib.Data.List.Forall2
import Redelivery.Cable

/-!
# What a cable carries

What was done with a cable so far tells which datagrams it has carried: those that were sent while
the other end was there and that the policy of the day did not pick. They arrive in the order in
which they were sent, none is missing and none comes twice, however sends, receives, new policies and
drops of either end take turns. The counters of an end tell how many have arrived or are on their
way. A policy that picks every `n`-th datagram starts to count when it is set.

## Main definitions

* `Cable.Call`, `Cable.History`: what is done with a cable, and what was done so far.
* `Loss.picks`: whether a policy picks a datagram, by what was sent since it was set.
* `Cable.carried`: the datagrams that were carried from a side.
* `Cable.receipts`: the datagrams that were received at a side, as they came out of their buffers.

## Main statements

* `Cable.exists_delivered`: what was carried has been received or is on its way.
* `Cable.sent_eq`: what was sent has been lost or carried.
* `Cable.lost_everyNth`: how many datagrams a policy that picks every `n`-th one loses.
* `Cable.carries_in_order`: the cable as a whole.

All notions are about the history and not about the state, which forgets what was carried once it
has been received. The lemmas on `Cable.endAt` say what one call does to one end. Two inductions on
the history tie the state to it: `Cable.loss_after` for the policies, whose counts go on from where
they were set, and `Cable.exists_delivered` for what is on its way, with `Cable.Delivered` as the
invariant. When the receiver goes, what was on its way is lost with it, so from then on there is
only a prefix; `Cable.Delivered.eq_of_alive` has the equation for the time before.

That every `n`-th datagram is lost is then a matter of divisibility. `Cable.policy_and_sentSince`
says that a policy counts what was sent since it was set, so a datagram is lost when its number is a
multiple of `n` (`Cable.loses_everyNth`), and no two neighbours are, unless `n` is one.
-/

namespace Redelivery

/-! ## Policies -/

namespace Loss

/-- Whether a policy picks a datagram, if the others were sent since it was set, the latest
first. -/
def picks (policy : Loss) (since : List Bytes) (datagram : Bytes) : Bool :=
  match policy with
  | .none => false
  | .everyNth period count => decide (period ∣ count + since.length + 1)
  | .matching isLost earlier => isLost (since ++ earlier) datagram

/-- What has become of a policy, if these datagrams were sent since it was set, the latest first. -/
def advance (policy : Loss) (since : List Bytes) : Loss :=
  match policy with
  | .none => .none
  | .everyNth period count => .everyNth period (count + since.length)
  | .matching isLost earlier => .matching isLost (since ++ earlier)

theorem advance_nil (policy : Loss) : policy.advance [] = policy := by
  cases policy <;> rfl

theorem judge_advance (policy : Loss) (since : List Bytes) (datagram : Bytes) :
    (policy.advance since).judge datagram
      = (policy.picks since datagram, policy.advance (datagram :: since)) := by
  cases policy with
  | none => rfl
  | matching isLost earlier => rfl
  | everyNth period count =>
    simp only [advance, judge, picks, List.length_cons, Nat.dvd_iff_mod_eq_zero]
    rfl

theorem everyNth?_eq_some_iff {n : Nat} {policy : Loss} :
    everyNth? n = some policy ↔ n ≠ 0 ∧ policy = .everyNth n 0 := by
  unfold everyNth?
  split <;> simp_all [eq_comm]

end Loss

namespace Cable

/-! ## Ends -/

@[simp] theorem endAt_setEnd (c : Cable) (side : Side) (e : CableEnd) :
    (c.setEnd side e).endAt side = e := by
  cases side <;> rfl

theorem endAt_setEnd_of_ne (c : Cable) {place side : Side} (h : place ≠ side) (e : CableEnd) :
    (c.setEnd place e).endAt side = c.endAt side := by
  cases place <;> cases side <;> first | rfl | exact absurd rfl h

theorem endAt_setEnd_eq (c : Cable) (place side : Side) (e : CableEnd) :
    (c.setEnd place e).endAt side = if place = side then e else c.endAt side := by
  split
  · rename_i h
    rw [h, endAt_setEnd]
  · rename_i h
    exact c.endAt_setEnd_of_ne h e

/-- What sending does to the end of the sender. -/
theorem endAt_send (c : Cable) (side : Side) (datagram : Bytes) :
    (c.send side datagram).endAt side
      = { c.endAt side with
          loss := ((c.endAt side).loss.judge datagram).2
          sent := (c.endAt side).sent + 1
          lost := (c.endAt side).lost + ((c.endAt side).loss.judge datagram).1.toNat } := by
  have hother : side.other ≠ side := side.other_ne
  unfold send
  cases hlost : ((c.endAt side).loss.judge datagram).1 with
  | true => simp [hlost]
  | false =>
    simp only [hlost, Bool.false_eq_true, if_false]
    split <;> simp [endAt_setEnd_of_ne _ hother]

/-- What sending does to the end of the receiver. -/
theorem endAt_send_of_ne (c : Cable) {place side : Side} (h : place ≠ side) (datagram : Bytes) :
    (c.send place datagram).endAt side
      = if ((c.endAt place).loss.judge datagram).1 = false ∧ (c.endAt side).alive = true then
          { c.endAt side with incoming := (c.endAt side).incoming ++ [datagram] }
        else c.endAt side := by
  obtain rfl : side = place.other := (Side.eq_or_eq_other place side).resolve_left (Ne.symm h)
  unfold send
  cases hlost : ((c.endAt place).loss.judge datagram).1 with
  | true => simp [hlost, endAt_setEnd_of_ne _ h]
  | false =>
    simp only [hlost, Bool.false_eq_true, if_false, endAt_setEnd_of_ne _ h]
    split <;> simp_all [endAt_setEnd_of_ne _ h]

theorem endAt_setLoss (c : Cable) (place side : Side) (policy : Loss) :
    (c.setLoss place policy).endAt side
      = if place = side then { c.endAt side with loss := policy } else c.endAt side := by
  unfold setLoss
  rw [endAt_setEnd_eq]
  split
  · rename_i h
    rw [h]
  · rfl

theorem endAt_drop (c : Cable) (place side : Side) :
    (c.drop place).endAt side
      = if place = side then { c.endAt side with alive := false, incoming := [] }
        else c.endAt side := by
  unfold drop
  rw [endAt_setEnd_eq]
  split
  · rename_i h
    rw [h]
  · rfl

theorem receive_of_nil {c : Cable} {side : Side} (h : (c.endAt side).incoming = [])
    (buffer : Bytes) : c.receive side buffer = none := by
  unfold receive
  simp only [h]

theorem receive_of_cons {c : Cable} {side : Side} {datagram : Bytes} {rest : List Bytes}
    (h : (c.endAt side).incoming = datagram :: rest) (buffer : Bytes) :
    c.receive side buffer
      = some ((datagram.take buffer.length).length, buffer.overwrite (datagram.take buffer.length),
          c.setEnd side { c.endAt side with incoming := rest }) := by
  unfold receive
  simp only [h]

/-! ## What was done so far -/

/-- What is done with a cable. -/
inductive Call where
  /-- A datagram is sent from a side. -/
  | send (side : Side) (datagram : Bytes)
  /-- The next datagram is received at a side into a buffer, if there is one. -/
  | receive (side : Side) (buffer : Bytes)
  /-- A side is given a loss policy. -/
  | setLoss (side : Side) (policy : Loss)
  /-- The end on a side is dropped. -/
  | drop (side : Side)

/-- The datagram that a call sends from a side. -/
def Call.sends? (side : Side) : Call → Option Bytes
  | .send place datagram => if place = side then some datagram else none
  | _ => none

@[simp] theorem Call.sends?_send (side : Side) (datagram : Bytes) :
    (Call.send side datagram).sends? side = some datagram :=
  if_pos rfl

theorem Call.sends?_send_of_ne {place side : Side} (h : place ≠ side) (datagram : Bytes) :
    (Call.send place datagram).sends? side = none :=
  if_neg h

/-- The policy that a call gives to a side. -/
def Call.sets? (side : Side) : Call → Option Loss
  | .setLoss place policy => if place = side then some policy else none
  | _ => none

/-- Whether a call drops the end on a side. -/
def Call.drops (side : Side) : Call → Bool
  | .drop place => decide (place = side)
  | _ => false

/-- The cable after a call. -/
def perform (c : Cable) : Call → Cable
  | .send side datagram => c.send side datagram
  | .receive side buffer =>
    match c.receive side buffer with
    | some (_, _, c) => c
    | none => c
  | .setLoss side policy => c.setLoss side policy
  | .drop side => c.drop side

/-- What was done with a cable so far, the latest call first. -/
abbrev History := List Call

/-- A new cable after what was done with it. -/
def after : History → Cable
  | [] => {}
  | call :: earlier => (after earlier).perform call

theorem endAt_perform_receive (c : Cable) (place side : Side) (buffer : Bytes) :
    (c.perform (.receive place buffer)).endAt side
      = if place = side then { c.endAt side with incoming := (c.endAt side).incoming.tail }
        else c.endAt side := by
  cases hincoming : (c.endAt place).incoming with
  | nil =>
    simp only [perform, receive_of_nil hincoming]
    split
    · rename_i h
      rw [← h, hincoming, List.tail_nil, ← hincoming]
    · rfl
  | cons datagram rest =>
    simp only [perform, receive_of_cons hincoming, endAt_setEnd_eq]
    split
    · rename_i h
      rw [← h, hincoming, List.tail_cons]
    · rfl

variable (side : Side)

/-- The policy that a side was given last. -/
def policy : History → Loss
  | [] => .none
  | call :: earlier => (call.sets? side).getD (policy earlier)

/-- The datagrams sent from a side, the latest first. -/
def sentFrom (history : History) : List Bytes :=
  history.filterMap (Call.sends? side)

/-- The datagrams sent from a side since it was given its policy, the latest first. -/
def sentSince : History → List Bytes
  | [] => []
  | call :: earlier =>
    match call.sets? side with
    | some _ => []
    | none => (call.sends? side).toList ++ sentSince earlier

/-- Whether the end on a side was not dropped yet. -/
def isAlive (history : History) : Bool :=
  history.all fun call => !call.drops side

/-- Whether a datagram is lost that is sent from a side now. -/
def loses (history : History) (datagram : Bytes) : Bool :=
  (policy side history).picks (sentSince side history) datagram

/-- Whether a datagram is carried that is sent from a side now: it is not lost, and the other end is
there. -/
def carries (history : History) (datagram : Bytes) : Bool :=
  !loses side history datagram && isAlive side.other history

/-- The datagrams carried from a side, in the order in which they were sent. -/
def carried : History → List Bytes
  | [] => []
  | call :: earlier => carried earlier ++ (call.sends? side).toList.filter (carries side earlier)

/-- What was received: a buffer, the number of bytes received into it, and the buffer after that. -/
structure Receipt where
  /-- The buffer as it was handed over. -/
  buffer : Bytes
  /-- The number of bytes received. -/
  length : Nat
  /-- The buffer with them. -/
  filled : Bytes
deriving DecidableEq, Repr

/-- The receipt is of this datagram: as much of it as fits is in the buffer, and the rest of the
buffer is as it was. -/
structure Receipt.IsOf (receipt : Receipt) (datagram : Bytes) : Prop where
  /-- The datagram is cut where the buffer ends. -/
  length_eq : receipt.length = min datagram.length receipt.buffer.length
  /-- Byte by byte. -/
  getElem?_filled : ∀ i, receipt.filled[i]?
    = if i < receipt.length then datagram[i]? else receipt.buffer[i]?

/-- What was received at a side, in this order. -/
def receipts : History → List Receipt
  | [] => []
  | .receive place buffer :: earlier =>
    if place = side then
      match (after earlier).receive side buffer with
      | some (length, filled, _) => receipts earlier ++ [⟨buffer, length, filled⟩]
      | none => receipts earlier
    else
      receipts earlier
  | _ :: earlier => receipts earlier

theorem carried_of_sends {side : Side} {call : Call} {datagram : Bytes}
    (h : call.sends? side = some datagram) (earlier : History) :
    carried side (call :: earlier)
      = carried side earlier ++ if carries side earlier datagram = true then [datagram] else [] := by
  rw [carried, h, Option.toList_some, List.filter_singleton]
  cases carries side earlier datagram <;> rfl

theorem carried_of_sends_eq_none {side : Side} {call : Call} (h : call.sends? side = none)
    (earlier : History) : carried side (call :: earlier) = carried side earlier := by
  rw [carried, h, Option.toList_none, List.filter_nil, List.append_nil]

/-! ## Ends after what was done so far -/

/-- The policy of an end goes on from where it was set. -/
theorem loss_after (history : History) :
    ((after history).endAt side).loss
      = (policy side history).advance (sentSince side history) := by
  induction history with
  | nil => cases side <;> rfl
  | cons call earlier ih =>
    cases call with
    | send place datagram =>
      rw [after, perform]
      by_cases hplace : place = side
      · subst hplace
        simp [endAt_send, ih, Loss.judge_advance, policy, sentSince, Call.sets?, Call.sends?]
      · rw [endAt_send_of_ne _ hplace]
        split <;> simp [ih, policy, sentSince, Call.sets?, Call.sends?, hplace]
    | receive place buffer =>
      rw [after, endAt_perform_receive]
      split <;> exact ih
    | setLoss place policy' =>
      rw [after, perform, endAt_setLoss]
      by_cases hplace : place = side
      · simp [policy, sentSince, Call.sets?, hplace, Loss.advance_nil]
      · simp [ih, policy, sentSince, Call.sets?, Call.sends?, hplace]
    | drop place =>
      rw [after, perform, endAt_drop]
      split <;> exact ih

theorem judge_after (history : History) (datagram : Bytes) :
    (((after history).endAt side).loss.judge datagram).1 = loses side history datagram := by
  rw [loss_after, Loss.judge_advance]
  rfl

theorem alive_after (history : History) :
    ((after history).endAt side).alive = isAlive side history := by
  induction history with
  | nil => cases side <;> rfl
  | cons call earlier ih =>
    cases call with
    | send place datagram =>
      rw [after, perform]
      by_cases hplace : place = side
      · subst hplace
        rw [endAt_send]
        exact ih
      · rw [endAt_send_of_ne _ hplace]
        split <;> exact ih
    | receive place buffer =>
      rw [after, endAt_perform_receive]
      split <;> exact ih
    | setLoss place policy' =>
      rw [after, perform, endAt_setLoss]
      split <;> exact ih
    | drop place =>
      rw [after, perform, endAt_drop]
      by_cases hplace : place = side
      · simp [isAlive, Call.drops, hplace]
      · simpa [isAlive, Call.drops, hplace] using ih

/-! ## Arrivals -/

/-- What is received is the next datagram on its way, cut to the buffer. -/
theorem Receipt.isOf_cut (buffer datagram : Bytes) :
    Receipt.IsOf ⟨buffer, (datagram.take buffer.length).length,
      buffer.overwrite (datagram.take buffer.length)⟩ datagram where
  length_eq := by
    rw [List.length_take, Nat.min_comm]
  getElem?_filled i := by
    unfold Bytes.overwrite
    rw [List.getElem?_append, List.getElem?_drop]
    split
    · rename_i hi
      rw [List.getElem?_take_of_lt]
      simp only [List.length_take] at hi
      omega
    · rename_i hi
      rw [Nat.add_sub_cancel' (Nat.le_of_not_lt hi)]

/-- `got` was received at a side. -/
structure Delivered (side : Side) (history : History) (got : List Bytes) : Prop where
  /-- There are receipts of all of it. -/
  isOf : List.Forall₂ Receipt.IsOf (receipts side history) got
  /-- It was carried from the other side, and next is what is on its way. -/
  isPrefix : got ++ ((after history).endAt side).incoming <+: carried side.other history
  /-- Nothing that was carried is missing, as long as the end is there. -/
  eq_of_alive : isAlive side history = true →
    got ++ ((after history).endAt side).incoming = carried side.other history
  /-- Nothing is on its way to an end that is gone. -/
  nil_of_not_alive : isAlive side history = false → ((after history).endAt side).incoming = []

namespace Delivered

variable {side : Side} {earlier : History} {got : List Bytes}

theorem start (side : Side) : Delivered side [] [] where
  isOf := .nil
  isPrefix := by cases side <;> exact List.nil_prefix
  eq_of_alive _ := by cases side <;> rfl
  nil_of_not_alive h := by cases h

/-- As long as the end is there, it is enough that nothing is missing. -/
theorem of_eq {history : History} (hisOf : List.Forall₂ Receipt.IsOf (receipts side history) got)
    (halive : isAlive side history = true)
    (heq : got ++ ((after history).endAt side).incoming = carried side.other history) :
    Delivered side history got where
  isOf := hisOf
  isPrefix := heq ▸ List.prefix_refl _
  eq_of_alive _ := heq
  nil_of_not_alive hgone := by
    rw [halive] at hgone
    cases hgone

/-- What changes nothing that matters to a side changes nothing there. -/
theorem congr {history : History} (h : Delivered side earlier got)
    (hreceipts : receipts side history = receipts side earlier)
    (hincoming : ((after history).endAt side).incoming = ((after earlier).endAt side).incoming)
    (hcarried : carried side.other history = carried side.other earlier)
    (halive : isAlive side history = isAlive side earlier) : Delivered side history got where
  isOf := hreceipts ▸ h.isOf
  isPrefix := by
    rw [hincoming, hcarried]
    exact h.isPrefix
  eq_of_alive := by
    rw [hincoming, hcarried, halive]
    exact h.eq_of_alive
  nil_of_not_alive := by
    rw [hincoming, halive]
    exact h.nil_of_not_alive

theorem carries_other_iff (side : Side) (history : History) (datagram : Bytes) :
    carries side.other history datagram = true
      ↔ loses side.other history datagram = false ∧ isAlive side history = true := by
  simp [carries, Side.other_other]

theorem send (h : Delivered side earlier got) (place : Side) (datagram : Bytes) :
    Delivered side (.send place datagram :: earlier) got := by
  by_cases hplace : place = side
  · -- the datagram goes the other way
    refine h.congr rfl ?_ ?_ rfl
    · rw [after, perform, hplace, endAt_send]
    · have hother : place ≠ side.other := fun h => side.other_ne (h.symm.trans hplace)
      exact carried_of_sends_eq_none (Call.sends?_send_of_ne hother datagram) earlier
  · obtain rfl : place = side.other := (Side.eq_or_eq_other side place).resolve_left hplace
    have hsends := Call.sends?_send side.other datagram
    have hend := endAt_send_of_ne (after earlier) hplace datagram
    simp only [judge_after, alive_after, ← carries_other_iff] at hend
    by_cases hcarries : carries side.other earlier datagram = true
    · -- it joins what is on its way
      have halive : isAlive side earlier = true := ((carries_other_iff ..).mp hcarries).2
      refine .of_eq h.isOf halive ?_
      rw [after, perform, hend, if_pos hcarries, carried_of_sends hsends, if_pos hcarries,
        ← h.eq_of_alive halive, List.append_assoc]
    · refine h.congr rfl ?_ ?_ rfl
      · rw [after, perform, hend, if_neg hcarries]
      · rw [carried_of_sends hsends, if_neg hcarries, List.append_nil]

theorem receive (h : Delivered side earlier got) (place : Side) (buffer : Bytes) :
    ∃ got, Delivered side (.receive place buffer :: earlier) got := by
  have hcarried : carried side.other (.receive place buffer :: earlier) = carried side.other earlier :=
    carried_of_sends_eq_none rfl earlier
  by_cases hplace : place = side
  · subst hplace
    have hend := endAt_perform_receive (after earlier) place place buffer
    rw [if_pos rfl] at hend
    cases hincoming : ((after earlier).endAt place).incoming with
    | nil =>
      refine ⟨got, h.congr ?_ ?_ hcarried rfl⟩
      · simp only [receipts, if_true, receive_of_nil hincoming]
      · rw [after, hend, hincoming, List.tail_nil]
    | cons datagram rest =>
      have halive : isAlive place earlier = true := by
        by_contra hgone
        rw [h.nil_of_not_alive (Bool.eq_false_iff.mpr hgone)] at hincoming
        cases hincoming
      refine ⟨got ++ [datagram], .of_eq ?_ halive ?_⟩
      · simp only [receipts, if_true, receive_of_cons hincoming]
        exact List.rel_append h.isOf (.cons (Receipt.isOf_cut buffer datagram) .nil)
      · rw [hcarried, after, hend, hincoming, List.tail_cons, List.append_assoc,
          List.singleton_append, ← hincoming]
        exact h.eq_of_alive halive
  · refine ⟨got, h.congr ?_ ?_ hcarried rfl⟩
    · rw [receipts, if_neg hplace]
    · rw [after, endAt_perform_receive, if_neg hplace]

theorem setLoss (h : Delivered side earlier got) (place : Side) (policy : Loss) :
    Delivered side (.setLoss place policy :: earlier) got := by
  refine h.congr rfl ?_ (carried_of_sends_eq_none rfl earlier) rfl
  rw [after, perform, endAt_setLoss]
  split <;> rfl

theorem drop (h : Delivered side earlier got) (place : Side) :
    Delivered side (.drop place :: earlier) got := by
  have hcarried : carried side.other (.drop place :: earlier) = carried side.other earlier :=
    carried_of_sends_eq_none rfl earlier
  have hend := endAt_drop (after earlier) place side
  by_cases hplace : place = side
  · -- nothing is on its way any more
    rw [if_pos hplace] at hend
    have hgone : isAlive side (.drop place :: earlier) = false := by
      simp [isAlive, Call.drops, hplace]
    have hincoming : ((after (.drop place :: earlier)).endAt side).incoming = [] := by
      rw [after, perform, hend]
    exact
      { isOf := h.isOf
        isPrefix := by
          rw [hincoming, List.append_nil, hcarried]
          exact (List.prefix_append _ _).trans h.isPrefix
        eq_of_alive := fun halive => by
          rw [halive] at hgone
          cases hgone
        nil_of_not_alive := fun _ => hincoming }
  · rw [if_neg hplace] at hend
    refine h.congr rfl ?_ hcarried ?_
    · rw [after, perform, hend]
    · simp [isAlive, Call.drops, hplace]

end Delivered

/-- **What arrives** is what was carried, in the same order. -/
theorem exists_delivered (history : History) : ∃ got, Delivered side history got := by
  induction history with
  | nil => exact ⟨[], .start side⟩
  | cons call earlier ih =>
    obtain ⟨got, h⟩ := ih
    cases call with
    | send place datagram => exact ⟨got, h.send place datagram⟩
    | receive place buffer => exact h.receive place buffer
    | setLoss place policy => exact ⟨got, h.setLoss place policy⟩
    | drop place => exact ⟨got, h.drop place⟩

/-! ## Counters -/

/-- What is sent is counted, and what is lost of it. -/
theorem counters_of_sends {call : Call} {datagram : Bytes} (h : call.sends? side = some datagram)
    (history : History) :
    ((after (call :: history)).endAt side).sent = ((after history).endAt side).sent + 1
      ∧ ((after (call :: history)).endAt side).lost
        = ((after history).endAt side).lost
          + if loses side history datagram = true then 1 else 0 := by
  cases call with
  | send place datagram' =>
    obtain ⟨rfl, hdatagram⟩ := Option.ite_none_right_eq_some.mp h
    cases hdatagram
    rw [after, perform, endAt_send, judge_after]
    refine ⟨rfl, ?_⟩
    cases loses place history datagram <;> rfl
  | _ => cases h

/-- Nothing else is counted. -/
theorem counters_of_sends_eq_none {call : Call} (h : call.sends? side = none) (history : History) :
    ((after (call :: history)).endAt side).sent = ((after history).endAt side).sent
      ∧ ((after (call :: history)).endAt side).lost = ((after history).endAt side).lost := by
  cases call with
  | send place datagram =>
    have hplace : place ≠ side := by
      rintro rfl
      simp [Call.sends?] at h
    rw [after, perform, endAt_send_of_ne _ hplace]
    split <;> exact ⟨rfl, rfl⟩
  | receive place buffer =>
    rw [after, endAt_perform_receive]
    split <;> exact ⟨rfl, rfl⟩
  | setLoss place policy =>
    rw [after, perform, endAt_setLoss]
    split <;> exact ⟨rfl, rfl⟩
  | drop place =>
    rw [after, perform, endAt_drop]
    split <;> exact ⟨rfl, rfl⟩

theorem sent_after (history : History) :
    ((after history).endAt side).sent = (sentFrom side history).length := by
  induction history with
  | nil => cases side <;> rfl
  | cons call earlier ih =>
    cases hsends : call.sends? side with
    | none =>
      rw [(counters_of_sends_eq_none side hsends earlier).1, ih, sentFrom, sentFrom,
        List.filterMap_cons_none hsends]
    | some datagram =>
      rw [(counters_of_sends side hsends earlier).1, ih, sentFrom, sentFrom,
        List.filterMap_cons_some hsends, List.length_cons]

/-- **What was sent** was lost or carried, as long as the other end is there. -/
theorem sent_eq {history : History} (halive : isAlive side.other history = true) :
    ((after history).endAt side).sent
      = ((after history).endAt side).lost + (carried side history).length := by
  induction history with
  | nil => cases side <;> rfl
  | cons call earlier ih =>
    have hbefore : isAlive side.other earlier = true := (Bool.and_eq_true_iff.mp halive).2
    cases hsends : call.sends? side with
    | none =>
      obtain ⟨hsent, hlost⟩ := counters_of_sends_eq_none side hsends earlier
      rw [hsent, hlost, carried_of_sends_eq_none hsends]
      exact ih hbefore
    | some datagram =>
      obtain ⟨hsent, hlost⟩ := counters_of_sends side hsends earlier
      rw [hsent, hlost, carried_of_sends hsends, ih hbefore, carries, hbefore]
      cases loses side earlier datagram <;> simp <;> omega

/-! ## Every `n`-th datagram -/

/-- A side is not given a policy. -/
def KeepsPolicy (later : History) : Prop :=
  ∀ call ∈ later, call.sets? side = none

variable {side} {later earlier : History}

/-- **A policy counts from when it is set.** -/
theorem policy_and_sentSince (h : KeepsPolicy side later) (policy' : Loss) (earlier : History) :
    policy side (later ++ .setLoss side policy' :: earlier) = policy'
      ∧ sentSince side (later ++ .setLoss side policy' :: earlier) = sentFrom side later := by
  induction later with
  | nil => simp [policy, sentSince, sentFrom, Call.sets?]
  | cons call later ih =>
    obtain ⟨hcall, hlater⟩ := List.forall_mem_cons.mp h
    obtain ⟨hpolicy, hsince⟩ := ih hlater
    refine ⟨?_, ?_⟩
    · rw [List.cons_append, policy, hcall, Option.getD_none, hpolicy]
    · simp only [List.cons_append, sentSince, hcall, hsince]
      cases hsends : call.sends? side <;> simp [sentFrom, hsends]

/-- **The multiples of `n`** are lost, counted from when the policy is set. -/
theorem loses_everyNth {n : Nat} {policy : Loss} (hpolicy : Loss.everyNth? n = some policy)
    (h : KeepsPolicy side later) (earlier : History) (datagram : Bytes) :
    loses side (later ++ .setLoss side policy :: earlier) datagram = true
      ↔ n ∣ (sentFrom side later).length + 1 := by
  obtain ⟨-, rfl⟩ := Loss.everyNth?_eq_some_iff.mp hpolicy
  obtain ⟨hcurrent, hsince⟩ := policy_and_sentSince h (.everyNth n 0) earlier
  rw [loses, hcurrent, hsince, Loss.picks, decide_eq_true_eq, Nat.zero_add]

/-- **One of `n` datagrams** is lost, rounded down. -/
theorem lost_everyNth {n : Nat} {policy : Loss} (hpolicy : Loss.everyNth? n = some policy)
    (h : KeepsPolicy side later) :
    ((after (later ++ .setLoss side policy :: earlier)).endAt side).lost
      = ((after earlier).endAt side).lost + (sentFrom side later).length / n := by
  induction later with
  | nil =>
    rw [List.nil_append, (counters_of_sends_eq_none side rfl earlier).2, sentFrom,
      List.filterMap_nil, List.length_nil, Nat.zero_div, Nat.add_zero]
  | cons call later ih =>
    have hlater : KeepsPolicy side later := (List.forall_mem_cons.mp h).2
    have hbefore := ih hlater
    rw [List.cons_append]
    cases hsends : call.sends? side with
    | none =>
      rw [(counters_of_sends_eq_none side hsends _).2, hbefore, sentFrom, sentFrom,
        List.filterMap_cons_none hsends]
    | some datagram =>
      have hcount : (sentFrom side (call :: later)).length = (sentFrom side later).length + 1 := by
        rw [sentFrom, List.filterMap_cons_some hsends, List.length_cons, sentFrom]
      rw [(counters_of_sends side hsends _).2, hbefore, hcount, Nat.succ_div]
      simp only [loses_everyNth hpolicy hlater]
      omega

/-- **Never two in a row** are lost, unless all are. -/
theorem not_loses_again {n : Nat} {policy : Loss} (hpolicy : Loss.everyNth? n = some policy)
    (htwo : 2 ≤ n) (h : KeepsPolicy side later) {between : History}
    (hbetween : KeepsPolicy side between) (hnone : sentFrom side between = [])
    {datagram : Bytes}
    (hlost : loses side (later ++ .setLoss side policy :: earlier) datagram = true)
    (datagram' : Bytes) :
    loses side (between ++ .send side datagram :: (later ++ .setLoss side policy :: earlier))
      datagram' = false := by
  have hkeeps : KeepsPolicy side (between ++ .send side datagram :: later) :=
    List.forall_mem_append.mpr ⟨hbetween, List.forall_mem_cons.mpr ⟨rfl, h⟩⟩
  have hcount : (sentFrom side (between ++ .send side datagram :: later)).length
      = (sentFrom side later).length + 1 := by
    simp only [sentFrom] at hnone ⊢
    rw [List.filterMap_append, hnone, List.nil_append,
      List.filterMap_cons_some (Call.sends?_send side datagram), List.length_cons]
  have hfirst := (loses_everyNth hpolicy h earlier datagram).mp hlost
  have hsecond := loses_everyNth hpolicy hkeeps earlier datagram'
  rw [hcount, List.append_assoc, List.cons_append] at hsecond
  rw [← Bool.not_eq_true, hsecond]
  intro hagain
  -- two neighbours have no common divisor
  have hone := (Nat.dvd_add_right hfirst).mp hagain
  have hle := Nat.le_of_dvd Nat.one_pos hone
  omega

/-! ## The cable as a whole -/

/-- **A cable carries datagrams in order.** Whatever was done with both ends: what was received at a
side is, datagram by datagram, the beginning of what was sent from the other side and not lost while
the receiver was there, each cut to its buffer, of which the rest is as it was. As long as the
receiver is there, the datagrams counted as sent from the other side are those counted as lost, those
received and those on their way, and there is nothing to receive only if all that was carried was
received. From when a side is given a policy that loses every `n`-th datagram, the lost ones are the
multiples of `n`: one of every `n`, rounded down, and never two in a row unless all are lost. -/
theorem carries_in_order (history : History) (side : Side) :
    (∃ got, List.Forall₂ Receipt.IsOf (receipts side history) got
        ∧ got <+: carried side.other history)
      ∧ ((after history).endAt side).sent = (sentFrom side history).length
      ∧ (isAlive side history = true →
        ((after history).endAt side.other).sent
            = ((after history).endAt side.other).lost + (receipts side history).length
              + ((after history).endAt side).incoming.length
          ∧ ∀ buffer, (after history).receive side buffer = none
            ↔ (receipts side history).length = (carried side.other history).length)
      ∧ ∀ n policy later, Loss.everyNth? n = some policy → KeepsPolicy side later →
        ((after (later ++ .setLoss side policy :: history)).endAt side).lost
            = ((after history).endAt side).lost + (sentFrom side later).length / n
          ∧ (∀ datagram, loses side (later ++ .setLoss side policy :: history) datagram = true
              ↔ n ∣ (sentFrom side later).length + 1)
          ∧ (2 ≤ n → ∀ datagram between datagram', KeepsPolicy side between →
              sentFrom side between = [] →
              loses side (later ++ .setLoss side policy :: history) datagram = true →
              loses side
                  (between ++ .send side datagram :: (later ++ .setLoss side policy :: history))
                  datagram'
                = false) := by
  obtain ⟨got, h⟩ := exists_delivered side history
  have hgot : (receipts side history).length = got.length := h.isOf.length_eq
  refine ⟨⟨got, h.isOf, (List.prefix_append _ _).trans h.isPrefix⟩, sent_after side history, ?_, ?_⟩
  · intro halive
    have hcarried := congrArg List.length (h.eq_of_alive halive)
    rw [List.length_append] at hcarried
    refine ⟨?_, fun buffer => ?_⟩
    · rw [sent_eq side.other (by rw [Side.other_other]; exact halive)]
      omega
    · cases hincoming : ((after history).endAt side).incoming with
      | nil =>
        rw [hincoming, List.length_nil] at hcarried
        rw [receive_of_nil hincoming, hgot, ← hcarried]
        simp
      | cons datagram rest =>
        rw [hincoming, List.length_cons] at hcarried
        rw [receive_of_cons hincoming, hgot, ← hcarried]
        simp
  · intro n policy later hpolicy hkeeps
    refine ⟨lost_everyNth hpolicy hkeeps, loses_everyNth hpolicy hkeeps history, ?_⟩
    intro htwo datagram between datagram' hbetween hnone hlost
    exact not_loses_again hpolicy htwo hkeeps hbetween hnone hlost datagram'

/-- Three datagrams are sent. Every second one is lost, and the first one is received into a buffer
that is too short for it. -/
def shortBuffer : History :=
  [.receive .b [9, 9], .send .a [3], .send .a [2], .send .a [1, 1, 1],
    .setLoss .a (.everyNth 2 0)]

theorem carries_in_order_shortBuffer :
    (∃ got, List.Forall₂ Receipt.IsOf [⟨[9, 9], 2, [1, 1]⟩] got ∧ got <+: [[1, 1, 1], [3]])
      ∧ ((after shortBuffer).endAt .a).sent = ((after shortBuffer).endAt .a).lost + 1 + 1
      ∧ ((after shortBuffer).endAt .a).lost = 3 / 2
      ∧ loses .a shortBuffer [4] = true := by
  have hkeeps : KeepsPolicy .a (shortBuffer.take 4) := by
    simp [KeepsPolicy, shortBuffer, Call.sets?]
  obtain ⟨hreceived, -, halive, -⟩ := carries_in_order shortBuffer .b
  obtain ⟨-, -, -, hpolicy⟩ := carries_in_order [] .a
  obtain ⟨hlost, hmultiples, -⟩ := hpolicy 2 (.everyNth 2 0) (shortBuffer.take 4) rfl hkeeps
  exact ⟨hreceived, (halive rfl).1, hlost.trans (Nat.zero_add _), (hmultiples [4]).mpr (by decide)⟩

end Cable

end Redelivery
