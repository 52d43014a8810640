import Redelivery.Proofs.Pieces
import Redelivery.Proofs.Window.Acknowledgement

/-!
# One direction of a stream

Everything that is under way in one direction, seen from above: the sender's window, the receiver's
window, and what has been said between the two. Segments are counted from the first serial number
on, without wrapping around. The state here is not kept by anybody; it is what the two ends and the
network amount to.

What holds in every state is `Link.Sound`. Each operation of either end keeps it: numbering a new
segment and putting it on the wire, giving it up, storing a segment that arrived, taking one out,
making an acknowledgement and taking one in.

## Main definitions

* `Ack`: an acknowledgement that was made at some time.
* `Link`, `Link.Sound`: one direction, and what holds of it.
* `Link.latestAck`: the acknowledgement that would be made now.

## Main statements

* `Link.Sound.number`, `Link.Sound.expose`, `Link.Sound.abandon`, `Link.Sound.acknowledge`: the
  sender's operations.
* `Link.Sound.accept`, `Link.Sound.pop`, `Link.Sound.issue`: the receiver's operations.
* `Link.Sound.somewhere`: every segment is with the sender, or it arrived unaltered.
* `Link.Sound.size_pos_of_length_eq`: a send window that is full is not empty.

The fields of `Link.Sound` fall into three groups: what the windows hold, the order of the counts,
and what is true of each acknowledgement that was ever made. The last group is there because an
acknowledgement may be taken in long after it was made, and in any order with others. It can say no
more than what holds at all later times: that segments it reports have arrived (`got`) and that the
receiver had come so far (`ack_next_le`). Of a segment that the sender has let go, `held` keeps the
acknowledgement that reported it, and with `got` that gives `Link.Sound.somewhere`.

The windows compare serial numbers, which repeat. The hypotheses on how old an arriving segment or
acknowledgement may be are what it takes for an old one to be recognised as such and not as one from
the future.

That a full window is not empty is more than counting. Were it empty, its first segment and its last
one would both have been reported; the report on the last one was made for this very window, and of
such a report `ack_apart` says that no other one is ever about the first segment: it was missing
then, and an acknowledgement that is made after it has been taken out starts behind it. A reader
sees to this when it makes an acknowledgement: it does so only if the next segment is missing or has
just been taken out (`Link.Sound.issue`).
-/

namespace Redelivery

/-- An acknowledgement, in counts. -/
structure Ack where
  /-- All segments before this one are acknowledged. -/
  next : Nat
  /-- The bitmap of the segments behind it. -/
  received : UInt32
  /-- How many segments had numbers when it was made. -/
  stamp : Nat

/-- The segment with count `k` is reported in the bitmap. -/
def Ack.Reports (ack : Ack) (k : Nat) : Prop :=
  Window.Reports ack.next ack.received k

/-- One direction of a stream. -/
structure Link where
  /-- The serial number with count zero. -/
  first : Serial
  /-- What the segments with numbers carry, in order. -/
  log : List Piece
  /-- How many segments at the front of the log may have been on the wire. -/
  exposed : Nat
  /-- The count of the send window's base. -/
  passed : Nat
  /-- The sender's window. -/
  sendWindow : Window Buffer
  /-- What was taken out of the receive window, in order. -/
  taken : List Piece
  /-- The receiver's window. -/
  receiveWindow : Window Buffer
  /-- All acknowledgements that were ever made. -/
  acks : List Ack

namespace Link

/-- The segment carries what the log has at the given count. -/
def Logged (log : List Piece) (k : Nat) (s : Segment Buffer) : Prop :=
  log[k]? = some s.wire.piece

/-- What holds of a direction at any time. -/
structure Sound (l : Link) (width : Nat) : Prop where
  /-- The send window holds segments of the log, from its base on. -/
  send : l.sendWindow.Spans l.first l.passed l.log.length (Logged l.log)
  /-- The receive window holds segments that may have been on the wire, behind those taken out. -/
  receive : l.receiveWindow.Spans l.first l.taken.length l.exposed (Logged l.log)
  /-- The send window's width. -/
  send_width : l.sendWindow.capacity = width
  /-- The receive window's width. -/
  receive_width : l.receiveWindow.capacity = width
  /-- The send window does not run ahead of the receive window. -/
  passed_le : l.passed ≤ l.taken.length
  /-- Only what was on the wire is taken out. -/
  taken_le : l.taken.length ≤ l.exposed
  /-- Only what has a number is on the wire. -/
  exposed_le : l.exposed ≤ l.log.length
  /-- What was taken out is what was sent. -/
  taken_prefix : l.taken <+: l.log
  /-- A segment is missing from the send window only if an acknowledgement reported it, and the
  window has moved at least as far as that acknowledgement says. -/
  held : ∀ k, l.passed ≤ k → k < l.log.length →
    (l.sendWindow.find? (l.first + k)).isSome = true
      ∨ ∃ ack ∈ l.acks, ack.next ≤ l.passed ∧ ack.Reports k
  /-- What was reported did arrive. -/
  got : ∀ ack ∈ l.acks, ∀ k, ack.Reports k →
    k < l.taken.length ∨ (l.receiveWindow.find? (l.first + k)).isSome = true
  /-- An acknowledgement says where the receive window once started. -/
  ack_next_le : ∀ ack ∈ l.acks, ack.next ≤ l.taken.length
  /-- The sender had not gone beyond a window's width then. -/
  ack_stamp_le : ∀ ack ∈ l.acks, ack.stamp ≤ ack.next + width
  /-- Only what had a number was reported. -/
  lt_ack_stamp : ∀ ack ∈ l.acks, ∀ k, ack.Reports k → k < ack.stamp
  /-- If an acknowledgement reports the last segment of a window, then the window's first segment
  had not arrived, and all that arrives is reported only by later windows. -/
  ack_apart : ∀ ack ∈ l.acks, ack.Reports (ack.next + width - 1) →
    ∀ other ∈ l.acks, ¬ other.Reports ack.next

/-- The acknowledgement that would be made now. -/
def latestAck (l : Link) : Ack where
  next := l.taken.length
  received := l.receiveWindow.received
  stamp := l.log.length

theorem Logged.append {log : List Piece} {k : Nat} {s : Segment Buffer} (h : Logged log k s)
    (more : List Piece) : Logged (log ++ more) k s := by
  have hk : k < log.length := (List.getElem?_eq_some_iff.mp h).1
  rw [Logged, List.getElem?_append_left hk]
  exact h

theorem Logged.dropLast {log : List Piece} {k : Nat} {s : Segment Buffer} (h : Logged log k s)
    (hk : k < log.length - 1) : Logged log.dropLast k s := by
  rw [Logged, List.getElem?_dropLast, if_pos hk]
  exact h

namespace Sound

variable {l : Link} {width : Nat}

/-- Nothing has happened yet. -/
theorem start {first : Serial} (hpos : 0 < width) (hdvd : width ∣ 2 ^ 32)
    (hnarrow : 2 * width ≤ 2 ^ 31) :
    Sound
      { first := first, log := [], exposed := 0, passed := 0
        sendWindow := .empty width first hpos, taken := []
        receiveWindow := .empty width first hpos, acks := [] } width where
  send := Window.Spans.empty hpos hdvd hnarrow
  receive := Window.Spans.empty hpos hdvd hnarrow
  send_width := Window.capacity_empty hpos
  receive_width := Window.capacity_empty hpos
  passed_le := Nat.le_refl 0
  taken_le := Nat.le_refl 0
  exposed_le := Nat.le_refl 0
  taken_prefix := List.prefix_rfl
  held k _ hk := absurd hk (Nat.not_lt_zero k)
  got _ hack := absurd hack List.not_mem_nil
  ack_next_le _ hack := absurd hack List.not_mem_nil
  ack_stamp_le _ hack := absurd hack List.not_mem_nil
  lt_ack_stamp _ hack := absurd hack List.not_mem_nil
  ack_apart _ hack := absurd hack List.not_mem_nil

theorem two_mul_width_le (h : l.Sound width) : 2 * width ≤ 2 ^ 31 :=
  h.send_width ▸ h.send.narrow

theorem width_pos (h : l.Sound width) : 0 < width :=
  h.send_width ▸ l.sendWindow.capacity_pos

theorem length_log_le (h : l.Sound width) : l.log.length ≤ l.passed + width :=
  h.send_width ▸ h.send.hi_le

/-- The counts are in the order of their way: acknowledged, delivered, sent, and at most a window's
width lies between the ends. -/
theorem order (h : l.Sound width) :
    l.passed ≤ l.taken.length ∧ l.taken.length ≤ l.exposed ∧ l.exposed ≤ l.log.length
      ∧ l.log.length ≤ l.passed + width :=
  ⟨h.passed_le, h.taken_le, h.exposed_le, h.length_log_le⟩

/-! ## The sender -/

/-- The next segment finds room in the send window until that is a window's width ahead. -/
theorem write_eq (h : l.Sound width) {s : Segment Buffer} (hseq : s.seq = l.first + l.log.length) :
    l.sendWindow.write s
      = if l.log.length < l.passed + width then .added (l.sendWindow.store s) else .full := by
  obtain ⟨hab, hbe, hen, -⟩ := h.order
  rw [← h.send_width]
  exact h.send.write_eq (by omega) hseq

/-- **A new segment gets a number** and a place in the send window, if there is room. -/
theorem number (h : l.Sound width) {s : Segment Buffer} (hseq : s.seq = l.first + l.log.length)
    (hroom : l.log.length < l.passed + width) :
    Sound { l with log := l.log ++ [s.wire.piece], sendWindow := l.sendWindow.store s } width := by
  obtain ⟨hab, hbe, hen, hna⟩ := h.order
  have hcap := h.send_width
  have hnarrow := h.two_mul_width_le
  have hlen : (l.log ++ [s.wire.piece]).length = l.log.length + 1 := by simp
  have hsend : l.sendWindow.Spans l.first l.passed l.log.length
      (Logged (l.log ++ [s.wire.piece])) :=
    h.send.mono (Nat.le_refl _) h.send.hi_le fun _ _ _ _ hs => hs.append _
  have hfind := h.send.find?_store hseq (by omega) (by omega)
  refine
    { h with
      send := ?_
      receive := h.receive.mono (Nat.le_refl _) h.receive.hi_le fun _ _ _ _ hs => hs.append _
      send_width := by rw [Window.capacity_store]; exact hcap
      exposed_le := by show l.exposed ≤ (l.log ++ [s.wire.piece]).length; omega
      taken_prefix := h.taken_prefix.trans (List.prefix_append _ _)
      held := ?_ }
  · rw [hlen]
    apply hsend.store hseq (by omega) (Nat.lt_succ_self _) (Nat.le_succ _) (by omega)
    rw [Logged, List.getElem?_concat_length]
  · intro k (hk : l.passed ≤ k) (hkn : k < (l.log ++ [s.wire.piece]).length)
    simp only [hfind]
    by_cases hlast : k = l.log.length
    · rw [hlast, if_pos rfl]
      exact Or.inl rfl
    · rw [if_neg]
      · exact h.held k hk (by omega)
      · intro heq
        exact hlast (Serial.add_left_cancel heq (by omega) (by omega))

/-- All segments that have numbers may be on the wire. -/
theorem expose (h : l.Sound width) : Sound { l with exposed := l.log.length } width := by
  obtain ⟨hab, hbe, hen, hna⟩ := h.order
  have hcap := h.receive_width
  exact
    { h with
      receive := h.receive.mono hen (by show l.log.length ≤ _; omega) fun _ _ _ _ hs => hs
      taken_le := Nat.le_trans hbe hen
      exposed_le := Nat.le_refl _ }

/-- **The latest segment is given up**, as long as it was not on the wire. -/
theorem abandon (h : l.Sound width) (hexposed : l.exposed < l.log.length) {s : Segment Buffer}
    {w : Window Buffer}
    (hclear : l.sendWindow.clear (l.first + (l.log.length - 1)) = some (s, w)) :
    Sound { l with log := l.log.dropLast, sendWindow := w } width := by
  obtain ⟨hab, hbe, hen, hna⟩ := h.order
  have hnarrow := h.two_mul_width_le
  have hlen : l.log.dropLast.length = l.log.length - 1 := List.length_dropLast
  obtain ⟨hcap, hsend, hfind⟩ := h.send.clear_eq_some hclear
  refine
    { h with
      send := ?_
      receive := h.receive.mono (Nat.le_refl _) h.receive.hi_le
        fun k _ _ hk hs => hs.dropLast (by omega)
      send_width := hcap.trans h.send_width
      exposed_le := by show l.exposed ≤ l.log.dropLast.length; omega
      taken_prefix := ?_
      held := ?_ }
  · refine { hsend with hi_le := ?_, stored := ?_ }
    · show l.log.dropLast.length ≤ l.passed + w.capacity
      have hhi := hsend.hi_le
      omega
    · intro q t ht
      obtain ⟨k, hk, hkn, rfl, hlog⟩ := hsend.stored q t ht
      have hne : k ≠ l.log.length - 1 := by
        rintro rfl
        rw [hfind, if_pos rfl] at ht
        cases ht
      refine ⟨k, hk, ?_, rfl, hlog.dropLast (by omega)⟩
      show k < l.log.dropLast.length
      omega
  · apply List.prefix_of_prefix_length_le h.taken_prefix (List.dropLast_prefix _)
    show l.taken.length ≤ l.log.dropLast.length
    omega
  · intro k (hk : l.passed ≤ k) (hkn : k < l.log.dropLast.length)
    simp only [hfind]
    rw [if_neg]
    · exact h.held k hk (by omega)
    · intro heq
      have hcount := Serial.add_left_cancel heq (by omega) (by omega)
      omega

/-- The latest segment is in the send window until it was on the wire. -/
theorem clear_ne_none (h : l.Sound width) (hexposed : l.exposed < l.log.length) :
    l.sendWindow.clear (l.first + (l.log.length - 1)) ≠ none := by
  obtain ⟨hab, hbe, hen, hna⟩ := h.order
  have hnarrow := h.two_mul_width_le
  intro hnone
  have hfind := Window.remove?_eq_none_iff.mp hnone
  -- nobody can have reported it, since the receiver holds only what was on the wire
  rcases h.held (l.log.length - 1) (by omega) (by omega) with hsome | ⟨ack, hack, -, hreport⟩
  · rw [hfind] at hsome
    cases hsome
  · rcases h.got ack hack _ hreport with hlt | hsome
    · omega
    · obtain ⟨t, ht⟩ := Option.isSome_iff_exists.mp hsome
      obtain ⟨-, hlt, -⟩ := h.receive.of_find? (by omega) (by omega) ht
      omega

/-- **An acknowledgement is taken in.** It may be an old one, but not so old that its number is
about to come up again. -/
theorem acknowledge (h : l.Sound width) {ack : Ack} (hack : ack ∈ l.acks)
    (hfresh : l.log.length < ack.stamp + 2 ^ 31) :
    Sound
      { l with
        sendWindow := (l.sendWindow.acknowledge (l.first + ack.next) ack.received).window
        passed := max l.passed ack.next } width := by
  obtain ⟨hab, hbe, hen, hna⟩ := h.order
  have hnarrow := h.two_mul_width_le
  have hcap := h.send_width
  have hnext := h.ack_next_le ack hack
  have hstamp := h.ack_stamp_le ack hack
  rcases Nat.lt_or_ge ack.next l.passed with hlt | hge
  · rw [h.send.acknowledge_stale hlt (by omega), Nat.max_eq_left (Nat.le_of_lt hlt)]
    exact h
  · obtain ⟨hcap', hsend, hfind⟩ := h.send.acknowledge ack.received hge (by omega)
    rw [Nat.max_eq_right hge]
    refine { h with send := hsend, send_width := hcap'.trans hcap, passed_le := hnext, held := ?_ }
    intro k hk hkn
    -- what is missing now was reported by this acknowledgement, or by one before
    by_cases hreport : ack.Reports k
    · exact Or.inr ⟨ack, hack, Nat.le_refl _, hreport⟩
    · show ((l.sendWindow.acknowledge _ _).window.find? (l.first + k)).isSome = true ∨ _
      rw [hfind k hk hkn hreport]
      rcases h.held k (Nat.le_trans hge hk) hkn with hsome | ⟨other, hmem, hother, hreports⟩
      · exact Or.inl hsome
      · exact Or.inr ⟨other, hmem, Nat.le_trans hother hge, hreports⟩

/-! ## The receiver -/

/-- A segment is found, after some more arrived, if it was found before. -/
theorem isSome_find?_accept (h : l.Sound width) {s : Segment Buffer} {k : Nat}
    (hseq : s.seq = l.first + k) (hlo : l.taken.length ≤ k) (hk : k < l.exposed) (q : Serial)
    (hq : (l.receiveWindow.find? q).isSome = true) :
    ((l.receiveWindow.store s).find? q).isSome = true := by
  have hhi := h.receive.hi_le
  rw [h.receive.find?_store hseq hlo (by omega)]
  split
  · rfl
  · exact hq

/-- The state after a segment that is still to be delivered was stored. -/
theorem store (h : l.Sound width) {s : Segment Buffer} {k : Nat} (hseq : s.seq = l.first + k)
    (hlo : l.taken.length ≤ k) (hk : k < l.exposed) (hlog : Logged l.log k s) :
    Sound { l with receiveWindow := l.receiveWindow.store s } width := by
  refine
    { h with
      receive := h.receive.store hseq hlo hk (Nat.le_refl _) h.receive.hi_le hlog
      receive_width := by rw [Window.capacity_store]; exact h.receive_width
      got := ?_ }
  intro ack hack j hj
  rcases h.got ack hack j hj with hlt | hsome
  · exact Or.inl hlt
  · exact Or.inr (h.isSome_find?_accept hseq hlo hk _ hsome)

/-- **A segment arrives**, for the first time or again. It may be an old one, but not so old that
its number is about to come up again. -/
theorem accept (h : l.Sound width) {s : Segment Buffer} {k : Nat} (hseq : s.seq = l.first + k)
    (hk : k < l.exposed) (hlog : Logged l.log k s) (hfresh : l.log.length < k + width + 2 ^ 31) :
    Sound { l with receiveWindow := l.receiveWindow.offer s } width := by
  obtain ⟨hab, hbe, hen, hna⟩ := h.order
  have hcap := h.receive_width
  have hnarrow := h.two_mul_width_le
  rcases Nat.lt_or_ge k l.taken.length with hlt | hge
  · rw [h.receive.offer_stale hseq hlt (by omega)]
    exact h
  · rcases h.receive.offer_eq hseq hge (by omega) with heq | heq
    · rw [heq]
      exact h.store hseq hge hk hlog
    · rw [heq]
      exact h

/-- **The next segment is taken out** of the receive window. It is the next one of the log. -/
theorem pop (h : l.Sound width) {s : Segment Buffer} {w : Window Buffer}
    (hpop : l.receiveWindow.pop? = some (s, w)) :
    l.taken ++ [s.wire.piece] <+: l.log
      ∧ Sound { l with taken := l.taken ++ [s.wire.piece], receiveWindow := w } width := by
  obtain ⟨hab, hbe, hen, hna⟩ := h.order
  have hnarrow := h.two_mul_width_le
  obtain ⟨hfind, hcap, hreceive, hfind'⟩ := h.receive.pop?_eq_some hpop
  obtain ⟨-, hlt, hlog⟩ := h.receive.of_find? (by omega) (by omega) hfind
  have hlen : (l.taken ++ [s.wire.piece]).length = l.taken.length + 1 := by simp
  have hfront : l.taken ++ [s.wire.piece] <+: l.log := by
    obtain ⟨tail, htail⟩ := h.taken_prefix
    rw [Logged, ← htail, List.getElem?_append_right (Nat.le_refl _), Nat.sub_self] at hlog
    -- the log goes on behind what was taken out, with the piece that was found
    cases tail with
    | nil => cases hlog
    | cons p tail =>
      cases hlog
      rw [← htail]
      exact (List.prefix_append_right_inj _).mpr ((List.prefix_cons_inj _).mpr List.nil_prefix)
  refine ⟨hfront, ?_⟩
  refine
    { h with
      receive := by rw [hlen]; exact hreceive
      receive_width := hcap.trans h.receive_width
      passed_le := by simp only [hlen]; omega
      taken_le := by simp only [hlen]; omega
      taken_prefix := hfront
      got := ?_
      ack_next_le := ?_ }
  · intro ack hack k hk
    simp only [hlen]
    rcases Nat.lt_or_ge l.taken.length k with hlater | hle
    · rcases h.got ack hack k hk with hlt | hsome
      · exact Or.inl (by omega)
      · -- only the first segment is gone, and this one is behind it
        apply Or.inr
        have hnext := h.ack_next_le ack hack
        have hreach : k ≤ ack.next + 32 := Window.Reports.lt_add hk
        rw [hfind', if_neg]
        · exact hsome
        · intro heq
          have hcount := Serial.add_left_cancel heq (by omega) (by omega)
          omega
    · exact Or.inl (by omega)
  · intro ack hack
    have hnext := h.ack_next_le ack hack
    simp only [hlen]
    omega

/-- The receive window starts somewhere else after a segment was taken out. -/
theorem base_ne_of_pop (h : l.Sound width) {s : Segment Buffer} {w : Window Buffer}
    (hpop : l.receiveWindow.pop? = some (s, w)) : w.base ≠ l.receiveWindow.base := by
  obtain ⟨-, hsound⟩ := h.pop hpop
  have hafter : w.base = l.first + (l.taken ++ [s.wire.piece]).length := hsound.receive.base_eq
  have hbefore := h.receive.base_eq
  rw [hafter, hbefore, List.length_append, List.length_singleton]
  intro heq
  have hcount := Serial.add_left_cancel heq (by omega) (by omega)
  omega

/-- What an acknowledgement reports that is made now has been on the wire and is there. -/
theorem of_reports_latestAck (h : l.Sound width) {k : Nat} (hk : l.latestAck.Reports k) :
    l.taken.length < k ∧ k < l.exposed
      ∧ (l.receiveWindow.find? (l.first + k)).isSome = true := by
  obtain ⟨hab, hbe, hen, hna⟩ := h.order
  have hnarrow := h.two_mul_width_le
  obtain ⟨hlt, hle, hsome⟩ := h.receive.reports_iff.mp hk
  have hbits : Window.bitmapWidth = 32 := rfl
  obtain ⟨t, ht⟩ := Option.isSome_iff_exists.mp hsome
  obtain ⟨-, hexposed, -⟩ := h.receive.of_find? (by omega) (by omega) ht
  exact ⟨hlt, hexposed, hsome⟩

/-- If an acknowledgement that is made now reports the last segment of the window, then nobody has
reported the first one: with the window that full, none was just taken out, so the first one is
missing. -/
theorem not_reports_of_latestAck (h : l.Sound width)
    (hwhen : l.receiveWindow.find? (l.first + l.taken.length) = none
      ∨ l.log.length < l.taken.length + width)
    (hlast : l.latestAck.Reports (l.taken.length + width - 1)) {other : Ack}
    (hother : other ∈ l.acks) : ¬ other.Reports l.taken.length := by
  obtain ⟨hab, hbe, hen, hna⟩ := h.order
  obtain ⟨-, hexposed, -⟩ := h.of_reports_latestAck hlast
  have hmissing : l.receiveWindow.find? (l.first + l.taken.length) = none := by
    rcases hwhen with hmissing | hroom
    · exact hmissing
    · omega
  intro hreport
  rcases h.got other hother _ hreport with hlt | hsome
  · exact Nat.lt_irrefl _ hlt
  · rw [hmissing] at hsome
    cases hsome

/-- **An acknowledgement is made**, by a reader that finds the next segment missing or has just
taken one out. -/
theorem issue (h : l.Sound width)
    (hwhen : l.receiveWindow.find? (l.first + l.taken.length) = none
      ∨ l.log.length < l.taken.length + width) :
    Sound { l with acks := l.latestAck :: l.acks } width := by
  obtain ⟨hab, hbe, hen, hna⟩ := h.order
  refine
    { h with
      held := ?_
      got := ?_
      ack_next_le := ?_
      ack_stamp_le := ?_
      lt_ack_stamp := ?_
      ack_apart := ?_ }
  · intro k hk hkn
    rcases h.held k hk hkn with hsome | ⟨ack, hack, hnext, hreport⟩
    · exact Or.inl hsome
    · exact Or.inr ⟨ack, List.mem_cons_of_mem _ hack, hnext, hreport⟩
  · intro ack hack k hk
    rcases List.mem_cons.mp hack with rfl | hack
    · exact Or.inr (h.of_reports_latestAck hk).2.2
    · exact h.got ack hack k hk
  · intro ack hack
    rcases List.mem_cons.mp hack with rfl | hack
    · exact Nat.le_refl _
    · exact h.ack_next_le ack hack
  · intro ack hack
    rcases List.mem_cons.mp hack with rfl | hack
    · show l.log.length ≤ l.taken.length + width
      omega
    · exact h.ack_stamp_le ack hack
  · intro ack hack k hk
    rcases List.mem_cons.mp hack with rfl | hack
    · exact Nat.lt_of_lt_of_le (h.of_reports_latestAck hk).2.1 hen
    · exact h.lt_ack_stamp ack hack k hk
  · -- either of the two may be the new one; if the other one is, it starts too late to report
    intro ack hack hlast other hother hreport
    rcases List.mem_cons.mp hack with rfl | hack
    · rcases List.mem_cons.mp hother with rfl | hother
      · exact Nat.lt_irrefl _ hreport.lt
      · exact h.not_reports_of_latestAck hwhen hlast hother hreport
    · rcases List.mem_cons.mp hother with rfl | hother
      · exact Nat.lt_irrefl _ (Nat.lt_of_le_of_lt (h.ack_next_le ack hack) hreport.lt)
      · exact h.ack_apart ack hack hlast other hother hreport

/-! ## What follows -/

/-- **Every segment is somewhere**: with the sender, or it arrived as it was sent and is with the
receiver or was taken out there. -/
theorem somewhere (h : l.Sound width) {k : Nat} {p : Piece} (hp : l.log[k]? = some p) :
    (l.passed ≤ k ∧ ∃ s, l.sendWindow.find? (l.first + k) = some s ∧ s.wire.piece = p)
      ∨ (l.taken.length ≤ k ∧ ∃ s, l.receiveWindow.find? (l.first + k) = some s ∧ s.wire.piece = p)
      ∨ l.taken[k]? = some p := by
  obtain ⟨hab, hbe, hen, hna⟩ := h.order
  have hnarrow := h.two_mul_width_le
  have hkn : k < l.log.length := (List.getElem?_eq_some_iff.mp hp).1
  rcases Nat.lt_or_ge k l.taken.length with hlt | hge
  · obtain ⟨tail, htail⟩ := h.taken_prefix
    rw [← htail, List.getElem?_append_left hlt] at hp
    exact Or.inr (Or.inr hp)
  · have hpiece {s : Segment Buffer} (hs : Logged l.log k s) : s.wire.piece = p :=
      Option.some.inj (hs.symm.trans hp)
    rcases h.held k (by omega) hkn with hsome | ⟨ack, hack, -, hreport⟩
    · obtain ⟨s, hs⟩ := Option.isSome_iff_exists.mp hsome
      obtain ⟨hk, -, hlog⟩ := h.send.of_find? (by omega) (by omega) hs
      exact Or.inl ⟨hk, s, hs, hpiece hlog⟩
    · rcases h.got ack hack k hreport with hlt | hsome
      · omega
      · obtain ⟨s, hs⟩ := Option.isSome_iff_exists.mp hsome
        obtain ⟨hk, -, hlog⟩ := h.receive.of_find? (by omega) (by omega) hs
        exact Or.inr (Or.inl ⟨hk, s, hs, hpiece hlog⟩)

/-- **A send window that is full is not empty.** Had both its first and its last segment been
reported, then the last one by an acknowledgement that starts at the first one, which no other may
report. -/
theorem size_pos_of_length_eq (h : l.Sound width) (hfull : l.log.length = l.passed + width) :
    0 < l.sendWindow.size := by
  obtain ⟨hab, hbe, hen, hna⟩ := h.order
  have hnarrow := h.two_mul_width_le
  have hpos := h.width_pos
  have hcap := h.send_width
  rw [h.send.tidy.size_pos_iff (by omega)]
  rcases h.held l.passed (Nat.le_refl _) (by omega) with hsome | ⟨other, hother, hnext', hreports'⟩
  · obtain ⟨s, hs⟩ := Option.isSome_iff_exists.mp hsome
    exact ⟨_, s, hs⟩
  · rcases h.held (l.passed + width - 1) (by omega) (by omega) with
      hsome | ⟨ack, hack, hnext, hreports⟩
    · obtain ⟨s, hs⟩ := Option.isSome_iff_exists.mp hsome
      exact ⟨_, s, hs⟩
    · -- the acknowledgement that reports the last segment was made when all had numbers
      have hstamp := h.lt_ack_stamp ack hack _ hreports
      have hwithin := h.ack_stamp_le ack hack
      have heq : ack.next = l.passed := by omega
      apply absurd _ (h.ack_apart ack hack (by rwa [heq]) other hother)
      rwa [heq]

end Sound

end Link

end Redelivery
