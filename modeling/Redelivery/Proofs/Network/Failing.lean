import Mathlib.Data.List.Induction
import Redelivery.Proofs.Network.Starting

/-!
# A failed write is all or nothing

A write that fails has either closed the stream, or it has done nothing to what is to be sent: no
segment of its message got into the send window or to the socket, the next serial number is the one
that the write has found, and the send window differs from the one it has found by acknowledgements
only. It does not matter what others do in the meantime, what arrives, which calls are abandoned and
how often the socket fails.

The proof follows a write from the incident in which it gets hold of the section for writing. It is
at one of few stages then: it has sent nothing, it has sent a segment, it is gone, or the stream is
closed. A write that fails in the first stage has done nothing, and one that fails in the second
closes the stream.

## Main definitions

* `Network.Untouched`, `Network.Spared`: runs that do nothing to what is to be sent.
* `Network.Enters`: a run begins with a write that gets hold of the section.
* `Network.Stage`: how far a write has come.

## Main statements

* `Network.Stage.step`, `Network.exists_stage`: writes go from stage to stage.
* `Network.all_or_nothing`: a failed write is all or nothing.

`Stage.step` has one lemma for each stage that a write may be at: `stage_of_trying` for one that has
sent nothing, `stage_of_begun` for one that has, and the other two stages are for good. Both rest on
`Writer.Course`, which says what a turn of a writer can come to, and on `Network.Fate`, which says
that incidents in which the writer has no turn do nothing to what is to be sent. An abandoned write
does not fail, so it is gone without a claim.

A write that is seen to fail was inside at some time, unless it was refused at its call;
`exists_stage` goes back to the incident in which it got hold of the section, by induction on the
run from its end. The second part, on a segment that the socket did not take, needs no stage:
`undergo_unsent` has the stream after it, and `Leads.announced` says that the datagram in question
has the new segment in it.
-/

namespace Redelivery

/-- Whether the call is a write that waits for the socket to take a new segment. -/
def Call.isSending : Call → Bool
  | reading _ _ => false
  | writing point => point.isSending
  | closing _ => false

theorem Call.exists_of_isSending {c : Option Call} (h : c.any isSending = true) :
    ∃ rest d piggybacked, c = some (.writing (.sending rest d piggybacked)) := by
  cases c with
  | none => cases h
  | some call =>
    cases call with
    | writing point =>
      cases point with
      | sending rest d piggybacked => exact ⟨rest, d, piggybacked, rfl⟩
      | _ => cases h
    | _ => cases h

/-- Whoever waits for the socket to take a new segment has handed over a datagram with that segment,
and the segment has the next number. -/
def Session.Announced (s : Session) : Prop :=
  ∀ id rest d piggybacked, s.call? id = some (.writing (.sending rest d piggybacked)) →
    ∃ t extra, d = Header.data.datagram (t :: extra) ∧ t.seq = s.stream.next

namespace Network

variable {settings : ValidSettings} {start n m m' n' : Network} {x : Side} {i : Incident}
  {run : List Incident} {id : Nat}

/-! ## Runs that do nothing to what is to be sent -/

/-- The run from `n` to `m` has done nothing at a side to what is to be sent, but for the
acknowledgements that were taken in, and nothing new was sent in it. -/
structure Untouched (n : Network) (side : Side) (run : List Incident) (m : Network) : Prop where
  /-- The next serial number is the same. -/
  next : (m.peer side).stream.next = (n.peer side).stream.next
  /-- The send window has heard the acknowledgements, one after the other. -/
  sendWindow : (m.peer side).stream.sendWindow
    = (n.acks side run).foldl Window.hear (n.peer side).stream.sendWindow
  /-- Whatever was handed to the socket is only a header, or it has segments that were in the send
  window at the beginning. -/
  handed : ∀ d ∈ n.handed side run, d.IsControl ∨ (n.peer side).stream.Sends d

/-- No part of the run from `n` on has done anything to what is to be sent. -/
def Spared (n : Network) (side : Side) (run : List Incident) : Prop :=
  ∀ part m, part <+: run → n.follow? everything part = some m → n.Untouched side part m

theorem spared_nil (n : Network) (x : Side) : n.Spared x [] := by
  intro part m hpart hfollow
  obtain rfl := List.prefix_nil.mp hpart
  cases hfollow
  exact ⟨rfl, rfl, fun d hd => absurd hd List.not_mem_nil⟩

/-- One more incident. -/
theorem Spared.concat (h : n.Spared x run) (hrun : n.follow? everything run = some m)
    (hstep : m.undergo? i = some m')
    (hnext : (m'.peer x).stream.next = (m.peer x).stream.next)
    (hwindow : (m'.peer x).stream.sendWindow
      = (m.ack? x i).toList.foldl Window.hear (m.peer x).stream.sendWindow)
    (hhanded : ∀ d, m.handed? x i = some d → d.IsControl ∨ (n.peer x).stream.Sends d) :
    n.Spared x (run ++ [i]) := by
  have hm := h run m List.prefix_rfl hrun
  intro part last hpart hfollow
  rcases List.prefix_concat_iff.mp hpart with rfl | hpart
  · rw [follow?_concat, hrun] at hfollow
    obtain rfl : m' = last := Option.some.inj (hstep.symm.trans hfollow)
    refine ⟨hnext.trans hm.next, ?_, ?_⟩
    · rw [hwindow, hm.sendWindow, acks_concat hrun, List.foldl_append]
    · intro d hd
      exact ((mem_handed_concat hrun).mp hd).elim (hm.handed d) (hhanded d)
  · exact h part last hpart hfollow

/-- A datagram with segments from the send window has none but those that were there before the
acknowledgements. -/
theorem sends_of_foldl_hear {s s' : Stream} {acks : List (Serial × UInt32)}
    (hsettings : s'.settings = s.settings)
    (hwindow : s'.sendWindow = acks.foldl Window.hear s.sendWindow) {d : Bytes}
    (h : s'.Sends d) : s.Sends d := by
  obtain ⟨segments, heq, hlength, hfrom⟩ := h
  rw [hsettings] at hlength
  refine ⟨segments, heq, hlength, fun t ht => ?_⟩
  obtain ⟨u, hu, hwire⟩ := hfrom t ht
  rw [hwindow] at hu
  exact ⟨u, Window.find?_of_foldl_hear hu, hwire⟩

/-! ## From stage to stage -/

/-- How far the write `id` has come in a run from `n` to `m`, in which it has got hold of the
section at first. The last thing that was seen at its side is `outcome`. -/
inductive Stage (n : Network) (side : Side) (id : Nat) (run : List Incident)
    (outcome : Option Outcome) (m : Network) : Prop where
  /-- It has sent nothing. -/
  | trying {w : Writer} (hcall : (m.peer side).session.call? id = some (.writing w))
      (hin : w.isInside = true) (hbegun : w.begun = false)
      (hresends : ∀ d ∈ w.resends, (n.peer side).stream.Sends d) (hspared : n.Spared side run)
  /-- It has sent a segment. -/
  | begun {w : Writer} (hcall : (m.peer side).session.call? id = some (.writing w))
      (hin : w.isInside = true) (hbegun : w.begun = true)
  /-- It is not there any more. If it has failed just now, the stream is closed, or nothing was done
  to what is to be sent. -/
  | gone (hcall : (m.peer side).session.call? id = none) (hlt : id < (m.peer side).calls)
      (hfailed : ∀ failure, outcome = some (.returns id (.failed failure)) →
        (m.peer side).stream.closed = true ∨ n.Spared side run)
  /-- The stream is closed. -/
  | closed (hclosed : (m.peer side).stream.closed = true)

/-- Where a write stands after a turn of its own. -/
theorem stage_of_course {D : Bytes → Prop} {s : Stream} {begun : Bool} {s₀ : Session}
    {r : Shared × Turn Writer Writer.Outcome} (h : Writer.Course D s begun r)
    (hsession : (m'.peer x).session = (s₀.recordWriter id r).1)
    (houtcome : m.outcome? x i = some (s₀.recordWriter id r).2) (hlt : id < (m'.peer x).calls)
    (hD : begun = false → ∀ d, D d → (n.peer x).stream.Sends d)
    (hspared : begun = false → s.Alike (m'.peer x).stream →
      (∀ d, m.handed? x i = some d → d.IsControl ∨ D d) → n.Spared x (run ++ [i])) :
    n.Stage x id (run ++ [i]) (m.outcome? x i) m' := by
  have hpoint : (m'.peer x).session.call? id = r.2.point?.map .writing := by
    rw [hsession]
    exact (Session.call?_record ..).trans (Turn.point?_map ..)
  have hstream : (m'.peer x).stream = r.1.stream := by
    show (m'.peer x).session.stream = _
    rw [hsession]
    exact Session.stream_record ..
  have hhanded : m.handed? x i = r.2.handed? := by
    unfold handed?
    rw [houtcome]
    exact (Session.handed?_record ..).trans (Turn.handed?_map ..)
  cases h with
  | rests halike hin hsending hbegun hresends =>
    cases begun with
    | true => exact .begun hpoint hin hbegun
    | false =>
      refine .trying hpoint hin hbegun (fun d hd => hD rfl d (hresends d hd)) (hspared rfl ?_ ?_)
      · rw [hstream]
        exact halike
      · intro d hd
        rw [hhanded] at hd
        cases hd
  | repeats halike hin hsending hbegun hresends hd =>
    cases begun with
    | true => exact .begun hpoint hin hbegun
    | false =>
      refine .trying hpoint hin hbegun (fun d hd => hD rfl d (hresends d hd)) (hspared rfl ?_ ?_)
      · rw [hstream]
        exact halike
      · intro d' hd'
        rw [hhanded] at hd'
        cases hd'
        exact hd
  | announces hseq => exact .begun hpoint rfl rfl
  | fails hfails =>
    refine .gone hpoint hlt fun _ _ => ?_
    rw [hstream]
    rcases hfails with hclosed | ⟨hbegun, halike⟩
    · exact Or.inl hclosed
    · refine Or.inr (hspared hbegun (by rwa [hstream]) fun d hd => ?_)
      rw [hhanded] at hd
      cases hd
  | finishes =>
    refine .gone hpoint hlt fun failure hreturns => ?_
    rw [houtcome] at hreturns
    cases hreturns

/-- A write that starts. -/
theorem Starts.stage (h : n.Starts x id i n') (hn : n.Regular settings x)
    (hstep : n.undergo? i = some n') : n.Stage x id [i] (n.outcome? x i) n' := by
  obtain ⟨y, message, hy, hsession, houtcome⟩ := h.turn
  have hsound : y.stream.Sound settings := by
    rw [hy]
    exact hn.sound.stream
  have hcourse := Writer.start_course (D := (n.peer x).stream.Sends) hsound
    (fun d hd => by rwa [hy] at hd) (.call id) n.now message
  have hspared : y.stream.Alike (n'.peer x).stream →
      (∀ d, n.handed? x i = some d → d.IsControl ∨ (n.peer x).stream.Sends d) →
      n.Spared x ([] ++ [i]) := by
    intro halike hhanded
    rw [hy] at halike
    refine (spared_nil n x).concat rfl hstep halike.next ?_ hhanded
    rw [h.ack]
    exact halike.sendWindow
  exact stage_of_course hcourse hsession houtcome h.id_lt (fun _ _ hd => hd) fun _ => hspared

/-- A write that is abandoned. -/
theorem stage_of_abandoned (hcall : (m'.peer x).session.call? id = none)
    (hlt : id < (m'.peer x).calls) (houtcome : m.outcome? x i = none) :
    n.Stage x id run (m.outcome? x i) m' := by
  refine .gone hcall hlt fun failure hfails => ?_
  rw [houtcome] at hfails
  cases hfails

/-- A write that has had a segment sent goes on with it, or is gone. -/
theorem stage_of_begun {w : Writer} (hm : m.Regular settings x) (hstep : m.undergo? i = some m')
    (hcall : (m.peer x).session.call? id = some (.writing w)) (hin : w.isInside = true)
    (hbegun : w.begun = true) : n.Stage x id (run ++ [i]) (m.outcome? x i) m' := by
  have hlt := Nat.lt_of_lt_of_le (hm.call_lt id _ hcall) (happens hstep x).calls_le
  have hfits : w.Fits settings := hm.sound.calls id _ hcall
  cases hm.fate hstep hcall hin with
  | @resumes signal hallows hsession houtcome hack =>
    obtain ⟨s, hcourse⟩ := Writer.exists_course (D := fun _ => True) hm.sound.stream hin
      hfits.length_le m.now (fun _ _ _ => trivial) (fun _ _ => trivial)
      (polling_of_allows hcall hallows) (sending_of_allows hcall hallows) (.call id)
    rw [hbegun] at hcourse
    exact stage_of_course hcourse hsession houtcome hlt Bool.noConfusion Bool.noConfusion
  | passes hpasses => exact .begun (hpasses.call.trans hcall) hin hbegun
  | abandoned hcall' houtcome => exact stage_of_abandoned hcall' hlt houtcome

/-- A write that has sent nothing takes in acknowledgements, and repeats what others have sent. -/
theorem stage_of_trying {w : Writer} (hn : n.Regular settings x) (hm : m.Regular settings x)
    (hrun : n.follow? everything run = some m) (hstep : m.undergo? i = some m')
    (hcall : (m.peer x).session.call? id = some (.writing w)) (hin : w.isInside = true)
    (hbegun : w.begun = false) (hresends : ∀ d ∈ w.resends, (n.peer x).stream.Sends d)
    (hspared : n.Spared x run) : n.Stage x id (run ++ [i]) (m.outcome? x i) m' := by
  have hlt := Nat.lt_of_lt_of_le (hm.call_lt id _ hcall) (happens hstep x).calls_le
  have hfits : w.Fits settings := hm.sound.calls id _ hcall
  have huntouched := hspared run m List.prefix_rfl hrun
  have hsettings : (m.peer x).stream.settings = (n.peer x).stream.settings :=
    hm.sound.stream.settings_eq.trans hn.sound.stream.settings_eq.symm
  cases hm.fate hstep hcall hin with
  | @resumes signal hallows hsession houtcome hack =>
    obtain ⟨hheard, hnext, hwindow⟩ := (m.peer x).stream.heard_told m.now signal
    -- what is in the window now was there when the write got hold of the section
    have hsends : ∀ d, ((m.peer x).stream.heard m.now signal).Sends d →
        (n.peer x).stream.Sends d := by
      intro d hd
      exact sends_of_foldl_hear hsettings huntouched.sendWindow
        (sends_of_foldl_hear hheard hwindow hd)
    have hquiet : w.isSending = false := by
      cases w with
      | sending rest d piggybacked => cases hbegun
      | _ => rfl
    have hcourse := Writer.resume_course (D := (n.peer x).stream.Sends) hm.sound.stream hin hquiet
      hfits.length_le m.now hsends hresends (polling_of_allows hcall hallows) (.call id)
    refine stage_of_course hcourse hsession houtcome hlt (fun _ _ hd => hd) ?_
    intro _ halike hhanded
    refine hspared.concat hrun hstep (halike.next.trans hnext) ?_ hhanded
    rw [hack]
    exact halike.sendWindow.trans hwindow
  | passes hpasses =>
    refine .trying (hpasses.call.trans hcall) hin hbegun hresends
      (hspared.concat hrun hstep hpasses.next hpasses.sendWindow ?_)
    intro d hd
    exact Or.inl (hpasses.handed d hd)
  | abandoned hcall' houtcome => exact stage_of_abandoned hcall' hlt houtcome

/-- **Writes go from stage to stage.** -/
theorem Stage.step {outcome : Option Outcome} (h : n.Stage x id run outcome m)
    (hn : n.Regular settings x) (hm : m.Regular settings x)
    (hrun : n.follow? everything run = some m) (hstep : m.undergo? i = some m') :
    n.Stage x id (run ++ [i]) (m.outcome? x i) m' := by
  cases h with
  | trying hcall hin hbegun hresends hspared =>
    exact stage_of_trying hn hm hrun hstep hcall hin hbegun hresends hspared
  | begun hcall hin hbegun => exact stage_of_begun hm hstep hcall hin hbegun
  | gone hcall hlt =>
    obtain ⟨hcall', hlt', hreturns⟩ := (happens hstep x).gone hcall hlt
    exact .gone hcall' hlt' fun failure hfails => absurd hfails (hreturns _)
  | closed hclosed => exact .closed (hm.closed hstep hclosed)

/-- A write that has failed just now has closed the stream, or it has done nothing. -/
theorem Stage.of_failed {failure : Failure}
    (h : n.Stage x id run (some (.returns id (.failed failure))) m)
    (hcall : (m.peer x).session.call? id = none) :
    (m.peer x).stream.closed = true ∨ n.Spared x run := by
  cases h with
  | trying hthere =>
    rw [hcall] at hthere
    cases hthere
  | begun hthere =>
    rw [hcall] at hthere
    cases hthere
  | gone _ _ hfailed => exact hfailed failure rfl
  | closed hclosed => exact Or.inl hclosed

/-! ## Runs from the start -/

/-- The run begins with an incident in which the write `id` gets hold of the section for writing. -/
def Enters (n : Network) (side : Side) (id : Nat) (run : List Incident) : Prop :=
  ∃ first rest n' message, run = first :: rest ∧ n.undergo? first = some n'
    ∧ (n'.peer side).entered = (n.peer side).entered ++ [(id, message)]

theorem Enters.concat (h : n.Enters x id run) (i : Incident) : n.Enters x id (run ++ [i]) := by
  obtain ⟨first, rest, n', message, rfl, hstep, hentered⟩ := h
  exact ⟨first, rest ++ [i], n', message, rfl, hstep, hentered⟩

theorem Starts.enters (h : n.Starts x id i n') (hstep : n.undergo? i = some n') :
    n.Enters x id [i] := by
  obtain ⟨message, hentered⟩ := h.entered
  exact ⟨i, [], n', message, rfl, hstep, hentered⟩

/-- **A write that is inside the section** has got hold of it in the run so far, and it is at a
stage since then. -/
theorem exists_stage (hstart : start.IsStart settings)
    (hrun : start.follow? everything run = some m) {w : Writer}
    (hcall : (m.peer x).session.call? id = some (.writing w)) (hin : w.isInside = true) :
    ∃ before during n outcome, before ++ during = run ∧ start.follow? everything before = some n
      ∧ n.Enters x id during ∧ n.follow? everything during = some m
      ∧ n.Stage x id during outcome m := by
  induction run using List.reverseRecOn generalizing m w with
  | nil =>
    cases hrun
    obtain ⟨pool, traffic, now, heq⟩ := hstart.peer_eq x
    rw [heq] at hcall
    cases hcall
  | append_singleton run i ih =>
    rw [follow?_concat] at hrun
    obtain ⟨mid, hmid, hstep⟩ := Option.bind_eq_some_iff.mp hrun
    have hregular := (leads_of_follow? hmid).regular hstart x
    rcases hregular.inside_or_starts hstep hcall hin with ⟨v, hv, hinside⟩ | hstarts
    · obtain ⟨before, during, n, outcome, rfl, hbefore, henters, hduring, hstage⟩ :=
        ih hmid hv hinside
      have hn := (leads_of_follow? hbefore).regular hstart x
      refine ⟨before, during ++ [i], n, _, (List.append_assoc ..).symm, hbefore,
        henters.concat i, ?_, hstage.step hn hregular hduring hstep⟩
      rw [follow?_concat, hduring]
      exact hstep
    · refine ⟨run, [i], mid, _, rfl, hmid, hstarts.enters hstep, ?_, hstarts.stage hregular hstep⟩
      show (mid.undergo? i).bind some = some m
      rw [hstep]
      rfl

/-- New segments are announced, one after the other. -/
theorem Regular.announced (h : n.Regular settings x) (hn : (n.peer x).session.Announced)
    (hstep : n.undergo? i = some n') : (n'.peer x).session.Announced := by
  intro id rest d piggybacked hcall
  have hrecord {s₀ : Session} {D : Bytes → Prop} {s : Stream} {begun : Bool}
      {r : Shared × Turn Writer Writer.Outcome} (hcourse : Writer.Course D s begun r)
      (hsession : (n'.peer x).session = (s₀.recordWriter id r).1) :
      ∃ t extra, d = Header.data.datagram (t :: extra)
        ∧ t.seq = (n'.peer x).session.stream.next := by
    rw [hsession] at hcall ⊢
    obtain ⟨point, hpoint, heq⟩ := Turn.point?_map_eq_some_iff.mp
      ((Session.call?_record ..).symm.trans hcall)
    cases heq
    obtain ⟨t, extra, hd, hseq⟩ := hcourse.announced hpoint
    exact ⟨t, extra, hd, hseq.trans (congrArg Stream.next (Session.stream_record ..)).symm⟩
  rcases h.inside_or_starts hstep hcall rfl with ⟨w, hw, hin⟩ | hstarts
  · have hfits : w.Fits settings := h.sound.calls id _ hw
    cases h.fate hstep hw hin with
    | @resumes signal hallows hsession houtcome hack =>
      obtain ⟨s, hcourse⟩ := Writer.exists_course (D := fun _ => True) h.sound.stream hin
        hfits.length_le n.now (fun _ _ _ => trivial) (fun _ _ => trivial)
        (polling_of_allows hw hallows) (sending_of_allows hw hallows) (.call id)
      exact hrecord hcourse hsession
    | passes hpasses =>
      rw [hpasses.call] at hcall
      obtain ⟨t, extra, hd, hseq⟩ := hn id rest d piggybacked hcall
      exact ⟨t, extra, hd, hseq.trans hpasses.next.symm⟩
    | abandoned hnone =>
      rw [hnone] at hcall
      cases hcall
  · obtain ⟨y, message, hy, hsession, -⟩ := hstarts.turn
    have hsound : y.stream.Sound settings := by
      rw [hy]
      exact h.sound.stream
    exact hrecord (Writer.start_course (D := fun _ => True) hsound (fun _ _ => trivial) (.call id)
      n.now message) hsession

theorem Leads.announced {rule : Rule} (h : start.Leads rule n) (hstart : start.IsStart settings)
    (x : Side) : (n.peer x).session.Announced := by
  refine (h.invariant (P := fun m => m.Regular settings x ∧ (m.peer x).session.Announced) ?_ ?_).2
  · have hnothing : start.Leads rule start := .refl start
    refine ⟨hnothing.regular hstart x, ?_⟩
    obtain ⟨pool, traffic, now, heq⟩ := hstart.peer_eq x
    rw [heq]
    intro id rest d piggybacked hcall
    cases hcall
  · rintro mid i next ⟨hregular, hannounced⟩ _ hstep
    exact ⟨hregular.step hstep, hregular.announced hannounced hstep⟩

/-! ## Failed writes -/

/-- **A segment that the socket does not take** is given up. -/
theorem undergo_unsent {rest : List Bytes} {d : Bytes} {piggybacked : Nat} {reason : String}
    {refusal : Option String}
    (hcall : (m.peer x).session.call? id = some (.writing (.sending rest d piggybacked)))
    (hstep : m.undergo? (.event (.turn x (.call id) (.unsent reason) refusal)) = some m') :
    m.outcome? x (.event (.turn x (.call id) (.unsent reason) refusal))
        = some (.returns id (.failed (.socket reason)))
      ∧ (m'.peer x).stream = (m.peer x).stream.abandon := by
  obtain ⟨-, hsession, -, -⟩ := undergo_turn hstep
  rw [outcome?_turn, Session.resume_writing hcall]
  rw [Session.resume_writing hcall] at hsession
  refine ⟨rfl, ?_⟩
  show (m'.peer x).session.stream = (m.peer x).stream.abandon
  rw [hsession]
  exact Session.stream_record ..

/-- **A failed write is all or nothing.** Two streams are established, and a run leads from there to
a write that fails, whatever has happened in it. Then the stream is closed after that, or the write
was refused at its call and has not touched the stream, or it has got hold of the section for
writing at some time in the run, and from then on nobody has done anything to what is to be sent:
the next serial number is the same all the time, the send window differs by the acknowledgements
only that were taken in meanwhile, and no segments were handed to the socket but those that were in
the window at the beginning. If the socket does not take a new segment, that one is not in the send
window afterwards, and its number is the next one again. -/
theorem all_or_nothing (hstart : start.IsStart settings) {last : Incident}
    (hrun : start.follow? everything run = some m) (hlast : m.undergo? last = some n') (x : Side)
    (id : Nat) :
    (∀ failure, m.writes x last = true →
        m.outcome? x last = some (.returns id (.failed failure)) →
          (n'.peer x).stream.closed = true
            ∨ (∃ message refusal, last = .event (.call x (.write message) refusal)
                ∧ (n'.peer x).stream = (m.peer x).stream)
            ∨ ∃ before during n, before ++ during = run ++ [last]
                ∧ start.follow? everything before = some n
                ∧ n.Enters x id during ∧ n.Spared x during)
      ∧ ∀ rest d piggybacked reason refusal,
          (m.peer x).session.call? id = some (.writing (.sending rest d piggybacked)) →
          last = .event (.turn x (.call id) (.unsent reason) refusal) →
            m.outcome? x last = some (.returns id (.failed (.socket reason)))
              ∧ (n'.peer x).stream.closed = true
              ∧ (n'.peer x).stream.next = (m.peer x).stream.next
              ∧ ∃ t extra, d = Header.data.datagram (t :: extra)
                ∧ t.seq = (m.peer x).stream.next
                ∧ (n'.peer x).stream.sendWindow.find? t.seq = none := by
  have hleads := leads_of_follow? hrun
  have hm := hleads.regular hstart x
  constructor
  · intro failure hwrites hfails
    have hgone := (happens hlast x).call?_eq_none_of_returns hfails
    rcases hm.of_returns hlast hwrites hfails with hrefused | hstarts | ⟨w, hcall, hin⟩
    · exact Or.inr (Or.inl hrefused)
    · have hstage := hstarts.stage hm hlast
      rw [hfails] at hstage
      refine (hstage.of_failed hgone).imp_right fun hspared => Or.inr ?_
      exact ⟨run, [last], m, rfl, hrun, hstarts.enters hlast, hspared⟩
    · obtain ⟨before, during, n, outcome, rfl, hbefore, henters, hduring, hstage⟩ :=
        exists_stage hstart hrun hcall hin
      have hn := (leads_of_follow? hbefore).regular hstart x
      have hnext := hstage.step hn hm hduring hlast
      rw [hfails] at hnext
      refine (hnext.of_failed hgone).imp_right fun hspared => Or.inr ?_
      exact ⟨before, during ++ [last], n, (List.append_assoc ..).symm, hbefore,
        henters.concat last, hspared⟩
  · rintro rest d piggybacked reason refusal hcall rfl
    obtain ⟨houtcome, hstream⟩ := undergo_unsent hcall hlast
    obtain ⟨hnext, hfind⟩ := (m.peer x).stream.find?_abandon
    obtain ⟨t, extra, hd, hseq⟩ := hleads.announced hstart x id rest d piggybacked hcall
    rw [hstream]
    refine ⟨houtcome, (m.peer x).stream.closed_abandon, hnext, t, extra, hd, hseq, ?_⟩
    rw [hseq]
    exact hfind

/-- The first of two segments is lost, and the window is full. A third write finds no room. It takes
in an acknowledgement of the second segment, and it sends the first one again, twice, until its time
has come. -/
def timedOut : List Incident :=
  let second : Segment Bytes := ⟨⟨0⟩, false, [1, 2, 3, 4, 5, 6, 7, 8, 9], 0⟩
  [.event (.call .a (.write [7]) none), .event (.turn .a (.call 0) .sent none),
    .event (.call .a (.write [1, 2, 3, 4, 5, 6, 7, 8, 9]) none),
    .event (.turn .a (.call 1) .sent none), .event (.call .b (.read [0]) none),
    .event (.turn .b (.call 0) (.arrived (.datagram (Header.data.datagram [second]))) none),
    .event (.call .a (.write [11]) none),
    .event (.turn .a (.call 2)
      (.arrived (.datagram ((Header.ack ⟨0xFFFFFFFF⟩ 1).datagram []))) none),
    .event (.turn .a (.call 2) .sent none), .event (.turn .a (.call 2) .room none),
    .event (.elapse 5000), .event (.turn .a (.call 2) .due none),
    .event (.turn .a (.call 2) .sent none)]

/-- The write fails, the stream stays open, and all there is to see is the acknowledgement. The
socket that refuses the very first segment closes the stream, and there is nothing left of that
segment. -/
theorem all_or_nothing_after_timedOut :
    (∃ m n', narrowStart.follow? everything timedOut = some m
      ∧ m.undergo? (.event (.turn .a (.call 2) .due none)) = some n'
      ∧ m.outcome? .a (.event (.turn .a (.call 2) .due none))
        = some (.returns 2 (.failed .writeTimeout))
      ∧ (n'.peer .a).stream.closed = false
      ∧ ∃ before during n,
        before ++ during = timedOut ++ [.event (.turn .a (.call 2) .due none)]
          ∧ narrowStart.follow? everything before = some n
          ∧ n.Enters .a 2 during ∧ n.Spared .a during)
    ∧ ∃ m n' rest d piggybacked t extra,
      narrowStart.follow? everything [.event (.call .a (.write [7]) (some "refused"))] = some m
        ∧ m.undergo? (.event (.turn .a (.call 0) (.unsent "refused") none)) = some n'
        ∧ (m.peer .a).session.call? 0 = some (.writing (.sending rest d piggybacked))
        ∧ d = Header.data.datagram (t :: extra)
        ∧ (n'.peer .a).stream.closed = true
        ∧ (n'.peer .a).stream.sendWindow.find? t.seq = none := by
  constructor
  · have hview : ((narrowStart.follow? everything timedOut).bind fun m =>
        (m.undergo? (.event (.turn .a (.call 2) .due none))).map fun n' =>
          (m.writes .a (.event (.turn .a (.call 2) .due none)),
            m.outcome? .a (.event (.turn .a (.call 2) .due none)), (n'.peer .a).stream.closed))
        = some (true, some (.returns 2 (.failed .writeTimeout)), false) := by
      decide +kernel
    obtain ⟨m, hrun, hrest⟩ := Option.bind_eq_some_iff.mp hview
    obtain ⟨n', hlast, hseen⟩ := Option.map_eq_some_iff.mp hrest
    obtain ⟨hwrites, hseen⟩ := Prod.mk.inj hseen
    obtain ⟨hfails, hopen⟩ := Prod.mk.inj hseen
    refine ⟨m, n', hrun, hlast, hfails, hopen, ?_⟩
    rcases (all_or_nothing narrowStart_isStart hrun hlast .a 2).1 .writeTimeout hwrites hfails with
      hclosed | ⟨message, refusal, hcall, -⟩ | hspared
    · rw [hopen] at hclosed
      cases hclosed
    · cases hcall
    · exact hspared
  · have hview : ((narrowStart.follow? everything
        [.event (.call .a (.write [7]) (some "refused"))]).bind fun m =>
          (m.undergo? (.event (.turn .a (.call 0) (.unsent "refused") none))).map fun _ =>
            ((m.peer .a).session.call? 0).any Call.isSending) = some true := by
      decide +kernel
    obtain ⟨m, hrun, hrest⟩ := Option.bind_eq_some_iff.mp hview
    obtain ⟨n', hlast, hsending⟩ := Option.map_eq_some_iff.mp hrest
    obtain ⟨rest, d, piggybacked, hcall⟩ := Call.exists_of_isSending hsending
    obtain ⟨-, hclosed, -, t, extra, hd, -, hfind⟩ :=
      (all_or_nothing narrowStart_isStart hrun hlast .a 0).2 rest d piggybacked "refused" none hcall
        rfl
    exact ⟨m, n', rest, d, piggybacked, t, extra, hrun, hlast, hcall, hd, hclosed, hfind⟩

end Network

end Redelivery
