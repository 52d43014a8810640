import Redelivery.Proofs.Network.AtWork

/-!
# Writes

How a writer comes to work inside the section: it gets hold of the section, it goes on after a wait,
it learns that its segment was sent, or that it was not. In the last case it takes the number of the
segment back; nothing of the segment was on the wire, so nobody can tell.

## Main definitions

* `Peer.admitted`: a peer when a write has got hold of the section.
* `Peer.revised`: a peer when a writer has learnt what became of its segment.

## Main statements

* `Network.Sound.write`: the network is sound after a write is called.
* `Network.Sound.writer_resume`: the network is sound after a turn of a writer.

Four ways lead into the section or on in it, and each is brought into the form that
`Sound.writer_turn` takes up: a peer that is `AtWork` and two directions that `Serves` describes.

* A write gets hold of the section: `Sound.atWork_admitted`, and `Sound.start_turn` with it. If the
  stream was closed while it stood in line, it fails without having done anything, which is a turn
  outside.
* A writer goes on after a wait for anything but the fate of its segment: `Sound.quiet_turn`.
* Its segment was sent: `Sound.atWork_sent`. Only now is the number committed.
* Its segment was not sent: `Sound.atWork_unsent`. The piece goes back to what is left of the
  message, and `Sound.clear_of_refused` says that the segment is still in the send window: nobody
  else has seen it, so no acknowledgement can have removed it.

What is recorded of such a turn is the same whether the stream is brought up to date in it or just
before it (`record_revised`), and so the two halves can be proved one after the other. Writers that
are refused, or wait for the section, are outside, and `Sound.outside_turn` deals with them.
-/

namespace Redelivery

namespace Stream

variable {s : Stream} {u : Segment Buffer} {w : Window Buffer}

/-- A segment that is given up leaves the send window, and the stream is closed. -/
theorem abandon_eq (h : s.sendWindow.clear s.next = some (u, w)) :
    s.abandon = ({ s with sendWindow := w, pool := s.pool.give u.body } : Stream).shut := by
  unfold abandon
  rw [h]

end Stream

namespace Peer

variable {settings : ValidSettings} {p : Peer} {id : Nat}

/-! ## Getting hold of the section -/

/-- The peer when the write with call `id` has got hold of the section, which is left as
`writing`. -/
def admitted (p : Peer) (writing : Section Agent) (id : Nat) (message : Bytes) : Peer :=
  { p with
    session := { p.session with shared := { p.session.shared with writing := writing } }
    entered := p.entered ++ [(id, message)] }

variable {writing : Section Agent}

/-- A write that has got hold of the section did so for the first time. -/
theorem Booked.counted_admitted (h : p.Booked) (hapart : p.Apart id) {message : Bytes} :
    (p.admitted writing id message).Counted where
  call_lt := h.call_lt
  entered_lt entry hentry := by
    rcases List.mem_append.mp hentry with hentry | hentry
    · exact h.entered_lt entry hentry
    · rw [List.mem_singleton.mp hentry]
      exact hapart.id_lt
  failed_lt := h.failed_lt
  nodup := nodup_entered_concat h.nodup hapart.not_entered message
  not_failed := h.not_failed

/-- A message is accepted when its write has got hold of the section, and all of it is left to
send. -/
theorem Sound.working_admitted (hp : p.Sound settings) (hwriter : p.session.writer? = none)
    (hfailed : id ∉ p.failed) (hopen : p.stream.closed = false) {message : Bytes}
    (hne : message ≠ []) (hlen : message.length ≤ settings.maxMessage) :
    (p.admitted writing id message).Working settings id false
      (Bytes.chunks settings.maxSegment message) := by
  obtain ⟨last, begun, hspells, hbegun⟩ := (ledger_iff_idle hwriter).mp hp.ledger
  -- the stream is open, so no message before was given up half way
  have hnil : begun = [] := by
    rcases hbegun with hnil | ⟨hclosed, -⟩
    · exact hnil
    · rw [hopen] at hclosed
      cases hclosed
  subst hnil
  have haccepted : (p.admitted writing id message).accepted = p.accepted ++ [message] := by
    show ((p.entered ++ [(id, message)]).filter fun entry => !p.failed.contains entry.1).map (·.2)
      = p.accepted ++ [message]
    rw [List.filter_append, List.map_append]
    simp [accepted, hfailed]
  exact ⟨p.entered, p.accepted, message, [], rfl, haccepted, hne, hspells.start hlen, rfl, by simp⟩

section

variable (hapart : p.Apart id)
  (howner : writing.owner = some (.call id))
  (hkeep : ∀ agent, p.session.shared.writing.owner = some agent → writing.owner = some agent)

include hapart howner hkeep

/-- A call that is outside owns the section only while nobody is inside. -/
theorem Apart.not_inside_of_owner (hp : p.session.Orderly) (agent : Agent) :
    ¬ p.session.Inside agent := by
  intro hin
  have hother := hkeep agent (hp agent hin)
  rw [howner] at hother
  cases hother
  exact hapart.not_inside hin

/-- **A write gets to work** on its message. -/
theorem Sound.atWork_admitted (hp : p.Sound settings) (hopen : p.stream.closed = false)
    {message : Bytes} (hne : message ≠ []) (hlen : message.length ≤ settings.maxMessage) :
    (p.admitted writing id message).AtWork settings id false
      (Bytes.chunks settings.maxSegment message) := by
  have hnobody := hapart.not_inside_of_owner howner hkeep hp.orderly
  have hwriter : p.session.writer? = none := Session.writer?_eq_none fun j => hnobody (.call j)
  refine
    { settings_eq := hp.settings_eq
      orderly := fun agent hin => absurd hin (hnobody agent)
      owner := howner
      counted := hp.booked.counted_admitted hapart
      inside := ?_
      entering := hp.entering
      not_failed := hapart.not_failed
      working := hp.working_admitted hwriter hapart.not_failed hopen hne hlen
      next_eq := ?_
      delivery := hp.delivery }
  · intro entry hentry hj c hc
    rcases List.mem_append.mp hentry with hentry | hentry
    · exact hp.booked.inside entry hentry c hc
    · exact absurd (congrArg Prod.fst (List.mem_singleton.mp hentry)) hj
  · have hnext := hp.next_eq
    rw [committed, isSending_of_writer?_eq_none hwriter] at hnext
    exact hnext

end

/-! ## Learning what became of a segment -/

/-- The peer when a writer has brought its stream up to date, and has kept or taken back the number
of its segment. -/
def revised (p : Peer) (log : List Piece) (s : Stream) : Peer :=
  ({ p with assigned := log } : Peer).withStream s

/-- **A writer goes on** from a point inside the section. -/
theorem Sound.atWork_revised (hp : p.Sound settings) {w : Writer}
    (hwriter : p.session.writer? = some (id, w)) {log : List Piece} {s : Stream}
    (hsettings : s.settings = p.stream.settings)
    (hbase : s.receiveWindow.base = p.stream.receiveWindow.base)
    (hassembled : s.assembled = p.stream.assembled) (hcomplete : s.complete = p.stream.complete)
    (hnext : s.next = settings.initialSerial + log.length) {started : Bool} {bodies : List Bytes}
    (hworking : (p.revised log s).Working settings id started bodies) :
    (p.revised log s).AtWork settings id started bodies := by
  obtain ⟨howner, hcall, hin⟩ := Session.writer?_eq_some hwriter
  have htaken : (p.revised log s).taken = p.taken := taken_withStream hbase
  exact
    { settings_eq := hsettings.trans hp.settings_eq
      orderly := hp.orderly
      owner := howner
      counted := ⟨hp.booked.call_lt, hp.booked.entered_lt, hp.booked.failed_lt, hp.booked.nodup,
        hp.booked.not_failed⟩
      inside := fun entry hentry _ c hc => hp.booked.inside entry hentry c hc
      entering := hp.entering
      not_failed := hp.booked.not_failed id _ hcall
      working := hworking
      next_eq := hnext
      delivery := by
        unfold Consumed
        rw [htaken, hp.delivery, ← hcomplete, ← hassembled]
        rfl }

/-- After a wait, nothing is to be learnt. -/
theorem Sound.atWork_of_quiet (hp : p.Sound settings) {w : Writer}
    (hwriter : p.session.writer? = some (id, w)) (hquiet : w.isSending = false) :
    (p.revised p.assigned p.stream).AtWork settings id w.begun w.bodies := by
  apply hp.atWork_revised hwriter rfl rfl rfl rfl _ ((ledger_iff_working hwriter).mp hp.ledger)
  have hnext := hp.next_eq
  rwa [committed, isSending, hwriter, if_neg (by simpa using hquiet)] at hnext

section

variable {rest : List Bytes} {datagram : Bytes} {piggybacked : Nat}
  (hp : p.Sound settings)
  (hwriter : p.session.writer? = some (id, .sending rest datagram piggybacked))

include hp hwriter

/-- While a writer waits for the socket to take its segment, that is the one that was numbered
last. -/
theorem Sound.next_of_sending : 0 < p.assigned.length
    ∧ p.stream.next = settings.initialSerial + (p.assigned.length - 1) := by
  obtain ⟨others, done, last, begun, -, -, -, hspells, -, hbegun⟩ :=
    (ledger_iff_working hwriter).mp hp.ledger
  have hnext := hp.next_eq
  rw [committed, isSending, hwriter] at hnext
  refine ⟨?_, hnext⟩
  rw [hspells.log_eq, List.length_append]
  have hlen := List.length_pos_iff.mpr (hbegun.mp rfl)
  omega

/-- **A segment was sent.** -/
theorem Sound.atWork_sent :
    (p.revised p.assigned ((p.stream.countSent datagram).commit piggybacked)).AtWork settings id
      true rest := by
  obtain ⟨hpos, hnext⟩ := hp.next_of_sending hwriter
  -- the number of the segment is the last one of the log, and now the stream counts it as well
  apply hp.atWork_revised (s := (p.stream.countSent datagram).commit piggybacked) hwriter rfl rfl
    rfl rfl _ ((ledger_iff_working hwriter).mp hp.ledger)
  show p.stream.next.next = _
  rw [hnext, Serial.next_add, Nat.sub_add_cancel hpos]

/-- **A segment was not sent.** Its number is taken back. -/
theorem Sound.atWork_unsent {u : Segment Buffer} {w : Window Buffer}
    (hclear : p.stream.sendWindow.clear p.stream.next = some (u, w)) :
    ∃ started body, (p.revised p.assigned.dropLast p.stream.abandon).AtWork settings id started
      (body :: rest) := by
  obtain ⟨hpos, hnext⟩ := hp.next_of_sending hwriter
  obtain ⟨others, done, last, begun, hentered, haccepted, hlast, hspells, hpieces, hbegun⟩ :=
    (ledger_iff_working hwriter).mp hp.ledger
  have hne : begun ≠ [] := hbegun.mp rfl
  have hsplit := (List.dropLast_append_getLast hne).symm
  rw [hsplit] at hpieces
  have habandon := Stream.abandon_eq hclear
  -- the latest piece of the message is the first one of those that are left
  refine ⟨decide (begun.dropLast ≠ []), (begun.getLast hne).body, ?_⟩
  apply hp.atWork_revised hwriter (by rw [habandon]; rfl) (by rw [habandon]; rfl)
    (by rw [habandon]; rfl) (by rw [habandon]; rfl)
  · rw [habandon, List.length_dropLast]
    exact hnext
  · exact ⟨others, done, last, begun.dropLast, hentered, haccepted, hlast, hspells.pop hne,
      Piece.exists_ofBodies_cons hpieces, by simp⟩

end

end Peer

namespace Network

variable {settings : ValidSettings} {n : Network} {acks : Side → List Ack} {z : Side} {id : Nat}

/-! ## The directions, in the middle of a turn -/

/-- To get hold of the section changes nothing that is on the way. -/
theorem Sound.serves_admitted (h : n.Sound settings acks) (id : Nat) (writing : Section Agent)
    (message : Bytes) : n.Serves settings acks z ((n.peer z).admitted writing id message) where
  sender := (h.link z).expose
  receiver := h.link_other z
  exposed_le := (n.peer z).exposed_le
  assigned_eq _ _ := rfl

/-- The other direction is not affected by what becomes of a segment. -/
theorem Sound.receiver_revised (h : n.Sound settings acks) (log : List Piece) {s : Stream}
    (hreceive : s.receiveWindow = (n.peer z).stream.receiveWindow) :
    ((n.peer z.other).link settings ((n.peer z).revised log s) (acks z.other)).Sound
      settings.windowSize := by
  have hlink := h.link_other z
  have htaken : ((n.peer z).revised log s).taken = (n.peer z).taken :=
    Peer.taken_withStream (by rw [hreceive]; rfl)
  have hwindow : ((n.peer z).revised log s).stream.receiveWindow
      = (n.peer z).stream.receiveWindow := hreceive
  unfold Peer.link at hlink ⊢
  rwa [htaken, hwindow]

/-- A writer that goes on leaves both directions as they are. -/
theorem Sound.serves_revised (h : n.Sound settings acks) {s : Stream}
    (hsend : s.sendWindow = (n.peer z).stream.sendWindow)
    (hreceive : s.receiveWindow = (n.peer z).stream.receiveWindow) :
    n.Serves settings acks z ((n.peer z).revised (n.peer z).assigned s) where
  sender := by
    have hlink := (h.link z).expose
    have hpassed : ((n.peer z).revised (n.peer z).assigned s).passed = (n.peer z).passed :=
      Peer.passed_withStream (by rw [hsend])
    have hwindow : ((n.peer z).revised (n.peer z).assigned s).stream.sendWindow
        = (n.peer z).stream.sendWindow := hsend
    unfold Peer.fullLink Peer.link
    rw [hpassed, hwindow]
    exact hlink
  receiver := h.receiver_revised _ hreceive
  exposed_le := (n.peer z).exposed_le
  assigned_eq _ _ := rfl

/-- A writer that takes back the number of a segment leaves both directions sound. -/
theorem Sound.serves_unsent (h : n.Sound settings acks)
    (hexposed : (n.peer z).exposed = (n.peer z).assigned.length - 1)
    (hpos : 0 < (n.peer z).assigned.length) {u : Segment Buffer} {w : Window Buffer}
    (hclear : (n.peer z).stream.sendWindow.clear
      (settings.initialSerial + ((n.peer z).assigned.length - 1)) = some (u, w)) {s : Stream}
    (hsend : s.sendWindow = w) (hreceive : s.receiveWindow = (n.peer z).stream.receiveWindow) :
    n.Serves settings acks z ((n.peer z).revised (n.peer z).assigned.dropLast s) where
  sender := by
    -- the segment was not exposed, so nobody else has it, and the link can forget it
    have hlink := h.link z
    have habandon := hlink.abandon
      (by show (n.peer z).exposed < (n.peer z).assigned.length; omega) hclear
    have hbase : s.sendWindow.base = (n.peer z).stream.sendWindow.base := by
      rw [hsend]
      exact habandon.send.base_eq.trans hlink.send.base_eq.symm
    have hpassed : ((n.peer z).revised (n.peer z).assigned.dropLast s).passed
        = (n.peer z).passed := Peer.passed_withStream hbase
    have hwindow : ((n.peer z).revised (n.peer z).assigned.dropLast s).stream.sendWindow = w :=
      hsend
    unfold Peer.fullLink Peer.link
    rw [hpassed, hwindow]
    exact habandon.expose
  receiver := h.receiver_revised _ hreceive
  exposed_le := by
    show (n.peer z).exposed ≤ (n.peer z).assigned.dropLast.length
    rw [hexposed, List.length_dropLast]
  assigned_eq k hk := by
    show (n.peer z).assigned.dropLast[k]? = _
    rw [List.getElem?_dropLast, if_pos (by omega)]

/-! ## Turns of a writer inside -/

/-- What is recorded of a turn is the same whether a writer brings its stream up to date in the turn
or just before. -/
theorem record_revised {p : Peer} {log : List Piece} {s : Stream}
    (hbase : s.receiveWindow.base = p.stream.receiveWindow.base)
    (hassembled : s.assembled = p.stream.assembled) {r : Shared × Turn Writer Writer.Outcome}
    (hsend : r.1.stream.sendWindow.base = s.sendWindow.base) :
    (p.revised log s).record (.call id) ((p.revised log s).session.recordWriter id r)
      = ({ p with assigned := log } : Peer).record (.call id) (p.session.recordWriter id r) := by
  refine Peer.record_withStream (.call id) hbase hassembled ?_
  exact (congrArg (·.stream.sendWindow.base) (Session.shared_record _ id r.1 _)).trans hsend

/-- A writer inside goes on, as soon as its stream is up to date. -/
theorem Sound.revised_turn (h : n.Sound settings acks) {log : List Piece} {s : Stream}
    {started : Bool} {bodies : List Bytes}
    (hwork : ((n.peer z).revised log s).AtWork settings id started bodies)
    (hserves : n.Serves settings acks z ((n.peer z).revised log s))
    (hbase : s.receiveWindow.base = (n.peer z).stream.receiveWindow.base)
    (hassembled : s.assembled = (n.peer z).stream.assembled)
    {r : Shared × Turn Writer Writer.Outcome}
    (hmove : Writer.Move (Carries settings log log.length log.length) (.call id)
      { (n.peer z).session.shared with stream := s } started bodies r) (refusal : Option String) :
    (n.commit z (.call id)
      (({ n.peer z with assigned := log } : Peer).record (.call id)
        ((n.peer z).session.recordWriter id r))
      ((n.peer z).session.recordWriter id r).2 refusal).Sound settings acks := by
  have hturn := h.writer_turn hwork hserves hmove refusal
  rwa [record_revised hbase hassembled hmove.base_eq] at hturn

theorem turned_writing {point : Writer}
    (hcall : (n.peer z).session.call? id = some (.writing point)) (signal : Signal) :
    n.turned z (.call id) signal
      = (((n.peer z).signalled (.call id) signal).record (.call id)
          ((n.peer z).session.recordWriter id
            (Writer.resume (n.peer z).session.shared (.call id) n.now point signal)),
        ((n.peer z).session.recordWriter id
          (Writer.resume (n.peer z).session.shared (.call id) n.now point signal)).2) := by
  unfold turned Session.resume
  simp only [hcall]

theorem signalled_of_quiet {p : Peer} {point : Writer}
    (hcall : p.session.call? id = some (.writing point)) (hin : point.isInside = true)
    (hquiet : point.isSending = false) (signal : Signal) : p.signalled (.call id) signal = p := by
  unfold Peer.signalled
  cases point with
  | entering => cases hin
  | sending => cases hquiet
  | _ => simp only [hcall]

/-- A turn of a writer inside that has nothing to learn about a segment. -/
theorem Sound.quiet_turn (h : n.Sound settings acks) {w : Writer}
    (hwriter : (n.peer z).session.writer? = some (id, w)) (hquiet : w.isSending = false)
    {r : Shared × Turn Writer Writer.Outcome}
    (hmove : (n.peer z).stream.Ready →
      (∀ d, (n.peer z).stream.Sends d → Carries settings (n.peer z).assigned
        (n.peer z).assigned.length (n.peer z).assigned.length d) →
      (∀ b ∈ w.bodies, b.length ≤ (n.peer z).stream.settings.maxSegment) →
      Writer.Move (Carries settings (n.peer z).assigned (n.peer z).assigned.length
        (n.peer z).assigned.length) (.call id) (n.peer z).session.shared w.begun w.bodies r)
    (refusal : Option String) :
    (n.commit z (.call id) ((n.peer z).record (.call id) ((n.peer z).session.recordWriter id r))
      ((n.peer z).session.recordWriter id r).2 refusal).Sound settings acks := by
  have hwork := (h.peer z).atWork_of_quiet hwriter hquiet
  have hserves := h.serves_revised (s := (n.peer z).stream) rfl rfl
  exact h.revised_turn hwork hserves rfl rfl
    (hmove (hwork.ready hserves.sender) (hwork.carries hserves.sender) hwork.fits) refusal

/-- **A writer inside goes on** after a wait for anything but the fate of its segment. -/
theorem Sound.quiet_writer_resume (h : n.Sound settings acks) {point : Writer}
    (hcall : (n.peer z).session.call? id = some (.writing point)) (hin : point.isInside = true)
    (hquiet : point.isSending = false) {signal : Signal}
    (hallows : n.allows z (.call id) signal = true) (refusal : Option String) :
    (n.commit z (.call id) (n.turned z (.call id) signal).1 (n.turned z (.call id) signal).2
      refusal).Sound settings acks := by
  rw [turned_writing hcall, signalled_of_quiet hcall hin hquiet]
  have hp := h.peer z
  have hwriter := hp.orderly.writer?_eq hcall hin
  -- only a datagram changes the stream before the writer looks at it
  by_cases hsignal : ∃ raw, signal = .arrived (.datagram raw)
  · obtain ⟨raw, rfl⟩ := hsignal
    obtain ⟨⟨limit, hwait⟩, f, hf, hfresh, rfl⟩ := of_allows_datagram hallows
    obtain ⟨job, limit', rfl⟩ : ∃ job limit, point = .polling job limit := by
      rw [Session.wait?_of_call? hcall] at hwait
      cases point with
      | polling job limit => exact ⟨job, limit, rfl⟩
      | _ => cases hwait
    -- the datagram is taken in first, and then the writer goes on
    obtain ⟨hsound, hbase, hassembled⟩ := h.receive n.now hf hfresh
    obtain ⟨r, hr⟩ : ∃ r, r = Writer.resume (n.peer z).session.shared (.call id) n.now
      (.polling job limit') (.arrived (.datagram f.datagram)) := ⟨_, rfl⟩
    have hmove {D : Bytes → Prop}
        (hD : ∀ d, ((n.peer z).stream.receive n.now f.datagram).1.Sends d → D d) :
        Writer.Move D (.call id) { (n.peer z).session.shared with
          stream := ((n.peer z).stream.receive n.now f.datagram).1 } job.begun job.bodies r := by
      rw [hr]
      exact Writer.resume_move_arrived hD
    rw [← hr]
    have hwriter' : ((n.withPeer z ((n.peer z).withStream
        ((n.peer z).stream.receive n.now f.datagram).1)).peer z).session.writer?
          = some (id, .polling job limit') := by
      rw [peer_withPeer]
      exact hwriter
    have hturn := hsound.quiet_turn (r := r) hwriter' rfl
      (by rw [peer_withPeer]; exact fun _ hD _ => hmove hD) refusal
    rw [commit_withPeer, peer_withPeer, Peer.record_withStream (.call id) hbase hassembled] at hturn
    · exact hturn
    · exact (congrArg (·.stream.sendWindow.base) (Session.shared_record _ id r.1 _)).trans
        (hmove (D := fun _ => True) fun _ _ => trivial).base_eq
  · apply h.quiet_turn hwriter hquiet _ refusal
    intro hready hD hfits
    exact Writer.resume_move hin hquiet hready hD (hp.resends id point hwriter) n.now hfits
      fun raw heq => hsignal ⟨raw, heq⟩

section

variable {rest : List Bytes} {datagram : Bytes} {piggybacked : Nat}

/-- A segment that the socket has not taken was never on the wire, and is still in the send
window. -/
theorem Sound.clear_of_refused (h : n.Sound settings acks)
    (hwriter : (n.peer z).session.writer? = some (id, .sending rest datagram piggybacked))
    {reason : String} (hverdict : (n.peer z).verdict (.call id) = .unsent reason) :
    (n.peer z).exposed = (n.peer z).assigned.length - 1
      ∧ ∃ u w, (n.peer z).stream.sendWindow.clear
        (settings.initialSerial + ((n.peer z).assigned.length - 1)) = some (u, w) := by
  obtain ⟨hpos, -⟩ := (h.peer z).next_of_sending hwriter
  have hexposed : (n.peer z).exposed = (n.peer z).assigned.length - 1 := by
    rw [Peer.exposed, Peer.isRefused, hwriter]
    simp [Writer.isSending, hverdict]
  have hlt : (n.peer z).exposed < (n.peer z).assigned.length := by omega
  obtain ⟨⟨u, w⟩, hclear⟩ := Option.ne_none_iff_exists'.mp ((h.link z).clear_ne_none hlt)
  exact ⟨hexposed, u, w, hclear⟩

/-- **A writer inside learns that its segment was not sent.** It takes the number back, and
fails. -/
theorem Sound.unsent_writer_resume (h : n.Sound settings acks)
    (hcall : (n.peer z).session.call? id = some (.writing (.sending rest datagram piggybacked)))
    {reason : String} (hverdict : (n.peer z).verdict (.call id) = .unsent reason)
    (refusal : Option String) :
    (n.commit z (.call id) (n.turned z (.call id) (.unsent reason)).1
      (n.turned z (.call id) (.unsent reason)).2 refusal).Sound settings acks := by
  have hp := h.peer z
  have hwriter := hp.orderly.writer?_eq hcall rfl
  have hsignalled : (n.peer z).signalled (.call id) (.unsent reason)
      = { n.peer z with assigned := (n.peer z).assigned.dropLast } := by
    simp only [Peer.signalled, hcall]
  rw [turned_writing hcall, hsignalled]
  obtain ⟨hpos, hnext⟩ := hp.next_of_sending hwriter
  obtain ⟨hexposed, u, w, hclear⟩ := h.clear_of_refused hwriter hverdict
  have hclear' := hclear
  rw [← hnext] at hclear'
  obtain ⟨started, body, hwork⟩ := hp.atWork_unsent hwriter hclear'
  -- the segment that is given up is the one that is cleared out of the window
  have habandon := Stream.abandon_eq hclear'
  have hserves := h.serves_unsent hexposed hpos hclear (s := (n.peer z).stream.abandon)
    (by rw [habandon]; rfl) (by rw [habandon]; rfl)
  apply h.revised_turn hwork hserves (by rw [habandon]; rfl) (by rw [habandon]; rfl) _ refusal
  exact .fails (List.cons_ne_nil body rest) (Stream.Alike.refl _) rfl
    fun _ => (n.peer z).stream.closed_abandon

/-- **A writer inside learns** what became of its segment. -/
theorem Sound.sending_writer_resume (h : n.Sound settings acks)
    (hcall : (n.peer z).session.call? id = some (.writing (.sending rest datagram piggybacked)))
    {signal : Signal} (hallows : n.allows z (.call id) signal = true) (refusal : Option String) :
    (n.commit z (.call id) (n.turned z (.call id) signal).1 (n.turned z (.call id) signal).2
      refusal).Sound settings acks := by
  have hp := h.peer z
  have hwriter := hp.orderly.writer?_eq hcall rfl
  have hwait := Session.wait?_of_call? hcall
  cases signal with
  | sent =>
    have hwork := hp.atWork_sent hwriter
    have hserves := h.serves_revised (z := z)
      (s := ((n.peer z).stream.countSent datagram).commit piggybacked) rfl rfl
    have hsignalled : (n.peer z).signalled (.call id) .sent = n.peer z := by
      simp only [Peer.signalled, hcall]
    rw [turned_writing hcall, hsignalled]
    exact h.revised_turn hwork hserves rfl rfl
      (Writer.resume_move_sent rfl (hwork.ready hserves.sender) (hwork.carries hserves.sender)
        hwork.fits) refusal
  | unsent reason =>
    have hverdict : (n.peer z).verdict (.call id) = .unsent reason := by
      simpa [allows, hwait, Call.wait, Writer.wait] using hallows
    exact h.unsent_writer_resume hcall hverdict refusal
  | _ => simp [allows, hwait, Call.wait, Writer.wait] at hallows

end

/-! ## Turns of a writer outside -/

/-- What a writer does to a peer that is refused, or waits for the section. -/
theorem outside_afterWriter {p : Peer} {r : Shared × Turn Writer Writer.Outcome}
    {verdict : Agent → Signal} (hapart : p.Apart id)
    (hpoint : ∀ w, r.2.point? = some w → ∃ message, w = .entering message ∧ message ≠ []
      ∧ message.length ≤ p.stream.settings.maxMessage)
    (howner : ∀ agent, agent ≠ .call id → p.session.shared.writing.owner = some agent →
      r.1.writing.owner = some agent) : Peer.Outside p (p.afterWriter id r verdict) id where
  apart := hapart
  others j hj := Peer.call?_afterWriter_of_ne hj
  after := by
    rintro ⟨w, hw, hin⟩
    rw [Peer.call?_afterWriter] at hw
    obtain ⟨v, hv, heq⟩ := Option.map_eq_some_iff.mp hw
    cases heq
    obtain ⟨message, rfl, -⟩ := hpoint w hv
    cases hin
  entering message hcall := by
    rw [Peer.call?_afterWriter] at hcall
    obtain ⟨v, hv, heq⟩ := Option.map_eq_some_iff.mp hcall
    cases heq
    obtain ⟨message', heq, hmessage⟩ := hpoint _ hv
    cases heq
    exact hmessage
  flusher := Peer.flusher_afterWriter
  owner agent hne howner' := by
    rw [Peer.shared_afterWriter]
    exact howner agent hne howner'
  calls := rfl
  entered := Or.inl rfl
  failed := by
    cases hnone : r.2.point? with
    | none =>
      rcases Peer.failed_afterWriter hnone with heq | heq
      · exact Or.inl heq
      · refine Or.inr ⟨heq, ?_⟩
        rw [Peer.call?_afterWriter, hnone, Option.map_none]
    | some w => exact Or.inl (Peer.failed_afterWriter_of_point? hnone)

/-- What a writer does to a peer that gets hold of the section only to find the stream closed. -/
theorem outside_admitted {p : Peer} {writing : Section Agent} {message : Bytes} {x' : Shared}
    {failure : Failure} {verdict : Agent → Signal} (hapart : p.Apart id)
    (howner : writing.owner = some (.call id))
    (hkeep : ∀ agent, p.session.shared.writing.owner = some agent → writing.owner = some agent)
    (horderly : p.session.Orderly) :
    Peer.Outside p
      ((p.admitted writing id message).afterWriter id (x', .returns (.error failure)) verdict)
      id := by
  -- the section was free, or stood open for this call, so nobody else is inside
  have hnobody := hapart.not_inside_of_owner howner hkeep horderly
  have hcall : ((p.admitted writing id message).afterWriter id
      (x', .returns (.error failure)) verdict).session.call? id = none := by
    rw [Peer.call?_afterWriter]
    rfl
  exact
    { apart := hapart
      others := fun j hj => Peer.call?_afterWriter_of_ne hj
      after := by
        rintro ⟨w, hw, -⟩
        rw [hcall] at hw
        cases hw
      entering := fun _ hw => by
        rw [hcall] at hw
        cases hw
      flusher := Peer.flusher_afterWriter
      owner := fun agent hagent howner' => by
        have hother := hkeep agent howner'
        rw [howner] at hother
        exact absurd (Option.some.inj hother).symm hagent
      calls := rfl
      entered := Or.inr ⟨⟨message, rfl⟩, rfl, Session.writer?_eq_none fun j => hnobody (.call j)⟩
      failed := Or.inr ⟨rfl, hcall⟩ }

/-- A writer that is refused, or waits for the section, leaves the network sound. The peer `p` is
what there is of its side then. -/
theorem Sound.outside_turn (h : n.Sound settings acks) {p : Peer}
    (hstream : p.stream = (n.peer z).stream) (hassigned : p.assigned = (n.peer z).assigned)
    (hpassed : p.passed = (n.peer z).passed) (htaken : p.taken = (n.peer z).taken)
    (hdelivered : p.delivered = (n.peer z).delivered) (hverdict : p.verdict = (n.peer z).verdict)
    {r : Shared × Turn Writer Writer.Outcome} (hquiet : ∀ w d, r.2 ≠ .hands w d)
    (hsending : ∀ w, r.2.point? = some w → w.isSending = false)
    (hout : Peer.Outside (n.peer z) (p.afterWriter id r p.verdict) id)
    (halike : (n.peer z).stream.Alike r.1.stream) (refusal : Option String) :
    (n.commit z (.call id) (p.record (.call id) (p.session.recordWriter id r))
      (p.session.recordWriter id r).2 refusal).Sound settings acks := by
  -- nothing is handed over by a writer that is outside
  have hnone (d : Bytes) : (p.session.recordWriter id r).2 ≠ .hands d := by
    obtain ⟨x, turn⟩ := r
    cases turn with
    | hands w datagram => exact absurd rfl (hquiet w datagram)
    | waits w => exact Outcome.noConfusion
    | returns result => exact Outcome.noConfusion
  have hreceiver : Peer.SameReceiver p (p.afterWriter id r p.verdict) :=
    Peer.sameReceiver_afterWriter (by rw [hstream]; exact halike.receiveWindow)
      (by rw [hstream]; exact halike.assembled) (by rw [hstream]; exact halike.complete)
  have hafter : (n.withPeer z (p.afterWriter id r p.verdict)).Sound settings acks :=
    h.outside hout (by rw [Peer.stream_afterWriter]; exact halike)
      ((Peer.assigned_afterWriter hsending).trans hassigned)
      ((Peer.passed_afterWriter (by rw [halike.sendWindow, hstream])).trans hpassed)
      (hreceiver.taken.trans htaken) (hreceiver.delivered.trans hdelivered)
      fun agent _ => congrFun hverdict agent
  exact .commit_quiet hnone hafter

/-- **A write starts** with its message, as the owner of the section. -/
theorem Sound.start_turn (h : n.Sound settings acks) {writing : Section Agent}
    (hapart : (n.peer z).Apart id) (howner : writing.owner = some (.call id))
    (hkeep : ∀ agent, (n.peer z).session.shared.writing.owner = some agent →
      writing.owner = some agent)
    {message : Bytes} (hne : message ≠ []) (hlen : message.length ≤ settings.maxMessage)
    (refusal : Option String) :
    (n.commit z (.call id)
      (((n.peer z).admitted writing id message).record (.call id)
        ((n.peer z).session.recordWriter id (Writer.start
          { (n.peer z).session.shared with writing := writing } (.call id) n.now message)))
      ((n.peer z).session.recordWriter id (Writer.start
        { (n.peer z).session.shared with writing := writing } (.call id) n.now message)).2
      refusal).Sound settings acks := by
  have hp := h.peer z
  -- the stream may have been closed while the write stood in line
  by_cases hclosed : (n.peer z).stream.closed = true
  · rw [Writer.start_of_closed (x := { (n.peer z).session.shared with writing := writing })
      (.call id) hclosed n.now hne]
    apply h.outside_turn (p := (n.peer z).admitted writing id message)
      (r := (Shared.leaveWriting { (n.peer z).session.shared with writing := writing } (.call id),
        .returns (.error .streamClosed))) rfl rfl rfl rfl rfl rfl (by simp)
      (by simp [Turn.point?]) _ (.refl _) refusal
    exact outside_admitted hapart howner hkeep hp.orderly
  · have hwork := hp.atWork_admitted hapart howner hkeep (Bool.eq_false_of_not_eq_true hclosed) hne
      hlen
    have hserves := h.serves_admitted (z := z) id writing message
    have hmove := Writer.start_move (.call id) (hwork.ready hserves.sender)
      (hwork.carries hserves.sender) n.now message
    rw [show ((n.peer z).admitted writing id message).session.shared.stream.settings = settings from
      hp.settings_eq] at hmove
    exact h.writer_turn hwork hserves hmove refusal

/-! ## Writes -/

theorem called_write {message : Bytes} {r : Shared × Turn Writer Writer.Outcome} {p : Peer}
    (hbegin : Writer.begin (n.peer z).session.shared (.call (n.peer z).calls) n.now message = r)
    (hletIn : (n.peer z).letIn (n.peer z).calls message = p) :
    n.called z (.write message)
      = ({ p.record (.call (n.peer z).calls)
            ((n.peer z).session.recordWriter (n.peer z).calls r) with
          calls := (n.peer z).calls + 1 },
        ((n.peer z).session.recordWriter (n.peer z).calls r).2) := by
  subst hbegin hletIn
  rfl

/-- A write is called that does not get hold of the section at once. -/
theorem Sound.write_outside (h : n.Sound settings acks) {message : Bytes}
    {r : Shared × Turn Writer Writer.Outcome}
    (hbegin : Writer.begin (n.peer z).session.shared (.call (n.peer z).calls) n.now message = r)
    (hletIn : (n.peer z).letIn (n.peer z).calls message = n.peer z)
    (hquiet : ∀ w d, r.2 ≠ .hands w d)
    (hpoint : ∀ w, r.2.point? = some w → ∃ message, w = .entering message ∧ message ≠ []
      ∧ message.length ≤ (n.peer z).stream.settings.maxMessage)
    (howner : ∀ agent, agent ≠ .call (n.peer z).calls →
      (n.peer z).session.shared.writing.owner = some agent → r.1.writing.owner = some agent)
    (hstream : (n.peer z).stream.Alike r.1.stream) (refusal : Option String) :
    (n.commit z (.call (n.peer z).calls) (n.called z (.write message)).1
      (n.called z (.write message)).2 refusal).Sound settings acks := by
  have hnext := h.nextCall z (n.peer z).session.joinable
  have hapart := (h.peer z).booked.apart_nextCall (n.peer z).session.joinable
  have hself := peer_withPeer n z ((n.peer z).nextCall (n.peer z).session.joinable)
  have hsending (w : Writer) (hw : r.2.point? = some w) : w.isSending = false := by
    obtain ⟨_, rfl, -⟩ := hpoint w hw
    rfl
  have hturn := hnext.outside_turn (z := z)
    (p := (n.peer z).nextCall (n.peer z).session.joinable) (by rw [hself]) (by rw [hself])
    (by rw [hself]) (by rw [hself]) (by rw [hself]) (by rw [hself]) hquiet hsending
    (by rw [hself]; exact outside_afterWriter hapart hpoint howner)
    (by rw [hself]; exact hstream) refusal
  rw [commit_withPeer] at hturn
  rw [called_write hbegin hletIn]
  exact hturn

/-- **A write is called.** -/
theorem Sound.write (h : n.Sound settings acks) (z : Side) (message : Bytes)
    (refusal : Option String) :
    (n.commit z (.call (n.peer z).calls) (n.called z (.write message)).1
      (n.called z (.write message)).2 refusal).Sound settings acks := by
  have hnext := h.nextCall z (n.peer z).session.joinable
  have hapart := (h.peer z).booked.apart_nextCall (n.peer z).session.joinable
  have hself := peer_withPeer n z ((n.peer z).nextCall (n.peer z).session.joinable)
  rcases Writer.begin_cases (n.peer z).session.shared (.call (n.peer z).calls) n.now message with
    ⟨outcome, hbegin, hrefused⟩ | ⟨hopen, hlen, hne, hbegin⟩
  · have hletIn : (n.peer z).letIn (n.peer z).calls message = n.peer z :=
      if_neg fun hletIn => hrefused ⟨hletIn.1, hletIn.2.1, hletIn.2.2.1⟩
    exact h.write_outside hbegin hletIn (by simp) (by simp [Turn.point?])
      (fun _ _ howner => howner) (.refl _) refusal
  · split at hbegin
    · rename_i howner
      have hletIn : (n.peer z).letIn (n.peer z).calls message
          = { n.peer z with
              entered := (n.peer z).entered ++ [((n.peer z).calls, message)] } :=
        if_pos ⟨hopen, hlen, hne, howner⟩
      have hturn := hnext.start_turn (by rwa [hself]) howner
        (fun agent hagent => by
          rw [hself] at hagent
          exact Section.owner_enter_of_owner hagent _) hne
        (by rwa [← (h.peer z).settings_eq]) refusal
      rw [commit_withPeer, hself] at hturn
      rw [called_write hbegin hletIn]
      exact hturn
    · rename_i howner
      -- a write that is refused is not let in
      have hletIn : (n.peer z).letIn (n.peer z).calls message = n.peer z :=
        if_neg fun hletIn => howner hletIn.2.2.2
      apply h.write_outside hbegin hletIn (by simp) _ _ (.refl _) refusal
      · intro w hw
        cases hw
        exact ⟨message, rfl, hne, hlen⟩
      · intro agent _ hagent
        exact Section.owner_enter_of_owner hagent _

/-- **A write goes on.** -/
theorem Sound.writer_resume (h : n.Sound settings acks) {point : Writer}
    (hcall : (n.peer z).session.call? id = some (.writing point)) {signal : Signal}
    (hallows : n.allows z (.call id) signal = true) (refusal : Option String) :
    (n.commit z (.call id) (n.turned z (.call id) signal).1 (n.turned z (.call id) signal).2
      refusal).Sound settings acks := by
  cases point with
  | entering message =>
    have hp := h.peer z
    have hwait := Session.wait?_of_call? hcall
    cases signal with
    | granted =>
      have howner : (n.peer z).session.shared.writing.owner = some (.call id) := by
        simpa [allows, hwait, Call.wait, Writer.wait] using hallows
      have hsignalled : (n.peer z).signalled (.call id) .granted
          = (n.peer z).admitted (n.peer z).session.shared.writing id message := by
        simp only [Peer.signalled, hcall]
        rfl
      obtain ⟨hne, hlen⟩ := hp.entering id message hcall
      have hapart := hp.booked.apart hcall fun w hw => by cases hw; rfl
      rw [turned_writing hcall, hsignalled]
      exact h.start_turn hapart howner (fun _ hagent => hagent) hne hlen refusal
    | _ => simp [allows, hwait, Call.wait, Writer.wait] at hallows
  | sending rest datagram piggybacked => exact h.sending_writer_resume hcall hallows refusal
  | polling job limit => exact h.quiet_writer_resume hcall rfl rfl hallows refusal
  | replying job limit datagram => exact h.quiet_writer_resume hcall rfl rfl hallows refusal
  | flushing job flush => exact h.quiet_writer_resume hcall rfl rfl hallows refusal
  | awaiting job limit => exact h.quiet_writer_resume hcall rfl rfl hallows refusal

end Network

end Redelivery
