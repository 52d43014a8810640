import Redelivery.Proofs.Network.Sufficiency
import Redelivery.Proofs.Session.Evolution
import Redelivery.Proofs.Session.Sparing
import Redelivery.Proofs.Stream.Packing

/-!
# What a flush sends again

Wherever a stream has come to, a flush finds all segments in the send window that are due, and no
others, and puts them into as few datagrams as they fit in without changing their order. This does
not depend on where acknowledgements have left gaps, nor on who has abandoned a write halfway.

## Main definitions

* `Stream.Roomy`: the send window is as wide as the settings tell, and its segments are near.

## Main statements

* `Network.Leads.evolves`: whatever has happened, streams have only taken steps.
* `Network.Leads.flush_packs`: what a flush sends again.

The statement is about a function of the stream, `Stream.flushDatagrams`, at any state that a run
leads to. So all that is asked of the run is that the send window is *roomy*: as wide as the
settings tell, with all segments near its base. `Stream.Roomy.step` keeps that in every step that a
stream can take at all, and `Leads.evolves` says that whatever happens, streams only take such
steps; forged acknowledgements are among them, as the window guards itself there.

For a roomy window, `Window.Near.lists_entries` says that the search through it finds all segments,
in order, in spite of the gaps; a filter by age keeps the order; and `Segment.batches` cuts a list
into as few runs as fit, which is proved for all lists in the file on packing. `Leads.flush_packs`
joins these three, and reads the datagrams back to state it about bytes.
-/

namespace Redelivery

/-! ## The send window -/

/-- The send window is as wide as the settings tell, and no segment in it is further ahead of its
base. -/
structure Stream.Roomy (settings : ValidSettings) (s : Stream) : Prop where
  /-- The width. -/
  capacity_eq : s.sendWindow.capacity = settings.windowSize
  /-- The segments. -/
  near : s.sendWindow.Near

namespace Stream.Roomy

variable {settings : ValidSettings} {s s' : Stream}

theorem establish (settings : ValidSettings) (pool : Pool) :
    (Stream.establish settings pool).Roomy settings :=
  ⟨Window.capacity_empty settings.windowSize_pos, .empty settings.windowSize_pos _⟩

theorem congr (h : s.Roomy settings) (hwindow : s'.sendWindow = s.sendWindow) :
    s'.Roomy settings :=
  ⟨hwindow ▸ h.capacity_eq, hwindow ▸ h.near⟩

theorem receive (h : s.Roomy settings) (now : Nat) (raw : Bytes) :
    (s.receive now raw).1.Roomy settings := by
  cases hack : s.ack? raw with
  | none => exact h.congr (spares_receive hack now).sendWindow
  | some ack =>
    obtain ⟨next, received⟩ := ack
    obtain ⟨-, -, hwindow, -⟩ := receive_of_ack? hack now
    refine ⟨?_, ?_⟩
    · rw [hwindow, Window.capacity_acknowledge]
      exact h.capacity_eq
    · rw [hwindow]
      exact h.near.acknowledge next received

theorem insert? (h : s.Roomy settings) {now : Nat} {body : Buffer} {more : Bool}
    (hinsert : s.insert? now body more = some s') : s'.Roomy settings := by
  unfold Stream.insert? at hinsert
  split at hinsert
  · rename_i w hwrite
    cases hinsert
    refine ⟨?_, h.near.write hwrite⟩
    rw [(Window.store_of_write hwrite).1, Window.capacity_store]
    exact h.capacity_eq
  · cases hinsert
    exact h.congr rfl
  · cases hinsert

theorem abandon (h : s.Roomy settings) : s.abandon.Roomy settings := by
  unfold Stream.abandon Window.clear
  cases hremove : s.sendWindow.remove? s.next with
  | none => exact h.congr rfl
  | some found =>
    obtain ⟨u, w⟩ := found
    obtain ⟨hfind, rfl⟩ := Window.remove?_eq_some_iff.mp hremove
    exact ⟨(Window.capacity_put _ _ _ _).trans h.capacity_eq, h.near.put_none hfind _⟩

/-- **The send window stays roomy** with every step. -/
theorem step (h : s.Roomy settings) (hstep : s.Step s') : s'.Roomy settings := by
  cases hstep with
  | receives now raw => exact h.receive now raw
  | delivers buffer => exact h.congr (s.spares_deliver buffer).sendWindow
  | inserts hinsert => exact h.insert? hinsert
  | commits piggybacked => exact h.congr rfl
  | abandons => exact h.abandon
  | shuts => exact h.congr rfl
  | remembers => exact h.congr rfl
  | notes pool ackDue roomFreed sentSinceTick traffic => exact h.congr rfl

end Stream.Roomy

namespace Network

variable {settings : ValidSettings} {start n n' : Network} {x : Side} {i : Incident}

/-! ## Steps and runs -/

theorem evolves_undergo (hstep : n.undergo? i = some n') :
    (n.peer x).stream.Evolves (n'.peer x).stream :=
  session_undergo (P := fun s => (n.peer x).stream.Evolves s.stream) (.refl _)
    ((n.peer x).session.evolves_read) ((n.peer x).session.evolves_write n.now)
    ((n.peer x).session.evolves_close)
    (fun me signal _ => (n.peer x).session.evolves_resume n.now me signal)
    ((n.peer x).session.evolves_cancel) hstep

/-- **Streams only take steps**, whatever happens. -/
theorem Leads.evolves {rule : Rule} (h : start.Leads rule n) (x : Side) :
    (start.peer x).stream.Evolves (n.peer x).stream :=
  h.invariant (P := fun m => (start.peer x).stream.Evolves (m.peer x).stream) (.refl _)
    fun _ _ _ hmid _ hstep => hmid.trans (evolves_undergo hstep)

theorem Leads.roomy {rule : Rule} (h : start.Leads rule n) (hstart : start.IsStart settings)
    (x : Side) : (n.peer x).stream.Roomy settings := by
  refine (h.evolves x).invariant ?_ fun _ _ => Stream.Roomy.step
  obtain ⟨pool, traffic, now, heq⟩ := hstart.peer_eq x
  rw [heq]
  exact (Stream.Roomy.establish settings pool).congr rfl

/-- **What a flush sends again.** Wherever a stream has come to, whatever has happened, and whatever
the time is, a flush succeeds. It finds the segments of the send window that are at least as old as
the fastest recent round trip, each once and in order of their distance from the base. They are read
in the datagrams, one datagram after the other, as they are in the window, and their number is
told. No datagram is without segments or too long, and each begins with a segment that would have
made the one before it too long. The send window stays as it is. -/
theorem Leads.flush_packs (hstart : start.IsStart settings) (h : start.Leads everything n)
    (x : Side) (now : Nat) : (n.peer x).stream.Repacks settings now := by
  have hroomy := h.roomy hstart x
  have hdvd : (n.peer x).stream.sendWindow.capacity ∣ 2 ^ 32 := by
    rw [hroomy.capacity_eq]
    exact settings.windowSize_dvd
  exact (h.session_sound hstart x).stream.repacks hroomy.near hdvd now

/-- The settings of a window that serial numbers wrap around in. Two segments of one byte fit into a
datagram. -/
def wrappingSettings : ValidSettings where
  mtu := 22
  windowSize := 4
  initialSerial := ⟨0xFFFFFFFE⟩
  fault?_eq_none := by decide +kernel

/-- Both ends have just got their streams. -/
def wrappingStart : Network where
  now := 0
  peer _ := { session := .establish (.establish wrappingSettings (.empty 0)) 0 }
  flights _ := []

theorem wrappingStart_isStart : wrappingStart.IsStart wrappingSettings where
  peer_eq _ := ⟨.empty 0, {}, 0, rfl⟩
  flights_eq _ _ hf := absurd hf List.not_mem_nil

/-- The acknowledgement of the second of four segments only. -/
def secondArrived : Bytes :=
  (Header.ack ⟨0xFFFFFFFE⟩ 1).datagram []

/-- Three segments are sent, the second is acknowledged after a while, and then a fourth is sent. -/
def gapLeft : List Incident :=
  [.event (.call .a (.read [0]) none),
    .event (.call .a (.write [1]) none), .event (.turn .a (.call 1) .sent none),
    .event (.call .a (.write [2]) none), .event (.turn .a (.call 2) .sent none),
    .event (.call .a (.write [3]) none), .event (.turn .a (.call 3) .sent none),
    .event (.elapse 3), .forge .b secondArrived,
    .event (.turn .a (.call 0) (.arrived (.datagram secondArrived)) none),
    .event (.call .a (.write [4]) none), .event (.turn .a (.call 4) .sent none)]

/-- The first, the third and the fourth are left. As long as the fourth is not due, the other two are
sent again in one datagram, and after that a second datagram is begun for it. -/
theorem flush_packs_gapLeft : ∃ n, wrappingStart.Leads everything n
    ∧ [5, 6].map (fun now => ((n.peer .a).stream.flushDatagrams now).1.toOption.map fun made =>
        (made.1.length, made.2)) = [some (1, 2), some (2, 3)]
    ∧ ∀ now, (n.peer .a).stream.Repacks wrappingSettings now := by
  have hrun : (wrappingStart.follow? everything gapLeft).map (fun n =>
      [5, 6].map fun now => ((n.peer .a).stream.flushDatagrams now).1.toOption.map fun made =>
        (made.1.length, made.2)) = some [some (1, 2), some (2, 3)] := by
    decide +kernel
  obtain ⟨n, hn, hview⟩ := exists_leads _ hrun
  exact ⟨n, hn, hview, Leads.flush_packs wrappingStart_isStart hn .a⟩

end Network

end Redelivery
