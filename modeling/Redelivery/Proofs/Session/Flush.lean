import Redelivery.Proofs.Stream.Alike
import Redelivery.Session.Flush

/-!
# Flushes leave a stream alike

What a flush does to the stream itself is next to nothing; what counts are the datagrams that it
hands over, one after the other. All of them come from the send window as it was at the start.

## Main definitions

* `Shared.Alike`: alike streams, and the same section for writing.
* `Flush.Progress.All`: something holds of all datagrams that a flush has yet to send.

## Main statements

* `Flush.begin_alike`, `Flush.all_begin`: the start of a flush.
* `Flush.sent_alike`, `Flush.all_sent`, `Flush.unsent_alike`: what follows on each datagram.

Two agents flush, writers and the flusher, and they differ only in what they do afterwards. So what
is said here is about `Flush.Progress`, which both take up. `Flush.Progress.All` moves a property of
all datagrams from the start of the flush to each of its later steps. Which property that is depends
on the file: that a datagram carries what was numbered, that it is proper, that it is data.
-/

namespace Redelivery

/-- The two states agree on all that decides about the way of a message, and on the section for
writing. -/
structure Shared.Alike (x x' : Shared) : Prop where
  /-- The streams. -/
  stream : x.stream.Alike x'.stream
  /-- The section for writing. -/
  writing : x'.writing = x.writing

namespace Shared.Alike

theorem refl (x : Shared) : x.Alike x :=
  ⟨.refl x.stream, rfl⟩

theorem trans {x y z : Shared} (h : x.Alike y) (h' : y.Alike z) : x.Alike z :=
  ⟨h.stream.trans h'.stream, h'.writing.trans h.writing⟩

theorem of_stream {x : Shared} {s : Stream} (h : x.stream.Alike s) :
    x.Alike { x with stream := s } :=
  ⟨h, rfl⟩

end Shared.Alike

namespace Flush

/-- All datagrams with which the flush goes on have the property. -/
def Progress.All (D : Bytes → Prop) : Progress → Prop
  | .done => True
  | .going flush => D flush.current ∧ ∀ d ∈ flush.rest, D d
  | .failed _ => True

theorem begin_alike (s : Stream) (now : Nat) : s.Alike (begin s now).1 := by
  have h := s.alike_flushDatagrams now
  unfold begin
  split <;> rename_i heq <;> rwa [heq] at h

theorem all_begin (s : Stream) (now : Nat) : (begin s now).2.All s.Sends := by
  unfold begin
  split
  · trivial
  · rename_i datagram rest count s' heq
    -- all datagrams are made at the start, before the first one is handed over
    have hsends := Stream.sends_of_flushDatagrams heq
    exact ⟨hsends datagram List.mem_cons_self, fun d hd => hsends d (List.mem_cons_of_mem _ hd)⟩
  · trivial

theorem sent_alike (f : Flush) (s : Stream) : s.Alike (f.sent s).1 := by
  unfold sent
  simp only
  split <;> exact ⟨rfl, rfl, rfl, rfl, rfl, rfl, id⟩

theorem all_sent {D : Bytes → Prop} {f : Flush} (h : ∀ d ∈ f.rest, D d) (s : Stream) :
    (f.sent s).2.All D := by
  unfold sent
  simp only
  split
  · trivial
  · rename_i datagram rest heq
    rw [heq] at h
    exact ⟨h datagram List.mem_cons_self, fun d hd => h d (List.mem_cons_of_mem _ hd)⟩

theorem unsent_alike (f : Flush) (s : Stream) (reason : String) :
    s.Alike (f.unsent s reason).1 :=
  s.alike_shut

theorem all_unsent {D : Bytes → Prop} (f : Flush) (s : Stream) (reason : String) :
    (f.unsent s reason).2.All D :=
  trivial

end Flush

end Redelivery
