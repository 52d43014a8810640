import Redelivery.Buffer
import Redelivery.Serial

/-!
# Segments

A message is cut into segments that are small enough for one datagram. On the wire a segment is its
serial number, the size of its body in 16 bits, a flag that tells whether more segments of the same
message follow, and the body. Segments stand back to back.

What holds a segment's body is a parameter: on the wire it is an octet string, in a window it is a
buffer.

## Main definitions

* `Segment`: a segment.
* `Segment.encode`, `Segment.write`: its bytes, and writing them to a buffer.
* `Segment.decode`, `Segment.decodeAll`: reads one segment, or all that stand back to back.
-/

namespace Redelivery

/-- A piece of a message. -/
structure Segment (β : Type) where
  /-- The serial number. -/
  seq : Serial
  /-- Whether more segments of the same message follow. -/
  more : Bool
  /-- The body. -/
  body : β
  /-- When the segment was sent or received, which never goes over the wire. -/
  sentAt : Nat
deriving DecidableEq, Repr

/-- Why a segment could not be written or read. -/
inductive SegmentError where
  /-- The buffer has no room for the segment. -/
  | noRoom (seq : Serial) (required available : Nat)
  /-- The size of the body does not fit in 16 bits. -/
  | oversized (size : Nat)
  /-- The bytes end inside the segment's header. -/
  | incompleteHeader
  /-- The bytes end inside the segment's body. -/
  | cutShort (seq : Serial) (size available : Nat)
  /-- The body is larger than the place that was provided for it. -/
  | tooLarge (seq : Serial) (size limit : Nat)
deriving DecidableEq, Repr

namespace SegmentError

/-- The error in words. -/
def message : SegmentError → String
  | noRoom seq required available =>
    s!"no room for segment #{seq}: {required} bytes required, {available} available"
  | oversized size => s!"a body of {size} bytes exceeds 16 bits of size"
  | incompleteHeader => "incomplete segment header"
  | cutShort seq size available =>
    s!"segment #{seq} declares a body size of {size} but only {available} bytes are left"
  | tooLarge seq size limit =>
    s!"segment #{seq} declares a body size of {size} which exceeds the maximum segment size "
      ++ s!"of {limit}"

end SegmentError

namespace Segment

variable {β γ : Type}

/-- The segment with its body replaced. -/
def map (f : β → γ) (s : Segment β) : Segment γ where
  seq := s.seq
  more := s.more
  body := f s.body
  sentAt := s.sentAt

/-- The bytes of a segment in front of its body. -/
def overhead : Nat := 7

/-- The number of bytes of a segment. -/
def size (s : Segment Bytes) : Nat :=
  overhead + s.body.length

/-- The segment as it stands on the wire. -/
def wire (s : Segment Buffer) : Segment Bytes :=
  s.map Buffer.content

/-- The bytes of a segment. The size field is right as long as the body's size fits in 16 bits. -/
def encode (s : Segment Bytes) : Bytes :=
  Bytes.ofUInt32 s.seq.raw ++ Bytes.ofUInt16 (UInt16.ofNat s.body.length)
    ++ (if s.more then 1 else 0) :: s.body

@[simp] theorem length_encode (s : Segment Bytes) : s.encode.length = s.size := by
  simp only [encode, size, overhead, List.length_append, List.length_cons, Bytes.length_ofUInt32,
    Bytes.length_ofUInt16]
  omega

/-- Appends a segment to a buffer, or nothing at all if there is no room for all of it or its body
is too large for the size field. -/
def write (s : Segment Bytes) (b : Buffer) : Except SegmentError Buffer :=
  if b.room < s.size then
    .error (.noRoom s.seq s.size b.room)
  else
    match Word.narrow16? s.body.length, b.append? s.encode with
    | some _, some written => .ok written
    | _, _ => .error (.oversized s.body.length)

/-- Reads a segment off the front of the bytes, with a body of at most `limit` bytes. The second
part is what was not consumed: nothing is consumed of an incomplete header, and the whole header if
the body cannot be read. -/
def decode (limit now : Nat) (bytes : Bytes) : Except SegmentError (Segment Bytes) × Bytes :=
  match bytes with
  | a :: b :: c :: d :: high :: low :: flag :: rest =>
    let seq : Serial := ⟨Bytes.toUInt32 a b c d⟩
    let size := (Bytes.toUInt16 high low).toNat
    if rest.length < size then
      (.error (.cutShort seq size rest.length), rest)
    else if limit < size then
      (.error (.tooLarge seq size limit), rest)
    else
      (.ok { seq := seq, more := flag != 0, body := rest.take size, sentAt := now }, rest.drop size)
  | _ => (.error .incompleteHeader, bytes)

theorem length_lt_of_decode {limit now : Nat} {bytes rest : Bytes} {s : Segment Bytes}
    (h : decode limit now bytes = (.ok s, rest)) : rest.length < bytes.length := by
  unfold decode at h
  split at h
  · rename_i a b c d high low flag tail
    simp only at h
    split at h
    · simp at h
    · split at h
      · simp at h
      · simp only [Prod.mk.injEq] at h
        rw [← h.2]
        simp only [List.length_drop, List.length_cons]
        omega
  · simp at h

/-- The segments that stand back to back, each with the bytes behind it, up to the end or to the
first that cannot be read. In the second case, also the reason and the bytes that are left. -/
def decodeAll (limit now : Nat) (bytes : Bytes) :
    List (Segment Bytes × Bytes) × Option (SegmentError × Bytes) :=
  if bytes = [] then
    ([], none)
  else
    match h : decode limit now bytes with
    | (.error e, rest) => ([], some (e, rest))
    | (.ok s, rest) =>
      have : rest.length < bytes.length := length_lt_of_decode h
      let (segments, stop) := decodeAll limit now rest
      ((s, rest) :: segments, stop)
termination_by bytes.length

end Segment

end Redelivery
