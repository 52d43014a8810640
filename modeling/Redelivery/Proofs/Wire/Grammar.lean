import Redelivery.Proofs.Composition

/-!
# The grammar of datagrams

What is read as a datagram is exactly what one end could have written, but for two liberties: a flag
may be any byte, and bytes may follow a header that does not announce any. A data packet is read as
far as it consists of whole segments.

Reading never fails to come to an end, and never asks for a byte that is not there: `decodeInto?` is
the reader with all of its conditions spelled out, in which a read past the end, or past the end of
the place for a body, would leave no result.

## Main definitions

* `WireSegment`: a whole segment as it may stand on the wire.
* `Segment.Splits`: a payload taken apart into whole segments and a tail.
* `Segment.decodeInto?`, `Segment.decodeEach?`: the reader with its conditions spelled out.

## Main statements

* `Segment.splits_decodeAll`: what is read of a payload is the longest row of whole segments.
* `Segment.exists_decodeEach?`: the reader always comes to a result, and it is this one.
* `Frame.payloadLength?_eq_some_iff`, `Header.exists_decode_iff`: when a frame and a header are
  accepted.
* `Header.accepts_exactly`: all layers at once, and how a datagram is written again.

For each layer there is one lemma that reads a well-formed string and one that finds the form in a
string that was read. For segments these are `WireSegment.decode_bytes_append` and
`Segment.exists_wireSegment_of_decode`. That the row of segments is the longest one takes both: a
row that someone else has found is read segment by segment, so it cannot go on where reading stopped
(`Segment.Splits.stuck`), and as long as both go on they agree (`WireSegment.bytes_append_inj`).

The reader with conditions is compared to the plain one by the recursion of the latter. Its buffers
may be any of the right capacity, as they come from a pool. The last section puts the layers
together; what is written again goes through `Header.packs_of_length_le`, which asks for no more
room than the datagram itself takes.
-/

namespace Redelivery

/-! ## Words from their bytes -/

namespace Bytes

theorem ofUInt16_toUInt16 (a b : UInt8) : ofUInt16 (toUInt16 a b) = [a, b] := by
  have ha := a.toNat_lt
  have hb := b.toNat_lt
  unfold ofUInt16
  congr 1
  · apply UInt8.toNat_inj.mp
    rw [UInt16.toNat_toUInt8, UInt16.toNat_shiftRight, toNat_toUInt16,
      show (8 : UInt16).toNat % 16 = 8 from rfl, Nat.shiftRight_eq_div_pow]
    omega
  · congr 1
    apply UInt8.toNat_inj.mp
    rw [UInt16.toNat_toUInt8, toNat_toUInt16]
    omega

theorem toUInt8_shiftRight {n s : UInt32} {k : Nat} {x : UInt8} (hs : s.toNat = k) (hk : k < 32)
    (hx : n.toNat / 2 ^ k % 2 ^ 8 = x.toNat) : (n >>> s).toUInt8 = x := by
  apply UInt8.toNat_inj.mp
  rw [UInt32.toNat_toUInt8, UInt32.toNat_shiftRight, Nat.shiftRight_eq_div_pow, hs,
    Nat.mod_eq_of_lt hk, hx]

theorem ofUInt32_toUInt32 (a b c d : UInt8) : ofUInt32 (toUInt32 a b c d) = [a, b, c, d] := by
  have ha := a.toNat_lt
  have hb := b.toNat_lt
  have hc := c.toNat_lt
  have hd := d.toNat_lt
  have hvalue := toNat_toUInt32 a b c d
  generalize toUInt32 a b c d = n at hvalue
  have hfirst : (n >>> 24).toUInt8 = a :=
    toUInt8_shiftRight (k := 24) rfl (by decide) (by omega)
  have hsecond : (n >>> 16).toUInt8 = b :=
    toUInt8_shiftRight (k := 16) rfl (by decide) (by omega)
  have hthird : (n >>> 8).toUInt8 = c :=
    toUInt8_shiftRight (k := 8) rfl (by decide) (by omega)
  have hlast : n.toUInt8 = d := by
    apply UInt8.toNat_inj.mp
    rw [UInt32.toNat_toUInt8]
    omega
  rw [ofUInt32, hfirst, hsecond, hthird, hlast]

theorem eq_of_takeUInt32? {bytes rest : Bytes} {n : UInt32}
    (h : takeUInt32? bytes = some (n, rest)) : bytes = ofUInt32 n ++ rest := by
  unfold takeUInt32? at h
  split at h
  · cases h
    rw [ofUInt32_toUInt32]
    rfl
  · cases h

theorem exists_takeUInt32?_iff (bytes : Bytes) :
    (∃ n rest, takeUInt32? bytes = some (n, rest)) ↔ 4 ≤ bytes.length := by
  constructor
  · rintro ⟨n, rest, h⟩
    rw [eq_of_takeUInt32? h, List.length_append, length_ofUInt32]
    omega
  · intro h
    match bytes, h with
    | a :: b :: c :: d :: rest, _ => exact ⟨_, rest, rfl⟩

end Bytes

/-! ## Frames -/

/-- **A frame is accepted exactly if it is what stamping its payload gives**, and its payload can be
one of this protocol. -/
theorem Frame.payloadLength?_eq_some_iff (d : Bytes) (n : Nat) :
    payloadLength? d = some n ↔ d.length = n + checksumLength ∧ minPayloadLength ≤ n
      ∧ d.head? = some protocolId ∧ d = ofPayload (d.take n) := by
  have hsplit : ∀ k, d.drop k = Bytes.ofUInt32 (checksum (d.take k))
      ↔ d = ofPayload (d.take k) := by
    intro k
    unfold ofPayload
    constructor
    · intro h
      rw [← h, List.take_append_drop]
    · intro h
      -- both sides start with the same `k` bytes
      exact List.append_cancel_left ((List.take_append_drop k d).trans h)
  unfold payloadLength?
  split
  · rename_i hshort
    simp only [reduceCtorEq, false_iff]
    rintro ⟨hlen, hmin, -⟩
    omega
  · split
    · rename_i hforeign
      simp only [reduceCtorEq, false_iff]
      rintro ⟨-, -, hhead, -⟩
      exact hforeign hhead
    · rename_i hlong hhead
      have hhead' : d.head? = some protocolId := Classical.not_not.mp hhead
      simp only [hsplit]
      constructor
      · intro h
        split at h
        · rename_i hsum
          cases h
          exact ⟨by omega, by omega, hhead', hsum⟩
        · cases h
      · rintro ⟨hlen, -, -, hsum⟩
        have hn : d.length - checksumLength = n := by omega
        rw [hn, if_pos hsum]

/-! ## Headers -/

namespace Header

/-- What was read as a header is its bytes. -/
theorem eq_of_decode {bytes rest : Bytes} {h : Header} (hdecode : decode bytes = (.ok h, rest)) :
    bytes = h.encode ++ rest := by
  unfold decode at hdecode
  split at hdecode
  · cases hdecode
  · split at hdecode
    · cases hdecode
    · rename_i id tail hid
      have hid' : id = Frame.protocolId := Classical.not_not.mp hid
      rw [hid']
      split at hdecode
      · cases hdecode
      · cases hdecode
        rfl
      · rename_i fields
        unfold decodeAck at hdecode
        split at hdecode
        · cases hdecode
        · rename_i next later hnext
          split at hdecode
          · cases hdecode
          · rename_i received last hreceived
            cases hdecode
            rw [Bytes.eq_of_takeUInt32? hnext, Bytes.eq_of_takeUInt32? hreceived]
            show _ = Frame.protocolId :: 1
              :: (Bytes.ofUInt32 next ++ Bytes.ofUInt32 received ++ rest)
            rw [List.append_assoc]
      · cases hdecode
        rfl
      · cases hdecode
        rfl
      · cases hdecode

/-- The fields of an acknowledgement are read exactly if both are there. -/
theorem exists_decodeAck_iff (fields : Bytes) :
    (∃ h rest, decodeAck fields = (.ok h, rest)) ↔ 8 ≤ fields.length := by
  constructor
  · rintro ⟨h, rest, hdecode⟩
    unfold decodeAck at hdecode
    split at hdecode
    · cases hdecode
    · rename_i next later hnext
      split at hdecode
      · cases hdecode
      · rename_i received last hreceived
        rw [Bytes.eq_of_takeUInt32? hnext, Bytes.eq_of_takeUInt32? hreceived]
        simp only [List.length_append, Bytes.length_ofUInt32]
        omega
  · intro hlen
    obtain ⟨next, later, hnext⟩ := (Bytes.exists_takeUInt32?_iff fields).mpr (by omega)
    have hlater := congrArg List.length (Bytes.eq_of_takeUInt32? hnext)
    rw [List.length_append, Bytes.length_ofUInt32] at hlater
    obtain ⟨received, last, hreceived⟩ := (Bytes.exists_takeUInt32?_iff later).mpr (by omega)
    refine ⟨ack ⟨next⟩ received, last, ?_⟩
    unfold decodeAck
    rw [hnext]
    simp only [hreceived]

theorem decode_of_unknown {code : UInt8} (h0 : code ≠ 0) (h1 : code ≠ 1) (h2 : code ≠ 2)
    (h3 : code ≠ 3) (fields : Bytes) :
    decode (Frame.protocolId :: code :: fields) = (.error (.unknownKind code), fields) := by
  unfold decode
  simp only [ne_eq, not_true_eq_false, if_false]

/-- **A header is accepted exactly if its kind is known**, and nothing of it is missing. -/
theorem exists_decode_iff {payload : Bytes} (hhead : payload.head? = some Frame.protocolId) :
    (∃ h rest, decode payload = (.ok h, rest))
      ↔ payload[1]? = some 0 ∨ payload[1]? = some 2 ∨ payload[1]? = some 3
        ∨ payload[1]? = some 1 ∧ ackSize ≤ payload.length := by
  match payload, hhead with
  | [id], hhead =>
    cases hhead
    simp [decode]
  | id :: code :: fields, hhead =>
    cases hhead
    have hcode : (Frame.protocolId :: code :: fields)[1]? = some code := rfl
    have hlen : (Frame.protocolId :: code :: fields).length = fields.length + 2 := rfl
    rw [hcode, hlen, ackSize]
    by_cases h0 : code = 0
    · rw [h0]
      exact iff_of_true ⟨data, fields, rfl⟩ (Or.inl rfl)
    by_cases h2 : code = 2
    · rw [h2]
      exact iff_of_true ⟨dial, fields, rfl⟩ (Or.inr (Or.inl rfl))
    by_cases h3 : code = 3
    · rw [h3]
      exact iff_of_true ⟨dialAck, fields, rfl⟩ (Or.inr (Or.inr (Or.inl rfl)))
    by_cases h1 : code = 1
    · rw [h1]
      refine (exists_decodeAck_iff fields).trans ?_
      simp
    · rw [decode_of_unknown h0 h1 h2 h3]
      simp [h0, h1, h2, h3]

end Header

/-! ## Whole segments -/

/-- A whole segment as it may stand on the wire, with a body of at most `limit` bytes. The flag may
be any byte. -/
structure WireSegment (limit : Nat) where
  /-- The serial number. -/
  seq : Serial
  /-- The flag: zero stands for the last segment of a message. -/
  flag : UInt8
  /-- The body. -/
  body : Bytes
  /-- The body is not too large for its reader. -/
  length_le : body.length ≤ limit
  /-- The body is not too large for the size field. -/
  length_lt : body.length < 2 ^ 16

namespace WireSegment

variable {limit : Nat}

/-- The bytes of the segment. -/
def bytes (w : WireSegment limit) : Bytes :=
  Bytes.ofUInt32 w.seq.raw ++ Bytes.ofUInt16 (UInt16.ofNat w.body.length) ++ w.flag :: w.body

/-- The segment as it is read. -/
def read (now : Nat) (w : WireSegment limit) : Segment Bytes where
  seq := w.seq
  more := w.flag != 0
  body := w.body
  sentAt := now

/-- The segment with its flag as it is written: any byte but zero becomes a one. -/
def canonical (w : WireSegment limit) : WireSegment limit :=
  { w with flag := if w.flag = 0 then 0 else 1 }

theorem encode_read (now : Nat) (w : WireSegment limit) :
    (w.read now).encode = w.canonical.bytes := by
  unfold Segment.encode bytes read canonical
  by_cases h : w.flag = 0 <;> simp [h]

theorem flatMap_encode_read (now : Nat) (row : List (WireSegment limit)) :
    (row.map (read now)).flatMap Segment.encode = (row.map canonical).flatMap bytes := by
  simp only [List.flatMap_map, encode_read]

theorem length_bytes (now : Nat) (w : WireSegment limit) : w.bytes.length = (w.read now).size := by
  simp only [bytes, read, Segment.size, Segment.overhead, List.length_append, List.length_cons,
    Bytes.length_ofUInt32, Bytes.length_ofUInt16]
  omega

theorem bytes_ne_nil (w : WireSegment limit) : w.bytes ≠ [] := by
  unfold bytes Bytes.ofUInt32
  simp

/-- A whole segment is read, whatever follows it. -/
theorem decode_bytes_append (now : Nat) (w : WireSegment limit) (rest : Bytes) :
    Segment.decode limit now (w.bytes ++ rest) = (.ok (w.read now), rest) := by
  have hlimit := w.length_le
  have hword : (UInt16.ofNat w.body.length).toNat = w.body.length := by
    rw [UInt16.toNat_ofNat', Nat.mod_eq_of_lt w.length_lt]
  unfold bytes Bytes.ofUInt32 Bytes.ofUInt16
  simp only [List.cons_append, List.nil_append, Segment.decode, Bytes.toUInt16_ofUInt16,
    Bytes.toUInt32_ofUInt32, hword]
  rw [if_neg (by rw [List.length_append]; omega), if_neg (by omega), List.take_left,
    List.drop_left]
  rfl

end WireSegment

namespace Segment

/-- What was read as a segment is a whole one. -/
theorem exists_wireSegment_of_decode {limit now : Nat} {bytes rest : Bytes} {s : Segment Bytes}
    (h : decode limit now bytes = (.ok s, rest)) :
    ∃ w : WireSegment limit, bytes = w.bytes ++ rest ∧ s = w.read now := by
  unfold decode at h
  split at h
  · rename_i a b c d high low flag tail
    dsimp only at h
    split at h
    · cases h
    · split at h
      · cases h
      · rename_i hshort hlimit
        cases h
        have hlen : (tail.take (Bytes.toUInt16 high low).toNat).length
            = (Bytes.toUInt16 high low).toNat := List.length_take_of_le (by omega)
        refine ⟨⟨⟨Bytes.toUInt32 a b c d⟩, flag, tail.take (Bytes.toUInt16 high low).toNat,
          by omega, by rw [hlen]; exact UInt16.toNat_lt _⟩, ?_, rfl⟩
        unfold WireSegment.bytes
        dsimp only
        rw [hlen, UInt16.ofNat_toNat, Bytes.ofUInt32_toUInt32, Bytes.ofUInt16_toUInt16]
        simp only [List.cons_append, List.nil_append, List.take_append_drop]
  · cases h

/-- The payload consists of whole segments and a tail, and no other row of whole segments at its
front is longer. -/
structure Splits {limit : Nat} (bytes : Bytes) (row : List (WireSegment limit)) (tail : Bytes) :
    Prop where
  /-- Nothing is left out. -/
  bytes_eq : bytes = row.flatMap WireSegment.bytes ++ tail
  /-- The row is the longest one. -/
  longest : ∀ row' tail', bytes = row'.flatMap WireSegment.bytes ++ tail' → row' <+: row

end Segment

/-- A whole segment is determined by any payload that it is the front of. -/
theorem WireSegment.bytes_append_inj {limit : Nat} {v w : WireSegment limit} {x y : Bytes}
    (h : v.bytes ++ x = w.bytes ++ y) : v = w ∧ x = y := by
  -- read from both, the segments agree on all but the flag
  have hv := v.decode_bytes_append 0 x
  rw [h, w.decode_bytes_append 0 y] at hv
  have hread : w.read 0 = v.read 0 := Except.ok.inj (congrArg Prod.fst hv)
  have hseq : w.seq = v.seq := congrArg Segment.seq hread
  have hbody : w.body = v.body := congrArg Segment.body hread
  have hflag : v.flag = w.flag := by
    unfold WireSegment.bytes at h
    simp only [hseq, hbody, List.append_assoc, List.cons_append] at h
    exact (List.cons.inj (List.append_cancel_left (List.append_cancel_left h))).1
  refine ⟨?_, (congrArg Prod.snd hv).symm⟩
  cases v
  cases w
  cases hseq
  cases hbody
  cases hflag
  rfl

namespace Segment

theorem Splits.nil {limit : Nat} : Splits [] ([] : List (WireSegment limit)) [] where
  bytes_eq := rfl
  longest row' tail' h := by
    cases row' with
    | nil => exact List.nil_prefix
    | cons w rest =>
      rw [List.flatMap_cons, List.append_assoc] at h
      exact absurd (List.append_eq_nil_iff.mp h.symm).1 w.bytes_ne_nil

theorem Splits.cons {limit : Nat} {bytes tail : Bytes} {row : List (WireSegment limit)}
    (h : Splits bytes row tail) (w : WireSegment limit) :
    Splits (w.bytes ++ bytes) (w :: row) tail where
  bytes_eq := by rw [List.flatMap_cons, List.append_assoc, ← h.bytes_eq]
  longest row' tail' h' := by
    cases row' with
    | nil => exact List.nil_prefix
    | cons v rest =>
      rw [List.flatMap_cons, List.append_assoc] at h'
      obtain ⟨rfl, hrest⟩ := WireSegment.bytes_append_inj h'
      exact (List.prefix_cons_inj w).mpr (h.longest rest tail' hrest)

/-- What cannot be read as a segment has no whole one at its front. -/
theorem Splits.stuck {limit now : Nat} {bytes rest : Bytes} {e : SegmentError}
    (h : decode limit now bytes = (.error e, rest)) :
    Splits bytes ([] : List (WireSegment limit)) bytes where
  bytes_eq := rfl
  longest row' tail' h' := by
    cases row' with
    | nil => exact List.nil_prefix
    | cons w row' =>
      rw [List.flatMap_cons, List.append_assoc] at h'
      rw [h', w.decode_bytes_append now] at h
      cases h

/-- **A payload is read as far as it consists of whole segments**, and without an error exactly if
nothing is left. -/
theorem splits_decodeAll (limit now : Nat) (bytes : Bytes) :
    ∃ (row : List (WireSegment limit)) (tail : Bytes), Splits bytes row tail
      ∧ (decodeAll limit now bytes).1.map (·.1) = row.map (WireSegment.read now)
      ∧ ((decodeAll limit now bytes).2 = none ↔ tail = []) := by
  fun_induction decodeAll limit now bytes with
  | case1 => exact ⟨[], [], .nil, rfl, by simp⟩
  | case2 bytes hne e rest hdecode => exact ⟨[], bytes, .stuck hdecode, rfl, by simp [hne]⟩
  | case3 bytes hne s rest hdecode hlt segments stop hall ih =>
    obtain ⟨row, tail, hsplits, hread, hstop⟩ := ih
    obtain ⟨w, rfl, rfl⟩ := exists_wireSegment_of_decode hdecode
    rw [hall] at hread hstop
    refine ⟨w :: row, tail, hsplits.cons w, ?_, hstop⟩
    rw [List.map_cons, List.map_cons, hread]

end Segment

/-! ## Reading into buffers, with every condition spelled out -/

/-- The word in the first two bytes and the rest. -/
def Bytes.takeUInt16? : Bytes → Option (UInt16 × Bytes)
  | a :: b :: rest => some (toUInt16 a b, rest)
  | _ => none

/-- The buffer with its content replaced by the front of `bytes`, and what is left of these; `none`
if there are not enough of them. -/
def Buffer.copyFrom? (b : Buffer) (bytes : Bytes) : Option (Buffer × Bytes) :=
  if h : b.content.length ≤ bytes.length then
    some
      ({ content := bytes.take b.content.length
         spare := b.spare
         capacity := b.capacity
         length_add_length := by
          rw [List.length_take, Nat.min_eq_left h]
          exact b.length_add_length },
        bytes.drop b.content.length)
  else
    none

namespace Buffer

theorem exists_resize? {b : Buffer} {size : Nat} (h : size ≤ b.capacity) :
    ∃ sized, b.resize? size = some sized ∧ sized.content.length = size
      ∧ sized.capacity = b.capacity :=
  ⟨_, dif_pos h, by rw [List.length_take_of_le (by rwa [b.length_bytes])], rfl⟩

theorem exists_copyFrom? {b : Buffer} {bytes : Bytes} (h : b.content.length ≤ bytes.length) :
    ∃ filled, b.copyFrom? bytes = some (filled, bytes.drop b.content.length)
      ∧ filled.content = bytes.take b.content.length ∧ filled.capacity = b.capacity :=
  ⟨_, dif_pos h, rfl, rfl⟩

end Buffer

namespace Segment

/-- Reads a segment off the front of the bytes into the buffer `body`. There is no result if a field
is read that is not there, the buffer is made longer than its capacity, or the body is copied from
fewer bytes than it has. -/
def decodeInto? (now : Nat) (bytes : Bytes) (body : Buffer) :
    Option (Except SegmentError (Segment Buffer) × Bytes) :=
  if bytes.length < overhead then
    some (.error .incompleteHeader, bytes)
  else do
    let (seq, bytes) ← Bytes.takeUInt32? bytes
    let (size, bytes) ← Bytes.takeUInt16? bytes
    let (flag, bytes) ← Bytes.takeUInt8? bytes
    if bytes.length < size.toNat then
      some (.error (.cutShort ⟨seq⟩ size.toNat bytes.length), bytes)
    else if body.capacity < size.toNat then
      some (.error (.tooLarge ⟨seq⟩ size.toNat body.capacity), bytes)
    else do
      let body ← body.resize? size.toNat
      let (body, rest) ← body.copyFrom? bytes
      some (.ok { seq := ⟨seq⟩, more := flag != 0, body := body, sentAt := now }, rest)

/-- **Reading a segment always comes to a result**, the one that `decode` describes. -/
theorem exists_decodeInto? (now : Nat) (bytes : Bytes) (body : Buffer) :
    ∃ read rest, decodeInto? now bytes body = some (read, rest)
      ∧ decode body.capacity now bytes = (read.map wire, rest) := by
  match bytes with
  | a :: b :: c :: d :: high :: low :: flag :: rest =>
    have hlong : ¬ (a :: b :: c :: d :: high :: low :: flag :: rest).length < overhead := by
      simp only [List.length_cons, overhead]
      omega
    unfold decodeInto? decode
    rw [if_neg hlong]
    simp only [Bytes.takeUInt32?, Bytes.takeUInt16?, Bytes.takeUInt8?, Option.bind_eq_bind,
      Option.bind_some]
    by_cases hshort : rest.length < (Bytes.toUInt16 high low).toNat
    · rw [if_pos hshort, if_pos hshort]
      exact ⟨_, _, rfl, rfl⟩
    rw [if_neg hshort, if_neg hshort]
    by_cases hlarge : body.capacity < (Bytes.toUInt16 high low).toNat
    · rw [if_pos hlarge, if_pos hlarge]
      exact ⟨_, _, rfl, rfl⟩
    rw [if_neg hlarge, if_neg hlarge]
    -- the buffer is made as long as the body, and so takes in the body
    obtain ⟨sized, hresize, hlen, -⟩ := Buffer.exists_resize? (Nat.le_of_not_lt hlarge)
    obtain ⟨filled, hcopy, hcontent, -⟩ :=
      Buffer.exists_copyFrom? (show sized.content.length ≤ rest.length by omega)
    simp only [hresize, hcopy, Option.bind_some]
    refine ⟨_, _, rfl, ?_⟩
    simp only [Except.map, wire, map, hcontent, hlen]
  | [] | [_] | [_, _] | [_, _, _] | [_, _, _, _] | [_, _, _, _, _] | [_, _, _, _, _, _] =>
    exact ⟨_, _, rfl, rfl⟩

theorem length_lt_of_decodeInto? {now : Nat} {bytes rest : Bytes} {body : Buffer}
    {s : Segment Buffer} (h : decodeInto? now bytes body = some (.ok s, rest)) :
    rest.length < bytes.length := by
  obtain ⟨read, rest', hinto, hdecode⟩ := exists_decodeInto? now bytes body
  cases h.symm.trans hinto
  exact length_lt_of_decode hdecode

/-- Reads segments up to the end or to the first that cannot be read, each into a buffer of its own:
`fresh` provides one wherever a segment is to be read. There is no result if one of the reads has
none. -/
def decodeEach? (now : Nat) (fresh : Bytes → Buffer) (bytes : Bytes) :
    Option (List (Segment Buffer) × Option SegmentError) :=
  if bytes = [] then
    some ([], none)
  else
    match h : decodeInto? now bytes (fresh bytes) with
    | none => none
    | some (.error e, _) => some ([], some e)
    | some (.ok s, rest) =>
      have : rest.length < bytes.length := length_lt_of_decodeInto? h
      (decodeEach? now fresh rest).map fun (segments, stop) => (s :: segments, stop)
termination_by bytes.length

/-- **Reading a payload always comes to a result**, the one that `decodeAll` describes. -/
theorem exists_decodeEach? {limit : Nat} (now : Nat) {fresh : Bytes → Buffer}
    (hfresh : ∀ bytes, (fresh bytes).capacity = limit) (bytes : Bytes) :
    ∃ found stop, decodeEach? now fresh bytes = some (found, stop)
      ∧ (decodeAll limit now bytes).1.map (·.1) = found.map wire
      ∧ (decodeAll limit now bytes).2.map (·.1) = stop := by
  fun_induction decodeAll limit now bytes with
  | case1 =>
    refine ⟨[], none, ?_, rfl, rfl⟩
    rw [decodeEach?, if_pos rfl]
  | case2 bytes hne e rest hdecode =>
    obtain ⟨read, rest', hinto, hread⟩ := exists_decodeInto? now bytes (fresh bytes)
    rw [hfresh, hdecode] at hread
    cases read with
    | ok s => cases hread
    | error e' =>
      cases hread
      refine ⟨[], some e, ?_, rfl, rfl⟩
      rw [decodeEach?, if_neg hne]
      split <;> simp_all
  | case3 bytes hne s rest hdecode hlt segments stop hall ih =>
    obtain ⟨found, stop', heach, hfound, hstop⟩ := ih
    obtain ⟨read, rest', hinto, hread⟩ := exists_decodeInto? now bytes (fresh bytes)
    rw [hfresh, hdecode] at hread
    cases read with
    | error e => cases hread
    | ok s' =>
      cases hread
      rw [hall] at hfound hstop
      refine ⟨s' :: found, stop', ?_, ?_, hstop⟩
      · rw [decodeEach?, if_neg hne]
        split
        · simp_all
        · simp_all
        · simp_all
      · rw [List.map_cons, List.map_cons, hfound]

/-- What reading a payload comes to: the segments in buffers from `fresh`, why reading stopped, and
the row of whole segments and the tail that the payload consists of. -/
structure Parsed {limit : Nat} (now : Nat) (fresh : Bytes → Buffer) (bytes : Bytes)
    (found : List (Segment Buffer)) (stop : Option SegmentError) (row : List (WireSegment limit))
    (tail : Bytes) : Prop where
  /-- Reading into buffers has a result. -/
  result : decodeEach? now fresh bytes = some (found, stop)
  /-- It is that of plain reading. -/
  plain : (decodeAll limit now bytes).1.map (·.1) = found.map wire
    ∧ (decodeAll limit now bytes).2.map (·.1) = stop
  /-- The payload consists of the row and the tail, and the row is as long as it can be. -/
  splits : Splits bytes row tail
  /-- The segments of the row were read. -/
  found_eq : found.map wire = row.map (WireSegment.read now)
  /-- An error stopped the reading exactly if there is a tail. -/
  stop_iff : stop = none ↔ tail = []

theorem exists_parsed {limit : Nat} (now : Nat) {fresh : Bytes → Buffer}
    (hfresh : ∀ bytes, (fresh bytes).capacity = limit) (bytes : Bytes) :
    ∃ found stop, ∃ (row : List (WireSegment limit)) (tail : Bytes),
      Parsed now fresh bytes found stop row tail := by
  obtain ⟨row, tail, hsplits, hread, hstop⟩ := splits_decodeAll limit now bytes
  obtain ⟨found, stop, hresult, hfound, hstop'⟩ := exists_decodeEach? now hfresh bytes
  refine ⟨found, stop, row, tail, hresult, ⟨hfound, hstop'⟩, hsplits, hfound ▸ hread, ?_⟩
  rw [← hstop', ← hstop, Option.map_eq_none_iff]

end Segment

/-! ## All layers at once -/

namespace Header

/-- The buffer with a header, segments and further bytes one behind the other, and the checksum. -/
def pack? (h : Header) (segments : List (Segment Bytes)) (rest : Bytes) (b : Buffer) :
    Option Buffer := do
  let headed ← (h.write b).toOption
  let filled ← (Segment.writeAll segments headed).toOption
  let whole ← filled.append? rest
  (Frame.stamp whole).toOption

/-- Written to any buffer that `d` fits into, the header, the segments and the further bytes come
out as `d'`. -/
def Packs (h : Header) (segments : List (Segment Bytes)) (rest d d' : Bytes) : Prop :=
  ∀ b : Buffer, b.content = [] → d.length ≤ b.capacity →
    ∃ packed, h.pack? segments rest b = some packed ∧ packed.content = d'

theorem packs_of_length_le {h : Header} {segments : List (Segment Bytes)} {rest d : Bytes}
    (hsize : ∀ s ∈ segments, s.body.length < 2 ^ 16)
    (hlen : h.size + (segments.map Segment.size).sum + rest.length + Frame.checksumLength
      ≤ d.length) :
    h.Packs segments rest d
      (Frame.ofPayload (h.encode ++ segments.flatMap Segment.encode ++ rest)) := by
  intro b hempty hcapacity
  have hb := b.length_add_room
  rw [hempty, List.length_nil] at hb
  obtain ⟨headed, hhead, hext⟩ := write_of_size_le (h := h) (b := b) (by omega)
  have hleft := hext.room
  rw [length_encode] at hleft
  obtain ⟨filled, hfill, hext'⟩ := Segment.writeAll_of_sum_le (b := headed) hsize (by omega)
  have hleft' := hext'.room
  rw [length_flatMap_encode] at hleft'
  obtain ⟨whole, happend, hext''⟩ := filled.append?_of_length_le rest (by omega)
  have hleft'' := hext''.room
  obtain ⟨packed, hstamp, hsum⟩ := Frame.stamp_of_le (b := whole) (by omega)
  have hcontent := ((hext.trans hext').trans hext'').1
  rw [hempty, List.nil_append] at hcontent
  refine ⟨packed, ?_, ?_⟩
  · unfold pack?
    simp only [hhead, hfill, happend, hstamp, Except.toOption, Option.bind_eq_bind,
      Option.bind_some]
  · rw [hsum.1, hcontent, Frame.ofPayload]

/-- **What is read as a datagram is exactly what the grammar allows.** A frame is accepted if it is
what stamping its payload gives and its payload can be one of this protocol; a header, if its kind
is known and nothing of it is missing. What is behind the header is always read to an end, as the
longest row of whole segments and a tail, and without an error exactly if the tail is empty. Written
again, a datagram without such a tail is the same but for the flags of its segments, which are ones
where they were not zero; bytes behind any other header are kept as they are. -/
theorem accepts_exactly (d : Bytes) (limit now : Nat)
    (fresh : Bytes → {b : Buffer // b.capacity = limit}) :
    (∀ n, Frame.payloadLength? d = some n ↔ d.length = n + 4 ∧ 2 ≤ n ∧ d[0]? = some 67
        ∧ d = Frame.ofPayload (d.take n))
    ∧ ∀ n, Frame.payloadLength? d = some n →
      ((∃ h rest, decode (d.take n) = (.ok h, rest))
        ↔ d[1]? = some 0 ∨ d[1]? = some 2 ∨ d[1]? = some 3 ∨ d[1]? = some 1 ∧ 10 ≤ n)
      ∧ ∀ h rest, decode (d.take n) = (.ok h, rest) →
        (∃ found stop, ∃ (row : List (WireSegment limit)) (tail : Bytes),
          Segment.Parsed now (fun bytes => fresh bytes) rest found stop row tail
          ∧ (h = data → tail = [] →
            d = Frame.ofPayload (h.encode ++ row.flatMap WireSegment.bytes)
            ∧ h.Packs (found.map Segment.wire) [] d (Frame.ofPayload
                (h.encode ++ (row.map WireSegment.canonical).flatMap WireSegment.bytes))))
        ∧ (h ≠ data → h.Packs [] rest d d) := by
  have hframe : ∀ n, Frame.payloadLength? d = some n ↔ d.length = n + 4 ∧ 2 ≤ n ∧ d[0]? = some 67
      ∧ d = Frame.ofPayload (d.take n) := by
    intro n
    rw [← List.head?_eq_getElem?]
    exact Frame.payloadLength?_eq_some_iff d n
  refine ⟨hframe, fun n hn => ?_⟩
  obtain ⟨hlen, hmin, hfirst, hd⟩ := (hframe n).mp hn
  have hpayload : (d.take n).length = n := List.length_take_of_le (by omega)
  refine ⟨?_, fun h rest hdecode => ?_⟩
  · have hhead : (d.take n).head? = some Frame.protocolId := by
      rw [List.head?_eq_getElem?, List.getElem?_take_of_lt (by omega)]
      exact hfirst
    rw [exists_decode_iff hhead, List.getElem?_take_of_lt (by omega), hpayload, ackSize]
  -- the payload is the header and what is behind it
  have hsplit := eq_of_decode hdecode
  have hsize := congrArg List.length hsplit
  rw [List.length_append, length_encode, hpayload] at hsize
  rw [hsplit] at hd
  constructor
  · obtain ⟨found, stop, row, tail, hparsed⟩ :=
      Segment.exists_parsed now (fun bytes => (fresh bytes).2) rest
    refine ⟨found, stop, row, tail, hparsed, fun _ htail => ?_⟩
    have hrest : rest = row.flatMap WireSegment.bytes := by
      rw [hparsed.splits.bytes_eq, htail, List.append_nil]
    refine ⟨by rw [← hrest, ← hd], ?_⟩
    rw [hparsed.found_eq, ← WireSegment.flatMap_encode_read now]
    have hsum : ((row.map (WireSegment.read now)).map Segment.size).sum = rest.length := by
      rw [hrest, List.length_flatMap, List.map_map]
      congr 1
      exact List.map_congr_left fun w _ => (w.length_bytes now).symm
    have hbody : ∀ s ∈ row.map (WireSegment.read now), s.body.length < 2 ^ 16 := by
      intro s hs
      obtain ⟨w, -, rfl⟩ := List.mem_map.mp hs
      exact w.length_lt
    have hlong : h.size + ((row.map (WireSegment.read now)).map Segment.size).sum
        + ([] : Bytes).length + Frame.checksumLength ≤ d.length := by
      rw [hsum, List.length_nil, Frame.checksumLength]
      omega
    have hpacks := packs_of_length_le hbody hlong
    rwa [List.append_nil] at hpacks
  · intro _
    have hlong : h.size + (([] : List (Segment Bytes)).map Segment.size).sum + rest.length
        + Frame.checksumLength ≤ d.length := by
      rw [List.map_nil, List.sum_nil, Frame.checksumLength]
      omega
    have hpacks := packs_of_length_le (by simp) hlong
    rwa [List.flatMap_nil, List.append_nil, ← hd] at hpacks

end Header

end Redelivery
