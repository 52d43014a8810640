import Mathlib.Data.Nat.Digits.Lemmas
import Mathlib.Logic.Function.Iterate
import Redelivery.Proofs.Wire.RoundTrip

/-!
# Corrupted datagrams

A datagram of which a few neighbouring bytes were changed on the way fails its check. No shift of
the check register loses anything, so that two registers that differ still differ when the rest of
the message has been taken in. And up to four bytes have no more bits than the register, so that
the register shows which bytes they were.

## Main definitions

* `Crc32.absorbByTable`, `Crc32.checksumByTable`: the check value, a byte at a time from a table.
* `Crc32.word`: the number whose bits the register takes in with some bytes.
* `Bytes.AltersWithin`: two octet strings that differ, but only at some neighbouring places.
* `Bytes.flipBit`: an octet string with one bit changed.

## Main statements

* `Crc32.checksumByTable_eq`: the table makes no difference.
* `Crc32.eq_of_absorbAll_eq`: up to four bytes are told apart by the register.
* `Crc32.checksum_ne_of_altersWithin`: so are messages that differ in up to four neighbouring bytes.
* `Frame.detects_corruption`: such a change to a payload or to its checksum does not go unnoticed.

A message with changes in a few places is three parts, of which the middle one is different
(`Bytes.AltersWithin.exists_append`). Before it the registers are equal. In it they come to differ:
up to four bytes are added to the register as one number, and shifting does not lose anything
(`Crc32.eq_of_absorbAll_eq`). Behind it they go on to differ (`Crc32.absorbAll_injective`). That
shifting is injective rests on the highest bit of the polynomial, by which the bit that fell out can
be seen afterwards.

On frames there are two cases. If the payload was changed then the old checksum is that of another
payload; if the checksum was changed then it is not that of the payload. A change that is partly in
one and partly in the other is not covered by this, and it could go unnoticed. A single bit is
always on one side.
-/

namespace Redelivery

namespace Crc32

/-! ## Nothing is lost in a shift -/

theorem testBit_shiftRight_one (x : UInt32) : (x >>> 1).toNat.testBit 31 = false := by
  rw [UInt32.toNat_shiftRight, show (1 : UInt32).toNat % 32 = 1 from rfl, Nat.testBit_shiftRight]
  exact Nat.testBit_lt_two_pow x.toNat_lt

/-- The highest bit of a shifted register is the one that fell out. -/
theorem testBit_shift (x : UInt32) : (shift x).toNat.testBit 31 = x.toNat.testBit 0 := by
  have hpolynomial : polynomial.toNat.testBit 31 = true := by decide +kernel
  unfold shift
  split
  · rename_i hlow
    rw [UInt32.toNat_xor, Nat.testBit_xor, testBit_shiftRight_one, hpolynomial,
      (and_one_eq_one_iff x).mp hlow]
    rfl
  · rename_i hlow
    rw [and_one_eq_one_iff, Bool.not_eq_true] at hlow
    rw [testBit_shiftRight_one, hlow]

theorem shift_injective : Function.Injective shift := by
  intro x y h
  have hlow : x.toNat.testBit 0 = y.toNat.testBit 0 := by
    rw [← testBit_shift x, ← testBit_shift y, h]
  -- both were replaced alike, so the rest is the same, too
  have hrest : x >>> 1 = y >>> 1 := by
    unfold shift at h
    simp only [and_one_eq_one_iff, hlow] at h
    split at h
    · exact (UInt32.xor_left_inj _).mp h
    · exact h
  have hhalf := congrArg UInt32.toNat hrest
  rw [UInt32.toNat_shiftRight, UInt32.toNat_shiftRight, show (1 : UInt32).toNat % 32 = 1 from rfl,
    Nat.shiftRight_eq_div_pow, Nat.shiftRight_eq_div_pow, Nat.pow_one] at hhalf
  rw [Nat.testBit_zero, Nat.testBit_zero, decide_eq_decide] at hlow
  exact UInt32.toNat_inj.mp (by omega)

theorem absorb_injective (byte : UInt8) : Function.Injective (absorb · byte) := by
  intro x y h
  exact (UInt32.xor_left_inj _).mp (shift_injective.iterate 8 h)

/-- Whatever else is taken in, registers that differ go on to differ. -/
theorem absorbAll_injective (bytes : Bytes) : Function.Injective (absorbAll · bytes) := by
  induction bytes with
  | nil => exact Function.injective_id
  | cons byte rest ih => exact fun x y h => absorb_injective byte (ih h)

/-! ## Four bytes fill the register -/

/-- The number whose bits, lowest first, are those of the bytes. -/
def word (bytes : Bytes) : Nat :=
  Nat.ofDigits 256 (bytes.map UInt8.toNat)

theorem word_lt (bytes : Bytes) : word bytes < 2 ^ (8 * bytes.length) := by
  have h := Nat.ofDigits_lt_base_pow_length (b := 256) (l := bytes.map UInt8.toNat)
    (by decide) (by simpa using fun byte _ => byte.toNat_lt)
  rwa [List.length_map, show 256 = 2 ^ 8 from rfl, ← Nat.pow_mul] at h

theorem eq_of_word_eq {a b : Bytes} (hlen : a.length = b.length) (h : word a = word b) : a = b := by
  have hdigits : a.map UInt8.toNat = b.map UInt8.toNat :=
    Nat.ofDigits_inj_of_len_eq (by decide) (by simpa using hlen)
      (by simpa using fun byte _ => byte.toNat_lt) (by simpa using fun byte _ => byte.toNat_lt) h
  exact List.map_injective_iff.mpr (fun x y hxy => UInt8.toNat_inj.mp hxy) hdigits

theorem flatMap_bits (bytes : Bytes) :
    bytes.flatMap isoHdlc.bits
      = (List.range (8 * bytes.length)).map (word bytes).testBit := by
  induction bytes with
  | nil => rfl
  | cons byte rest ih =>
    have hword : word (byte :: rest) = 2 ^ 8 * word rest + byte.toNat := by
      rw [word, List.map_cons, Nat.ofDigits_cons, Nat.add_comm]
      rfl
    have hbit (i : Nat) : (word (byte :: rest)).testBit i
        = if i < 8 then byte.toNat.testBit i else (word rest).testBit (i - 8) := by
      rw [hword]
      exact Nat.testBit_two_pow_mul_add (word rest) byte.toNat_lt i
    rw [List.flatMap_cons, ih, List.length_cons, Nat.mul_succ, Nat.add_comm, List.range_add,
      List.map_append, List.map_map]
    congr 1
    · exact List.map_congr_left fun i hi => by rw [hbit, if_pos (List.mem_range.mp hi)]
    · refine List.map_congr_left fun i _ => ?_
      rw [Function.comp_apply, hbit, if_neg (by omega), Nat.add_sub_cancel_left]

theorem toNat_ofNat_word {bytes : Bytes} (hlen : bytes.length ≤ 4) :
    (UInt32.ofNat (word bytes)).toNat = word bytes := by
  have hbits : 8 * bytes.length ≤ 32 := by omega
  exact UInt32.toNat_ofNat_of_lt'
    (Nat.lt_of_lt_of_le (word_lt bytes) (Nat.pow_le_pow_right Nat.two_pos hbits))

/-- Up to four bytes are added to the register all at once, before any shift. -/
theorem absorbAll_eq_iterate (register : UInt32) {bytes : Bytes} (hlen : bytes.length ≤ 4) :
    absorbAll register bytes
      = shift^[8 * bytes.length] (register ^^^ UInt32.ofNat (word bytes)) := by
  have hword := toNat_ofNat_word hlen
  have hlt : (UInt32.ofNat (word bytes)).toNat < 2 ^ (8 * bytes.length) := by
    rw [hword]
    exact word_lt bytes
  rw [absorbAll_eq_foldl, flatMap_bits, iterate_shift_xor _ _ _ hlt, hword]

/-- **Up to four bytes are told apart by the register.** -/
theorem eq_of_absorbAll_eq {register : UInt32} {a b : Bytes} (hlen : a.length = b.length)
    (hshort : a.length ≤ 4) (h : absorbAll register a = absorbAll register b) : a = b := by
  rw [absorbAll_eq_iterate register hshort, absorbAll_eq_iterate register (hlen ▸ hshort),
    hlen] at h
  have hword := congrArg UInt32.toNat ((UInt32.xor_right_inj _).mp (shift_injective.iterate _ h))
  rw [toNat_ofNat_word hshort, toNat_ofNat_word (hlen ▸ hshort)] at hword
  exact eq_of_word_eq hlen hword

/-! ## By a table -/

/-- What the eight bits of a byte come to once they have fallen out. -/
def table : Vector UInt32 256 :=
  Vector.ofFn fun i => shift^[8] (UInt32.ofNat i)

/-- The register after it took in `byte`, with what falls out looked up in the table. -/
def absorbByTable (register : UInt32) (byte : UInt8) : UInt32 :=
  table[(register.toUInt8 ^^^ byte).toFin] ^^^ (register >>> 8)

/-- The check value of an octet string, by the table. -/
def checksumByTable (bytes : Bytes) : UInt32 :=
  ~~~ bytes.foldl absorbByTable 0xFFFFFFFF

/-- Bits that do not fall out just move down. -/
theorem iterate_shift_xor_of_dvd (n : Nat) (x v : UInt32) (hv : 2 ^ n ∣ v.toNat) :
    shift^[n] (x ^^^ v) = shift^[n] x ^^^ UInt32.ofNat (v.toNat / 2 ^ n) := by
  induction n generalizing x v with
  | zero => rw [Nat.pow_zero, Nat.div_one, UInt32.ofNat_toNat]; rfl
  | succ n ih =>
    have hhalf : (v >>> 1).toNat = v.toNat / 2 := by
      rw [UInt32.toNat_shiftRight, show (1 : UInt32).toNat % 32 = 1 from rfl,
        Nat.shiftRight_eq_div_pow, Nat.pow_one]
    obtain ⟨m, hm⟩ := hv
    rw [Nat.pow_succ', Nat.mul_assoc] at hm
    have hnone : v &&& 1 = 0 := by
      apply UInt32.toNat_inj.mp
      rw [UInt32.toNat_and, show (1 : UInt32).toNat = 1 from rfl, Nat.and_one_is_mod, hm,
        Nat.mul_mod_right, UInt32.toNat_zero]
    rw [Function.iterate_succ_apply, Function.iterate_succ_apply, shift_xor, hnone,
      UInt32.xor_zero, ih _ _ ⟨m, by rw [hhalf]; omega⟩, hhalf, Nat.div_div_eq_div_mul,
      ← Nat.pow_succ']

theorem shiftRight_eight (x : UInt32) : x >>> 8 = UInt32.ofNat (x.toNat / 2 ^ 8) := by
  apply UInt32.toNat_inj.mp
  have hx := Nat.lt_of_le_of_lt (Nat.div_le_self x.toNat (2 ^ 8)) x.toNat_lt
  rw [UInt32.toNat_shiftRight, show (8 : UInt32).toNat % 32 = 8 from rfl,
    Nat.shiftRight_eq_div_pow, UInt32.toNat_ofNat_of_lt' hx]

/-- Of eight shifts, the low octet decides what is added to the others. -/
theorem iterate_shift_eight (x : UInt32) :
    shift^[8] x = table[x.toUInt8.toFin] ^^^ (x >>> 8) := by
  have hentry : table[x.toUInt8.toFin] = shift^[8] x.toUInt8.toUInt32 := by
    rw [table, Fin.getElem_fin, Vector.getElem_ofFn]
    exact congrArg _ (UInt32.ofNat_uInt8ToNat x.toUInt8)
  have hlow : x.toUInt8.toUInt32.toNat = x.toNat % 2 ^ 8 := by
    rw [UInt8.toNat_toUInt32, UInt32.toNat_toUInt8]
  have hhigh : (x.toUInt8.toUInt32 ^^^ x).toNat = x.toNat % 2 ^ 8 ^^^ x.toNat := by
    rw [UInt32.toNat_xor, hlow]
  have hdvd : 2 ^ 8 ∣ (x.toUInt8.toUInt32 ^^^ x).toNat := by
    apply Nat.dvd_of_mod_eq_zero
    rw [hhigh, Nat.xor_mod_two_pow, Nat.mod_mod, Nat.xor_self]
  have hrest : (x.toUInt8.toUInt32 ^^^ x).toNat / 2 ^ 8 = x.toNat / 2 ^ 8 := by
    rw [hhigh, Nat.xor_div_two_pow, Nat.mod_div_self, Nat.zero_xor]
  have hsplit : x = x.toUInt8.toUInt32 ^^^ (x.toUInt8.toUInt32 ^^^ x) := by
    rw [← UInt32.xor_assoc, UInt32.xor_self, UInt32.zero_xor]
  calc shift^[8] x
      = shift^[8] (x.toUInt8.toUInt32 ^^^ (x.toUInt8.toUInt32 ^^^ x)) := by rw [← hsplit]
    _ = table[x.toUInt8.toFin] ^^^ (x >>> 8) := by
      rw [iterate_shift_xor_of_dvd 8 _ _ hdvd, hrest, hentry, shiftRight_eight]

theorem absorbByTable_eq (register : UInt32) (byte : UInt8) :
    absorbByTable register byte = absorb register byte := by
  have hlow : (register ^^^ byte.toUInt32).toUInt8 = register.toUInt8 ^^^ byte := by
    rw [UInt32.toUInt8_xor, UInt8.toUInt8_toUInt32]
  have hhigh : (register ^^^ byte.toUInt32) >>> 8 = register >>> 8 := by
    have hnone : byte.toUInt32 >>> 8 = 0 := by
      have hbyte := byte.toNat_lt
      rw [shiftRight_eight, UInt8.toNat_toUInt32, Nat.div_eq_of_lt hbyte]
      rfl
    rw [UInt32.shiftRight_xor, hnone, UInt32.xor_zero]
  calc absorbByTable register byte
      = table[(register ^^^ byte.toUInt32).toUInt8.toFin]
        ^^^ ((register ^^^ byte.toUInt32) >>> 8) := by rw [hlow, hhigh, absorbByTable]
    _ = shift^[8] (register ^^^ byte.toUInt32) := (iterate_shift_eight _).symm
    _ = absorb register byte := rfl

/-- **The table makes no difference.** -/
theorem checksumByTable_eq (bytes : Bytes) : checksumByTable bytes = checksum bytes := by
  have hstep : absorbByTable = absorb := by
    funext register byte
    exact absorbByTable_eq register byte
  rw [checksumByTable, hstep, checksum, absorbAll]

end Crc32

/-! ## Changes in few places -/

namespace Bytes

/-- The second octet string is the first one with other bytes at some of the `width` places from
`start` on. -/
structure AltersWithin (d d' : Bytes) (start width : Nat) : Prop where
  /-- No byte is missing, and none was added. -/
  length_eq : d'.length = d.length
  /-- Something is different. -/
  ne : d' ≠ d
  /-- Nothing is different elsewhere. -/
  same : ∀ i, i < start ∨ start + width ≤ i → d'[i]? = d[i]?

/-- The octet string with one bit of byte `i` changed. -/
def flipBit (d : Bytes) (i : Nat) (bit : Fin 8) : Bytes :=
  d.modify i (· ^^^ (1 <<< UInt8.ofNat bit))

theorem altersWithin_append {pre a b post : Bytes} (hlen : b.length = a.length) (hne : b ≠ a) :
    (pre ++ a ++ post).AltersWithin (pre ++ b ++ post) pre.length a.length where
  length_eq := by simp only [List.length_append, hlen]
  ne h := hne (List.append_cancel_left (List.append_cancel_right h))
  same i hi := by
    rw [List.append_assoc, List.append_assoc]
    rcases hi with hi | hi
    · rw [List.getElem?_append_left hi, List.getElem?_append_left hi]
    · rw [List.getElem?_append_right (by omega), List.getElem?_append_right (by omega),
        List.getElem?_append_right (by omega), List.getElem?_append_right (by omega), hlen]

/-- What is different stands between what is not. -/
theorem AltersWithin.exists_append {d d' : Bytes} {start width : Nat}
    (h : d.AltersWithin d' start width) :
    ∃ pre a b post, d = pre ++ a ++ post ∧ d' = pre ++ b ++ post ∧ b.length = a.length
      ∧ a.length ≤ width ∧ b ≠ a := by
  have hpre : d'.take start = d.take start := by
    apply List.ext_getElem?
    intro i
    rw [List.getElem?_take, List.getElem?_take]
    split
    · exact h.same i (.inl ‹_›)
    · rfl
  have hpost : (d'.drop start).drop width = (d.drop start).drop width := by
    apply List.ext_getElem?
    intro i
    rw [List.getElem?_drop, List.getElem?_drop, List.getElem?_drop, List.getElem?_drop]
    exact h.same _ (.inr (by omega))
  have hsplit (e : Bytes) :
      e = e.take start ++ (e.drop start).take width ++ (e.drop start).drop width := by
    rw [List.append_assoc, List.take_append_drop, List.take_append_drop]
  have hsplit' := hsplit d'
  rw [hpre, hpost] at hsplit'
  refine ⟨_, _, _, _, hsplit d, hsplit', ?_, List.length_take_le _ _, fun heq => h.ne ?_⟩
  · rw [List.length_take, List.length_take, List.length_drop, List.length_drop, h.length_eq]
  · rw [hsplit', heq, ← hsplit d]

theorem flip_ne (byte : UInt8) (bit : Fin 8) : byte ^^^ (1 <<< UInt8.ofNat bit) ≠ byte := by
  have hmask : ∀ bit : Fin 8, (1 : UInt8) <<< UInt8.ofNat bit ≠ 0 := by decide
  intro h
  exact hmask bit ((UInt8.xor_right_inj byte).mp (h.trans UInt8.xor_zero.symm))

theorem altersWithin_flipBit {d : Bytes} {i : Nat} (hi : i < d.length) (bit : Fin 8) :
    d.AltersWithin (d.flipBit i bit) i 1 where
  length_eq := List.length_modify ..
  ne h := by
    have hbyte := congrArg (·[i]?) h
    simp only [flipBit, List.getElem?_modify_eq, List.getElem?_eq_getElem hi] at hbyte
    exact flip_ne d[i] bit (Option.some.inj hbyte)
  same j hj := List.getElem?_modify_ne _ d (by omega)

theorem ofUInt32_injective : Function.Injective ofUInt32 := by
  intro m n h
  have hread := takeUInt32?_ofUInt32_append m []
  rw [h, takeUInt32?_ofUInt32_append] at hread
  exact (congrArg Prod.fst (Option.some.inj hread)).symm

end Bytes

/-! ## Checks -/

/-- **Messages that differ in up to four neighbouring bytes have different check values.** -/
theorem Crc32.checksum_ne_of_altersWithin {d d' : Bytes} {start width : Nat}
    (h : d.AltersWithin d' start width) (hwidth : width ≤ 4) : checksum d' ≠ checksum d := by
  intro hsum
  obtain ⟨pre, a, b, post, rfl, rfl, hlen, hshort, hne⟩ := h.exists_append
  have hregister := UInt32.not_inj.mp hsum
  rw [absorbAll_append, absorbAll_append, absorbAll_append, absorbAll_append] at hregister
  exact hne (eq_of_absorbAll_eq hlen (by omega) (absorbAll_injective post hregister))

namespace Frame

variable {payload d d' : Bytes} {start width : Nat}

/-- A frame whose checksum is still the one of another payload is not accepted. -/
theorem payloadLength?_eq_none_of_payload (h : payload.AltersWithin d start width)
    (hwidth : width ≤ 4) : payloadLength? (d ++ Bytes.ofUInt32 (checksum payload)) = none := by
  cases hopen : payloadLength? (d ++ Bytes.ofUInt32 (checksum payload)) with
  | none => rfl
  | some n =>
    obtain ⟨hlen, -, -, heq⟩ := (payloadLength?_eq_some_iff _ n).mp hopen
    rw [List.length_append, Bytes.length_ofUInt32, checksumLength, Nat.add_right_cancel_iff] at hlen
    rw [← hlen, List.take_left, ofPayload] at heq
    have hsum := Bytes.ofUInt32_injective (List.append_cancel_left heq)
    exact absurd ((UInt32.xor_left_inj mask).mp hsum).symm
      (Crc32.checksum_ne_of_altersWithin h hwidth)

/-- A frame with another checksum than that of its payload is not accepted. -/
theorem payloadLength?_eq_none_of_checksum (h : d ≠ Bytes.ofUInt32 (checksum payload))
    (hlen : d.length = checksumLength) : payloadLength? (payload ++ d) = none := by
  cases hopen : payloadLength? (payload ++ d) with
  | none => rfl
  | some n =>
    obtain ⟨hlen', -, -, heq⟩ := (payloadLength?_eq_some_iff _ n).mp hopen
    rw [List.length_append, hlen, Nat.add_right_cancel_iff] at hlen'
    rw [← hlen', List.take_left, ofPayload] at heq
    exact absurd (List.append_cancel_left heq) h

/-- **A change to a few neighbouring bytes is noticed**, if these belong to the payload or to the
checksum, whatever the payload is. -/
theorem payloadLength?_eq_none_of_altersWithin
    (h : (ofPayload payload).AltersWithin d' start width) (hwidth : width ≤ 4)
    (hplace : start + width ≤ payload.length ∨ payload.length ≤ start) :
    payloadLength? d' = none := by
  have hlen : d'.length = payload.length + checksumLength := by
    rw [h.length_eq, ofPayload, List.length_append, Bytes.length_ofUInt32, checksumLength]
  have hsplit := List.take_append_drop payload.length d'
  rcases hplace with hplace | hplace
  · -- the checksum is the old one
    have hsum : d'.drop payload.length = Bytes.ofUInt32 (checksum payload) := by
      apply List.ext_getElem?
      intro i
      rw [List.getElem?_drop, h.same _ (.inr (by omega)), ofPayload,
        List.getElem?_append_right (by omega), Nat.add_sub_cancel_left]
    rw [hsum] at hsplit
    have halter : payload.AltersWithin (d'.take payload.length) start width :=
      { length_eq := List.length_take_of_le (by omega)
        ne := fun heq => by
          rw [heq] at hsplit
          exact h.ne hsplit.symm
        same := fun i hi => by
          by_cases hlt : i < payload.length
          · rw [List.getElem?_take_of_lt hlt, h.same i hi, ofPayload,
              List.getElem?_append_left hlt]
          · rw [List.getElem?_take_eq_none (by omega), List.getElem?_eq_none (by omega)] }
    rw [← hsplit]
    exact payloadLength?_eq_none_of_payload halter hwidth
  · -- the payload is the old one
    have hpayload : d'.take payload.length = payload := by
      apply List.ext_getElem?
      intro i
      by_cases hlt : i < payload.length
      · rw [List.getElem?_take_of_lt hlt, h.same i (.inl (by omega)), ofPayload,
          List.getElem?_append_left hlt]
      · rw [List.getElem?_take_eq_none (by omega), List.getElem?_eq_none (by omega)]
    rw [hpayload] at hsplit
    rw [← hsplit]
    refine payloadLength?_eq_none_of_checksum (fun heq => ?_) ?_
    · rw [heq] at hsplit
      exact h.ne hsplit.symm
    · rw [List.length_drop, hlen, Nat.add_sub_cancel_left]

/-- **Corruption is detected.** The checksum is the masked CRC-32/ISO-HDLC, computed bit by bit or
by the table. A datagram that is accepted is so no longer once it was changed at up to four
neighbouring places that belong to the payload or to the checksum. And no stamped datagram, however
long and whatever its payload is, is accepted with any one of its bits flipped. -/
theorem detects_corruption :
    (∀ payload, checksum payload = ⟨Crc32.isoHdlc.compute payload⟩ ^^^ mask
      ∧ checksum payload = Crc32.checksumByTable payload ^^^ mask)
    ∧ (∀ (d d' : Bytes) (n start width : Nat), payloadLength? d = some n →
      d.AltersWithin d' start width → width ≤ 4 → (start + width ≤ n ∨ n ≤ start) →
      payloadLength? d' = none)
    ∧ ∀ b stamped : Buffer, stamp b = .ok stamped → ∀ i < stamped.length, ∀ bit,
      payloadLength? (stamped.content.flipBit i bit) = none := by
  refine ⟨fun payload => ⟨checksum_eq_isoHdlc payload, ?_⟩, ?_, ?_⟩
  · rw [Crc32.checksumByTable_eq, checksum]
  · intro d d' n start width hopen halter hwidth hplace
    obtain ⟨hlen, -, -, heq⟩ := (payloadLength?_eq_some_iff d n).mp hopen
    have htake : (d.take n).length = n := List.length_take_of_le (by omega)
    rw [heq] at halter
    exact payloadLength?_eq_none_of_altersWithin halter hwidth (by rwa [htake])
  · intro b stamped hstamp i hi bit
    have hcontent : stamped.content = ofPayload b.content := (extends_of_stamp hstamp).1
    have halter := Bytes.altersWithin_flipBit hi bit
    rw [hcontent] at halter ⊢
    exact payloadLength?_eq_none_of_altersWithin halter (by decide) (by omega)

/-- A datagram with one segment of three bytes, of which the flag and the body were mixed up, and
the shortest one, with its last bit flipped. -/
theorem detects_corruption_of_segment :
    payloadLength? (ofPayload [67, 0, 0, 0, 0, 9, 0, 3, 1, 97, 98, 99]) = some 12
      ∧ payloadLength? ([67, 0, 0, 0, 0, 9, 0, 3] ++ [97, 98, 99, 1]
          ++ Bytes.ofUInt32 (checksum [67, 0, 0, 0, 0, 9, 0, 3, 1, 97, 98, 99])) = none
      ∧ ∃ stamped, stamp ⟨[67, 2], [0, 0, 0, 0], 6, rfl⟩ = .ok stamped
        ∧ payloadLength? (stamped.content.flipBit 5 0) = none := by
  have hopen : payloadLength? (ofPayload [67, 0, 0, 0, 0, 9, 0, 3, 1, 97, 98, 99]) = some 12 := by
    decide +kernel
  have halter (post : Bytes) :
      Bytes.AltersWithin ([67, 0, 0, 0, 0, 9, 0, 3] ++ [1, 97, 98, 99] ++ post)
        ([67, 0, 0, 0, 0, 9, 0, 3] ++ [97, 98, 99, 1] ++ post) 8 4 :=
    Bytes.altersWithin_append rfl (by decide)
  obtain ⟨stamped, hstamp, hext⟩ :=
    stamp_of_le (b := ⟨[67, 2], [0, 0, 0, 0], 6, rfl⟩) (by decide)
  have hlen : stamped.length = 6 := by
    rw [Buffer.length, hext.1, List.length_append, Bytes.length_ofUInt32]
    rfl
  exact ⟨hopen, detects_corruption.2.1 _ _ 12 8 4 hopen (halter _) (by decide) (.inl (by decide)),
    stamped, hstamp, detects_corruption.2.2 _ stamped hstamp 5 (by omega) 0⟩

end Frame

end Redelivery
