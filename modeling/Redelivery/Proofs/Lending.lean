import Redelivery.Pool
import Redelivery.Proofs.Lending.Stacks

/-!
# Buffers on loan

A pool has one list of storages for all capacities, and whoever takes a buffer from it gets a value
that shares nothing with any other. Both are far from what a pool is thought of: blocks of memory
that are handed around, and a stack of free ones for each capacity. As no block ever has two holders,
nobody can tell the pool from the stacks.

## Main definitions

* `Buffer.use?`, `Buffer.block`: what is done with a buffer on loan, and the block that it is.
* `Lending`: a pool and the buffers on loan from it.
* `Lending.Shows`: a pool looks like stacks of blocks.

## Main statements

* `Pool.take_of_shelf_eq_cons`, `Pool.shelf_give`: what taking and returning do to the buffers of
  each capacity.
* `Lending.Shows.perform`: a pool goes on looking like its stacks.
* `Lending.lends_as_stacks`: any sequence of calls to a pool and to stacks.

The comparison goes through addresses. On the side of the stacks a buffer on loan is an address, and
to write to it is to write to memory, so it has to be shown that no other loan and no stack sees
this. That is where `Stacks.Sound` is needed: an address that is on loan is on no stack
(`Stacks.Sound.not_mem_stack`) and on loan once (`Stacks.Sound.loan_eq`), so the memory at all other
places stays as it was (`Lending.Shows.map_bytes_update`, `Lending.Shows.map_update`). On the side
of the pool there is nothing to show, since values do not share anything.

The other half is that one list serves for all stacks. `Pool.shelf` picks out the buffers of one
capacity; taking the first of them out of the list takes it off its shelf and leaves the other
shelves alone, whatever lies between (`Pool.filter_eraseP_eq`).
-/

namespace Redelivery

/-! ## Buffers as blocks -/

/-- The buffer after a use, or `none` where the buffer does not reach so far. -/
def Buffer.use? (b : Buffer) : Use → Option Buffer
  | .append bytes => b.append? bytes
  | .fill => some b.fill
  | .resize length => b.resize? length
  | .clear => some b.clear
  | .advance n => b.advance? n
  | .setByte index value => b.setByte? index value

namespace Buffer

/-- The block that a buffer is. -/
def block (b : Buffer) : Block where
  bytes := b.bytes
  length := b.length

@[simp] theorem capacity_block (b : Buffer) : b.block.capacity = b.capacity :=
  b.length_bytes

theorem block_append? (b : Buffer) (bytes : Bytes) :
    (b.append? bytes).map block = b.block.append? bytes := by
  have hcapacity := b.length_add_length
  have hlength : b.block.length = b.content.length := rfl
  unfold append? Block.append?
  rw [capacity_block, hlength]
  by_cases hroom : bytes.length ≤ b.room
  · have hfits : b.content.length + bytes.length ≤ b.capacity := by
      rw [room] at hroom
      omega
    rw [dif_pos hroom, if_pos hfits]
    simp [block, Buffer.bytes, length, List.drop_append]
  · have hfits : ¬ b.content.length + bytes.length ≤ b.capacity := by
      rw [room] at hroom
      omega
    rw [dif_neg hroom, if_neg hfits]
    rfl

theorem block_resize? (b : Buffer) (length : Nat) :
    (b.resize? length).map block = b.block.resize? length := by
  have hcapacity := b.length_bytes
  unfold resize? Block.resize?
  rw [capacity_block]
  by_cases hlength : length ≤ b.capacity
  · have htake : (b.bytes.take length).length = length := List.length_take_of_le (by omega)
    rw [dif_pos hlength, if_pos hlength]
    simpa [block, Buffer.bytes, Buffer.length] using htake
  · rw [dif_neg hlength, if_neg hlength]
    rfl

theorem block_setByte? (b : Buffer) (index : Nat) (value : UInt8) :
    (b.setByte? index value).map block = b.block.setByte? index value := by
  have hlength : b.block.length = b.length := rfl
  unfold setByte? Block.setByte?
  rw [hlength]
  by_cases hindex : index < b.length
  · rw [if_pos hindex, if_pos hindex]
    simp [block, Buffer.bytes, length, List.set_append_left _ _ hindex]
  · rw [if_neg hindex, if_neg hindex]
    rfl

/-- **A use of a buffer** is that of the block. -/
theorem block_use? (b : Buffer) (use : Use) : (b.use? use).map block = b.block.use? use := by
  cases use with
  | append bytes => exact b.block_append? bytes
  | fill => simp [use?, Block.use?, Block.resize?, block, Buffer.bytes, Block.capacity, fill, length]
  | resize length => exact b.block_resize? length
  | clear => rfl
  | advance n => exact b.block_resize? (b.length + n)
  | setByte index value => exact b.block_setByte? index value

end Buffer

/-! ## Pools as stacks -/

namespace Pool

/-- The bytes of the buffers of one capacity that are in the pool, the most recently returned
first. -/
def shelf (p : Pool) (capacity : Nat) : List Bytes :=
  (p.free.filter (·.size == capacity)).map Storage.bytes

theorem available_eq (p : Pool) (capacity : Nat) :
    p.available capacity = (p.shelf capacity).length := by
  rw [available, shelf, List.length_map, List.countP_eq_length_filter]

/-- Taking a storage out takes the first one off its shelf. -/
theorem filter_eraseP_eq (free : List Storage) (capacity other : Nat) :
    (free.eraseP (·.size == capacity)).filter (·.size == other)
      = if other = capacity then (free.filter (·.size == capacity)).tail
        else free.filter (·.size == other) := by
  induction free with
  | nil => simp
  | cons storage free ih =>
    by_cases hsize : storage.size = capacity
    · by_cases hother : other = capacity
      · simp [hsize, hother]
      · have hne : ¬ capacity = other := fun h => hother h.symm
        simp [hsize, hother, hne]
    · by_cases hother : other = capacity
      · subst hother
        simp [hsize, ih]
      · simp [hsize, hother, List.filter_cons, ih]

/-- **A buffer is made** if there is none of its capacity. -/
theorem take_of_shelf_eq_nil {p : Pool} {capacity : Nat} (h : p.shelf capacity = []) :
    p.take capacity = (Buffer.zeroed capacity, p) := by
  have hfind : p.free.find? (·.size == capacity) = none := by
    rw [← List.head?_filter, List.map_eq_nil_iff.mp h]
    rfl
  unfold take
  rw [hfind]

/-- **A buffer is taken** off the shelf of its capacity, with all of its bytes and none in use. -/
theorem take_of_shelf_eq_cons {p : Pool} {capacity : Nat} {bytes : Bytes} {rest : List Bytes}
    (h : p.shelf capacity = bytes :: rest) :
    (p.take capacity).1.block = ⟨bytes, 0⟩
      ∧ ∀ other, (p.take capacity).2.shelf other
          = if other = capacity then rest else p.shelf other := by
  obtain ⟨storage, storages, hfilter, rfl, rfl⟩ := List.map_eq_cons_iff.mp h
  have hfind : p.free.find? (·.size == capacity) = some storage := by
    rw [← List.head?_filter, hfilter]
    rfl
  unfold take
  rw [hfind]
  refine ⟨rfl, fun other => ?_⟩
  show ((p.free.eraseP (·.size == capacity)).filter (·.size == other)).map Storage.bytes = _
  rw [filter_eraseP_eq, hfilter]
  split <;> rfl

/-- **A buffer is returned** to the shelf of its capacity, with all of its bytes, or let go if there
are too many. -/
theorem shelf_give (p : Pool) (b : Buffer) (other : Nat) :
    (p.give b).shelf other
      = if other = b.capacity ∧ (p.shelf b.capacity).length < p.limit then b.bytes :: p.shelf other
        else p.shelf other := by
  unfold give
  rw [available_eq]
  by_cases hroom : (p.shelf b.capacity).length < p.limit
  · rw [if_pos hroom]
    by_cases hother : other = b.capacity
    · rw [if_pos ⟨hother, hroom⟩]
      simp [hother, shelf, Storage.ofBuffer]
    · have hne : ¬ b.capacity = other := fun h => hother h.symm
      simp [hother, hne, shelf, Storage.ofBuffer]
  · rw [if_neg hroom, if_neg (by tauto)]

end Pool

/-! ## A pool and its borrowers -/

/-- A pool and the buffers on loan from it. -/
structure Lending where
  /-- The pool. -/
  pool : Pool
  /-- The buffer of each loan that has not come back. -/
  loans : Nat → Option Buffer
  /-- The number of loans so far, which is the next one's number. -/
  count : Nat

namespace Lending

open Function (update)

/-- A pool that nobody has borrowed from. -/
def empty (limit : Nat) : Lending where
  pool := Pool.empty limit
  loans _ := none
  count := 0

/-- A buffer is borrowed. -/
def take (s : Lending) (capacity : Nat) : Option Block × Lending :=
  let (buffer, pool) := s.pool.take capacity
  (some buffer.block,
    { pool := pool, loans := update s.loans s.count (some buffer), count := s.count + 1 })

/-- Something is done with a buffer on loan. -/
def use (s : Lending) (loan : Nat) (use : Buffer.Use) : Option Block × Lending :=
  match (s.loans loan).bind (·.use? use) with
  | some buffer => (some buffer.block, { s with loans := update s.loans loan (some buffer) })
  | none => (none, s)

/-- A buffer on loan comes back. -/
def give (s : Lending) (loan : Nat) : Lending :=
  match s.loans loan with
  | some buffer => { s with pool := s.pool.give buffer, loans := update s.loans loan none }
  | none => s

/-- A call, and the buffer that the borrower has after it. There is no answer if a use fails, nor if
nothing is on loan under the number. -/
def perform (s : Lending) : Call → Option Block × Lending
  | .take capacity => s.take capacity
  | .use loan use => s.use loan use
  | .give loan => (none, s.give loan)

/-- What can be seen at any time: how many buffers of each capacity are in the pool, and what every
buffer on loan is like. -/
def look (s : Lending) : (Nat → Nat) × (Nat → Option Block) :=
  (s.pool.available, fun loan => (s.loans loan).map Buffer.block)

end Lending

/-! ## Pools and their stacks -/

namespace Lending

open Function (update)

/-- A pool and its borrowers look like stacks of blocks and their borrowers. -/
structure Shows (s : Lending) (t : Stacks) : Prop where
  /-- The limits are the same. -/
  limit_eq : s.pool.limit = t.limit
  /-- The next loan has the same number. -/
  count_eq : s.count = t.count
  /-- The bytes in the pool are those of the blocks on the stacks. -/
  shelf_eq : ∀ capacity,
    s.pool.shelf capacity = (t.stack capacity).map fun address => (t.memory address).bytes
  /-- The buffers on loan are the blocks on loan. -/
  loans_eq : ∀ loan, (s.loans loan).map Buffer.block = (t.loans loan).map t.memory

namespace Shows

variable {s : Lending} {t : Stacks}

theorem empty (limit : Nat) : (Lending.empty limit).Shows (Stacks.empty limit) where
  limit_eq := rfl
  count_eq := rfl
  shelf_eq _ := rfl
  loans_eq _ := rfl

theorem look_eq (h : s.Shows t) : s.look = t.look := by
  refine Prod.ext (funext fun capacity => ?_) (funext h.loans_eq)
  show s.pool.available capacity = (t.stack capacity).length
  rw [s.pool.available_eq, h.shelf_eq, List.length_map]

/-- A loan is of the same block on both sides, or there is none. -/
theorem loan_cases (h : s.Shows t) (loan : Nat) :
    (s.loans loan = none ∧ t.loans loan = none)
      ∨ ∃ buffer address, s.loans loan = some buffer ∧ t.loans loan = some address
        ∧ buffer.block = t.memory address := by
  have heq := h.loans_eq loan
  cases hs : s.loans loan with
  | none =>
    rw [hs] at heq
    exact Or.inl ⟨rfl, Option.map_eq_none_iff.mp heq.symm⟩
  | some buffer =>
    rw [hs] at heq
    obtain ⟨address, ht, hblock⟩ := Option.map_eq_some_iff.mp heq.symm
    exact Or.inr ⟨buffer, address, rfl, ht, hblock.symm⟩

/-- What is not written to stays as it is on the stacks. -/
theorem map_bytes_update {stack : List Nat} {address : Nat} (hmem : address ∉ stack)
    (memory : Nat → Block) (block : Block) :
    (stack.map fun a => (update memory address block a).bytes)
      = stack.map fun a => (memory a).bytes := by
  refine List.map_congr_left fun a ha => ?_
  rw [Function.update_of_ne (by rintro rfl; exact hmem ha)]

/-- What is not written to stays as it is on loan. -/
theorem map_update {loan : Option Nat} {address : Nat} (hne : loan ≠ some address)
    (memory : Nat → Block) (block : Block) :
    loan.map (update memory address block) = loan.map memory := by
  refine Option.map_congr fun a ha => ?_
  rw [Function.update_of_ne (by rintro rfl; exact hne ha)]

/-- **A buffer is borrowed.** -/
theorem take (h : s.Shows t) (hsound : t.Sound) (capacity : Nat) :
    (s.take capacity).1 = (t.take capacity).1
      ∧ (s.take capacity).2.Shows (t.take capacity).2 := by
  have hshelf := h.shelf_eq capacity
  unfold Lending.take Stacks.take
  cases hstack : t.stack capacity with
  | nil =>
    rw [hstack] at hshelf
    rw [Pool.take_of_shelf_eq_nil hshelf]
    refine ⟨rfl, h.limit_eq, congrArg (· + 1) h.count_eq, fun c => ?_, fun loan => ?_⟩
    · have hnew : t.made ∉ t.stack c := by
        intro hmem
        obtain ⟨height, hheight⟩ := Stacks.exists_stacked_iff.mpr hmem
        exact hsound.nowhere_made _ hheight
      exact (h.shelf_eq c).trans (map_bytes_update hnew t.memory _).symm
    · have hnew : t.loans loan ≠ some t.made := hsound.nowhere_made (.lent loan)
      show (update s.loans s.count _ loan).map Buffer.block
        = (update t.loans t.count _ loan).map (update t.memory t.made _)
      rw [h.count_eq, Function.update_apply, Function.update_apply]
      split
      · rw [Option.map_some, Option.map_some, Function.update_self]
        rfl
      · rw [map_update hnew]
        exact h.loans_eq loan
  | cons address rest =>
    rw [hstack] at hshelf
    obtain ⟨hblock, hshelves⟩ := Pool.take_of_shelf_eq_cons hshelf
    have htop : address ∈ t.stack capacity := hstack ▸ List.mem_cons_self
    have hlent : (s.pool.take capacity).1.block = t.memory address := by
      rw [hblock, ← (hsound.ready htop).2]
    refine ⟨congrArg some hlent, (s.pool.limit_take capacity).trans h.limit_eq,
      congrArg (· + 1) h.count_eq, fun c => ?_, fun loan => ?_⟩
    · show (s.pool.take capacity).2.shelf c = (update t.stack capacity rest c).map _
      rw [hshelves, Function.update_apply]
      split
      · rfl
      · exact h.shelf_eq c
    · show (update s.loans s.count _ loan).map Buffer.block
        = (update t.loans t.count _ loan).map t.memory
      rw [h.count_eq, Function.update_apply, Function.update_apply]
      split
      · exact congrArg some hlent
      · exact h.loans_eq loan

/-- **A buffer is used.** -/
theorem use (h : s.Shows t) (hsound : t.Sound) (loan : Nat) (use : Buffer.Use) :
    (s.use loan use).1 = (t.use loan use).1 ∧ (s.use loan use).2.Shows (t.use loan use).2 := by
  unfold Lending.use Stacks.use
  rcases h.loan_cases loan with ⟨hs, ht⟩ | ⟨buffer, address, hs, ht, hblock⟩
  · rw [hs, ht]
    exact ⟨rfl, h⟩
  · have huse := buffer.block_use? use
    rw [hblock] at huse
    rw [hs, ht]
    simp only [Option.bind_some, ← huse]
    cases hbuffer : buffer.use? use with
    | none => exact ⟨rfl, h⟩
    | some used =>
      refine ⟨rfl, h.limit_eq, h.count_eq, fun c => ?_, fun other => ?_⟩
      · exact (h.shelf_eq c).trans (map_bytes_update (hsound.not_mem_stack ht c) t.memory _).symm
      · show (update s.loans loan _ other).map Buffer.block
          = (t.loans other).map (update t.memory address _)
        rw [Function.update_apply]
        split
        · rename_i hother
          rw [hother, ht, Option.map_some, Option.map_some, Function.update_self]
        · rename_i hother
          rw [map_update fun hloan => hother (hsound.loan_eq ht hloan)]
          exact h.loans_eq other

/-- Whatever a block's length, its bytes are the same. -/
theorem bytes_update_cleared (memory : Nat → Block) (address a : Nat) :
    (update memory address (memory address).cleared a).bytes = (memory a).bytes := by
  rw [Function.update_apply]
  split
  · rename_i ha
    rw [ha]
    rfl
  · rfl

/-- A loan ends, and no byte of its block is in use any more. -/
theorem release (h : s.Shows t) (hsound : t.Sound) {loan address : Nat}
    (hloan : t.loans loan = some address) :
    ({ s with loans := update s.loans loan none } : Lending).Shows
      ((t.release loan).write address (t.memory address).cleared) where
  limit_eq := h.limit_eq
  count_eq := h.count_eq
  shelf_eq c := by
    refine (h.shelf_eq c).trans (List.map_congr_left fun a _ => ?_)
    exact (bytes_update_cleared t.memory address a).symm
  loans_eq other := by
    show (update s.loans loan none other).map Buffer.block
      = (update t.loans loan none other).map (update t.memory address _)
    rw [Function.update_apply, Function.update_apply]
    split
    · rfl
    · rename_i hother
      rw [map_update fun hsame => hother (hsound.loan_eq hloan hsame)]
      exact h.loans_eq other

/-- A block is kept just if a buffer with its bytes is. -/
theorem keep (h : s.Shows t) {buffer : Buffer} {address : Nat}
    (hbytes : buffer.bytes = (t.memory address).bytes) :
    ({ s with pool := s.pool.give buffer } : Lending).Shows (t.keep address) := by
  have hcapacity : (t.memory address).capacity = buffer.capacity := by
    rw [← buffer.length_bytes, hbytes]
    rfl
  have hheight : (s.pool.shelf buffer.capacity).length = (t.stack buffer.capacity).length := by
    rw [h.shelf_eq, List.length_map]
  have hlimit : (s.pool.give buffer).limit = t.limit := (s.pool.limit_give buffer).trans h.limit_eq
  have hshelves := s.pool.shelf_give buffer
  rw [hheight, h.limit_eq] at hshelves
  unfold Stacks.keep
  rw [hcapacity]
  split
  · rename_i hroom
    refine ⟨hlimit, h.count_eq, fun c => ?_, h.loans_eq⟩
    show (s.pool.give buffer).shelf c
      = (update t.stack (t.memory address).capacity _ c).map fun a => (t.memory a).bytes
    rw [hshelves, hcapacity, Function.update_apply]
    by_cases hc : c = buffer.capacity
    · rw [if_pos ⟨hc, hroom⟩, if_pos hc, hc, List.map_cons, hbytes, h.shelf_eq]
    · rw [if_neg fun hkept => hc hkept.1, if_neg hc, h.shelf_eq]
  · rename_i hroom
    refine ⟨hlimit, h.count_eq, fun c => ?_, h.loans_eq⟩
    rw [hshelves, if_neg fun hkept => hroom hkept.2, h.shelf_eq]

/-- **A buffer comes back.** -/
theorem give (h : s.Shows t) (hsound : t.Sound) (loan : Nat) :
    (s.give loan).Shows (t.give loan) := by
  unfold Lending.give Stacks.give
  rcases h.loan_cases loan with ⟨hs, ht⟩ | ⟨buffer, address, hs, ht, hblock⟩
  · rw [hs, ht]
    exact h
  · rw [hs, ht]
    refine (h.release hsound ht).keep ?_
    show buffer.bytes = (update t.memory address (t.memory address).cleared address).bytes
    rw [bytes_update_cleared, ← hblock]
    rfl

/-- **A pool goes on looking like its stacks**, and answers like them. -/
theorem perform (h : s.Shows t) (hsound : t.Sound) (call : Call) :
    (s.perform call).1 = (t.perform call).1
      ∧ (s.perform call).2.Shows (t.perform call).2 := by
  cases call with
  | take capacity => exact h.take hsound capacity
  | use loan use => exact h.use hsound loan use
  | give loan => exact ⟨rfl, h.give hsound loan⟩

end Shows

/-! ## Any calls -/

/-- A pool and its stacks answer every call alike, and go on looking alike. -/
theorem simulates_stacks :
    Calls.Simulates perform Stacks.perform fun s t => s.Shows t ∧ t.Sound where
  answer call h := (h.1.perform h.2 call).1
  next call h := ⟨(h.1.perform h.2 call).2, h.2.perform call⟩

/-- **A pool lends like stacks of blocks do**, one stack for each capacity. To any sequence of calls,
a pool gives the same answers as the stacks, and it looks like them all the time: the number of
buffers of a capacity in it is the height of that stack, and the buffers on loan have the bytes and
lengths of the blocks on loan. What is lent is the block that came back last of those of its
capacity, with all of its bytes, or a new one if that stack is empty; it has the capacity asked for,
and none of its bytes are in use. What comes back is kept if its stack is not full, and no stack is
ever above the limit. All this time, no block is lent twice, or lent and on a stack, or on stacks
twice. What is done with one block on loan changes no other block, be that on loan or on a stack. -/
theorem lends_as_stacks (limit : Nat) (calls : List Call) :
    Calls.trace perform look (empty limit) calls
        = Calls.trace Stacks.perform Stacks.look (Stacks.empty limit) calls
      ∧ (Calls.after Stacks.perform (Stacks.empty limit) calls).Sound
      ∧ (Calls.after Stacks.perform (Stacks.empty limit) calls).limit = limit
      ∧ (∀ capacity, ∃ block,
          ((Calls.after perform (empty limit) calls).take capacity).1 = some block
            ∧ block.capacity = capacity ∧ block.length = 0)
      ∧ ∀ loan use place, place ≠ .lent loan →
          ((Calls.after Stacks.perform (Stacks.empty limit) calls).use loan use).2.block? place
            = (Calls.after Stacks.perform (Stacks.empty limit) calls).block? place := by
  have hstart : (empty limit).Shows (Stacks.empty limit) ∧ (Stacks.empty limit).Sound :=
    ⟨Shows.empty limit, Stacks.Sound.empty limit⟩
  obtain ⟨hshows, hsound⟩ := simulates_stacks.after hstart calls
  refine ⟨simulates_stacks.trace_eq (fun h => h.1.look_eq) hstart calls, hsound,
    Stacks.limit_after _ calls, ?_, ?_⟩
  · intro capacity
    obtain ⟨block, hblock, hready⟩ := hsound.exists_take capacity
    exact ⟨block, (hshows.take hsound capacity).1.trans hblock, hready⟩
  · intro loan use place hplace
    exact hsound.block?_use hplace use

/-- A buffer that is borrowed again shows the bytes that were left in it. -/
example :
    (Calls.trace perform look (empty 4)
        [.take 2, .use 0 (.append [7]), .give 0, .take 2, .use 1 .fill]).map (·.1)
      = [some ⟨[0, 0], 0⟩, some ⟨[7, 0], 1⟩, none, some ⟨[7, 0], 0⟩, some ⟨[7, 0], 2⟩] := by
  rfl

end Lending

end Redelivery
