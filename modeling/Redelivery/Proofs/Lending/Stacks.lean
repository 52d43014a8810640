import Mathlib.Logic.Function.Basic
import Redelivery.Buffer
import Redelivery.Proofs.Window.View

/-!
# Stacks of blocks

Blocks of memory are handed around: whoever asks for a block of some capacity gets the one that came
back last, or a new one, writes to it and returns it. A block that comes back is put on top of the
stack of its capacity, unless that is full. Blocks go by their addresses, and two who knew the same
address would write over each other's bytes. But nobody ever knows an address that somebody else
knows, or that is on a stack.

## Main definitions

* `Buffer.Use`: what its holder does with a buffer.
* `Block`: a block of memory and what is done with it.
* `Stacks`: blocks, stacks of those that are free, and who has the others.
* `Stacks.Place`, `Stacks.Sound`: where blocks are, and that none of them is in two places.

## Main statements

* `Stacks.Sound.perform`: no call puts a block into two places.
* `Stacks.Sound.block?_use`: what is done with one block changes no other.

Soundness is said of places: a number of a loan, or a capacity and a height, counted from the bottom
of a stack so that nothing below the top moves when a block comes or goes. A call is taken apart
into small steps, some of which take a block out of its place and some put one somewhere. After a
step of the first kind the block is nowhere (`Stacks.Sound.nowhere_pop`,
`Stacks.Sound.nowhere_release`, `Stacks.Sound.nowhere_made`), and only what is nowhere may be put
into a place (`Stacks.Sound.apart_of_nowhere`). So each call is a block that is picked up and put
down.
-/

namespace Redelivery

/-! ## Blocks -/

/-- What its holder does with a buffer. -/
inductive Buffer.Use where
  /-- Bytes are appended. -/
  | append (bytes : Bytes)
  /-- All bytes are put in use. -/
  | fill
  /-- The first so many bytes are put in use. -/
  | resize (length : Nat)
  /-- No byte is left in use. -/
  | clear
  /-- So many more bytes are put in use. -/
  | advance (n : Nat)
  /-- A byte in use is replaced. -/
  | setByte (index : Nat) (value : UInt8)
deriving DecidableEq, Repr

/-- A block of memory. The first `length` bytes of it are in use. -/
structure Block where
  /-- All bytes of the block. -/
  bytes : Bytes
  /-- How many of them are in use. -/
  length : Nat
deriving DecidableEq, Repr

namespace Block

/-- A new block, all of its bytes zero and none in use. -/
def zeroed (capacity : Nat) : Block where
  bytes := List.replicate capacity 0
  length := 0

/-- The number of bytes of a block. -/
def capacity (b : Block) : Nat :=
  b.bytes.length

/-- The block with none of its bytes in use. -/
def cleared (b : Block) : Block :=
  { b with length := 0 }

/-- The block with `bytes` written behind those in use, or `none` if it has no room for them. -/
def append? (b : Block) (bytes : Bytes) : Option Block :=
  if b.length + bytes.length ≤ b.capacity then
    some
      { bytes := b.bytes.take b.length ++ bytes ++ b.bytes.drop (b.length + bytes.length)
        length := b.length + bytes.length }
  else
    none

/-- The block with its first `length` bytes in use, or `none` if it has fewer. -/
def resize? (b : Block) (length : Nat) : Option Block :=
  if length ≤ b.capacity then some { b with length := length } else none

/-- The block with the byte at `index` replaced, or `none` if that is not in use. -/
def setByte? (b : Block) (index : Nat) (value : UInt8) : Option Block :=
  if index < b.length then some { b with bytes := b.bytes.set index value } else none

/-- The block after a use, or `none` where the block does not reach so far. -/
def use? (b : Block) : Buffer.Use → Option Block
  | .append bytes => b.append? bytes
  | .fill => b.resize? b.capacity
  | .resize length => b.resize? length
  | .clear => some b.cleared
  | .advance n => b.resize? (b.length + n)
  | .setByte index value => b.setByte? index value

end Block

/-! ## Stacks -/

/-- What a pool and its buffers are used for. -/
inductive Lending.Call where
  /-- A buffer of the given capacity is borrowed. -/
  | take (capacity : Nat)
  /-- Something is done with a buffer on loan. -/
  | use (loan : Nat) (use : Buffer.Use)
  /-- A buffer on loan comes back. -/
  | give (loan : Nat)
deriving DecidableEq, Repr

/-- Blocks of memory, stacks of those that are free, and the borrowers of the others. Blocks go by
their addresses. -/
structure Stacks where
  /-- The greatest height of a stack. -/
  limit : Nat
  /-- The block at each address. -/
  memory : Nat → Block
  /-- The number of blocks made so far, which is the address of the next one. -/
  made : Nat
  /-- The free blocks of each capacity, the most recently returned on top. -/
  stack : Nat → List Nat
  /-- The block of each loan that has not come back. -/
  loans : Nat → Option Nat
  /-- The number of loans so far, which is the next one's number. -/
  count : Nat

namespace Stacks

open Function (update)

/-- No blocks at all. -/
def empty (limit : Nat) : Stacks where
  limit := limit
  memory _ := Block.zeroed 0
  made := 0
  stack _ := []
  loans _ := none
  count := 0

/-- A new block is made. -/
def make (s : Stacks) (capacity : Nat) : Stacks :=
  { s with memory := update s.memory s.made (Block.zeroed capacity), made := s.made + 1 }

/-- A block is taken off a stack, of which `rest` is left. -/
def pop (s : Stacks) (capacity : Nat) (rest : List Nat) : Stacks :=
  { s with stack := update s.stack capacity rest }

/-- A block is lent. -/
def lend (s : Stacks) (address : Nat) : Stacks :=
  { s with loans := update s.loans s.count (some address), count := s.count + 1 }

/-- A block is written to memory. -/
def write (s : Stacks) (address : Nat) (block : Block) : Stacks :=
  { s with memory := update s.memory address block }

/-- A loan ends. -/
def release (s : Stacks) (loan : Nat) : Stacks :=
  { s with loans := update s.loans loan none }

/-- A block is put on top of the stack of its capacity. -/
def push (s : Stacks) (address : Nat) : Stacks :=
  let capacity := (s.memory address).capacity
  { s with stack := update s.stack capacity (address :: s.stack capacity) }

/-- A block is kept, unless the stack of its capacity is too high. -/
def keep (s : Stacks) (address : Nat) : Stacks :=
  if (s.stack (s.memory address).capacity).length < s.limit then s.push address else s

/-- A block is borrowed: the one that was returned last, or a new one. -/
def take (s : Stacks) (capacity : Nat) : Option Block × Stacks :=
  match s.stack capacity with
  | [] => (some (Block.zeroed capacity), (s.make capacity).lend s.made)
  | address :: rest => (some (s.memory address), (s.pop capacity rest).lend address)

/-- Something is done with a block on loan. -/
def use (s : Stacks) (loan : Nat) (use : Buffer.Use) : Option Block × Stacks :=
  match s.loans loan with
  | some address =>
    match (s.memory address).use? use with
    | some block => (some block, s.write address block)
    | none => (none, s)
  | none => (none, s)

/-- A block on loan comes back. -/
def give (s : Stacks) (loan : Nat) : Stacks :=
  match s.loans loan with
  | some address => ((s.release loan).write address (s.memory address).cleared).keep address
  | none => s

/-- A call, and the block that the borrower has after it. -/
def perform (s : Stacks) : Lending.Call → Option Block × Stacks
  | .take capacity => s.take capacity
  | .use loan use => s.use loan use
  | .give loan => (none, s.give loan)

/-- What can be seen at any time: how high the stack of each capacity is, and what every block on
loan is like. -/
def look (s : Stacks) : (Nat → Nat) × (Nat → Option Block) :=
  (fun capacity => (s.stack capacity).length, fun loan => (s.loans loan).map s.memory)

theorem limit_perform (s : Stacks) (call : Lending.Call) : (s.perform call).2.limit = s.limit := by
  cases call with
  | take capacity =>
    show (s.take capacity).2.limit = s.limit
    unfold take
    split <;> rfl
  | use loan use =>
    show (s.use loan use).2.limit = s.limit
    unfold Stacks.use
    split
    · split <;> rfl
    · rfl
  | give loan =>
    show (s.give loan).limit = s.limit
    unfold give keep
    split
    · split <;> rfl
    · rfl

theorem limit_after (s : Stacks) (calls : List Lending.Call) :
    (Calls.after perform s calls).limit = s.limit := by
  induction calls generalizing s with
  | nil => rfl
  | cons call calls ih => exact (ih _).trans (s.limit_perform call)

/-! ## Where blocks are -/

/-- Where a block can be. -/
inductive Place where
  /-- On loan. -/
  | lent (loan : Nat)
  /-- On the stack of a capacity, with so many others below. -/
  | stacked (capacity height : Nat)

/-- The address of the block in a place. -/
def address? (s : Stacks) : Place → Option Nat
  | .lent loan => s.loans loan
  | .stacked capacity height => (s.stack capacity).reverse[height]?

/-- The block in a place. -/
def block? (s : Stacks) (x : Place) : Option Block :=
  (s.address? x).map s.memory

/-- A block is neither on loan nor on a stack. -/
def Nowhere (s : Stacks) (address : Nat) : Prop :=
  ∀ x, s.address? x ≠ some address

/-- **Who has a block has it alone.** -/
structure Sound (s : Stacks) : Prop where
  /-- No block is in two places. -/
  apart : ∀ {x y address}, s.address? x = some address → s.address? y = some address → x = y
  /-- Blocks in places were made before. -/
  made : ∀ {x address}, s.address? x = some address → address < s.made
  /-- Blocks are on the stack of their capacity, and none of their bytes are in use. -/
  ready : ∀ {capacity address}, address ∈ s.stack capacity →
    (s.memory address).capacity = capacity ∧ (s.memory address).length = 0
  /-- Stacks are not too high. -/
  height_le : ∀ capacity, (s.stack capacity).length ≤ s.limit
  /-- Loans are numbered one after the other. -/
  loan_lt : ∀ {loan address}, s.loans loan = some address → loan < s.count

theorem exists_stacked_iff {s : Stacks} {capacity address : Nat} :
    (∃ height, s.address? (.stacked capacity height) = some address)
      ↔ address ∈ s.stack capacity := by
  rw [← List.mem_reverse, List.mem_iff_getElem?]
  rfl

/-- On top of a stack there is the block that came last. -/
theorem getElem?_reverse_cons_iff {stack : List Nat} {top height address : Nat} :
    (top :: stack).reverse[height]? = some address
      ↔ stack.reverse[height]? = some address ∨ (height = stack.length ∧ address = top) := by
  rw [List.reverse_cons, List.getElem?_append, List.length_reverse]
  grind

/-- What is left of the stack is where it was. -/
theorem address?_pop {s : Stacks} {capacity address : Nat} {rest : List Nat}
    (hstack : s.stack capacity = address :: rest) {x : Place} {a : Nat}
    (hx : (s.pop capacity rest).address? x = some a) :
    s.address? x = some a ∧ x ≠ .stacked capacity rest.length := by
  cases x with
  | lent loan => exact ⟨hx, nofun⟩
  | stacked c height =>
    by_cases hc : c = capacity
    · subst hc
      have hx : rest.reverse[height]? = some a := by
        rw [← hx]
        show _ = (Function.update s.stack c rest c).reverse[height]?
        rw [Function.update_self]
      refine ⟨?_, ?_⟩
      · show (s.stack c).reverse[height]? = some a
        rw [hstack, getElem?_reverse_cons_iff]
        exact Or.inl hx
      · rintro ⟨⟩
        rw [List.getElem?_eq_none (by simp)] at hx
        cases hx
    · have hx : (s.stack c).reverse[height]? = some a := by
        rw [← hx]
        show _ = (Function.update s.stack capacity rest c).reverse[height]?
        rw [Function.update_of_ne hc]
      refine ⟨hx, ?_⟩
      rintro ⟨⟩
      exact hc rfl

/-- What is still on loan is where it was. -/
theorem address?_release {s : Stacks} {loan : Nat} {x : Place} {a : Nat}
    (hx : (s.release loan).address? x = some a) : s.address? x = some a ∧ x ≠ .lent loan := by
  cases x with
  | stacked c height => exact ⟨hx, nofun⟩
  | lent other =>
    change Function.update s.loans loan none other = some a at hx
    rw [Function.update_apply] at hx
    split at hx
    · cases hx
    · rename_i hne
      exact ⟨hx, fun heq => hne (by cases heq; rfl)⟩

namespace Sound

variable {s t : Stacks} {address : Nat}

theorem empty (limit : Nat) : (Stacks.empty limit).Sound where
  apart {x y address} hx hy := by
    cases x <;> cases hx
  made {x address} hx := by
    cases x <;> cases hx
  ready h := by cases h
  height_le capacity := Nat.zero_le limit
  loan_lt h := by cases h

/-- A block on loan is on no stack. -/
theorem not_mem_stack (h : s.Sound) {loan : Nat} (hloan : s.loans loan = some address)
    (capacity : Nat) : address ∉ s.stack capacity := by
  intro hmem
  obtain ⟨height, hheight⟩ := exists_stacked_iff.mpr hmem
  have hplace := h.apart (x := .lent loan) hloan hheight
  cases hplace

/-- A block on loan is lent once. -/
theorem loan_eq (h : s.Sound) {loan other : Nat} (hloan : s.loans loan = some address)
    (hother : s.loans other = some address) : other = loan := by
  have hplace := h.apart (x := .lent other) (y := .lent loan) hother hloan
  cases hplace
  rfl

/-- **A block that is nowhere** may be put into a new place. -/
theorem apart_of_nowhere (h : s.Sound) (hnowhere : s.Nowhere address) {new : Place}
    (hplaces : ∀ {x a}, t.address? x = some a → s.address? x = some a ∨ (x = new ∧ a = address))
    {x y : Place} {a : Nat} (hx : t.address? x = some a) (hy : t.address? y = some a) : x = y := by
  rcases hplaces hx with hx | ⟨rfl, rfl⟩
  · rcases hplaces hy with hy | ⟨rfl, rfl⟩
    · exact h.apart hx hy
    · exact absurd hx (hnowhere x)
  · rcases hplaces hy with hy | ⟨rfl, -⟩
    · exact absurd hy (hnowhere y)
    · rfl

theorem nowhere_made (h : s.Sound) : s.Nowhere s.made := by
  intro x hx
  have hlt := h.made hx
  omega

theorem make (h : s.Sound) (capacity : Nat) : (s.make capacity).Sound where
  apart := h.apart
  made hx := Nat.lt_succ_of_lt (h.made hx)
  ready {c a} hmem := by
    obtain ⟨height, hheight⟩ := (exists_stacked_iff (s := s)).mpr hmem
    have hold : (s.make capacity).memory a = s.memory a :=
      Function.update_of_ne (Nat.ne_of_lt (h.made hheight)) _ _
    rw [hold]
    exact h.ready hmem
  height_le := h.height_le
  loan_lt := h.loan_lt

theorem pop (h : s.Sound) {capacity : Nat} {rest : List Nat}
    (hstack : s.stack capacity = address :: rest) : (s.pop capacity rest).Sound where
  apart hx hy := h.apart (address?_pop hstack hx).1 (address?_pop hstack hy).1
  made hx := h.made (address?_pop hstack hx).1
  ready {c a} hmem := by
    obtain ⟨height, hheight⟩ := exists_stacked_iff.mpr hmem
    exact h.ready (exists_stacked_iff.mp ⟨height, (address?_pop hstack hheight).1⟩)
  height_le c := by
    have hle := h.height_le c
    show (Function.update s.stack capacity rest c).length ≤ s.limit
    rw [Function.update_apply]
    split
    · rename_i hc
      rw [hc, hstack, List.length_cons] at hle
      omega
    · exact hle
  loan_lt := h.loan_lt

theorem nowhere_pop (h : s.Sound) {capacity : Nat} {rest : List Nat}
    (hstack : s.stack capacity = address :: rest) : (s.pop capacity rest).Nowhere address := by
  intro x hx
  obtain ⟨hold, hne⟩ := address?_pop hstack hx
  refine hne (h.apart hold ?_)
  show (s.stack capacity).reverse[rest.length]? = some address
  rw [hstack, getElem?_reverse_cons_iff]
  exact Or.inr ⟨rfl, rfl⟩

theorem lend (h : s.Sound) (hnowhere : s.Nowhere address) (hmade : address < s.made) :
    (s.lend address).Sound := by
  have hplaces {x : Place} {a : Nat} (hx : (s.lend address).address? x = some a) :
      s.address? x = some a ∨ (x = .lent s.count ∧ a = address) := by
    cases x with
    | stacked c height => exact Or.inl hx
    | lent loan =>
      change Function.update s.loans s.count (some address) loan = some a at hx
      rw [Function.update_apply] at hx
      split at hx
      · rename_i hloan
        exact Or.inr ⟨congrArg _ hloan, (Option.some.inj hx).symm⟩
      · exact Or.inl hx
  exact
    { apart := h.apart_of_nowhere hnowhere hplaces
      made := fun hx => by
        rcases hplaces hx with hx | ⟨-, rfl⟩
        · exact h.made hx
        · exact hmade
      ready := h.ready
      height_le := h.height_le
      loan_lt := fun {loan a} hloan => by
        rcases hplaces (x := .lent loan) hloan with hloan | ⟨hloan, -⟩
        · exact Nat.lt_succ_of_lt (h.loan_lt hloan)
        · cases hloan
          exact Nat.lt_succ_self _ }

theorem release (h : s.Sound) (loan : Nat) : (s.release loan).Sound where
  apart hx hy := h.apart (address?_release hx).1 (address?_release hy).1
  made hx := h.made (address?_release hx).1
  ready := h.ready
  height_le := h.height_le
  loan_lt {other _} hother := h.loan_lt (address?_release (x := .lent other) hother).1

theorem nowhere_release (h : s.Sound) {loan : Nat} (hloan : s.loans loan = some address) :
    (s.release loan).Nowhere address := by
  intro x hx
  obtain ⟨hold, hne⟩ := address?_release hx
  exact hne (h.apart hold hloan)

theorem write (h : s.Sound) {block : Block}
    (hstack : ∀ capacity, address ∉ s.stack capacity) : (s.write address block).Sound where
  apart := h.apart
  made := h.made
  ready {c a} hmem := by
    have hne : a ≠ address := by
      rintro rfl
      exact hstack c hmem
    have hold : (s.write address block).memory a = s.memory a := Function.update_of_ne hne _ _
    rw [hold]
    exact h.ready hmem
  height_le := h.height_le
  loan_lt := h.loan_lt

theorem push (h : s.Sound) (hnowhere : s.Nowhere address) (hmade : address < s.made)
    (hlength : (s.memory address).length = 0)
    (hroom : (s.stack (s.memory address).capacity).length < s.limit) :
    (s.push address).Sound := by
  have hplaces {x : Place} {a : Nat} (hx : (s.push address).address? x = some a) :
      s.address? x = some a
        ∨ (x = .stacked (s.memory address).capacity (s.stack (s.memory address).capacity).length
          ∧ a = address) := by
    cases x with
    | lent loan => exact Or.inl hx
    | stacked c height =>
      change (Function.update s.stack (s.memory address).capacity
        (address :: s.stack (s.memory address).capacity) c).reverse[height]? = some a at hx
      rw [Function.update_apply] at hx
      split at hx
      · rename_i hc
        rcases getElem?_reverse_cons_iff.mp hx with hx | ⟨rfl, rfl⟩
        · exact Or.inl (by rw [hc]; exact hx)
        · exact Or.inr ⟨by rw [hc], rfl⟩
      · exact Or.inl hx
  exact
    { apart := h.apart_of_nowhere hnowhere hplaces
      made := fun hx => by
        rcases hplaces hx with hx | ⟨-, rfl⟩
        · exact h.made hx
        · exact hmade
      ready := fun hmem => by
        obtain ⟨height, hheight⟩ := exists_stacked_iff.mpr hmem
        rcases hplaces hheight with hheight | ⟨hplace, rfl⟩
        · exact h.ready (exists_stacked_iff.mp ⟨height, hheight⟩)
        · cases hplace
          exact ⟨rfl, hlength⟩
      height_le := fun c => by
        show (Function.update s.stack (s.memory address).capacity
          (address :: s.stack (s.memory address).capacity) c).length ≤ s.limit
        rw [Function.update_apply]
        split
        · exact hroom
        · exact h.height_le c
      loan_lt := h.loan_lt }

theorem keep (h : s.Sound) (hnowhere : s.Nowhere address) (hmade : address < s.made)
    (hlength : (s.memory address).length = 0) : (s.keep address).Sound := by
  unfold Stacks.keep
  split
  · rename_i hroom
    exact h.push hnowhere hmade hlength hroom
  · exact h

theorem take (h : s.Sound) (capacity : Nat) : (s.take capacity).2.Sound := by
  unfold Stacks.take
  cases hstack : s.stack capacity with
  | nil => exact (h.make capacity).lend h.nowhere_made (Nat.lt_succ_self _)
  | cons address rest =>
    have htop : address ∈ s.stack capacity := hstack ▸ List.mem_cons_self
    obtain ⟨height, hheight⟩ := exists_stacked_iff.mpr htop
    exact (h.pop hstack).lend (h.nowhere_pop hstack) (h.made hheight)

theorem use (h : s.Sound) (loan : Nat) (use : Buffer.Use) : (s.use loan use).2.Sound := by
  unfold Stacks.use
  cases hloan : s.loans loan with
  | none => exact h
  | some address =>
    simp only
    split
    · exact h.write (h.not_mem_stack hloan)
    · exact h

/-- **What is lent** has the capacity asked for, and none of its bytes are in use. -/
theorem exists_take (h : s.Sound) (capacity : Nat) :
    ∃ block, (s.take capacity).1 = some block ∧ block.capacity = capacity ∧ block.length = 0 := by
  unfold Stacks.take
  cases hstack : s.stack capacity with
  | nil => exact ⟨Block.zeroed capacity, rfl, List.length_replicate, rfl⟩
  | cons address rest =>
    have htop : address ∈ s.stack capacity := hstack ▸ List.mem_cons_self
    exact ⟨s.memory address, rfl, h.ready htop⟩

/-- **What is done with a block on loan** changes nothing in any other place. -/
theorem block?_use (h : s.Sound) {loan : Nat} {x : Place} (hx : x ≠ .lent loan)
    (use : Buffer.Use) : (s.use loan use).2.block? x = s.block? x := by
  unfold Stacks.use
  cases hloan : s.loans loan with
  | none => rfl
  | some address =>
    simp only
    split
    · refine Option.map_congr fun a ha => ?_
      have hne : a ≠ address := by
        rintro rfl
        exact hx (h.apart ha hloan)
      exact Function.update_of_ne hne _ _
    · rfl

theorem give (h : s.Sound) (loan : Nat) : (s.give loan).Sound := by
  unfold Stacks.give
  cases hloan : s.loans loan with
  | none => exact h
  | some address =>
    refine ((h.release loan).write (h.not_mem_stack hloan)).keep (h.nowhere_release hloan)
      (h.made (x := .lent loan) hloan) ?_
    show (Function.update s.memory address (s.memory address).cleared address).length = 0
    rw [Function.update_self]
    rfl

/-- **No call puts a block into two places.** -/
theorem perform (h : s.Sound) (call : Lending.Call) : (s.perform call).2.Sound := by
  cases call with
  | take capacity => exact h.take capacity
  | use loan use => exact h.use loan use
  | give loan => exact h.give loan

end Sound

end Stacks

end Redelivery
