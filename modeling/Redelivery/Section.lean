/-!
# Sections

A section admits one agent at a time. Whoever finds it taken stands in line, and an agent that
leaves hands the section to the next in line directly: nobody can slip in between, and nobody is
overtaken.

## Main definitions

* `Section`: the line, whose head is the owner.
* `Section.enter`, `Section.tryEnter?`, `Section.leave`: joining the line and leaving it.
-/

namespace Redelivery

/-- A section that admits one agent at a time. -/
structure Section (α : Type) where
  /-- The agents in line. The first one owns the section, the others wait. -/
  line : List α := []
deriving DecidableEq, Repr

namespace Section

variable {α : Type}

/-- The agent that owns the section, if any does. -/
def owner (s : Section α) : Option α :=
  s.line.head?

/-- Whether no agent owns the section. Nobody waits for it then. -/
def isFree (s : Section α) : Bool :=
  s.line.isEmpty

/-- An agent joins the line. If the section is free, it owns the section at once. -/
def enter (s : Section α) (agent : α) : Section α where
  line := s.line ++ [agent]

/-- An agent enters the section, unless it would have to wait. -/
def tryEnter? (s : Section α) (agent : α) : Option (Section α) :=
  if s.isFree then some (s.enter agent) else none

/-- An agent leaves the line: it gives the section up if it owns it, else it waits no longer. -/
def leave [DecidableEq α] (s : Section α) (agent : α) : Section α where
  line := s.line.erase agent

theorem owner_enter (s : Section α) (agent : α) :
    (s.enter agent).owner = s.owner.or (some agent) := by
  cases s with
  | mk line => cases line <;> rfl

theorem isFree_iff_owner_eq_none (s : Section α) : s.isFree ↔ s.owner = none := by
  simp [isFree, owner]

/-- Nobody enters at once unless the section is free. -/
theorem tryEnter?_eq_some_iff {s s' : Section α} {agent : α} :
    s.tryEnter? agent = some s' ↔ s.isFree = true ∧ s.enter agent = s' := by
  rw [tryEnter?, Option.ite_none_right_eq_some, Option.some_inj]

end Section

end Redelivery
