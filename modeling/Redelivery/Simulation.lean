import Redelivery.Simulation.Endpoint

/-!
# Simulations

Scripts for several endpoints in virtual time. The clock stands still while any worker can take a
turn, and jumps to the next timer when all of them wait. The endpoints share nothing but the clock:
it is the script that carries datagrams from one to another, and so decides what is lost, repeated
or reordered.

## Main definitions

* `Simulation`: the endpoints and the clock.
* `Command`: the steps of a script.
* `Simulation.perform`: performs a step.
* `Report`: what is seen of it.
-/

namespace Redelivery

/-- What is taken of the datagrams that an endpoint has sent. -/
inductive Selection where
  /-- Those at the given places, in this order. Places where there is none are passed over. -/
  | places (indexes : List Nat)
  /-- Those that the pattern, repeated as often as necessary, is true for. -/
  | pattern (mask : List Bool)
deriving DecidableEq, Repr

/-- What is selected of a list of datagrams. -/
def Selection.apply (selection : Selection) (datagrams : Array Bytes) : List Bytes :=
  match selection with
  | places indexes => indexes.filterMap fun i => datagrams[i]?
  | pattern mask =>
    datagrams.toList.zipIdx.filterMap fun (datagram, i) =>
      if mask[i % mask.length]? = some true then some datagram else none

/-- A step of a script. The number of a step is also the number of the task that it starts. -/
inductive Command where
  /-- Lets time pass. -/
  | advance (span : Nat)
  /-- Starts to dial. -/
  | connect (endpoint : String)
  /-- Starts to listen. -/
  | accept (endpoint : String)
  /-- Starts to write a message. -/
  | write (endpoint : String) (message : Bytes)
  /-- Starts to read a message into a buffer of the given length. -/
  | read (endpoint : String) (length : Nat)
  /-- Starts to read messages one after the other. -/
  | readOn (endpoint : String) (length : Nat)
  /-- Starts to close the stream. -/
  | close (endpoint : String)
  /-- Abandons a task. -/
  | cancel (task : Nat)
  /-- Drops the stream. -/
  | drop (endpoint : String)
  /-- Lets datagrams arrive, or faults. -/
  | arrive (endpoint : String) (arrivals : List Arrival)
  /-- Determines which of the next sends fail, and why. -/
  | judge (endpoint : String) (verdicts : List (Option String))
  /-- Takes all that one endpoint has sent and lets a selection of it arrive at another. -/
  | deliver (sender receiver : String) (selection : Selection)
deriving DecidableEq, Repr

/-- What is seen of a stream. -/
structure StreamReport where
  /-- Whether it is closed. -/
  closed : Bool
  /-- The minimum of the recent round trips. -/
  recentMin : Nat
  /-- The minimum of all round trips. -/
  historicalMin : Nat
  /-- The traffic counters. -/
  traffic : Traffic
deriving DecidableEq, Repr

/-- What is seen after a step of a script. -/
structure Report where
  /-- The time. -/
  now : Nat
  /-- The datagrams that each endpoint has sent during the step, with their times. -/
  sent : List (String × List (Nat × Bytes))
  /-- The tasks that have ended during the step, with their times: by time and number. -/
  ended : List (Nat × Nat × Completion)
  /-- The tasks in progress, by number. -/
  pending : List Nat
  /-- The streams of the endpoints that have one. -/
  streams : List (String × StreamReport)

/-- Endpoints and a clock. -/
structure Simulation where
  /-- The time. -/
  now : Nat := 0
  /-- The endpoints, by name. -/
  endpoints : List (String × Endpoint)
  /-- The number of the next step. -/
  count : Nat := 0

namespace Simulation

/-- A simulation of endpoints with the given settings. -/
def ofSettings (settings : List (String × Settings)) : Simulation where
  endpoints := settings.map fun (name, settings) => (name, { settings := settings })

/-- The simulation with each endpoint replaced. -/
def map (s : Simulation) (f : Endpoint → Endpoint) : Simulation :=
  { s with endpoints := s.endpoints.map fun (name, e) => (name, f e) }

/-- The simulation with the endpoint of the given name replaced. -/
def modify (s : Simulation) (name : String) (f : Endpoint → Endpoint) : Simulation :=
  { s with
    endpoints := s.endpoints.map fun entry =>
      if entry.1 == name then (entry.1, f entry.2) else entry }

/-- All turns that can be taken at this time. -/
def settle (s : Simulation) : Simulation :=
  s.map (·.settle s.now)

/-! ### The clock -/

/-- The next time at which some worker's wait ends, if that is not after `target`. -/
def nextTimer? (s : Simulation) (target : Nat) : Option Nat :=
  ((s.endpoints.flatMap (·.2.timers)).filter fun t => s.now < t ∧ t ≤ target).min?

theorem lt_of_nextTimer? {s : Simulation} {target t : Nat} (h : s.nextTimer? target = some t) :
    s.now < t ∧ t ≤ target := by
  have := List.min?_mem h
  simp only [List.mem_filter, decide_eq_true_eq] at this
  exact this.2

/-- Lets time pass until `target`. All that is due by then happens in its time. -/
def advance (s : Simulation) (target : Nat) : Simulation :=
  match h : s.nextTimer? target with
  | none => { s with now := target }
  | some t =>
    have := lt_of_nextTimer? h
    advance { s with now := t }.settle target
termination_by target - s.now
decreasing_by
  simp only [settle, map]
  omega

/-! ### Steps -/

/-- The effect of a step, apart from what follows from it. -/
def act (s : Simulation) : Command → Simulation
  | .advance span => s.advance (s.now + span)
  | .connect name => s.modify name (·.connect s.now s.count)
  | .accept name => s.modify name (·.accept s.now s.count)
  | .write name message => s.modify name (·.write s.now s.count message)
  | .read name length => s.modify name (·.read s.now s.count length)
  | .readOn name length => s.modify name (·.readOn s.now s.count length)
  | .close name => s.modify name (·.close s.now s.count)
  | .cancel task => s.map (·.cancel task)
  | .drop name => s.modify name (·.drop)
  | .arrive name arrivals =>
    s.modify name fun e => { e with socket := e.socket.arrive arrivals }
  | .judge name verdicts =>
    s.modify name fun e => { e with socket := { e.socket with verdicts := verdicts } }
  | .deliver sender receiver selection =>
    match s.endpoints.lookup sender with
    | none => s
    | some e =>
      let arrivals := (selection.apply e.socket.outbox).map .datagram
      let s := s.modify sender fun e => { e with socket := { e.socket with outbox := #[] } }
      s.modify receiver fun e => { e with socket := e.socket.arrive arrivals }

/-- What is seen of a stream. -/
def streamReport (s : Stream) : StreamReport where
  closed := s.closed
  recentMin := s.roundTrips.recentMin
  historicalMin := s.roundTrips.historicalMin
  traffic := s.traffic

/-- What is seen after a step. -/
def report (s : Simulation) : Report where
  now := s.now
  sent := (s.endpoints.map fun (name, e) => (name, e.sent.toList)).filter (!·.2.isEmpty)
  ended := (s.endpoints.flatMap (·.2.ended.toList)).mergeSort fun a b =>
    a.1 < b.1 || (a.1 == b.1 && a.2.1 ≤ b.2.1)
  pending := (s.endpoints.flatMap (·.2.tasks)).eraseDups.mergeSort fun a b => a ≤ b
  streams := s.endpoints.filterMap fun (name, e) =>
    e.session?.map fun (_, session) => (name, streamReport session.stream)

/-- Performs a step of a script. -/
def perform (s : Simulation) (command : Command) : Simulation × Report :=
  let s := s.map fun e => { e with sent := #[], ended := #[] }
  let s := (s.act command).settle
  ({ s with count := s.count + 1 }, s.report)

end Simulation

end Redelivery
