/-!
# Round trips

The times that acknowledgements took to come back. The minimum of the last four is the age from
which an unacknowledged segment is sent again: one that is older than the fastest recent round trip
is likely lost. The minimum of all round trips is kept for monitoring.

The recent minimum is remembered between two samples. A smaller sample replaces it; any other may
have overwritten the very sample that was the minimum, so it is forgotten then and found again at
the next query.

## Main definitions

* `RoundTrips`: the samples in a ring, and the two minima.
* `RoundTrips.append`: one more sample.
* `RoundTrips.recentMin`, `RoundTrips.historicalMin`: the minima, zero before the first sample.
* `RoundTrips.remember`: the state after a query, which remembers the answer.
-/

namespace Redelivery

/-- The round trips observed so far. -/
structure RoundTrips where
  /-- The ring of the last samples. -/
  ring : Vector Nat 4
  /-- The place in the ring that the next sample goes to. -/
  cursor : Fin 4
  /-- The number of samples in the ring. -/
  size : Nat
  /-- The minimum of the samples in the ring, if it is known. -/
  known : Option Nat
  /-- The minimum of all samples, if there was one. -/
  least : Option Nat
deriving DecidableEq, Repr

namespace RoundTrips

/-- No samples. -/
def empty : RoundTrips where
  ring := Vector.replicate 4 0
  cursor := 0
  size := 0
  known := none
  least := none

/-- The state after one more sample. -/
def append (r : RoundTrips) (sample : Nat) : RoundTrips where
  ring := r.ring.set r.cursor.val sample
  cursor := r.cursor + 1
  size := min (r.size + 1) 4
  known :=
    match r.known with
    | some minimum => if sample < minimum then some sample else none
    | none => none
  least :=
    match r.least with
    | some minimum => if sample < minimum then some sample else some minimum
    | none => some sample

/-- The state after several more samples, in this order. -/
def appendAll (r : RoundTrips) (samples : List Nat) : RoundTrips :=
  samples.foldl append r

/-- The minimum of the most recent samples. -/
def recentMin (r : RoundTrips) : Nat :=
  match r.known with
  | some minimum => minimum
  | none => ((r.ring.toList.take r.size).min?).getD 0

/-- The state after the recent minimum was asked for: it is remembered if there are samples. -/
def remember (r : RoundTrips) : RoundTrips :=
  if r.size = 0 then r else { r with known := some r.recentMin }

/-- The minimum of all samples. -/
def historicalMin (r : RoundTrips) : Nat :=
  r.least.getD 0

end RoundTrips

end Redelivery
