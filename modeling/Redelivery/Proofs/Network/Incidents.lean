import Redelivery.Proofs.Network

/-!
# What else may happen

Besides the events that the two ends and the network between them have foreseen, there are incidents
that they have not: a caller loses interest in a call and abandons it, or somebody else puts a
datagram on the wire. Which incidents are considered is up to a *rule*; a network *leads* to another
one by what the rule allows.

## Main definitions

* `Peer.cancel`: the peer after a call was abandoned.
* `Incident`, `Network.undergo?`: what may happen, and what becomes of the network.
* `Rule`, `Network.Leads`: what is allowed, and what a network can come to by it.
* `Network.follow?`: the same for a list of incidents, to be computed.

## Main statements

* `Network.Leads.invariant`: what every allowed incident keeps is kept for good.
* `Network.leads_of_follow?`: what is computed can be reached.

A rule may look at the state of the network, so it can forbid more than a kind of incident: that the
write which is abandoned has something under way, for example, or that an acknowledgement comes for
what was not sent. All results about runs with incidents have the same form: a start, a rule, and
something that holds of every network that the start leads to by that rule. They ride on
`Leads.invariant`, where one incident is all there is to show. `Network.everything`, the rule that
forbids nothing, comes with the file on closing.
-/

namespace Redelivery

/-- The peer after a call was abandoned wherever it waits. The call has not succeeded, so it counts
as one that failed. -/
def Peer.cancel (p : Peer) (id : Nat) : Peer :=
  match p.session.call? id with
  | none => p
  | some _ => { p with session := p.session.cancel id, failed := p.failed ++ [id] }

/-- What may happen to two ends and the network between them. -/
inductive Incident where
  /-- An event. -/
  | event (e : Event)
  /-- A caller abandons a call. -/
  | cancel (side : Side) (id : Nat)
  /-- A datagram gets under way that looks as if it was sent from a side. -/
  | forge (side : Side) (datagram : Bytes)
deriving Repr

/-- Says which incidents are considered, by the state of the network at that time. -/
abbrev Rule := Network → Incident → Bool

namespace Network

/-- The network after an incident, or `none` if it cannot happen. -/
def undergo? (n : Network) : Incident → Option Network
  | .event e => n.step? e
  | .cancel side id => some (n.withPeer side ((n.peer side).cancel id))
  | .forge side datagram => some (n.withFlight side datagram)

/-- The network `n` can come to `n'` by what the rule allows. -/
inductive Leads (rule : Rule) : Network → Network → Prop
  /-- Nothing happens. -/
  | refl (n : Network) : Leads rule n n
  /-- Something more happens. -/
  | step {n mid n' : Network} {i : Incident} (h : Leads rule n mid) (hrule : rule mid i = true)
      (hstep : mid.undergo? i = some n') : Leads rule n n'

/-- The network after several incidents, or `none` if one of them cannot happen or is not
allowed. -/
def follow? (rule : Rule) (n : Network) : List Incident → Option Network
  | [] => some n
  | i :: rest => if rule n i then (n.undergo? i).bind fun n => n.follow? rule rest else none

variable {rule : Rule} {n mid n' : Network}

/-- **What every allowed incident keeps is kept for good.** -/
theorem Leads.invariant {P : Network → Prop} (h : Leads rule n n') (hn : P n)
    (hkeeps : ∀ mid i next, P mid → rule mid i = true → mid.undergo? i = some next → P next) :
    P n' := by
  induction h with
  | refl => exact hn
  | step _ hrule hstep ih => exact hkeeps _ _ _ ih hrule hstep

theorem leads_of_follow?_of_leads {start : Network} {incidents : List Incident}
    (h : Leads rule start n) (hfollow : n.follow? rule incidents = some n') :
    Leads rule start n' := by
  induction incidents generalizing n with
  | nil =>
    cases hfollow
    exact h
  | cons i rest ih =>
    obtain ⟨hrule, hbind⟩ := Option.ite_none_right_eq_some.mp hfollow
    obtain ⟨next, hstep, hrest⟩ := Option.bind_eq_some_iff.mp hbind
    exact ih (h.step hrule hstep) hrest

/-- **What is computed can be reached.** -/
theorem leads_of_follow? {incidents : List Incident} (h : n.follow? rule incidents = some n') :
    Leads rule n n' :=
  leads_of_follow?_of_leads (.refl n) h

/-- A run ends somewhere, and what is seen there is seen in a network that this one leads to. -/
theorem exists_leads {α : Type} {incidents : List Incident} (view : Network → α) {value : α}
    (h : (n.follow? rule incidents).map view = some value) :
    ∃ n', Leads rule n n' ∧ view n' = value := by
  obtain ⟨n', hfollow, hview⟩ := Option.map_eq_some_iff.mp h
  exact ⟨n', leads_of_follow? hfollow, hview⟩

end Network

end Redelivery
