/-
Fan-out of values to subscribers. Each subscriber has a queue of its own
with a limited number of places; a value goes to all who are registered,
and whoever has no place left, or no longer listens, misses it. Nobody
waits.

Numbers of subscribers count up from 0 and are not used again. To leave
the registry and to stop listening are two things: who has left still gets
what is queued, and who no longer listens still counts as registered.
-/

namespace HostTelemetry

/-- The queue of a subscriber. -/
structure Channel (α : Type) where
  capacity : Nat
  /-- The values that wait, the oldest first. -/
  queue : List α := []
  /-- Whether somebody listens. -/
  listening : Bool := true
deriving Repr, Inhabited

namespace Channel

variable {α : Type}

/-- A queue with as many places as asked for, but at least one. -/
def ofBuffer (buffer : Nat) : Channel α := { capacity := max buffer 1 }

/-- Queues a value, if somebody listens and there is a place. -/
def offer (v : α) (c : Channel α) : Channel α :=
  if c.listening && c.queue.length < c.capacity then { c with queue := c.queue ++ [v] } else c

/-- Nobody listens any more, and what was queued is lost. -/
def hangUp (c : Channel α) : Channel α := { c with queue := [], listening := false }

end Channel

/-- Subscribers and their queues. -/
structure Broadcaster (α : Type) where
  registered : List Nat := []
  /-- The queues of all subscribers there have been, by number. -/
  channels : List (Channel α) := []
deriving Inhabited

/-- What a subscriber gets when it looks for a value. -/
inductive Delivery (α : Type) where
  /-- The oldest value. -/
  | value (v : α)
  | empty
  /-- There is none, and none will come. -/
  | closed
  /-- The subscriber does not listen. -/
  | deaf
deriving Repr, Inhabited

namespace Broadcaster

variable {α : Type}

/-- Registers a subscriber and gives its number. -/
def subscribe (b : Broadcaster α) (buffer : Nat) : Nat × Broadcaster α :=
  let id := b.channels.length
  (id, { registered := b.registered ++ [id], channels := b.channels ++ [.ofBuffer buffer] })

/-- Offers a value to every registered subscriber. -/
def send (b : Broadcaster α) (v : α) : Broadcaster α :=
  { b with channels := b.registered.foldl (fun cs id => cs.modify id (.offer v)) b.channels }

/-- Takes a subscriber out of the registry; once is enough. -/
def cancel (b : Broadcaster α) (id : Nat) : Broadcaster α :=
  { b with registered := b.registered.filter (· ≠ id) }

/-- A subscriber stops listening. -/
def hangUp (b : Broadcaster α) (id : Nat) : Broadcaster α :=
  { b with channels := b.channels.modify id .hangUp }

/-- A subscriber takes its oldest value. -/
def receive (b : Broadcaster α) (id : Nat) : Delivery α × Broadcaster α :=
  match b.channels[id]? with
  | none => (.deaf, b)
  | some c =>
    if !c.listening then (.deaf, b)
    else match c.queue with
      | v :: rest => (.value v, { b with channels := b.channels.set id { c with queue := rest } })
      | [] => (if b.registered.contains id then .empty else .closed, b)

/-- The number of registered subscribers. -/
def subscriberCount (b : Broadcaster α) : Nat := b.registered.length

end Broadcaster

/-- What a subscriber keeps in order to leave the registry. -/
structure Subscription where
  id : Nat
  /-- Whether the subscriber is still to be taken out of the registry. -/
  pending : Bool := true
deriving DecidableEq, Repr, Inhabited

namespace Subscription

variable {α : Type}

/-- Takes the subscriber out of the registry, if that is still to be done. -/
def cleanUp (s : Subscription) (b : Broadcaster α) : Subscription × Broadcaster α :=
  if s.pending then ({ s with pending := false }, b.cancel s.id) else (s, b)

/-- Leaves at once. The subscription is given back with that, which cleans up
once more. -/
def cancel (s : Subscription) (b : Broadcaster α) : Subscription × Broadcaster α :=
  let (s, b) := s.cleanUp b
  s.cleanUp b

end Subscription

/-- The text for people that names a subscription. -/
def subscriptionText (id : Nat) : String := s!"Subscription \x7b id: {id} \x7d"

end HostTelemetry
