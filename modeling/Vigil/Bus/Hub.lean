import Vigil.Bus.Message

/-!
# The message bus

Publishing a message first keeps it in the bounded history of its topic, and then hands it to the
handlers that are subscribed to the topic at that moment, in the order of their subscriptions.  A
handler may itself publish, subscribe and unsubscribe, and it may fail; a failure is not counted
as a delivery and disturbs nobody else.

A handler reacts to a message with a script.  Scripts may publish again and so make the bus call
other handlers; the depth of such nesting is bounded by the first argument of `Bus.publish?`, which
gives nothing if the bound does not suffice.
-/

namespace Vigil

/-- What a handler does: one action, and what follows from its result. -/
inductive Script (ν : Type) where
  /-- Nothing more. -/
  | done
  /-- Fail. -/
  | fail
  /-- Publish a message; the result is the number of deliveries. -/
  | publish (message : Message ν) (next : Nat → Script ν)
  /-- Subscribe a handler; the result is the subscription. -/
  | subscribe (topic : String) (handler : Message ν → Script ν) (next : Nat → Script ν)
  /-- Remove a subscription; the result says whether there was one. -/
  | unsubscribe (id : Nat) (next : Bool → Script ν)

/-- How a subscriber reacts to a message. -/
abbrev Handler (ν : Type) := Message ν → Script ν

/-- A handler's subscription to a topic. -/
structure Subscription (ν : Type) where
  id : Nat
  topic : String
  handler : Handler ν

/-- The subscriptions, in order, and the messages that are kept for each topic. -/
structure Bus (ν : Type) where
  capacity : Nat := 128
  nextId : Nat := 0
  subscriptions : List (Subscription ν) := []
  kept : String → List (Message ν) := fun _ => []

namespace Bus

variable {ν : Type}

/-! ## Subscriptions -/

/-- Subscribe a handler; subscriptions are numbered in order. -/
def subscribe (b : Bus ν) (topic : String) (handler : Handler ν) : Nat × Bus ν :=
  (b.nextId,
    { b with
      nextId := b.nextId + 1
      subscriptions := b.subscriptions ++ [⟨b.nextId, topic, handler⟩] })

/-- Remove a subscription; was there one? -/
def unsubscribe (b : Bus ν) (id : Nat) : Bool × Bus ν :=
  (b.subscriptions.any (·.id == id),
    { b with subscriptions := b.subscriptions.filter (·.id != id) })

/-- The subscriptions to a topic. -/
def subscribers (b : Bus ν) (topic : String) : List (Subscription ν) :=
  b.subscriptions.filter (·.topic == topic)

/-! ## History -/

/-- The messages kept for a topic, oldest first. -/
def history (b : Bus ν) (topic : String) : List (Message ν) :=
  b.kept topic

/-- Put a message into a ring.  If the ring is full, its oldest message gives way; a ring without
room takes none. -/
def pushRing (capacity : Nat) (ring : List (Message ν)) (m : Message ν) : List (Message ν) :=
  if capacity = 0 then ring
  else (if ring.length = capacity then ring.tail else ring) ++ [m]

/-- Keep a message in the ring of its topic. -/
def keep (b : Bus ν) (m : Message ν) : Bus ν :=
  let messages := pushRing b.capacity (b.kept m.topic) m
  { b with kept := fun topic => if topic = m.topic then messages else b.kept topic }

/-! ## Publishing -/

/-- What happened while a message was published. -/
inductive Entry (ν : Type) where
  /-- The handler of a subscription was called with a message. -/
  | called (id : Nat) (message : Message ν)
  /-- The handler of a subscription published a message, which so many handlers took. -/
  | published (id : Nat) (count : Nat)

/-- The message with which the handler of one of some subscriptions was called. -/
def Entry.handed? (ids : List Nat) : Entry ν → Option (Message ν)
  | called id m => if id ∈ ids then some m else none
  | published .. => none

/-- The state of the bus after an action, whether the handler got to its end, and what happened. -/
structure Progress (ν : Type) where
  bus : Bus ν
  finished : Bool
  log : List (Entry ν)

/-- The state of the bus after a publication, the number of deliveries, and what happened. -/
structure Publication (ν : Type) where
  bus : Bus ν
  delivered : Nat
  log : List (Entry ν)

/-- Carry out the script of a handler; nested publications are left to `publish`. -/
def perform (publish : Bus ν → Message ν → Option (Publication ν)) (id : Nat) :
    Script ν → Bus ν → Option (Progress ν)
  | .done, b => some ⟨b, true, []⟩
  | .fail, b => some ⟨b, false, []⟩
  | .publish m next, b =>
    match publish b m with
    | none => none
    | some p =>
      (perform publish id (next p.delivered) p.bus).map fun q =>
        { q with log := p.log ++ .published id p.delivered :: q.log }
  | .subscribe topic handler next, b =>
    let (new, b) := b.subscribe topic handler
    perform publish id (next new) b
  | .unsubscribe old next, b =>
    let (found, b) := b.unsubscribe old
    perform publish id (next found) b

/-- Hand a message to some subscribers. -/
def deliver (publish : Bus ν → Message ν → Option (Publication ν)) (m : Message ν) :
    List (Subscription ν) → Bus ν → Option (Publication ν)
  | [], b => some ⟨b, 0, []⟩
  | s :: rest, b =>
    match perform publish s.id (s.handler m) b with
    | none => none
    | some q =>
      (deliver publish m rest q.bus).map fun p =>
        ⟨p.bus, p.delivered + if q.finished then 1 else 0, .called s.id m :: q.log ++ p.log⟩

/-- Publish a message, with publications nested at most to the given depth. -/
def publish? : Nat → Bus ν → Message ν → Option (Publication ν)
  | 0, _, _ => none
  | depth + 1, b, m => deliver (publish? depth) m (b.subscribers m.topic) (b.keep m)

/-! ## Common handlers -/

/-- A handler that only takes notice. -/
def listening : Handler ν := fun _ => .done

/-- A handler that fails. -/
def failing : Handler ν := fun _ => .fail

/-- A handler that publishes what it receives on another topic. -/
def forwarding (topic producer : String) : Handler ν :=
  fun m => .publish ⟨topic, producer, m.payload⟩ fun _ => .done

/-! ## Laws -/

theorem history_keep_self (b : Bus ν) (m : Message ν) :
    (b.keep m).history m.topic = pushRing b.capacity (b.history m.topic) m := by
  simp [keep, history]

theorem history_keep_of_ne {b : Bus ν} {m : Message ν} {topic : String} (h : topic ≠ m.topic) :
    (b.keep m).history topic = b.history topic := by
  simp [keep, history, h]

end Bus

end Vigil
