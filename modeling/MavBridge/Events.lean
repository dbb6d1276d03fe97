import MavBridge.Json.Basic

/-!
Notifications to whoever has subscribed.

Every subscription has a queue of its own. One that is dropped keeps its place until the next
notification or the next question for listeners clears it away; it receives nothing any more.
-/

namespace MavBridge

/-- A notification. -/
structure Event where
  name : String
  payload : Json
  deriving Repr, Inhabited

/-- A subscriber, and what it has not yet taken. -/
structure Subscriber where
  number : Nat
  isLive : Bool := true
  queue : List Event := []
  deriving Repr, Inhabited

/-- The subscribers, and how many there have been. -/
structure EventHub where
  subscribers : List Subscriber := []
  issued : Nat := 0
  deriving Repr, Inhabited

namespace EventHub

def empty : EventHub := {}

/-- Subscribe; the number names the subscription from then on. -/
def subscribe (hub : EventHub) : Nat × EventHub :=
  (hub.issued, ⟨hub.subscribers ++ [{ number := hub.issued }], hub.issued + 1⟩)

/-- The subscription `number`, while it is live. -/
def subscriber? (hub : EventHub) (number : Nat) : Option Subscriber :=
  hub.subscribers.find? fun subscriber => subscriber.isLive && subscriber.number == number

def alter (hub : EventHub) (number : Nat) (change : Subscriber → Subscriber) : EventHub :=
  { hub with
    subscribers := hub.subscribers.map fun subscriber =>
      if subscriber.number = number then change subscriber else subscriber }

/-- Drop a subscription. -/
def drop (hub : EventHub) (number : Nat) : EventHub :=
  hub.alter number fun subscriber => { subscriber with isLive := false }

/-- Clear dropped subscriptions away. -/
def prune (hub : EventHub) : EventHub :=
  { hub with subscribers := hub.subscribers.filter (·.isLive) }

/-- Whether anyone listens. -/
def hasSubscribers (hub : EventHub) : Bool × EventHub :=
  (!hub.prune.subscribers.isEmpty, hub.prune)

/-- Queue an event for every live subscription. -/
def notify (hub : EventHub) (event : Event) : EventHub :=
  { hub.prune with
    subscribers := hub.prune.subscribers.map fun subscriber =>
      { subscriber with queue := subscriber.queue ++ [event] } }

/-- Take what is queued for a live subscription. -/
def drain (hub : EventHub) (number : Nat) : Option (List Event) × EventHub :=
  match hub.subscriber? number with
  | none => (none, hub)
  | some subscriber =>
      (some subscriber.queue, hub.alter number fun subscriber => { subscriber with queue := [] })

end EventHub

end MavBridge
