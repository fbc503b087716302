import TaskBoard.Ledger.Basic

/-!
# Subscriptions

A subscriber listens to one category of events.  Published events wait for
delivery; the bus holds a limited number of them, and a subscriber that lets
more than that wait loses the oldest, whatever their categories.
-/

namespace TaskBoard

/-- A subscriber and the events that wait for it. -/
structure Subscription where
  category : Category
  /-- The only account whose events are delivered, if there is one. -/
  recipient : Option Account
  pending : List Event
  deriving DecidableEq

namespace Subscription

/-- The number of events that can wait. -/
def capacity : Nat := 256

/-- A new subscriber to a category. -/
def toCategory (category : Category) : Subscription := ⟨category, none, []⟩

/-- The subscriber, for the events of one account only. -/
def onlyFor (subscription : Subscription) (account : Account) : Subscription :=
  { subscription with recipient := some account }

/-- Whether an event is delivered to the subscriber. -/
def wants (subscription : Subscription) (event : Event) : Bool :=
  event.category == subscription.category &&
    match subscription.recipient with
    | none => true
    | some account => event.recipient? == some account

/-- Let published events wait behind those that already do. -/
def push (subscription : Subscription) (events : List Event) : Subscription :=
  let waiting := subscription.pending ++ events
  { subscription with pending := waiting.drop (waiting.length - capacity) }

/-- The events that are delivered now. -/
def delivery (subscription : Subscription) : List Event :=
  subscription.pending.filter subscription.wants

/-- The subscriber after the delivery. -/
def settle (subscription : Subscription) : Subscription := { subscription with pending := [] }

end Subscription

/-- Subscribe to a category, while the connection stands. -/
def Ledger.subscribe (ledger : Ledger) (category : Category) : Except Refusal Subscription :=
  ledger.checkOnline.map fun () => .toCategory category

/-- Subscribers by the names under which they are known, in ascending order. -/
abbrev Subscribers := List (String × Subscription)

namespace Subscribers

/-- Add a subscriber, in place of one with the same name. -/
def insert (name : String) (subscription : Subscription) : Subscribers → Subscribers
  | [] => [(name, subscription)]
  | (other, kept) :: rest =>
      if name < other then (name, subscription) :: (other, kept) :: rest
      else if name = other then (name, subscription) :: rest
      else (other, kept) :: insert name subscription rest

/-- Remove the subscriber of a name. -/
def cancel (name : String) (subscribers : Subscribers) : Subscribers :=
  subscribers.filter fun entry => entry.1 != name

/-- Let published events wait for every subscriber. -/
def publish (events : List Event) (subscribers : Subscribers) : Subscribers :=
  subscribers.map fun entry => (entry.1, entry.2.push events)

/-- What is delivered to each subscriber, where anything is. -/
def deliveries (subscribers : Subscribers) : List (String × List Event) :=
  (subscribers.map fun entry => (entry.1, entry.2.delivery)).filter fun entry =>
    !entry.2.isEmpty

/-- The subscribers after the delivery. -/
def settle (subscribers : Subscribers) : Subscribers :=
  subscribers.map fun entry => (entry.1, entry.2.settle)

end Subscribers

end TaskBoard
