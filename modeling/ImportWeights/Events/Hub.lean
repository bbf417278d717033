import ImportWeights.Events.Event
import ImportWeights.Logging.Context
import ImportWeights.Text.Quoted

/-! The hub that hands events on. Each subscription has a receiver of its own; a receiver
stays readable after its subscription has ended, and a subscription whose receiver was
dropped is found out when an event it wants comes by. -/

namespace ImportWeights.Events

open ImportWeights.Logging

inductive NotificationError where
  | publishFailed (kind : String) (subscribers : List String)
deriving DecidableEq, Repr

def NotificationError.message : NotificationError → String
  | publishFailed kind subscribers =>
    "Failed to publish " ++ kind ++ " event to " ++ toString subscribers.length ++
      " subscribers: " ++ Text.quotedList subscribers

def NotificationError.details : NotificationError → String
  | publishFailed kind subscribers => Text.shownRecord "PublishFailed"
      [("event_type", Text.quoted kind), ("failed_subscribers", Text.quotedList subscribers)]

instance : Contextual NotificationError where
  message := NotificationError.message
  details := NotificationError.details
  isActionable _ := false
  userMessage? _ := none

/-- A subscriber and the number of its receiver. -/
structure Subscription where
  id : String
  filter : EventFilter
  source : String
  receiver : Nat
deriving DecidableEq, Repr

/-- The events that wait for a subscriber, and whether it still holds its receiver. -/
structure Receiver where
  waiting : List Event
  held : Bool
deriving DecidableEq, Repr

/-- The subscriptions, one for each id at most, and every receiver ever made. -/
structure Hub where
  subscriptions : List Subscription
  receivers : List Receiver
deriving DecidableEq, Repr

namespace Hub

def empty : Hub := ⟨[], []⟩

def find? (h : Hub) (id : String) : Option Subscription :=
  h.subscriptions.find? (·.id = id)

def hasSubscriber (h : Hub) (id : String) : Bool := (h.find? id).isSome

def size (h : Hub) : Nat := h.subscriptions.length

def without (h : Hub) (id : String) : Hub :=
  { h with subscriptions := h.subscriptions.filter (·.id ≠ id) }

/-- Whether a receiver exists and is still held. -/
def isHeld (h : Hub) (receiver : Nat) : Bool :=
  match h.receivers[receiver]? with
  | some r => r.held
  | none => false

/-- Subscribes, in place of an earlier subscription of that id. The number of the new
receiver comes first. -/
def subscribe (h : Hub) (id : String) (filter : EventFilter) (source : String) :
    Nat × Hub × Log :=
  let receiver := h.receivers.length
  let log := match h.find? id with
    | none => []
    | some existing =>
      [warn (.hub 53) ("Subscriber '" ++ id ++ "' replaced existing subscription (source: " ++
        existing.source ++ " -> " ++ source ++ ")")]
  (receiver,
    ⟨(h.without id).subscriptions ++ [⟨id, filter, source, receiver⟩],
      h.receivers ++ [⟨[], true⟩]⟩, log)

/-- Ends a subscription. Says whether there was one. -/
def unsubscribe (h : Hub) (id : String) : Bool × Hub := (h.hasSubscriber id, h.without id)

/-- The ids of the subscriptions that want an event and can no longer get it. -/
def unreachable (h : Hub) (e : Event) : List String :=
  (h.subscriptions.filter fun s => s.filter.accepts e && !h.isHeld s.receiver).map (·.id)

/-- Whether a receiver is to get an event. -/
def wants (h : Hub) (e : Event) (receiver : Nat) : Bool :=
  h.subscriptions.any fun s => s.receiver = receiver && s.filter.accepts e

/-- Hands an event to every subscription that wants it. Those that cannot get it are
removed and named in the error. -/
def publish (h : Hub) (e : Event) : Except NotificationError Unit × Hub :=
  let failed := h.unreachable e
  let hub : Hub :=
    { subscriptions := h.subscriptions.filter fun s => !failed.contains s.id
      receivers := h.receivers.mapIdx fun i r =>
        if r.held && h.wants e i then { r with waiting := r.waiting ++ [e] } else r }
  (if failed = [] then .ok () else .error (.publishFailed e.kind failed), hub)

/-- Publishes, and logs a failure. -/
def notify (h : Hub) (e : Event) : Hub × Log :=
  match h.publish e with
  | (.ok _, hub) => (hub, [])
  | (.error error, hub) => (hub, [debug (.hub 107) ("Notification delivery: " ++ error.message)])

/-- Takes out what waits in a receiver that is still held. -/
def drain (h : Hub) (receiver : Nat) : Option (List Event × Hub) :=
  match h.receivers[receiver]? with
  | some r =>
    if r.held then some (r.waiting, { h with receivers := h.receivers.set receiver ⟨[], true⟩ })
    else none
  | none => none

def dropReceiver (h : Hub) (receiver : Nat) : Hub :=
  { h with receivers := h.receivers.modify receiver fun _ => ⟨[], false⟩ }

/-- Whether no subscription feeds a receiver any more. -/
def isClosed (h : Hub) (receiver : Nat) : Bool :=
  !h.subscriptions.any (·.receiver = receiver)

end Hub

end ImportWeights.Events
