/-! Coordination of a shutdown: a flag that stays set, and a signal sent to everyone who
has subscribed before. The channel keeps a few signals; a subscriber that falls further
behind is told how many it missed. -/

namespace ImportWeights.Shutdown

/-- How many signals the channel keeps. -/
def capacity : Nat := 8

/-- `sent` counts the signals; a cursor is the number of those that its subscriber has
seen, missed, or come too late for. -/
structure Coordinator where
  requested : Bool
  sent : Nat
  cursors : List Nat
deriving DecidableEq, Repr

/-- What asking for the next signal gives. -/
inductive Reception where
  | signal
  | nothing
  | lagged (missed : Nat)
deriving DecidableEq, Repr

namespace Coordinator

def fresh : Coordinator := ⟨false, 0, []⟩

def request (c : Coordinator) : Coordinator := { c with requested := true }

def send (c : Coordinator) : Coordinator := { c with sent := c.sent + 1 }

/-- Sets the flag first, so that whoever subscribes too late for the signal sees it. -/
def trigger (c : Coordinator) : Coordinator := c.request.send

/-- The number of the new subscriber comes first. -/
def subscribe (c : Coordinator) : Nat × Coordinator :=
  (c.cursors.length, { c with cursors := c.cursors ++ [c.sent] })

/-- The next signal of a subscriber, if there is such a subscriber. -/
def receive (c : Coordinator) (subscriber : Nat) : Option (Reception × Coordinator) :=
  match c.cursors[subscriber]? with
  | none => none
  | some cursor =>
    if c.sent ≤ cursor then some (.nothing, c)
    else if cursor + capacity < c.sent then
      some (.lagged (c.sent - capacity - cursor),
        { c with cursors := c.cursors.set subscriber (c.sent - capacity) })
    else some (.signal, { c with cursors := c.cursors.set subscriber (cursor + 1) })

end Coordinator

/-- One who waits for the shutdown: subscribe, look at the flag, and only then wait for a
signal. Having missed signals is as good as getting one. -/
inductive Waiter where
  | ready
  | subscribed (subscriber : Nat)
  | receiving (subscriber : Nat)
  | released
deriving DecidableEq, Repr

/-- The next step of one who waits. -/
def Waiter.step (c : Coordinator) : Waiter → Waiter × Coordinator
  | .ready => (.subscribed c.subscribe.1, c.subscribe.2)
  | .subscribed i => (if c.requested then .released else .receiving i, c)
  | .receiving i =>
    match c.receive i with
    | some (.nothing, c) => (.receiving i, c)
    | some (_, c) => (.released, c)
    | none => (.receiving i, c)
  | .released => (.released, c)

/-- Whether one who starts to wait now is released at once. -/
def Coordinator.isWaitOver (c : Coordinator) : Bool :=
  let (w, c) := Waiter.ready.step c
  let (w, c) := w.step c
  (w.step c).1 = .released

/-- Whether one who starts to wait now is released at once, and whether a shutdown
triggered afterwards releases it. Who is released is no longer a subscriber. -/
def Coordinator.isWaitOverBeforeAndAfter (c : Coordinator) : (Bool × Bool) × Coordinator :=
  let (w, waited) := Waiter.ready.step c
  let (w, waited) := w.step waited
  let (w, waited) := w.step waited
  ((w = .released, (w.step waited.trigger).1 = .released), c.trigger)

end ImportWeights.Shutdown
