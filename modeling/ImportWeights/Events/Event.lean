/-! What happens to repositories, as told to whoever listens. -/

namespace ImportWeights.Events

inductive FetchEventType where
  | accepted
  | cloned
  /-- The destination held a checkout already. -/
  | alreadyPresent
  | failed
  | queued
deriving DecidableEq, Repr

inductive ScanEventType where
  | started
  | fileSkipped
  | unterminatedImportBlock
  | completed
  | error
deriving DecidableEq, Repr

structure FetchEvent where
  type : FetchEventType
  url : String
  folder : Option String
  message : Option String
deriving DecidableEq, Repr

structure ScanEvent where
  type : ScanEventType
  job : String
  sequence : Nat
  message : Option String
deriving DecidableEq, Repr

inductive Event where
  | fetch (event : FetchEvent)
  | scan (event : ScanEvent)
deriving DecidableEq, Repr

def Event.kind : Event → String
  | fetch _ => "Fetch"
  | scan _ => "Scan"

/-- Which events a subscriber wants. -/
inductive EventFilter where
  | all
  | fetchOnly
  | scanOnly
deriving DecidableEq, Repr

def EventFilter.accepts : EventFilter → Event → Bool
  | all, _ => true
  | fetchOnly, .fetch _ => true
  | scanOnly, .scan _ => true
  | _, _ => false

end ImportWeights.Events
