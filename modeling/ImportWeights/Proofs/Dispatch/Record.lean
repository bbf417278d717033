import ImportWeights.Dispatch.Pipeline
import ImportWeights.Proofs.Events.Publication

/-! # The record and the hub

A pipeline keeps a record of what has happened, and every event on it was handed to the hub.
So whatever is done to a pipeline can be told by what it adds to the record (`Tells`): what comes
to wait in a subscriber's receiver is read off there (`Tells.reaches`), and what two things done
one after the other add is the one list after the other. -/

namespace ImportWeights.Dispatch

open ImportWeights.Events ImportWeights.Logging ImportWeights.Report

def Occurrence.event? : Occurrence → Option Event
  | .event e => some e
  | _ => none

/-- The events of a record. -/
def told (history : List Occurrence) : List Event := history.filterMap Occurrence.event?

@[simp] theorem told_append (a b : List Occurrence) : told (a ++ b) = told a ++ told b :=
  List.filterMap_append

@[simp] theorem told_events (es : List Event) : told (es.map .event) = es := by
  rw [told, List.filterMap_map]
  exact List.filterMap_some

namespace Pipeline

/-- From one pipeline to another this was added to the record, and the hub was handed the
events of it and nothing else. -/
structure Tells (p q : Pipeline) (added : List Occurrence) : Prop where
  history : q.history = p.history ++ added
  hub : Hub.Run p.hub (Hub.notices (told added)) q.hub

namespace Tells

variable {p q r : Pipeline} {added more : List Occurrence}

theorem refl (p : Pipeline) : p.Tells p [] := ⟨(List.append_nil _).symm, .start⟩

theorem trans (first : p.Tells q added) (next : q.Tells r more) : p.Tells r (added ++ more) where
  history := by rw [next.history, first.history, List.append_assoc]
  hub := by
    rw [told_append, Hub.notices, List.map_append]
    exact first.hub.trans next.hub

/-- Only the record and the hub matter. -/
theorem congr (h : p.Tells q added) (history : r.history = q.history) (hub : r.hub = q.hub) :
    p.Tells r added := ⟨history.trans h.history, hub ▸ h.hub⟩

/-- What is told is what the subscribers get: whatever was done with the hub before, a receiver
that is held and subscribed holds in the end what it held and, in order, the events of the record
that its subscription accepts. -/
theorem reaches {past : List Hub.Step} {s : Subscription} (h : p.Tells q added)
    (run : Hub.Run .empty past p.hub) (subscribed : s ∈ p.hub.subscriptions)
    (held : p.hub.isHeld s.receiver = true) :
    q.hub.waitingFor s.receiver =
        p.hub.waitingFor s.receiver ++ (told added).filter s.filter.accepts ∧
      s ∈ q.hub.subscriptions ∧ q.hub.isHeld s.receiver = true :=
  h.hub.notices_reach (run.sound .start) subscribed held

theorem logging (h : p.Tells q added) (entries : Log) : p.Tells (q.logging entries) added :=
  h.congr rfl rfl

theorem announce (h : p.Tells q added) (e : Event) :
    p.Tells (q.announce e) (added ++ [.event e]) :=
  h.trans ⟨rfl, Hub.run_notify q.hub e⟩

theorem deliver (h : p.Tells q added) (reporter : Reporter) (report : ScanReport) :
    p.Tells (q.deliver reporter report).2 (added ++ [.report reporter.name report]) :=
  h.trans ⟨rfl, .start⟩

end Tells

end Pipeline

end ImportWeights.Dispatch
