import ImportWeights.Events.Hub
import ImportWeights.Files.Tree
import ImportWeights.Jobs.Queue
import ImportWeights.Report.Reporter

/-! What fetching and scanning share: the files, the job queue, the event hub, and a
record of what has happened. -/

namespace ImportWeights.Dispatch

open ImportWeights.Events ImportWeights.Files ImportWeights.Jobs ImportWeights.Logging
open ImportWeights.Report

/-- Something that happened, in the order of the record. -/
inductive Occurrence where
  | event (event : Event)
  | cloneCall (url : String) (dest : Path)
  | report (reporter : String) (report : ScanReport)
deriving DecidableEq, Repr

structure Pipeline where
  files : FileTree
  queue : JobQueue
  hub : Hub
  history : List Occurrence
  log : Log
  printed : String

namespace Pipeline

def start (files : FileTree) (queue : JobQueue) : Pipeline :=
  ⟨files, queue, Hub.empty, [], [], ""⟩

def logging (p : Pipeline) (entries : Log) : Pipeline := { p with log := p.log ++ entries }

/-- Hands an event to the subscribers. -/
def announce (p : Pipeline) (e : Event) : Pipeline :=
  let (hub, log) := p.hub.notify e
  { p with hub, log := p.log ++ log, history := p.history ++ [.event e] }

/-- What a reporter finds and can change. -/
def outlet (p : Pipeline) : Outlet := ⟨p.files, p.printed, p.log⟩

/-- Hands a report to a reporter. -/
def deliver (p : Pipeline) (r : Reporter) (report : ScanReport) :
    Except ReportError Unit × Pipeline :=
  let (answer, outlet) := r.emit report p.outlet
  (answer, { p with files := outlet.files, printed := outlet.printed, log := outlet.log
                    history := p.history ++ [.report r.name report] })

section Fields

variable (p : Pipeline) (entries : Log) (e : Event) (r : Reporter) (report : ScanReport)

@[simp] theorem logging_files : (p.logging entries).files = p.files := rfl
@[simp] theorem logging_queue : (p.logging entries).queue = p.queue := rfl
@[simp] theorem logging_history : (p.logging entries).history = p.history := rfl
@[simp] theorem announce_files : (p.announce e).files = p.files := rfl
@[simp] theorem announce_queue : (p.announce e).queue = p.queue := rfl
@[simp] theorem announce_history : (p.announce e).history = p.history ++ [.event e] := rfl
@[simp] theorem deliver_queue : (p.deliver r report).2.queue = p.queue := rfl
@[simp] theorem deliver_history :
    (p.deliver r report).2.history = p.history ++ [.report r.name report] := rfl
@[simp] theorem deliver_outlet : (p.deliver r report).2.outlet = (r.emit report p.outlet).2 := rfl

end Fields

end Pipeline

end ImportWeights.Dispatch
