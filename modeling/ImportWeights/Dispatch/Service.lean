import ImportWeights.Dispatch.Dispatcher
import ImportWeights.Fetch.Fetcher

/-! A running service: a fetcher at one end of the queue and the dispatcher at the other.
Its steps may come in any order. Stopping lets the fetcher go; the queue ends once the
tasks that are under way have ended, too, and no other fetcher is left. -/

namespace ImportWeights.Dispatch

open ImportWeights.Fetch ImportWeights.Files ImportWeights.Jobs ImportWeights.Logging
open ImportWeights.Report ImportWeights.Repository ImportWeights.Scan

structure ServiceConfig where
  fetch : FetchConfig
  scanner : ScannerConfig
deriving DecidableEq, Repr

/-- `tasks` are the fetches under way, `ended` the outcomes of those that are not, and
`received` the jobs the dispatcher has taken. -/
structure Service where
  fetcher : Fetcher
  dispatcher : Dispatcher
  pipeline : Pipeline
  tasks : List FetchTask
  ended : List FetchOutcome
  received : List Job
  stats : DispatchStats

namespace Service

def startEntry (config : ServiceConfig) (cloner : String) (reporters : List Reporter) :
    LogEntry :=
  debug (.service 44) ("starting service: staging " ++ config.fetch.stagingDir.display ++ ", " ++
    cloner ++ " cloner, reporters [" ++ ", ".intercalate (reporters.map (·.name)) ++ "]")

/-- Starts a service; only a bad exclusion pattern prevents that. -/
def start (config : ServiceConfig) (cloner : String) (reporters : List Reporter)
    (timing : Job → Timing) (files : FileTree) : Except ScanError Service :=
  match Scanner.ofConfig config.scanner with
  | .error e => .error e
  | .ok scanner =>
    let entries := [startEntry config cloner reporters, Dispatcher.startedEntry]
    .ok {
      fetcher := ⟨config.fetch, cloner, 0⟩
      dispatcher := ⟨scanner, config.fetch.stagingDir, reporters, timing⟩
      pipeline := (Pipeline.start files JobQueue.fresh).logging entries
      tasks := [], ended := [], received := [], stats := ⟨0, 0⟩ }

/-- Submits a URL to a fetcher. An accepted one becomes the last of the tasks under way. -/
def submitTo (s : Service) (f : Fetcher) (url : String) :
    Except ValidationError FetchTask × Service :=
  let (answer, pipeline) := f.accept s.pipeline url
  match answer with
  | .error e => (.error e, { s with pipeline })
  | .ok task => (.ok task, { s with pipeline, tasks := s.tasks ++ [task] })

/-- Submits a URL to the service's own fetcher. -/
def submit (s : Service) (url : String) : Except ValidationError FetchTask × Service :=
  s.submitTo s.fetcher url

/-- Makes a further fetcher from one that is held. -/
def share (s : Service) (f : Fetcher) : Fetcher × Service :=
  let (handle, queue) := s.pipeline.queue.clonePublisher f.handle
  ({ f with handle }, { s with pipeline := { s.pipeline with queue } })

/-- Lets a fetcher go. -/
def letGo (s : Service) (f : Fetcher) : Service :=
  { s with pipeline := { s.pipeline with queue := s.pipeline.queue.dropPublisher f.handle } }

/-- Lets one of the tasks under way run to its end. -/
def finish (s : Service) (task : Nat) (cloner : Cloner) : Option (FetchOutcome × Service) :=
  match s.tasks[task]? with
  | none => none
  | some t =>
    let (outcome, pipeline) := t.run cloner s.pipeline
    some (outcome, { s with
      pipeline, tasks := s.tasks.eraseIdx task, ended := s.ended ++ [outcome] })

/-- Lets the dispatcher look at the queue once. -/
def dispatchNext (s : Service) : Service :=
  let (received, stats, pipeline) := s.dispatcher.next s.stats s.pipeline
  { s with stats, pipeline, received := s.received ++ received.job?.toList }

/-- Lets the service's own fetcher go. -/
def release (s : Service) : Service := s.letGo s.fetcher

/-- The totals, once the queue has ended. -/
def stats? (s : Service) : Option DispatchStats :=
  if s.pipeline.queue.receive.1 = .ended then some s.stats else none

/-- Lets the oldest task under way, if there is one, run to its end. -/
def finishOldest (s : Service) (cloner : Cloner) : Service :=
  match s.finish 0 cloner with
  | some (_, s) => s
  | none => s

/-- Lets every task under way run to its end, the oldest first. -/
def finishAll (s : Service) (cloner : Cloner) : Service :=
  s.tasks.foldl (fun s _ => s.finishOldest cloner) s

/-- Lets the dispatcher process every job that waits. -/
def dispatchAll (s : Service) : Service :=
  s.pipeline.queue.waiting.foldl (fun s _ => s.dispatchNext) s

def abandonedEntry (grace : String) : LogEntry :=
  warn (.service 97) ("outstanding work not finished within " ++ grace ++ "; abandoning it")

/-- Stops the service and gives the totals. There are none if somebody else still holds a
fetcher when the time of grace runs out. -/
def stop (s : Service) (cloner : Cloner) (grace : String) : Option DispatchStats × Service :=
  let s := ((s.release.dispatchAll).finishAll cloner).dispatchAll
  match s.stats? with
  | some stats =>
    (some stats, { s with pipeline := s.pipeline.logging [Dispatcher.stoppedEntry stats] })
  | none => (none, { s with pipeline := s.pipeline.logging [abandonedEntry grace] })

end Service

end ImportWeights.Dispatch
