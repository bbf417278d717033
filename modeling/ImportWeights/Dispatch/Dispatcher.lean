import ImportWeights.Dispatch.Pipeline
import ImportWeights.Scan.Scanner

/-! The dispatcher: it takes one job at a time off the queue, scans its folder, and hands
the report to every reporter. A job that fails never keeps the next one waiting. -/

namespace ImportWeights.Dispatch

open ImportWeights.Events ImportWeights.Files ImportWeights.Jobs ImportWeights.Logging
open ImportWeights.Report ImportWeights.Scan

structure DispatchStats where
  completed : Nat
  failed : Nat
deriving DecidableEq, Repr

/-- When a scan was finished, and how long it took. -/
structure Timing where
  completedAt : Timestamp
  duration : Span
deriving DecidableEq, Repr

structure Dispatcher where
  scanner : Scanner
  stagingDir : Path
  reporters : List Reporter
  timing : Job → Timing

namespace Dispatcher

/-- Where the checkout of a job lies. -/
def scanRoot (d : Dispatcher) (job : Job) : Path := d.stagingDir.join (Path.ofString job.folder)

def jobEvent (job : Job) (type : ScanEventType) (message : Option String) : Event :=
  .scan ⟨type, job.folder, job.sequence, message⟩

/-- The event that tells of a diagnostic. -/
def diagnosticEvent (job : Job) : Diagnostic → Event
  | .skipped e => jobEvent job .fileSkipped (some e.message)
  | .unterminated path package imports =>
    jobEvent job .unterminatedImportBlock (some (path.display ++ ": package '" ++ package ++
      "' dropped with " ++ toString imports ++ " import(s)"))

def failureEntry (job : Job) (e : ScanError) : LogEntry :=
  let text := "scan of " ++ job.display ++ " failed: " ++ e.message
  match Contextual.userMessage? e with
  | some hint =>
    if Contextual.isActionable e then error (.dispatcher 108) (text ++ " (" ++ hint ++ ")")
    else error (.dispatcher 110) text
  | none => error (.dispatcher 110) text

def successEntry (job : Job) (scan : TreeScan) (weights : WeightMap) : LogEntry :=
  info (.dispatcher 118) ("job " ++ job.display ++ ": " ++ toString scan.packages.length ++
    " records from " ++ toString scan.filesScanned ++ " files, " ++ toString weights.size ++
    " edges")

/-- Hands a report to the reporters in turn, and gives the failures with their names. -/
def deliverAll (p : Pipeline) (report : ScanReport) :
    List Reporter → List (String × ReportError) × Pipeline
  | [] => ([], p)
  | r :: rest =>
    let (answer, p) := p.deliver r report
    let (failures, p) := deliverAll p report rest
    match answer with
    | .ok _ => (failures, p)
    | .error e => ((r.name, e) :: failures, p)

def refusalEntry (report : ScanReport) (name : String) (e : ReportError) : LogEntry :=
  error (.dispatcher 167)
    ("reporter '" ++ name ++ "' failed for job " ++ report.job.display ++ ": " ++ e.message)

/-- Reports to all, and logs the failures once all have been asked. -/
def emit (d : Dispatcher) (p : Pipeline) (report : ScanReport) : Pipeline :=
  let (failures, p) := deliverAll p report d.reporters
  p.logging (failures.map fun (name, e) => refusalEntry report name e)

/-- The report of a scan that succeeded. -/
def reportOf (d : Dispatcher) (job : Job) (scan : TreeScan) : ScanReport :=
  let timing := d.timing job
  { job, weights := WeightMap.ofRecords scan.packages, packages := scan.packages.length
    filesScanned := scan.filesScanned, completedAt := timing.completedAt
    duration := timing.duration }

/-- Scans one job and reports on it. -/
def process (d : Dispatcher) (job : Job) (p : Pipeline) :
    Except ScanError ScanReport × Pipeline :=
  let root := d.scanRoot job
  let p := p.logging
    [info (.dispatcher 78) ("scanning job " ++ job.display ++ " at " ++ root.display)]
  let p := p.announce (jobEvent job .started none)
  let run := d.scanner.scanTree p.files root
  let p := p.logging run.log
  let p := run.diagnostics.foldl (fun p diagnostic => p.announce (diagnosticEvent job diagnostic)) p
  match run.result with
  | .error e =>
    let p := p.logging [failureEntry job e]
    (.error e, p.announce (jobEvent job .error (some e.message)))
  | .ok scan =>
    let report := d.reportOf job scan
    let p := d.emit (p.logging [successEntry job scan report.weights]) report
    (.ok report, p.announce (jobEvent job .completed none))

def count (stats : DispatchStats) : Except ScanError ScanReport → DispatchStats
  | .ok _ => { stats with completed := stats.completed + 1 }
  | .error _ => { stats with failed := stats.failed + 1 }

/-- Takes the next job off the queue and processes it. Says what the queue gave. -/
def next (d : Dispatcher) (stats : DispatchStats) (p : Pipeline) :
    Received × DispatchStats × Pipeline :=
  let (received, queue) := p.queue.receive
  let p := { p with queue }
  match received with
  | .job job =>
    let (result, p) := d.process job p
    (received, count stats result, p)
  | _ => (received, stats, p)

/-- Processes jobs up to a number of them, or until none waits. -/
def drain (d : Dispatcher) : Nat → DispatchStats → Pipeline → DispatchStats × Pipeline
  | 0, stats, p => (stats, p)
  | fuel + 1, stats, p =>
    match d.next stats p with
    | (.job _, stats, p) => d.drain fuel stats p
    | (_, stats, p) => (stats, p)

def startedEntry : LogEntry := debug (.dispatcher 57) "dispatcher started"

def stoppedEntry (stats : DispatchStats) : LogEntry :=
  info (.dispatcher 66) ("dispatcher stopped: " ++ toString stats.completed ++
    " scans completed, " ++ toString stats.failed ++ " failed")

/-- Processes every job that waits in a queue that nobody publishes to any more. -/
def run (d : Dispatcher) (p : Pipeline) : DispatchStats × Pipeline :=
  let p := p.logging [startedEntry]
  let (stats, p) := d.drain p.queue.waiting.length ⟨0, 0⟩ p
  (stats, p.logging [stoppedEntry stats])

end Dispatcher

end ImportWeights.Dispatch
