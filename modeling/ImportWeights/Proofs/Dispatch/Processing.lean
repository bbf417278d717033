import ImportWeights.Dispatch.Dispatcher
import ImportWeights.Proofs.Dispatch.Record

/-! What processing one job leaves behind: it never touches the queue, and it adds to the
record one block that begins with the start of the scan and ends with how the scan ended. The
block depends on the job and on the files that it finds, and on nothing else. -/

namespace ImportWeights.Dispatch.Dispatcher

open ImportWeights.Events ImportWeights.Files ImportWeights.Jobs ImportWeights.Report
open ImportWeights.Scan

variable (d : Dispatcher) (job : Job) (p : Pipeline) (report : ScanReport)

theorem announceAll_queue (diagnostics : List Diagnostic) :
    (diagnostics.foldl (fun p x => p.announce (diagnosticEvent job x)) p).queue = p.queue := by
  induction diagnostics generalizing p with
  | nil => rfl
  | cons x rest ih => rw [List.foldl_cons, ih, Pipeline.announce_queue]

theorem announceAll_tells {q : Pipeline} {added : List Occurrence} (h : p.Tells q added)
    (diagnostics : List Diagnostic) :
    p.Tells (diagnostics.foldl (fun p x => p.announce (diagnosticEvent job x)) q)
      (added ++ diagnostics.map fun x => .event (diagnosticEvent job x)) := by
  induction diagnostics generalizing q added with
  | nil => simpa using h
  | cons x rest ih => simpa using ih (h.announce (diagnosticEvent job x))

theorem deliverAll_snd_cons (r : Reporter) (rest : List Reporter) :
    (deliverAll p report (r :: rest)).2 = (deliverAll (p.deliver r report).2 report rest).2 := by
  simp only [deliverAll]
  split <;> rfl

theorem deliverAll_queue (reporters : List Reporter) :
    (deliverAll p report reporters).2.queue = p.queue := by
  induction reporters generalizing p with
  | nil => rfl
  | cons r rest ih => rw [deliverAll_snd_cons, ih, Pipeline.deliver_queue]

theorem deliverAll_tells {q : Pipeline} {added : List Occurrence} (h : p.Tells q added)
    (reporters : List Reporter) :
    p.Tells (deliverAll q report reporters).2
      (added ++ reporters.map fun r => .report r.name report) := by
  induction reporters generalizing q added with
  | nil => simpa [deliverAll] using h
  | cons r rest ih =>
    rw [deliverAll_snd_cons]
    simpa using ih (h.deliver r report)

@[simp] theorem emit_queue : (d.emit p report).queue = p.queue :=
  deliverAll_queue p report d.reporters

theorem emit_tells {q : Pipeline} {added : List Occurrence} (h : p.Tells q added) :
    p.Tells (d.emit q report) (added ++ d.reporters.map fun r => .report r.name report) :=
  (deliverAll_tells p report h d.reporters).logging _

/-- What a scan adds to the record once its diagnostics were told. -/
def closing : Except ScanError TreeScan → List Occurrence
  | .error e => [.event (jobEvent job .error (some e.message))]
  | .ok scan => d.reporters.map (fun r => .report r.name (d.reportOf job scan)) ++
      [.event (jobEvent job .completed none)]

/-- What a job adds to the record if these are the files that it finds. -/
def block (files : FileTree) : List Occurrence :=
  let run := d.scanner.scanTree files (d.scanRoot job)
  .event (jobEvent job .started none) ::
    (run.diagnostics.map fun x => .event (diagnosticEvent job x)) ++ d.closing job run.result

/-- The event that tells how a scan ended. -/
def endEvent (job : Job) : Except ScanError TreeScan → Event
  | .error e => jobEvent job .error (some e.message)
  | .ok _ => jobEvent job .completed none

/-- What passes over the start of a scan, its diagnostics and its reports finds the end of the
scan at most. -/
theorem filterMap_block {α : Type} {f : Occurrence → Option α} (files : FileTree)
    (started : f (.event (jobEvent job .started none)) = none)
    (diagnostic : ∀ x, f (.event (diagnosticEvent job x)) = none)
    (reported : ∀ name report, f (.report name report) = none) :
    (d.block job files).filterMap f =
      (f (.event (endEvent job (d.scanner.scanTree files (d.scanRoot job)).result))).toList := by
  have closing (result : Except ScanError TreeScan) :
      (d.closing job result).filterMap f = (f (.event (endEvent job result))).toList := by
    cases result with
    | error e =>
      cases h : f (.event (jobEvent job .error (some e.message))) <;> simp [closing, endEvent, h]
    | ok scan =>
      cases h : f (.event (jobEvent job .completed none)) <;>
        simp [closing, endEvent, h, reported]
  simp [block, closing, started, diagnostic]

@[simp] theorem process_queue : (d.process job p).2.queue = p.queue := by
  cases result : (d.scanner.scanTree p.files (d.scanRoot job)).result <;>
    simp [process, result, announceAll_queue]

theorem process_result :
    (d.process job p).1 =
      (d.scanner.scanTree p.files (d.scanRoot job)).result.map (d.reportOf job) := by
  cases result : (d.scanner.scanTree p.files (d.scanRoot job)).result <;>
    simp [process, result, Except.map]

theorem process_tells : p.Tells (d.process job p).2 (d.block job p.files) := by
  let run := d.scanner.scanTree p.files (d.scanRoot job)
  have begun : p.Tells _ [.event (jobEvent job .started none)] :=
    ((Pipeline.Tells.refl p).logging [Logging.info (.dispatcher 78)
      ("scanning job " ++ job.display ++ " at " ++ (d.scanRoot job).display)]).announce _
  have scanned := announceAll_tells job p (begun.logging run.log) run.diagnostics
  cases result : run.result with
  | error e =>
    have failed := (scanned.logging [failureEntry job e]).announce
      (jobEvent job .error (some e.message))
    simpa [process, block, closing, run, result] using failed
  | ok scan =>
    have reported := d.emit_tells p (d.reportOf job scan)
      (scanned.logging [successEntry job scan (d.reportOf job scan).weights])
    have completed := reported.announce (jobEvent job .completed none)
    simpa [process, block, closing, run, result] using completed

end ImportWeights.Dispatch.Dispatcher

namespace ImportWeights.Dispatch

open ImportWeights.Events ImportWeights.Jobs

/-- The folder and number of the job whose scan is told to have ended. -/
def Occurrence.settled? : Occurrence → Option (String × Nat)
  | .event (.scan ⟨.completed, folder, sequence, _⟩) => some (folder, sequence)
  | .event (.scan ⟨.error, folder, sequence, _⟩) => some (folder, sequence)
  | _ => none

/-- The jobs whose scans have ended, as the record tells. -/
def settled (history : List Occurrence) : List (String × Nat) :=
  history.filterMap Occurrence.settled?

@[simp] theorem settled_append (a b : List Occurrence) :
    settled (a ++ b) = settled a ++ settled b :=
  List.filterMap_append

theorem settled_block (d : Dispatcher) (job : Job) (files : Files.FileTree) :
    settled (d.block job files) = [(job.folder, job.sequence)] := by
  rw [settled, d.filterMap_block job files rfl (fun x => by cases x <;> rfl) fun _ _ => rfl]
  cases (d.scanner.scanTree files (d.scanRoot job)).result <;> rfl

theorem settled_process (d : Dispatcher) (job : Job) (p : Pipeline) :
    settled (d.process job p).2.history = settled p.history ++ [(job.folder, job.sequence)] := by
  rw [(d.process_tells job p).history, settled_append, settled_block]

end ImportWeights.Dispatch
