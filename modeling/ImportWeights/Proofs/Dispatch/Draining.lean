import ImportWeights.Proofs.Dispatch.Processing
import ImportWeights.Proofs.Scan.Confinement
import ImportWeights.Report.Console

/-! # A drained queue, job by job

A run of the dispatcher is what it does with the jobs one after the other (`drain_eq`), and
each job gives what it gives alone with the files that it finds. These files are all that one
job hands on to the next, and only reporters change them (`finds_kept`). So a report that is
written into a checkout is found by the next scan of it; nothing else of a job, of its failure
or of a reporter's reaches another one. -/

namespace ImportWeights.Dispatch

open ImportWeights.Events ImportWeights.Files ImportWeights.Jobs ImportWeights.Report
open ImportWeights.Scan

/-- The same pipeline around another queue. -/
def Pipeline.withQueue (p : Pipeline) (queue : JobQueue) : Pipeline := { p with queue }

namespace Dispatcher

/-- What processing a job gives and what it adds to the record, with these files and nothing
else around it. -/
def alone (d : Dispatcher) (files : FileTree) (job : Job) :
    Except ScanError ScanReport × List Occurrence :=
  ((d.process job (.start files .fresh)).1, (d.process job (.start files .fresh)).2.history)

/-- The pipeline after jobs were processed one after the other. -/
def processAll (d : Dispatcher) (p : Pipeline) (jobs : List Job) : Pipeline :=
  jobs.foldl (fun p job => (d.process job p).2) p

/-- The jobs in turn, each with the files that it finds: those left when the jobs before it
had been processed. -/
def finds (d : Dispatcher) (p : Pipeline) : List Job → List (Job × FileTree)
  | [] => []
  | job :: rest => (job, p.files) :: d.finds (d.process job p).2 rest

variable {d : Dispatcher} {job : Job} {jobs : List Job} {p : Pipeline} {files : FileTree}

/-! ## One job -/

theorem alone_eq (d : Dispatcher) (files : FileTree) (job : Job) :
    d.alone files job = ((d.scanner.scanTree files (d.scanRoot job)).result.map (d.reportOf job),
      d.block job files) := by
  have history := (d.process_tells job (.start files .fresh)).history
  rw [alone, history, process_result]
  rfl

theorem process_eq_alone (d : Dispatcher) (job : Job) (p : Pipeline) :
    (d.process job p).1 = (d.alone p.files job).1 := by
  rw [alone_eq, process_result]

/-- A scan that fails is told to have begun and to have failed, and nothing is reported. -/
theorem alone_of_error {e : ScanError}
    (h : collectCandidates d.scanner.filter files (d.scanRoot job) = .error e) :
    d.alone files job = (.error e,
      [.event (jobEvent job .started none), .event (jobEvent job .error (some e.message))]) := by
  rw [alone_eq, block, scanTree_of_error h]
  rfl

/-- A scan that succeeds tells of the files in walk order; then every reporter is given the
report, and then the end is told. -/
theorem alone_of_ok {names : List (List Name)}
    (h : collectCandidates d.scanner.filter files (d.scanRoot job) = .ok names) :
    let readings := d.scanner.readings files (names.map (pathBelow (d.scanRoot job)))
    let report := d.reportOf job ⟨recordsOf readings, names.length⟩
    d.alone files job = (.ok report,
      .event (jobEvent job .started none) ::
        ((diagnosticsOf readings).map fun x => .event (diagnosticEvent job x)) ++
        d.reporters.map (fun r => .report r.name report) ++
        [.event (jobEvent job .completed none)]) := by
  intro readings report
  obtain ⟨result, diagnostics⟩ := scanTree_of_ok h
  rw [alone_eq, block, result, diagnostics, closing, List.append_assoc]
  rfl

/-! ## The queue plays no part -/

section WithQueue

variable (queue : JobQueue)

theorem announceAll_withQueue (diagnostics : List Diagnostic) :
    diagnostics.foldl (fun p x => p.announce (diagnosticEvent job x)) (p.withQueue queue) =
      (diagnostics.foldl (fun p x => p.announce (diagnosticEvent job x)) p).withQueue queue := by
  induction diagnostics generalizing p with
  | nil => rfl
  | cons x rest ih => exact ih (p := p.announce _)

theorem deliverAll_withQueue (report : ScanReport) (reporters : List Reporter) :
    deliverAll (p.withQueue queue) report reporters = ((deliverAll p report reporters).1,
      (deliverAll p report reporters).2.withQueue queue) := by
  induction reporters generalizing p with
  | nil => rfl
  | cons r rest ih =>
    have first : (p.withQueue queue).deliver r report =
      ((p.deliver r report).1, (p.deliver r report).2.withQueue queue) := rfl
    simp only [deliverAll, first, ih]
    split <;> rfl

theorem process_withQueue (d : Dispatcher) (job : Job) :
    d.process job (p.withQueue queue) =
      ((d.process job p).1, (d.process job p).2.withQueue queue) := by
  have files (p : Pipeline) : (p.withQueue queue).files = p.files := rfl
  have logging (p : Pipeline) (entries : Logging.Log) :
    (p.withQueue queue).logging entries = (p.logging entries).withQueue queue := rfl
  have announce (p : Pipeline) (e : Event) :
    (p.withQueue queue).announce e = (p.announce e).withQueue queue := rfl
  have emit (p : Pipeline) (report : ScanReport) :
      d.emit (p.withQueue queue) report = (d.emit p report).withQueue queue := by
    simp only [Dispatcher.emit, deliverAll_withQueue]
    rfl
  simp only [process, logging, announce, emit, announceAll_withQueue, files,
    Pipeline.announce_files, Pipeline.logging_files]
  split <;> rfl

theorem finds_withQueue : d.finds (p.withQueue queue) jobs = d.finds p jobs := by
  induction jobs generalizing p with
  | nil => rfl
  | cons job rest ih =>
    rw [finds, finds, process_withQueue, ih]
    rfl

theorem processAll_withQueue :
    d.processAll (p.withQueue queue) jobs = (d.processAll p jobs).withQueue queue := by
  induction jobs generalizing p with
  | nil => rfl
  | cons job rest ih =>
    rw [processAll, List.foldl_cons, process_withQueue]
    exact ih

end WithQueue

/-! ## All jobs -/

theorem map_fst_finds (d : Dispatcher) (p : Pipeline) (jobs : List Job) :
    (d.finds p jobs).map (·.1) = jobs := by
  induction jobs generalizing p with
  | nil => rfl
  | cons job rest ih => rw [finds, List.map_cons, ih]

theorem processAll_tells (d : Dispatcher) (p : Pipeline) (jobs : List Job) :
    p.Tells (d.processAll p jobs) ((d.finds p jobs).flatMap fun x => (d.alone x.2 x.1).2) := by
  induction jobs generalizing p with
  | nil => exact .refl p
  | cons job rest ih =>
    rw [finds, List.flatMap_cons, alone_eq]
    exact (d.process_tells job p).trans (ih _)

theorem foldl_count (results : List (Except ScanError ScanReport)) (stats : DispatchStats) :
    results.foldl count stats = ⟨stats.completed + results.countP (·.isOk),
      stats.failed + results.countP (!·.isOk)⟩ := by
  induction results generalizing stats with
  | nil => rfl
  | cons result rest ih =>
    rw [List.foldl_cons, ih]
    cases result <;> simp [count, Except.isOk, Except.toBool] <;> omega

/-- Draining a queue is processing the jobs that wait in it. -/
theorem drain_eq (consumer : p.queue.hasConsumer = true) (waiting : p.queue.waiting = jobs)
    (stats : DispatchStats) :
    ∃ queue : JobQueue, queue.waiting = [] ∧ d.drain jobs.length stats p =
      (((d.finds p jobs).map fun x => (d.alone x.2 x.1).1).foldl count stats,
        (d.processAll p jobs).withQueue queue) := by
  induction jobs generalizing p stats with
  | nil => exact ⟨p.queue, waiting, rfl⟩
  | cons job rest ih =>
    let left : JobQueue := { p.queue with waiting := rest, pending := p.queue.pending - 1 }
    have received : p.queue.receive = (.job job, left) :=
      JobQueue.receive_of_waiting consumer waiting
    have next : d.next stats p = (.job job, count stats (d.alone p.files job).1,
        (d.process job p).2.withQueue left) := by
      have taken := process_withQueue left d job (p := p)
      rw [Pipeline.withQueue] at taken
      simp only [next, received, taken, process_eq_alone]
    obtain ⟨queue, empty, drained⟩ := ih (p := (d.process job p).2.withQueue left) consumer rfl
      (count stats (d.alone p.files job).1)
    refine ⟨queue, empty, ?_⟩
    rw [List.length_cons, drain, next]
    simp only [drained, finds_withQueue, processAll_withQueue]
    rfl

/-! ## What a job finds -/

/-- What the reporters leave when they were given a report one after the other. -/
def reported (reporters : List Reporter) (report : ScanReport) (outlet : Outlet) : Outlet :=
  reporters.foldl (fun outlet r => (r.emit report outlet).2) outlet

/-- What the reporters answer, each under its name, when they are given a report one after the
other. -/
def answers (report : ScanReport) :
    List Reporter → Outlet → List (String × Except ReportError Unit)
  | [], _ => []
  | r :: rest, outlet =>
    (r.name, (r.emit report outlet).1) :: answers report rest (r.emit report outlet).2

/-- The log entry that an answer gives rise to. -/
def refusal? (report : ScanReport) : String × Except ReportError Unit → Option Logging.LogEntry
  | (_, .ok _) => none
  | (name, .error e) => some (refusalEntry report name e)

theorem deliverAll_outlet (report : ScanReport) (reporters : List Reporter) :
    (deliverAll p report reporters).2.outlet = reported reporters report p.outlet := by
  induction reporters generalizing p with
  | nil => rfl
  | cons r rest ih =>
    rw [deliverAll_snd_cons, ih]
    rfl

theorem deliverAll_refusals (report : ScanReport) (reporters : List Reporter) :
    (deliverAll p report reporters).1.map (fun x => refusalEntry report x.1 x.2) =
      (answers report reporters p.outlet).filterMap (refusal? report) := by
  induction reporters generalizing p with
  | nil => rfl
  | cons r rest ih =>
    have answer : (p.deliver r report).1 = (r.emit report p.outlet).1 := rfl
    have later := ih (p := (p.deliver r report).2)
    rw [Pipeline.deliver_outlet] at later
    rw [answers, deliverAll, List.filterMap_cons]
    simp only [answer]
    cases (r.emit report p.outlet).1 with
    | ok => exact later
    | error e => exact congrArg (refusalEntry report r.name e :: ·) later

/-- From one outlet to the other nothing was done but to write to the log. -/
structure OnlyLogged (before after : Outlet) : Prop where
  files : after.files = before.files
  printed : after.printed = before.printed
  log : before.log <+: after.log

theorem OnlyLogged.logging {outlet : Outlet} (o : OnlyLogged outlet p.outlet)
    (entries : Logging.Log) : OnlyLogged outlet (p.logging entries).outlet :=
  ⟨o.files, o.printed, o.log.trans (List.prefix_append _ _)⟩

theorem OnlyLogged.announce {outlet : Outlet} (o : OnlyLogged outlet p.outlet) (e : Event) :
    OnlyLogged outlet (p.announce e).outlet :=
  ⟨o.files, o.printed, o.log.trans (List.prefix_append _ _)⟩

theorem OnlyLogged.announceAll {outlet : Outlet} (o : OnlyLogged outlet p.outlet) (job : Job)
    (diagnostics : List Diagnostic) : OnlyLogged outlet
      (diagnostics.foldl (fun p x => p.announce (diagnosticEvent job x)) p).outlet := by
  induction diagnostics generalizing p with
  | nil => exact o
  | cons x rest ih => exact ih (o.announce _)

/-- The reporters are given a report in turn, and each that refuses it is named in the log once
all have been asked. -/
theorem emit_outlet (d : Dispatcher) (p : Pipeline) (report : ScanReport) :
    let left := reported d.reporters report p.outlet
    (d.emit p report).outlet = { left with
      log := left.log ++ (answers report d.reporters p.outlet).filterMap (refusal? report) } := by
  intro left
  have same : (deliverAll p report d.reporters).2.outlet = left := deliverAll_outlet _ _
  rw [← deliverAll_refusals, ← same]
  rfl

/-- A job that fails changes no file and prints nothing. One that succeeds hands its report to
the reporters in turn: the first finds the files as the job did, each finds what the one before
it left, and the refusals are logged. -/
theorem process_outlet (d : Dispatcher) (job : Job) (p : Pipeline) :
    ∃ before : Outlet, OnlyLogged p.outlet before ∧
      (∀ e, (d.alone p.files job).1 = .error e → (d.process job p).2.outlet = before) ∧
      ∀ report, (d.alone p.files job).1 = .ok report →
        let left := reported d.reporters report before
        let refusals := (answers report d.reporters before).filterMap (refusal? report)
        OnlyLogged { left with log := left.log ++ refusals } (d.process job p).2.outlet := by
  let run := d.scanner.scanTree p.files (d.scanRoot job)
  have begun : OnlyLogged p.outlet _ := OnlyLogged.announce (OnlyLogged.logging
    ⟨rfl, rfl, List.prefix_rfl⟩ [Logging.info (.dispatcher 78)
      ("scanning job " ++ job.display ++ " at " ++ (d.scanRoot job).display)])
    (jobEvent job .started none)
  have scanned := (begun.logging run.log).announceAll job run.diagnostics
  rw [alone_eq]
  cases result : (d.scanner.scanTree p.files (d.scanRoot job)).result with
  | error e =>
    have failed := (scanned.logging [failureEntry job e]).announce
      (jobEvent job .error (some e.message))
    refine ⟨_, failed, ?_, by simp [Except.map]⟩
    simp [process, run, result]
  | ok scan =>
    have ready := scanned.logging [successEntry job scan (d.reportOf job scan).weights]
    refine ⟨_, ready, by simp [Except.map], ?_⟩
    intro report given
    obtain rfl : d.reportOf job scan = report := by simpa [Except.map] using given
    simp only [process, Pipeline.announce_files, Pipeline.logging_files, result]
    rw [← emit_outlet]
    exact OnlyLogged.announce ⟨rfl, rfl, List.prefix_rfl⟩ _

/-- Processing a job leaves the files as they are, but for what the reporters do to them. -/
theorem process_files (d : Dispatcher) (job : Job) (p : Pipeline) :
    ∃ outlet : Outlet, outlet.files = p.files ∧ (d.process job p).2.files =
      match (d.alone p.files job).1 with
      | .error _ => p.files
      | .ok report => (reported d.reporters report outlet).files := by
  obtain ⟨before, same, failed, succeeded⟩ := d.process_outlet job p
  refine ⟨before, same.files, ?_⟩
  cases result : (d.alone p.files job).1 with
  | error e => exact (congrArg Outlet.files (failed e result)).trans same.files
  | ok report => exact (succeeded report result).files

/-- What all reporters leave as it is, every job finds as it was at the start. -/
theorem finds_kept {P : FileTree → Prop} (start : P p.files)
    (keep : ∀ r ∈ d.reporters, ∀ report outlet, P outlet.files → P (r.emit report outlet).2.files)
    (jobs : List Job) : ∀ x ∈ d.finds p jobs, P x.2 := by
  have left (report : ScanReport) (outlet : Outlet) (h : P outlet.files) :
      P (reported d.reporters report outlet).files :=
    List.foldlRecOn (motive := fun o : Outlet => P o.files) d.reporters _ h
      fun o ho r hr => keep r hr report o ho
  induction jobs generalizing p with
  | nil => simp [finds]
  | cons job rest ih =>
    rw [finds, List.forall_mem_cons]
    refine ⟨start, ih ?_⟩
    obtain ⟨outlet, same, after⟩ := d.process_files job p
    rw [after]
    split
    · exact start
    · exact left _ outlet (same ▸ start)

/-! ## A run -/

/-- How many of the jobs gave a report with the files that they found, and how many did not. -/
def totals (d : Dispatcher) (found : List (Job × FileTree)) : DispatchStats where
  completed := found.countP fun x => (d.alone x.2 x.1).1.isOk
  failed := found.countP fun x => !(d.alone x.2 x.1).1.isOk

theorem totals_sum (d : Dispatcher) (found : List (Job × FileTree)) :
    (d.totals found).completed + (d.totals found).failed = found.length := by
  rw [List.length_eq_countP_add_countP fun x => (d.alone x.2 x.1).1.isOk]
  simp [totals]

theorem run_eq (d : Dispatcher) (consumer : p.queue.hasConsumer = true) :
    let found := d.finds (p.logging [startedEntry]) p.queue.waiting
    ∃ queue : JobQueue, queue.waiting = [] ∧ d.run p = (d.totals found,
      ((d.processAll (p.logging [startedEntry]) p.queue.waiting).withQueue queue).logging
        [stoppedEntry (d.totals found)]) := by
  intro found
  obtain ⟨queue, empty, drained⟩ :=
    drain_eq (d := d) (p := p.logging [startedEntry]) consumer rfl ⟨0, 0⟩
  refine ⟨queue, empty, ?_⟩
  rw [foldl_count, List.countP_map, List.countP_map, Nat.zero_add, Nat.zero_add] at drained
  rw [run]
  simp only [drained]
  rfl

/-- What a run with two jobs adds to the record. -/
theorem run_history_of_two {a b : Job} (consumer : p.queue.hasConsumer = true)
    (waiting : p.queue.waiting = [a, b]) :
    (d.run p).2.history = p.history ++ ((d.alone p.files a).2 ++
      (d.alone (d.process a (p.logging [startedEntry])).2.files b).2) := by
  obtain ⟨queue, -, ran⟩ := d.run_eq consumer
  have told := (processAll_tells d (p.logging [startedEntry]) [a, b]).history
  rw [ran, waiting]
  change (d.processAll (p.logging [startedEntry]) [a, b]).history = _
  rw [told]
  simp [finds]

/-- If the reporters change nothing of what the scans of some jobs find, these jobs give what
they would give at the start. -/
theorem alone_of_unchanged (h : ∀ r ∈ d.reporters, ∀ report outlet, ∀ job ∈ jobs,
      d.scanner.scanTree (r.emit report outlet).2.files (d.scanRoot job) =
        d.scanner.scanTree outlet.files (d.scanRoot job)) :
    ∀ x ∈ d.finds p jobs, d.alone x.2 x.1 = d.alone p.files x.1 := by
  intro x hx
  have member : x.1 ∈ jobs := map_fst_finds d p jobs ▸ List.mem_map_of_mem hx
  have same := finds_kept (P := fun files => ∀ job ∈ jobs,
      d.scanner.scanTree files (d.scanRoot job) = d.scanner.scanTree p.files (d.scanRoot job))
    (fun _ _ => rfl)
    (fun r hr report outlet ih job hjob => (h r hr report outlet job hjob).trans (ih job hjob))
    jobs x hx x.1 member
  rw [alone_eq, alone_eq, block, block, same]

/-! ## A report in a checkout -/

/-- A checkout `b` that holds `a.go` and what else was put there; the program runs within it. -/
def openCheckout (more : List (Name × Node)) : FileTree :=
  ⟨.dir [([98], .dir (([97, 46, 103, 111], .file []) :: more))], [[98]]⟩

/-- Two jobs that wait, for the checkout and for a folder of some name. -/
def twoJobs (folder : String) : JobQueue :=
  ⟨[⟨"b", "u", 1⟩, ⟨folder, "u", 2⟩], 3, 2, 64, false, true, [false]⟩

/-- Appends every report to `z.go`. -/
def sourceReporter : Reporter :=
  (ConsoleReporter.create .text (some ⟨[122, 46, 103, 111]⟩) false).reporter

def failingReporter : Reporter := ⟨"failing", fun _ outlet => (.error (.status 503), outlet)⟩

def sampleDispatcher (reporters : List Reporter) : Dispatcher :=
  ⟨⟨⟨[]⟩, 4096⟩, ⟨[47]⟩, reporters, fun _ => ⟨⟨0, 0⟩, ⟨0, 0⟩⟩⟩

/-- How many files each report of a record counts. -/
def filesReported (history : List Occurrence) : List Nat :=
  history.filterMap fun
    | .report _ report => some report.filesScanned
    | _ => none

@[simp] theorem filesReported_append (a b : List Occurrence) :
    filesReported (a ++ b) = filesReported a ++ filesReported b :=
  List.filterMap_append

theorem filesReported_of_error {e : ScanError}
    (h : collectCandidates d.scanner.filter files (d.scanRoot job) = .error e) :
    filesReported (d.alone files job).2 = [] := by
  rw [alone_of_error h]
  rfl

theorem filesReported_of_ok {names : List (List Name)}
    (h : collectCandidates d.scanner.filter files (d.scanRoot job) = .ok names) :
    filesReported (d.alone files job).2 = d.reporters.map fun _ => names.length := by
  rw [alone_of_ok h]
  simp [filesReported, reportOf]

theorem openCheckout_locate (more : List (Name × Node)) :
    (openCheckout more).locate ⟨[47, 98]⟩ true =
      .ok (.found [[98]] (.dir (([97, 46, 103, 111], .file []) :: more))) ∧
    (openCheckout []).locate ⟨[47, 103]⟩ false = .ok (.missing [] [103]) ∧
    (openCheckout []).locate ⟨[122, 46, 103, 111]⟩ true =
      .ok (.missing [[98]] [122, 46, 103, 111]) := by
  simp [openCheckout, FileTree.locate, FileTree.steps, FileTree.walk, Path.names, Path.separator,
    Path.isAbsolute, Text.pieces, Path.currentName, Path.parentName, Node.at?, Node.child?,
    Node.entries, maxPathLength, maxNameLength]

theorem openCheckout_node (more : List (Name × Node)) : (openCheckout more).node ⟨[47, 98]⟩ =
    .ok (.dir (([97, 46, 103, 111], .file []) :: more)) := by
  rw [FileTree.node, (openCheckout_locate more).1]

theorem sourceReporter_emit (report : ScanReport) (outlet : Outlet)
    (h : outlet.files = openCheckout []) : ∃ content, (sourceReporter.emit report outlet).2.files =
      openCheckout [([122, 46, 103, 111], .file content)] := by
  obtain ⟨-, -, missing⟩ := openCheckout_locate []
  have parent : Path.parent? ⟨[122, 46, 103, 111]⟩ = some ⟨[]⟩ := by decide
  refine ⟨Text.Utf8.ofString (report.text false), ?_⟩
  simp only [sourceReporter, ConsoleReporter.reporter, ConsoleReporter.emit,
    ConsoleReporter.create, ConsoleReporter.appendText, ConsoleReporter.makeParents, parent, h,
    FileTree.append, FileTree.update, if_true]
  rw [missing]
  rfl

section Candidates

variable (reporters : List Reporter) (url : String) (n : Nat)

theorem scanRoot_open : (sampleDispatcher reporters).scanRoot ⟨"b", url, n⟩ = ⟨[47, 98]⟩ := by
  change Path.join ⟨[47]⟩ (Path.ofString "b") = _
  rw [Path.ofString, Text.Utf8.ofString_eq]
  decide

theorem sampleDispatcher_filter : (sampleDispatcher reporters).scanner.filter = ⟨[]⟩ := rfl

theorem openCheckout_candidates :
    collectCandidates (sampleDispatcher reporters).scanner.filter (openCheckout [])
      ((sampleDispatcher reporters).scanRoot ⟨"b", url, n⟩) = .ok [[[97, 46, 103, 111]]] := by
  rw [scanRoot_open, sampleDispatcher_filter]
  exact collectCandidates_of_flat [[97, 46, 103, 111]] (openCheckout_node []) (by simp [Node.isDir])
    rfl (by decide) (by simp only [isCandidate_eq, isPruned_eq]; decide) (by simp)

theorem reportedCheckout_candidates (content : List UInt8) :
    collectCandidates (sampleDispatcher reporters).scanner.filter
      (openCheckout [([122, 46, 103, 111], .file content)])
      ((sampleDispatcher reporters).scanRoot ⟨"b", url, n⟩) =
        .ok [[[97, 46, 103, 111]], [[122, 46, 103, 111]]] := by
  rw [scanRoot_open, sampleDispatcher_filter]
  exact collectCandidates_of_flat [[97, 46, 103, 111], [122, 46, 103, 111]] (openCheckout_node _)
    (by simp [Node.isDir]) rfl (by decide)
    (by simp only [isCandidate_eq, isPruned_eq]; decide) (by simp)

theorem missingCheckout_candidates :
    collectCandidates (sampleDispatcher reporters).scanner.filter (openCheckout [])
      ((sampleDispatcher reporters).scanRoot ⟨"g", url, n⟩) =
        .error (.walk ⟨[47, 103]⟩ 0 ⟨[47, 103]⟩ .notFound) := by
  obtain ⟨-, missing, -⟩ := openCheckout_locate []
  have root : (sampleDispatcher reporters).scanRoot ⟨"g", url, n⟩ = ⟨[47, 103]⟩ := by
    change Path.join ⟨[47]⟩ (Path.ofString "g") = _
    rw [Path.ofString, Text.Utf8.ofString_eq]
    decide
  rw [root, collectCandidates, rootNode, FileTree.nodeItself, missing]
  rfl

end Candidates

/-! ## One block for each job -/

/-- All waiting jobs are received in turn, and the record and the hub get one block for each of
them: what that job gives alone with the files it finds. The totals count the jobs that gave a
report and those that did not. A job finds the files that were there at the start, but for what
reporters did to them since; if nothing that they do changes what a scan of a waiting job finds,
each job gives what it would give alone at the start. -/
theorem run_gives_each_job_its_block (d : Dispatcher) (p : Pipeline)
    (consumer : p.queue.hasConsumer = true) :
    let jobs := p.queue.waiting
    let found := d.finds (p.logging [startedEntry]) jobs
    found.map (·.1) = jobs ∧ (d.run p).2.queue.waiting = [] ∧
    p.Tells (d.run p).2 (found.flatMap fun x => (d.alone x.2 x.1).2) ∧
    (d.run p).1 = d.totals found ∧
    (d.run p).1.completed + (d.run p).1.failed = jobs.length ∧
    (∀ job files,
      (∀ e, collectCandidates d.scanner.filter files (d.scanRoot job) = .error e →
        d.alone files job = (.error e,
          [.event (jobEvent job .started none), .event (jobEvent job .error (some e.message))])) ∧
      ∀ names, collectCandidates d.scanner.filter files (d.scanRoot job) = .ok names →
        let readings := d.scanner.readings files (names.map (pathBelow (d.scanRoot job)))
        let report := d.reportOf job ⟨recordsOf readings, names.length⟩
        d.alone files job = (.ok report,
          .event (jobEvent job .started none) ::
            ((diagnosticsOf readings).map fun x => .event (diagnosticEvent job x)) ++
            d.reporters.map (fun r => .report r.name report) ++
            [.event (jobEvent job .completed none)])) ∧
    (∀ P : FileTree → Prop, P p.files →
      (∀ r ∈ d.reporters, ∀ report outlet, P outlet.files → P (r.emit report outlet).2.files) →
      ∀ x ∈ found, P x.2) ∧
    ((∀ r ∈ d.reporters, ∀ report outlet, ∀ job ∈ jobs,
        d.scanner.scanTree (r.emit report outlet).2.files (d.scanRoot job) =
          d.scanner.scanTree outlet.files (d.scanRoot job)) →
      ∀ x ∈ found, d.alone x.2 x.1 = d.alone p.files x.1) := by
  intro jobs found
  have listed : found.map (·.1) = jobs := map_fst_finds d _ jobs
  obtain ⟨queue, empty, ran⟩ := d.run_eq consumer
  rw [ran]
  refine ⟨listed, empty, ?_, rfl, ?_, ?_, ?_, ?_⟩
  · have told := processAll_tells d (p.logging [startedEntry]) jobs
    exact ((Pipeline.Tells.refl p).logging _).trans ⟨told.history, told.hub⟩
  · rw [totals_sum, ← listed, List.length_map]
  · intro job files
    exact ⟨fun e h => alone_of_error h, fun names h => alone_of_ok h⟩
  · intro P start keep
    exact finds_kept (p := p.logging [startedEntry]) start keep jobs
  · intro h
    exact alone_of_unchanged (p := p.logging [startedEntry]) h

/-- The first job gives a report, which the reporter refuses, and the second job has no
checkout. -/
theorem a_failed_job_and_a_failing_reporter_stay_apart :
    let d := sampleDispatcher [failingReporter]
    let p := Pipeline.start (openCheckout []) (twoJobs "g")
    p.queue.hasConsumer = true ∧
    (∀ r ∈ d.reporters, ∀ report outlet, ∀ job ∈ p.queue.waiting,
      d.scanner.scanTree (r.emit report outlet).2.files (d.scanRoot job) =
        d.scanner.scanTree outlet.files (d.scanRoot job)) ∧
    (d.run p).1 = ⟨1, 1⟩ ∧ filesReported (d.run p).2.history = [1] ∧
    settled (d.run p).2.history = [("b", 1), ("g", 2)] := by
  intro d p
  have unchanged : ∀ r ∈ d.reporters, ∀ report outlet, ∀ job ∈ p.queue.waiting,
      d.scanner.scanTree (r.emit report outlet).2.files (d.scanRoot job) =
        d.scanner.scanTree outlet.files (d.scanRoot job) := by
    intro r hr report outlet job _
    rw [List.mem_singleton.mp hr]
    rfl
  obtain ⟨-, -, -, stats, -, -, -, kept⟩ := d.run_gives_each_job_its_block p rfl
  let left := (d.process ⟨"b", "u", 1⟩ (p.logging [startedEntry])).2.files
  have second : d.alone left ⟨"g", "u", 2⟩ = d.alone (openCheckout []) ⟨"g", "u", 2⟩ :=
    kept unchanged (⟨"g", "u", 2⟩, left) (.tail _ (.head _))
  have found : collectCandidates d.scanner.filter (openCheckout []) (d.scanRoot ⟨"b", "u", 1⟩) =
    _ := openCheckout_candidates _ _ _
  have gone : collectCandidates d.scanner.filter (openCheckout []) (d.scanRoot ⟨"g", "u", 2⟩) =
    _ := missingCheckout_candidates _ _ _
  have blocks : (d.run p).2.history = [] ++ ((d.alone (openCheckout []) ⟨"b", "u", 1⟩).2 ++
      (d.alone (openCheckout []) ⟨"g", "u", 2⟩).2) := by
    rw [← second]
    exact run_history_of_two rfl rfl
  refine ⟨rfl, unchanged, ?_, ?_, ?_⟩
  · have first : (d.alone (openCheckout []) ⟨"b", "u", 1⟩).1.isOk = true := by
      rw [alone_of_ok found]
      rfl
    have failed : (d.alone left ⟨"g", "u", 2⟩).1.isOk = false := by
      rw [second, alone_of_error gone]
      rfl
    have pair : d.finds (p.logging [startedEntry]) p.queue.waiting =
      [(⟨"b", "u", 1⟩, openCheckout []), (⟨"g", "u", 2⟩, left)] := rfl
    rw [stats, pair]
    simp [totals, first, failed]
  · rw [blocks, List.nil_append, filesReported_append, filesReported_of_ok found,
      filesReported_of_error gone]
    rfl
  · rw [blocks, List.nil_append, settled_append, alone_eq, alone_eq, settled_block, settled_block]
    rfl

/-- A report that is appended to a file of the next checkout is read by the next scan, so the
second job does not give what it would give alone at the start. -/
theorem a_report_in_a_checkout_reaches_the_next_job :
    ¬ ∀ (d : Dispatcher) (p : Pipeline), p.queue.hasConsumer = true →
      (d.run p).2.history =
        p.history ++ p.queue.waiting.flatMap fun job => (d.alone p.files job).2 := by
  intro h
  let d := sampleDispatcher [sourceReporter]
  let p := Pipeline.start (openCheckout []) (twoJobs "b")
  have before (n : Nat) : collectCandidates d.scanner.filter (openCheckout [])
    (d.scanRoot ⟨"b", "u", n⟩) = _ := openCheckout_candidates _ _ _
  let left := (d.process ⟨"b", "u", 1⟩ (p.logging [startedEntry])).2.files
  have after : collectCandidates d.scanner.filter left (d.scanRoot ⟨"b", "u", 2⟩) =
      .ok [[[97, 46, 103, 111]], [[122, 46, 103, 111]]] := by
    obtain ⟨outlet, same, kept⟩ := d.process_files ⟨"b", "u", 1⟩ (p.logging [startedEntry])
    have start : (p.logging [startedEntry]).files = openCheckout [] := rfl
    rw [start, alone_of_ok (before 1)] at kept
    obtain ⟨content, appended⟩ := sourceReporter_emit _ outlet same
    rw [show left = _ from kept.trans appended]
    exact reportedCheckout_candidates _ _ _ content
  have ran : (d.run p).2.history = [] ++ ((d.alone (openCheckout []) ⟨"b", "u", 1⟩).2 ++
      (d.alone left ⟨"b", "u", 2⟩).2) := run_history_of_two rfl rfl
  have apart : (d.run p).2.history = [] ++ ((d.alone (openCheckout []) ⟨"b", "u", 1⟩).2 ++
      ((d.alone (openCheckout []) ⟨"b", "u", 2⟩).2 ++ [])) := h d p rfl
  have counts := congrArg filesReported (ran.symm.trans apart)
  simp only [List.nil_append, List.append_nil, filesReported_append,
    filesReported_of_ok (before _), filesReported_of_ok after] at counts
  exact absurd counts (by decide)

end Dispatcher

end ImportWeights.Dispatch
