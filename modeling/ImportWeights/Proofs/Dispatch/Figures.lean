import Mathlib.Algebra.GroupWithZero.Nat
import ImportWeights.Proofs.Dispatch.Draining
import ImportWeights.Proofs.Scan.Records
import ImportWeights.Proofs.Weights.Counting

/-! # The figures of a report

Each file that a scan reads gives a record, or something to tell, or neither if it has no import
block (`readings_add_up`). What is told of files is one event each, and the weights of a report
add up to the lengths of the import lists, since no record holds an empty import. -/

namespace ImportWeights.WeightMap

open ImportWeights.Source

variable {records : List PackageRecord}

/-- Where no import is empty, none is left out. -/
theorem total_of_filled (hfilled : ∀ r ∈ records, "" ∉ r.imports) :
    (ofRecords records).total = (records.map fun r => r.imports.length).sum := by
  have hall : ∀ x ∈ pairs records, decide (x.2 ≠ "") = true := by
    intro x hx
    obtain ⟨r, hr, hmem⟩ := List.mem_flatMap.mp hx
    obtain ⟨path, hpath, rfl⟩ := List.mem_map.mp hmem
    exact decide_eq_true fun hempty => hfilled r hr (hempty ▸ hpath)
  rw [total_ofRecords, List.countP_eq_length.mpr hall, pairs, List.length_flatMap]
  simp only [List.length_map]

theorem one_le_of_mem {e : String × Nat} (h : e ∈ (ofRecords records).entries) : 1 ≤ e.2 := by
  have hfound : counted (tally records e.1) = some e.2 :=
    (get?_ofRecords records e.1).symm.trans ((mem_iff_lookup (ordered_ofRecords records) e).mp h)
  unfold counted at hfound
  split at hfound
  · cases hfound
  · rename_i hne
    rw [← Option.some.inj hfound]
    exact Nat.one_le_iff_ne_zero.mpr hne

end ImportWeights.WeightMap

namespace ImportWeights.Scan

open ImportWeights.Files ImportWeights.Source

/-- A file that was read gives a record, or a diagnostic, or has no import block. -/
theorem reading_counts_once (path : Path) (outcome : Except FileError Outcome) :
    (recordOf outcome).toList.length + (diagnosticOf path outcome).toList.length +
      (if outcome = .ok .noImportBlock then 1 else 0) = 1 := by
  cases outcome with
  | error e => simp [recordOf, diagnosticOf]
  | ok outcome => cases outcome <;> simp [recordOf, diagnosticOf]

theorem readings_add_up (readings : List (Path × Except FileError Outcome)) :
    (recordsOf readings).length + (diagnosticsOf readings).length +
      readings.countP (fun reading => reading.2 = .ok .noImportBlock) = readings.length := by
  induction readings with
  | nil => rfl
  | cons reading readings ih =>
    have first := reading_counts_once reading.1 reading.2
    rw [recordsOf_cons, diagnosticsOf_cons, List.length_append, List.length_append,
      List.countP_cons, List.length_cons]
    simp only [decide_eq_true_eq]
    omega

end ImportWeights.Scan

namespace ImportWeights.Dispatch

open ImportWeights.Events ImportWeights.Files ImportWeights.Jobs ImportWeights.Report
open ImportWeights.Scan ImportWeights.Source

/-- Whether an event tells of a file of a job: that it was skipped, or that its import block is
never closed. -/
def tellsOfFile (job : Job) : Event → Bool
  | .scan e => (e.type = .fileSkipped || e.type = .unterminatedImportBlock) &&
      e.job = job.folder && e.sequence = job.sequence
  | .fetch _ => false

namespace Dispatcher

variable (d : Dispatcher) (job : Job)

theorem tellsOfFile_diagnosticEvent (x : Diagnostic) : tellsOfFile job (diagnosticEvent job x) := by
  cases x <;> simp [tellsOfFile, diagnosticEvent, jobEvent]

theorem told_closing (result : Except ScanError TreeScan) :
    (told (d.closing job result)).countP (tellsOfFile job) = 0 := by
  cases result with
  | error e => simp [closing, told, Occurrence.event?, tellsOfFile, jobEvent]
  | ok scan => simp [closing, told, Occurrence.event?, tellsOfFile, jobEvent]

/-- A job tells of as many files as its scan has diagnostics. -/
theorem countP_block (files : FileTree) : (told (d.block job files)).countP (tellsOfFile job) =
    (d.scanner.scanTree files (d.scanRoot job)).diagnostics.length := by
  have diagnostics (xs : List Diagnostic) :
      (told (xs.map fun x => .event (diagnosticEvent job x))).countP (tellsOfFile job) =
        xs.length := by
    have events := told_events (xs.map (diagnosticEvent job))
    rw [List.map_map, Function.comp_def] at events
    rw [events, List.countP_map]
    exact List.countP_eq_length.mpr fun x _ => tellsOfFile_diagnosticEvent job x
  have begun : (told [.event (jobEvent job .started none)]).countP (tellsOfFile job) = 0 := by
    simp [told, Occurrence.event?, tellsOfFile, jobEvent]
  rw [block, ← List.singleton_append]
  simp only [told_append, List.countP_append, begun, diagnostics, told_closing]
  omega

/-- The weights of a report add up to the lengths of the import lists of all records, of which
none holds an empty import, and each is at least one. The records and the events that told of
files fall short of the files that were read by those without any import block, and at least one
file was read. -/
theorem figures_add_up (d : Dispatcher) (job : Job) (p : Pipeline) (report : ScanReport)
    (h : (d.process job p).1 = .ok report) :
    ∃ names scan added,
      collectCandidates d.scanner.filter p.files (d.scanRoot job) = .ok names ∧
      (d.scanner.scanTree p.files (d.scanRoot job)).result = .ok scan ∧
      p.Tells (d.process job p).2 added ∧
      (∀ r ∈ scan.packages, "" ∉ r.imports) ∧
      report.weights.total = (scan.packages.map fun r => r.imports.length).sum ∧
      (∀ e ∈ report.weights.entries, 1 ≤ e.2) ∧
      report.packages = scan.packages.length ∧ report.filesScanned = names.length ∧
      report.packages + (told added).countP (tellsOfFile job) ≤ report.filesScanned ∧
      report.packages + (told added).countP (tellsOfFile job) + names.countP (fun n =>
          d.scanner.extractFile p.files (pathBelow (d.scanRoot job) n) = .ok .noImportBlock) =
        report.filesScanned ∧
      1 ≤ report.filesScanned := by
  rw [process_result] at h
  cases collected : collectCandidates d.scanner.filter p.files (d.scanRoot job) with
  | error e =>
    rw [scanTree_of_error collected] at h
    cases h
  | ok names =>
    obtain ⟨result, diagnostics⟩ := scanTree_of_ok collected
    rw [result] at h
    cases h
    have filled : ∀ r ∈ recordsOf (d.scanner.readings p.files
        (names.map (pathBelow (d.scanRoot job)))), "" ∉ r.imports :=
      fun _ => empty_not_mem_imports result
    have unopened : (d.scanner.readings p.files (names.map (pathBelow (d.scanRoot job)))).countP
        (fun reading => reading.2 = .ok .noImportBlock) = names.countP fun n =>
          d.scanner.extractFile p.files (pathBelow (d.scanRoot job) n) = .ok .noImportBlock := by
      rw [Scanner.readings, List.map_map, List.countP_map]
      rfl
    have sum := readings_add_up (d.scanner.readings p.files
      (names.map (pathBelow (d.scanRoot job))))
    rw [unopened, ← diagnostics, ← d.countP_block, Scanner.readings, List.length_map,
      List.length_map] at sum
    have nonempty := List.length_pos_iff.mpr (ne_nil_of_collectCandidates collected)
    exact ⟨names, _, _, rfl, result, d.process_tells job p, filled,
      WeightMap.total_of_filled filled, fun _ => WeightMap.one_le_of_mem, rfl, rfl,
      (Nat.le_add_right _ _).trans_eq sum, sum, nonempty⟩

/-- `b.go`, with an import block, and `c.go`, whose block stays open. -/
def threeKinds : List (Name × Node) :=
  [([98, 46, 103, 111], .file (Text.Utf8.ofString "package x\nimport (\ny\ny\n)")),
    ([99, 46, 103, 111], .file (Text.Utf8.ofString "import ("))]

theorem threeKinds_candidates (reporters : List Reporter) :
    collectCandidates (sampleDispatcher reporters).scanner.filter (openCheckout threeKinds)
      ((sampleDispatcher reporters).scanRoot ⟨"b", "u", 1⟩) =
        .ok [[[97, 46, 103, 111]], [[98, 46, 103, 111]], [[99, 46, 103, 111]]] := by
  rw [scanRoot_open, sampleDispatcher_filter]
  exact collectCandidates_of_flat [[97, 46, 103, 111], [98, 46, 103, 111], [99, 46, 103, 111]]
    (openCheckout_node threeKinds) (by simp [threeKinds, Node.isDir]) rfl (by decide)
    (by simp only [isCandidate_eq, isPruned_eq]; decide) (by simp)

theorem threeKinds_read :
    (openCheckout threeKinds).read (pathBelow ⟨[47, 98]⟩ [[97, 46, 103, 111]]) = .ok [] ∧
    (openCheckout threeKinds).read (pathBelow ⟨[47, 98]⟩ [[98, 46, 103, 111]]) =
      .ok (Text.Utf8.ofString "package x\nimport (\ny\ny\n)") ∧
    (openCheckout threeKinds).read (pathBelow ⟨[47, 98]⟩ [[99, 46, 103, 111]]) =
      .ok (Text.Utf8.ofString "import (") := by
  refine ⟨?_, ?_, ?_⟩ <;>
  simp [openCheckout, threeKinds, pathBelow, Path.join, Path.ofNames, FileTree.read,
    FileTree.node, FileTree.locate, FileTree.steps, FileTree.walk, Path.names, Path.separator,
    Path.isAbsolute, Text.pieces, Path.currentName, Path.parentName, Node.at?, Node.child?,
    Node.entries, maxPathLength, maxNameLength]

/-- Of three files one gives a record, one is told and one has no block. -/
theorem figures_add_up_threeKinds :
    let d := sampleDispatcher [failingReporter]
    let job : Job := ⟨"b", "u", 1⟩
    let p := Pipeline.start (openCheckout threeKinds) .fresh
    ∃ report added, (d.process job p).1 = .ok report ∧ p.Tells (d.process job p).2 added ∧
      report.weights.total = 2 ∧ report.packages = 1 ∧ report.filesScanned = 3 ∧
      (told added).countP (tellsOfFile job) = 1 := by
  intro d job p
  have collected : collectCandidates d.scanner.filter p.files (d.scanRoot job) = _ :=
    threeKinds_candidates _
  have root : d.scanRoot job = ⟨[47, 98]⟩ := scanRoot_open _ _ _
  have limit : d.scanner.maxLineLength = 4096 := rfl
  have files : p.files = openCheckout threeKinds := rfl
  have blank : extract 4096 [] = .ok .noImportBlock :=
    (extract_eq_feedShort _ _).trans (by decide)
  have closed : extract 4096 (Text.Utf8.ofString "package x\nimport (\ny\ny\n)") =
      .ok (.complete ⟨"x", ["y", "y"]⟩) :=
    (extract_eq_feedShort _ _).trans (by decide +kernel)
  have left : extract 4096 (Text.Utf8.ofString "import (") = .ok (.unterminated "" 0) :=
    (extract_eq_feedShort _ _).trans (by decide +kernel)
  have scanned : (d.scanner.scanTree p.files (d.scanRoot job)).result =
      .ok ⟨[⟨"x", ["y", "y"]⟩], 3⟩ := by
    rw [(scanTree_of_ok collected).1]
    simp [Scanner.readings, recordsOf, Scanner.extractFile, root, limit, files, threeKinds_read,
      outcomeOf, blank, closed, left, recordOf]
  have given : (d.process job p).1 = .ok (d.reportOf job ⟨[⟨"x", ["y", "y"]⟩], 3⟩) := by
    rw [process_result, scanned]
    rfl
  obtain ⟨names, scan, added, found, result, tells, -, total, -, packages, -, -, sum, -⟩ :=
    figures_add_up d job p _ given
  rw [scanned] at result
  cases result
  rw [collected] at found
  cases found
  refine ⟨_, added, given, tells, total, packages, rfl, ?_⟩
  have three : 1 + (told added).countP (tellsOfFile job) + _ = 3 := sum
  simp [Scanner.extractFile, root, limit, files, threeKinds_read, outcomeOf, blank, closed,
    left] at three
  omega

end Dispatcher

end ImportWeights.Dispatch
