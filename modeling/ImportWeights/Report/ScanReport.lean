import ImportWeights.Jobs.Job
import ImportWeights.Json.Written
import ImportWeights.Report.Timestamp
import ImportWeights.Weights

/-! Everything known about one completed scan. -/

namespace ImportWeights.Report

/-- `packages` counts the files that gave a record, `filesScanned` the candidates read. -/
structure ScanReport where
  job : Jobs.Job
  weights : WeightMap
  packages : Nat
  filesScanned : Nat
  completedAt : Timestamp
  duration : Span
deriving DecidableEq, Repr

namespace ScanReport

/-- Milliseconds are written as a number of 64 bits. -/
def millisInWord (s : Span) : Nat := s.millis % Nat.pow 2 64

/-- The report as a document on several lines. -/
def document (r : ScanReport) : String :=
  Json.writtenObject 0 [
    ("job", Json.writtenObject 2 [
      ("folder", Json.written r.job.folder),
      ("url", Json.written r.job.url),
      ("sequence", toString r.job.sequence)]),
    ("weights", Json.writtenObject 2 (r.weights.entries.map fun e => (e.1, toString e.2))),
    ("packages", toString r.packages),
    ("files_scanned", toString r.filesScanned),
    ("completed_at", Json.written r.completedAt.text),
    ("duration_ms", toString (millisInWord r.duration))] ++ "\n"

/-- The title of the diagram that shows a report. -/
def diagramTitle (r : ScanReport) : String := r.job.folder ++ " import weights"

def diagramDescription (r : ScanReport) : String :=
  toString r.weights.size ++ " edges (" ++ toString r.weights.total ++ " imports) across " ++
    toString r.packages ++ " files of " ++ r.job.url

end ScanReport

end ImportWeights.Report
