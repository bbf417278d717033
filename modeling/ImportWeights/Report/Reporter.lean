import ImportWeights.Files.Tree
import ImportWeights.Logging.Entry
import ImportWeights.Report.Error
import ImportWeights.Report.ScanReport

/-! A reporter: a named destination for reports. -/

namespace ImportWeights.Report

open ImportWeights.Files ImportWeights.Logging

/-- What a reporter can change: files, the standard output, and the log. -/
structure Outlet where
  files : FileTree
  printed : String
  log : Log

structure Reporter where
  name : String
  emit : ScanReport → Outlet → Except ReportError Unit × Outlet

end ImportWeights.Report
