import ImportWeights.Report.Reporter
import ImportWeights.Report.Table

/-! The reporter that prints every report, or appends it to a file. A file never holds
escape sequences. -/

namespace ImportWeights.Report

open ImportWeights.Files

inductive ReportFormat where
  | text
  | json
deriving DecidableEq, Repr

structure ConsoleReporter where
  format : ReportFormat
  destination : Option Path
  colors : Bool
deriving DecidableEq, Repr

namespace ConsoleReporter

def create (format : ReportFormat) (destination : Option Path) (colors : Bool) :
    ConsoleReporter :=
  ⟨format, destination, colors && destination.isNone⟩

def render (c : ConsoleReporter) (r : ScanReport) : String :=
  match c.format with
  | .text => r.text c.colors
  | .json => r.document

/-- Makes the directories above a file. -/
def makeParents (files : FileTree) (path : Path) : Except OsError Unit × FileTree :=
  match path.parent? with
  | some parent => if parent.bytes = [] then (.ok (), files) else files.tryMakeDirectories parent
  | none => (.ok (), files)

/-- Appends a text to a file, making the directories above it. -/
def appendText (files : FileTree) (path : Path) (text : String) :
    Except OsError Unit × FileTree :=
  match makeParents files path with
  | (.error e, files) => (.error e, files)
  | (.ok _, files) =>
    match files.append path (Text.Utf8.ofString text) with
    | .error e => (.error e, files)
    | .ok files => (.ok (), files)

def emit (c : ConsoleReporter) (r : ScanReport) (outlet : Outlet) :
    Except ReportError Unit × Outlet :=
  match c.destination with
  | none => (.ok (), { outlet with printed := outlet.printed ++ c.render r })
  | some path =>
    match appendText outlet.files path (c.render r) with
    | (.ok _, files) => (.ok (), { outlet with files })
    | (.error e, files) => (.error (.io path.display e), { outlet with files })

def reporter (c : ConsoleReporter) : Reporter := ⟨"console", c.emit⟩

end ConsoleReporter

end ImportWeights.Report
