import ImportWeights.Report.ScanReport
import ImportWeights.Report.Style

/-! The text form of a report: a headline, a table of the edges by falling weight, and a
line of totals. Cells are padded before they are painted. A width is any number here; formatters
that keep one in sixteen bits give up on an edge of more than 65535 bytes. -/

namespace ImportWeights.Report

def spaces (n : Nat) : String := String.ofList (List.replicate n ' ')

def padEnd (width : Nat) (s : String) : String := s ++ spaces (width - s.length)

def padStart (width : Nat) (s : String) : String := spaces (width - s.length) ++ s

/-- The widths of the two columns. -/
structure Columns where
  edge : Nat
  weight : Nat
deriving DecidableEq, Repr

/-- Wide enough for the titles and for every row; an edge is measured in bytes. -/
def Columns.ofRows (rows : List (String × Nat)) : Columns :=
  ⟨(rows.map (·.1.utf8ByteSize)).foldl max 4,
    (rows.map fun r => (toString r.2).length).foldl max 6⟩

def Columns.separator (c : Columns) : String :=
  let rule (n : Nat) : String := String.ofList (List.replicate n '-')
  "+" ++ rule (c.edge + 2) ++ "+" ++ rule (c.weight + 2) ++ "+"

def tableRow (left right : String) : String := "| " ++ left ++ " | " ++ right ++ " |"

def Columns.titleRow (c : Columns) (colors : Bool) : String :=
  tableRow (StyleRole.header.paint (padEnd c.edge "EDGE") colors)
    (StyleRole.header.paint (padStart c.weight "WEIGHT") colors)

def Columns.edgeRow (c : Columns) (colors : Bool) (row : String × Nat) : String :=
  tableRow (StyleRole.edge.paint (padEnd c.edge row.1) colors)
    (StyleRole.weight.paint (padStart c.weight (toString row.2)) colors)

/-- The lines of the table for rows that are already in order. -/
def tableLines (colors : Bool) (rows : List (String × Nat)) : List String :=
  let c := Columns.ofRows rows
  [c.separator, c.titleRow colors, c.separator] ++ rows.map (c.edgeRow colors) ++ [c.separator]

namespace ScanReport

def headline (r : ScanReport) : String :=
  "Import weights for " ++ r.job.folder ++ " (job #" ++ toString r.job.sequence ++ ", " ++
    r.job.url ++ ")"

def totals (r : ScanReport) : String :=
  toString r.weights.size ++ " edges, " ++ toString r.weights.total ++ " imports, " ++
    toString r.packages ++ " of " ++ toString r.filesScanned ++
    " files with an import block, " ++ toString r.duration.millis ++ " ms"

/-- The lines of the text form. -/
def textLines (colors : Bool) (r : ScanReport) : List String :=
  StyleRole.header.paint r.headline colors ::
    (if r.weights.isEmpty then [StyleRole.dim.paint "No imports found" colors]
      else tableLines colors r.weights.heaviest) ++
    [StyleRole.dim.paint r.totals colors]

def text (colors : Bool) (r : ScanReport) : String :=
  String.join ((r.textLines colors).map (· ++ "\n"))

end ScanReport

end ImportWeights.Report
