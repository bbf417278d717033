import ImportWeights.Json.Written
import ImportWeights.Logging.Entry
import ImportWeights.Report.Style
import ImportWeights.Report.Timestamp
import ImportWeights.Text.Pieces

/-! How log entries look, line by line. -/

namespace ImportWeights.Logging

inductive LogFormat where
  /-- Time, level and message. -/
  | text
  /-- The same, and where the entry comes from. -/
  | ext
  /-- One object per entry. -/
  | json
deriving DecidableEq, Repr

def Level.abbreviation : Level → String
  | error => "ERR"
  | warn => "WRN"
  | info => "INF"
  | debug => "DBG"
  | trace => "TRC"

/-- The numbers of a level's color and weight. -/
def Level.colorCode : Level → String
  | error => "1;31"
  | warn => "33"
  | info => "32"
  | debug => "34"
  | trace => "35"

/-- The target that this program's own components share. -/
def ownTarget : List Char := "depweight::".toList

/-- The parts of a target as the parts of a path. -/
private def slashed : List Char → List Char
  | ':' :: ':' :: rest => '/' :: slashed rest
  | c :: rest => c :: slashed rest
  | [] => []

/-- Where an entry comes from, as a path and a line. -/
def Origin.place (o : Origin) : String :=
  let path := match ownTarget.isPrefixOf? o.target.toList with
    | some own => String.ofList (slashed own) ++ ".rs"
    | none => String.ofList (slashed o.target.toList)
  match o.line with
  | some n => path ++ ":" ++ toString n
  | none => path

/-- A time as it stands in a line of text and in an object. -/
structure Stamp where
  plain : String
  object : String
deriving DecidableEq, Repr

/-- The stamp of a time, to the millisecond. -/
def Stamp.ofTime (t : Report.Timestamp) : Stamp :=
  let millis := "." ++ Report.zeroPadded 3 (t.nanos % 1000000000 / 1000000)
  ⟨t.dateText ++ " " ++ t.clockText ++ millis, t.dateText ++ "T" ++ t.clockText ++ millis ++ "Z"⟩

/-- A layout; colors are used only where they are wanted and allowed. -/
structure Layout where
  format : LogFormat
  colors : Bool
deriving DecidableEq, Repr

private def faint (colors : Bool) (s : String) : String :=
  if colors && s ≠ "" then Report.colored "2" s else s

/-- The text of an entry, without the line feed at its end. -/
def Layout.render (l : Layout) (stamp : Stamp) (e : LogEntry) : String :=
  let level := if l.colors then Report.colored e.level.colorCode e.level.abbreviation
    else e.level.abbreviation
  let line := faint l.colors stamp.plain ++ " " ++ level ++ " " ++ e.message
  match l.format with
  | .text => line
  | .ext => line ++ " (" ++ faint l.colors e.origin.place ++ ")"
  | .json =>
    "\x7b" ++ ",".intercalate [
      Json.written "level" ++ ":" ++ Json.written e.level.abbreviation,
      Json.written "message" ++ ":" ++ Json.written e.message,
      Json.written "target" ++ ":" ++ Json.written e.origin.place,
      Json.written "timestamp" ++ ":" ++ Json.written stamp.object] ++ "\x7d"

end ImportWeights.Logging
