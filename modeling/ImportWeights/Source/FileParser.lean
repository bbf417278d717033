import ImportWeights.Source.Line
import ImportWeights.Source.Record
import ImportWeights.Text.Pieces

/-! One file, read line by line. The first block that is closed settles the record:
nothing after its closing line is of interest, so whoever feeds lines stops there. -/

namespace ImportWeights.Source

structure FileParser where
  mode : Mode
  name : String
  imports : List String
  closed : Bool
deriving DecidableEq, Repr

namespace FileParser

def fresh : FileParser := ⟨.seeking, "", [], false⟩

/-- Takes up what an event says; the mode is left to `feed`. -/
def note (p : FileParser) : LineEvent → FileParser
  | .package name => { p with name := name }
  | .packageImport name path => { p with name := name, imports := p.imports ++ [path] }
  | .importPath path => { p with imports := p.imports ++ [path] }
  | .closeBlock => { p with closed := true }
  | .openBlock => p
  | .ignored => p

def feed (p : FileParser) (line : String) : FileParser :=
  let event := classify p.mode line
  { p.note event with mode := p.mode.after event }

/-- Feeds lines until the block is closed. -/
def feedAll : FileParser → List String → FileParser
  | p, [] => p
  | p, line :: rest =>
    if (p.feed line).closed then p.feed line else feedAll (p.feed line) rest

def finish (p : FileParser) : Outcome :=
  if p.closed then .complete ⟨p.name, p.imports⟩
  else match p.mode with
    | .capturing => .unterminated p.name p.imports.length
    | .seeking => .noImportBlock

end FileParser

/-- The lines of a text, their terminators removed. -/
def sourceLines (source : String) : List String :=
  (Text.lines source.toList).map String.ofList

/-- The outcome of a text held in memory. -/
def parseSource (source : String) : Outcome :=
  (FileParser.fresh.feedAll (sourceLines source)).finish

end ImportWeights.Source
