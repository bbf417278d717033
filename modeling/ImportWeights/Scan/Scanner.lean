import ImportWeights.Scan.Walk
import ImportWeights.Source.BoundedLine

/-! A whole scan. Each candidate file ends in a record, in a diagnostic or in neither, and
says nothing about any other file. -/

namespace ImportWeights.Scan

open ImportWeights.Files ImportWeights.Source ImportWeights.Logging

def defaultMaxLineLength : Nat := 4096

structure ScannerConfig where
  maxLineLength : Nat
  exclude : List String
deriving DecidableEq, Repr

structure Scanner where
  filter : CandidateFilter
  maxLineLength : Nat
deriving DecidableEq, Repr

def compileExclude (text : String) : Except ScanError Pattern :=
  match Pattern.parse text with
  | .ok pattern => .ok pattern
  | .error e => .error (.invalidPattern text e)

/-- The filter that leaves out what any of the patterns matches. -/
def CandidateFilter.ofPatterns (patterns : List String) : Except ScanError CandidateFilter :=
  (patterns.mapM compileExclude).map CandidateFilter.mk

def Scanner.ofConfig (config : ScannerConfig) : Except ScanError Scanner :=
  (CandidateFilter.ofPatterns config.exclude).map fun filter => ⟨filter, config.maxLineLength⟩

/-- The outcome of reading the file at a path, given what opening and reading it gave. -/
def outcomeOf (max : Nat) (path : Path) :
    Except FileTree.ReadError (List UInt8) → Except FileError Outcome
  | .error (.opening e) => .error (.opening path e)
  | .error (.reading e) => .error (.reading path e)
  | .ok bytes =>
    match extract max bytes with
    | .ok outcome => .ok outcome
    | .error e => .error (.lineTooLong path e.line e.limit)

/-- The outcome of the file at a path. -/
def Scanner.extractFile (s : Scanner) (files : FileTree) (path : Path) :
    Except FileError Outcome :=
  outcomeOf s.maxLineLength path (files.read path)

/-- What a scan has come to so far: the records, and what is to be told about files. -/
structure Findings where
  packages : List PackageRecord
  diagnostics : List Diagnostic
deriving DecidableEq, Repr

def Findings.none : Findings := ⟨[], []⟩

/-- Takes up how reading one file ended. -/
def Findings.note (found : Findings) (path : Path) : Except FileError Outcome → Findings
  | .ok (.complete record) => { found with packages := found.packages ++ [record] }
  | .ok (.unterminated package imports) =>
    { found with diagnostics := found.diagnostics ++ [.unterminated path package imports] }
  | .ok .noImportBlock => found
  | .error e => { found with diagnostics := found.diagnostics ++ [.skipped e] }

/-- Reads files one after the other. -/
def Scanner.readAll (s : Scanner) (files : FileTree) : Findings → List Path → Findings
  | found, [] => found
  | found, path :: rest => s.readAll files (found.note path (s.extractFile files path)) rest

/-- The log line that goes with a diagnostic. -/
def Diagnostic.logEntry : Diagnostic → LogEntry
  | .skipped e => warn (.scanner 166) e.message
  | .unterminated path _ imports =>
    debug (.scanner 153) ("import block in " ++ path.display ++ " never closed; discarding " ++
      toString imports ++ " import(s)")

structure TreeScan where
  packages : List PackageRecord
  filesScanned : Nat
deriving DecidableEq, Repr

/-- A scan's result with what it told on the way. -/
structure ScanRun where
  result : Except ScanError TreeScan
  candidates : List Path
  diagnostics : List Diagnostic
  log : Log

/-- Reads every candidate below a root. -/
def Scanner.scanTree (s : Scanner) (files : FileTree) (root : Path) : ScanRun :=
  match collectCandidates s.filter files root with
  | .error e => ⟨.error e, [], [], []⟩
  | .ok candidates =>
    let paths := candidates.map (pathBelow root)
    let found := s.readAll files .none paths
    { result := .ok ⟨found.packages, paths.length⟩
      candidates := paths
      diagnostics := found.diagnostics
      log := paths.map (fun path => debug (.scanner 113) ("scanning path: " ++ path.display)) ++
        found.diagnostics.map Diagnostic.logEntry ++
        found.packages.map (fun p => debug (.scanner 173) p.display) }

end ImportWeights.Scan
