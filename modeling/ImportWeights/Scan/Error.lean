import ImportWeights.Files.Tree
import ImportWeights.Logging.Context
import ImportWeights.Scan.Pattern
import ImportWeights.Source.Record

/-! What can go wrong with a whole scan, and what with a single file of it. -/

namespace ImportWeights.Scan

open ImportWeights.Files ImportWeights.Source

/-- An error that abandons a scan. -/
inductive ScanError where
  /-- The walk from the root failed at a place so many names below it. -/
  | walk (root : Path) (depth : Nat) (place : Path) (cause : OsError)
  | noFilesFound (root : Path)
  | invalidPattern (pattern : String) (cause : PatternError)
  | task (message : String)
deriving DecidableEq, Repr

def ScanError.message : ScanError → String
  | walk root _ place cause =>
    "Could not walk source tree at '" ++ root.display ++ "': IO error for operation on " ++
      place.display ++ ": " ++ cause.message
  | noFilesFound root =>
    "No files of interest found under '" ++ root.display ++ "'. Maybe it's not a Go project?"
  | invalidPattern pattern cause =>
    "Invalid exclusion pattern '" ++ pattern ++ "': " ++ cause.message
  | task message => "Scan task failed: " ++ message

def ScanError.details : ScanError → String
  | walk root depth place cause =>
    let inner := Text.shownRecord "Io"
      [("path", "Some(" ++ place.quoted ++ ")"), ("err", cause.details)]
    Text.shownRecord "Walk" [("root", root.quoted),
      ("source", Text.shownRecord "Error" [("depth", toString depth), ("inner", inner)])]
  | noFilesFound root => Text.shownRecord "NoFilesFound" [("root", root.quoted)]
  | invalidPattern pattern cause =>
    Text.shownRecord "InvalidPattern" [("pattern", Text.quoted pattern),
      ("source", Text.shownRecord "PatternError"
        [("pos", toString cause.position), ("msg", Text.quoted cause.fault.message)])]
  | task message => Text.shownRecord "Task" [("message", Text.quoted message)]

instance : Logging.Contextual ScanError where
  message := ScanError.message
  details := ScanError.details
  isActionable
    | .invalidPattern .. => true
    | _ => false
  userMessage?
    | .invalidPattern pattern _ => some pattern
    | _ => none

/-- An error that skips one file. -/
inductive FileError where
  | opening (path : Path) (cause : OsError)
  | reading (path : Path) (cause : OsError)
  | lineTooLong (path : Path) (line limit : Nat)
deriving DecidableEq, Repr

def FileError.path : FileError → Path
  | opening path _ => path
  | reading path _ => path
  | lineTooLong path _ _ => path

def FileError.message : FileError → String
  | opening path cause => "could not open file " ++ path.display ++ ": " ++ cause.message
  | reading path cause =>
    "skipped unreadable file (" ++ path.display ++ "): " ++ cause.message
  | lineTooLong path line limit =>
    "skipped file with over-long line (" ++ path.display ++ "): line " ++ toString line ++
      " exceeds " ++ toString limit ++ " bytes"

/-- Something to tell about one file. -/
inductive Diagnostic where
  | skipped (error : FileError)
  | unterminated (path : Path) (package : String) (imports : Nat)
deriving DecidableEq, Repr

def Diagnostic.path : Diagnostic → Path
  | skipped e => e.path
  | unterminated path _ _ => path

end ImportWeights.Scan
