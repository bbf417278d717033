import ImportWeights.Files.OsError
import ImportWeights.Files.Path
import ImportWeights.Logging.Context

/-! Why a clone did not come about. -/

namespace ImportWeights.Fetch

open ImportWeights.Files

inductive CloneError where
  | staging (path : Path) (cause : OsError)
  | spawn (program : String) (cause : OsError)
  /-- The program ran and failed. -/
  | command (status stderr : String)
  /-- The clone was made in this process and failed. -/
  | inProcess (message : String)
  /-- The task that made the clone did not end by itself. -/
  | task (message : String)
deriving DecidableEq, Repr

def CloneError.message : CloneError → String
  | staging path cause =>
    "Failed to prepare staging directory " ++ path.display ++ ": " ++ cause.message
  | spawn program cause => "Failed to run '" ++ program ++ "': " ++ cause.message
  | command status stderr => "git clone exited with " ++ status ++ ": " ++ stderr
  | inProcess message => "Clone failed: " ++ message
  | task message => "Clone task failed: " ++ message

def CloneError.isActionable : CloneError → Bool
  | spawn .. => true
  | _ => false

def CloneError.userMessage? : CloneError → Option String
  | spawn .. => some "is git installed and on PATH?"
  | _ => none

def CloneError.details : CloneError → String
  | staging path cause =>
    Text.shownRecord "Staging" [("path", path.quoted), ("source", cause.details)]
  | spawn program cause =>
    Text.shownRecord "Spawn" [("program", Text.quoted program), ("source", cause.details)]
  | command status stderr =>
    Text.shownRecord "Command" [("status", Text.quoted status), ("stderr", Text.quoted stderr)]
  | inProcess message => Text.shownRecord "Gix" [("message", Text.quoted message)]
  | task message => Text.shownRecord "Task" [("message", Text.quoted message)]

instance : Logging.Contextual CloneError where
  message := CloneError.message
  details := CloneError.details
  isActionable := CloneError.isActionable
  userMessage? := CloneError.userMessage?

end ImportWeights.Fetch
