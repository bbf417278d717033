import ImportWeights.Settings.Choice

/-! What the command line, the environment and the configuration file can say. Each setting
may be left open; a later layer fills only what an earlier one left open. -/

namespace ImportWeights.Settings

open ImportWeights.Fetch ImportWeights.Files ImportWeights.Logging ImportWeights.Report
open ImportWeights.Repository

structure Options where
  repos : List String
  noServer : Bool
  configFile : Option Path
  listenAddr : Option String
  environment : Option Environment
  stagingDir : Option Path
  expectedHost : Option String
  cloneBackend : Option CloneBackend
  folderNaming : Option FolderNaming
  maxLineLength : Option Nat
  exclude : List String
  reportFormat : Option ReportFormat
  reportFile : Option Path
  diagramApiKey : Option String
  diagramBaseUrl : Option String
  diagramFolderId : Option String
  logLevel : Option String
  logFormat : Option LogFormat
  logFile : Option Path
  color : Bool
  noColor : Bool
deriving DecidableEq, Repr

/-- Nothing is said. -/
def Options.unset : Options where
  repos := []
  noServer := false
  configFile := none
  listenAddr := none
  environment := none
  stagingDir := none
  expectedHost := none
  cloneBackend := none
  folderNaming := none
  maxLineLength := none
  exclude := []
  reportFormat := none
  reportFile := none
  diagramApiKey := none
  diagramBaseUrl := none
  diagramFolderId := none
  logLevel := none
  logFormat := none
  logFile := none
  color := false
  noColor := false

end ImportWeights.Settings
