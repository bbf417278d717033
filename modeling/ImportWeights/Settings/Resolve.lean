import ImportWeights.Dispatch.Service
import ImportWeights.Logging.Logger
import ImportWeights.Net.SocketAddress
import ImportWeights.Report.Diagram
import ImportWeights.Settings.Error
import ImportWeights.Settings.Options

/-! Settings: every option has a value, its own or the built-in one. -/

namespace ImportWeights.Settings

open ImportWeights.Dispatch ImportWeights.Fetch ImportWeights.Files ImportWeights.Logging
open ImportWeights.Net ImportWeights.Report ImportWeights.Scan

def defaultListenAddr : String := "127.0.0.1:8080"
def defaultStagingDir : Path := Path.ofString "./tmp"
def defaultExpectedHost : String := "github.com"

/-- What the diagram service needs to know. -/
structure DiagramSettings where
  apiKey : String
  baseUrl : String
  folderId : String
deriving DecidableEq, Repr

end ImportWeights.Settings

namespace ImportWeights

open ImportWeights.Dispatch ImportWeights.Fetch ImportWeights.Files ImportWeights.Logging
open ImportWeights.Net ImportWeights.Report ImportWeights.Scan ImportWeights.Settings

structure Settings where
  listenAddr : SocketAddress
  environment : Environment
  service : ServiceConfig
  cloneBackend : CloneBackend
  reportFormat : ReportFormat
  reportFile : Option Path
  diagram : Option DiagramSettings
  log : LogSettings
  useColor : Bool
  repos : List String
  serve : Bool
deriving DecidableEq, Repr

namespace Settings

/-- An address to listen on. A port alone, after a colon, means every interface. -/
def parseListenAddr (value : String) : Except ConfigError SocketAddress :=
  let value := Text.trim value
  let candidate := match value.toList with
    | ':' :: port => "0.0.0.0:" ++ String.ofList port
    | _ => value
  match SocketAddress.parse? candidate with
  | some address => .ok address
  | none => .error (.invalidValue "listen-addr"
      ("'" ++ value ++ "' is not a socket address (invalid socket address syntax)"))

/-- The diagram service is used if there is a key that is not empty; then a folder has to be
named, too. -/
def diagramOf (o : Options) : Except ConfigError (Option DiagramSettings) :=
  match o.diagramApiKey with
  | none => .ok none
  | some key =>
    if key = "" then .ok none
    else match o.diagramFolderId with
      | some folderId => .ok (some ⟨key, o.diagramBaseUrl.getD defaultBaseUrl, folderId⟩)
      | none => .error (.invalidValue "diagram-folder-id"
          "a folder id is required when a diagram API key is set")

/-- The file name that stands for no log file. -/
def noLogFile : Path := Path.ofString "none"

/-- Whether to use colors, which also depends on whether the output is a terminal. -/
def useColorOf (o : Options) (isTerminal : Bool) : Bool :=
  !o.noColor && (o.color || isTerminal)

def logOf (o : Options) (environment : Environment) (color : Bool) : LogSettings where
  level := o.logLevel.getD environment.logLevel
  format := o.logFormat.getD Choice.usual
  file := o.logFile.filter (· ≠ noLogFile)
  color := color

def serviceOf (o : Options) : ServiceConfig where
  fetch := {
    stagingDir := o.stagingDir.getD defaultStagingDir
    expectedHost := o.expectedHost.getD defaultExpectedHost
    folderNaming := o.folderNaming.getD Choice.usual }
  scanner := {
    maxLineLength := o.maxLineLength.getD defaultMaxLineLength
    exclude := o.exclude }

/-- Gives every option a value. -/
def resolve (o : Options) (isTerminal : Bool) : Except ConfigError Settings := do
  let environment := o.environment.getD Choice.usual
  let listenAddr ← parseListenAddr (o.listenAddr.getD defaultListenAddr)
  let diagram ← diagramOf o
  let useColor := useColorOf o isTerminal
  return {
    listenAddr, environment, diagram, useColor
    service := serviceOf o
    cloneBackend := o.cloneBackend.getD Choice.usual
    reportFormat := o.reportFormat.getD Choice.usual
    reportFile := o.reportFile
    log := logOf o environment useColor
    repos := o.repos
    serve := !o.noServer }

/-- The reporters: the console, and the diagram service if it is used. -/
def reporters (s : Settings) (send : Transport) : Except ReportError (List Reporter) :=
  let console := (ConsoleReporter.create s.reportFormat s.reportFile s.useColor).reporter
  match s.diagram with
  | none => .ok [console]
  | some d => (DiagramClient.create d.apiKey d.baseUrl d.folderId).map fun client =>
      [console, client.reporter send]

end Settings

end ImportWeights
