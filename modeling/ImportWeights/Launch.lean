import ImportWeights.CommandLine.Help
import ImportWeights.CommandLine.Parse
import ImportWeights.Session
import ImportWeights.Settings.ConfigFile
import ImportWeights.Settings.Resolve

/-! One run of the program, from its arguments to its exit code. Whatever goes wrong before
the service has started ends it at once. -/

namespace ImportWeights

open ImportWeights.CommandLine ImportWeights.Dispatch ImportWeights.Fetch ImportWeights.Files
open ImportWeights.Jobs ImportWeights.Logging ImportWeights.Net ImportWeights.Report
open ImportWeights.Settings

/-- Which build this is. -/
structure Build where
  version : String
  revision : String
  builtAt : String
deriving DecidableEq, Repr

def Build.long (b : Build) : String :=
  b.version ++ " (" ++ b.revision ++ ", built " ++ b.builtAt ++ ")"

/-- What the program finds around it. -/
structure Surroundings where
  build : Build
  environment : List (String × String)
  files : FileTree
  /-- Where the configuration file is looked for if none is named. -/
  usualConfig : Option Path
  isTerminal : Bool
  git : Program
  transfer : Transfer
  send : Transport
  /-- What binding an address gives. -/
  bind : SocketAddress → Except OsError Unit
  requests : List Http.Request
  timing : Job → Timing
  stamp : Stamp

/-- What the program leaves behind: its output is `printed`, its error output `told`. -/
structure Ending where
  exitCode : Nat
  files : FileTree
  printed : String
  told : String

namespace Launch

/-- The configuration file below the directory for such files. -/
def configSubpath : Path := Path.ofString "Depweight/depweight.toml"

/-- Where the configuration file usually is. -/
def usualConfig (environment : List (String × String)) : Option Path :=
  let named := (environment.lookup "XDG_CONFIG_HOME").map Path.ofString
  let directory := match named.filter Path.isAbsolute with
    | some path => some path
    | none => ((environment.lookup "HOME").filter (· ≠ "")).map fun home =>
        (Path.ofString home).join (Path.ofString ".config")
  directory.map fun d => d.join configSubpath

/-- Reads the configuration file and gives every setting a value. -/
def configure (w : Surroundings) (o : Options) : Except ConfigError (Option Path × Settings) := do
  let (path, o) ← o.withConfigFile w.files w.usualConfig
  return (path, ← Settings.resolve o w.isTerminal)

/-- What is logged once the settings are known. -/
def greeting (b : Build) (loaded : Option Path) (s : Settings) : Log :=
  (loaded.map fun path =>
    debug (.startup 33) ("loaded configuration from " ++ path.display)).toList ++
  [info (.startup 44) (programName ++ " " ++ b.long ++ " (" ++ Choice.name s.environment ++
    " environment)")]

/-- The time of grace as it is shown. -/
def graceText (e : Environment) : String := toString (e.graceMillis / 1000) ++ "s"

/-- What a run has come to: its exit code, its log, and what else it leaves. -/
structure Outcome where
  exitCode : Nat
  log : Log
  files : FileTree
  printed : String

def Outcome.failed (log : Log) (files : FileTree) : Outcome := ⟨1, log, files, ""⟩

/-- Everything after the log has started. -/
def work (w : Surroundings) (s : Settings) (files : FileTree) : Outcome :=
  match s.reporters w.send with
  | .error e =>
    .failed [error (.startup 49) ("FATAL: Could not set up reporters: " ++ e.message)] files
  | .ok reporters =>
    let cloner := s.cloneBackend.cloner w.git w.transfer
    match Service.start s.service cloner.name reporters w.timing files with
    | .error e => .failed (errorInContext e "Could not start the scan service") files
    | .ok service =>
      let course : Course := ⟨fun _ => cloner, true⟩
      let grace := graceText s.environment
      let session :=
        if s.serve then
          Session.serving course grace ⟨s.listenAddr, w.bind s.listenAddr, w.requests⟩ s.repos
            service
        else Session.oneShot course grace s.repos service
      let p := session.service.pipeline
      ⟨session.exitCode, p.log, p.files, p.printed⟩

/-- Writes the log and ends. -/
def conclude (w : Surroundings) (logger : Logger) (o : Outcome) : Ending :=
  let out := (logger.writeAll w.stamp o.log ⟨o.files, ""⟩).2
  ⟨o.exitCode, out.files, o.printed, out.printed⟩

/-- What happens if the configuration is wrong: the log is that of no settings. -/
def misconfigured (w : Surroundings) (e : ConfigError) : Ending :=
  match Logger.start none LogSettings.usual (forcesColors w.environment) w.files with
  | .error _ => ⟨1, Logger.leaves LogSettings.usual w.files, "", ""⟩
  | .ok (logger, files) =>
    conclude w logger (.failed (errorInContext e "Invalid configuration") files)

/-- Runs with settings that have been read. -/
def withSettings (w : Surroundings) (loaded : Option Path) (s : Settings) : Ending :=
  match Logger.start none s.log (forcesColors w.environment) w.files with
  | .error e =>
    let told := programName ++ ": failed to start logging: " ++ e.message ++ "\n"
    ⟨1, Logger.leaves s.log w.files, "", told⟩
  | .ok (logger, files) =>
    let o := work w s files
    conclude w logger { o with log := greeting w.build loaded s ++ o.log }

/-- What is printed instead of a run. -/
def refuse (w : Surroundings) : Refusal → Ending
  | .helpAsked full => ⟨0, w.files, help full w.environment, ""⟩
  | .versionAsked full =>
    let version := if full then w.build.long else w.build.version
    ⟨0, w.files, programName ++ " " ++ version ++ "\n", ""⟩
  | .usage e =>
    ⟨usageExitCode, w.files, "", "error: " ++ e.message ++ "\n\nUsage: " ++ programName ++
      " [OPTIONS]\n\nFor more information, try '--help'.\n"⟩

/-- One run of the program. -/
def run (arguments : List String) (w : Surroundings) : Ending :=
  match CommandLine.parse arguments w.environment with
  | .error refusal => refuse w refusal
  | .ok options =>
    match configure w options with
    | .error e => misconfigured w e
    | .ok (loaded, settings) => withSettings w loaded settings

/-- The file that says what a run is to do, if one is looked for. -/
def configFile? (arguments : List String) (environment : List (String × String)) : Option Path :=
  match CommandLine.parse arguments environment with
  | .ok o => o.configFile.or (usualConfig environment)
  | .error _ => none

/-- The settings of a run, as far as they can be read. -/
def settings? (arguments : List String) (w : Surroundings) : Option Settings :=
  match CommandLine.parse arguments w.environment with
  | .ok o => (configure w o).toOption.map (·.2)
  | .error _ => none

/-- The files that a run with these settings writes to. -/
def outputs (s : Settings) : List Path := s.reportFile.toList ++ s.log.file.toList

end Launch

end ImportWeights
