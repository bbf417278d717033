import ImportWeights.Files.Tree
import ImportWeights.Settings.Error
import ImportWeights.Settings.Options
import ImportWeights.Text.Trim
import ImportWeights.Toml.Reader

/-! The configuration file. What it says fills the settings that are still open; its lists
are added to those that are there. -/

namespace ImportWeights.Settings

open ImportWeights.Files ImportWeights.Toml

/-- What the file says about one setting: nothing, a value, or something unfit. -/
abbrev Found (α : Type) := Except ConfigError (Option α)

private def foundText (key : String) : Option Value → Found String
  | none => .ok none
  | some (.text s) => .ok (some s)
  | some _ => .error (.invalidValue key "expected a string")

def textAt (t : Table) (key : String) : Found String := foundText key (t.get? key)

def pathAt (t : Table) (key : String) : Found Path :=
  (textAt t key).map fun s => s.map Path.ofString

/-- One of a few named values. -/
def choiceAt {α : Type} [Choice α] (t : Table) (key : String) : Found α :=
  match textAt t key with
  | .error e => .error e
  | .ok none => .ok none
  | .ok (some s) =>
    match Choice.ofName? s with
    | some a => .ok (some a)
    | none => .error (.invalidValue key ("'" ++ s ++ "' is not a recognised value"))

def flagAt (t : Table) (key : String) : Found Bool :=
  match t.get? key with
  | none => .ok none
  | some (.boolean b) => .ok (some b)
  | some _ => .error (.invalidValue key "expected true or false")

def lengthAt (t : Table) (key : String) : Found Nat :=
  match t.get? key with
  | none => .ok none
  | some (.integer n) =>
    if 0 < n then .ok (some n.toNat) else .error (.invalidValue key "expected a positive integer")
  | some _ => .error (.invalidValue key "expected a positive integer")

/-- The entries of a text with commas between them; blanks around an entry do not count, and
neither do empty entries. -/
def listEntries (s : String) : List String :=
  ((Text.splitAt ',' s.toList).map fun cs => Text.trim (String.ofList cs)).filter (· ≠ "")

/-- The text of a value that is one. -/
def textOf? : Value → Option String
  | .text s => some s
  | _ => none

/-- A list: one text, or an array of texts. -/
def listAt (t : Table) (key : String) : Except ConfigError (List String) :=
  match t.get? key with
  | none => .ok []
  | some (.text s) => .ok (listEntries s)
  | some (.array items) =>
    match items.mapM textOf? with
    | some texts => .ok (texts.flatMap listEntries)
    | none => .error (.invalidValue key "expected strings")
  | some (.tables _) => .error (.invalidValue key "expected strings")
  | some _ => .error (.invalidValue key "expected a string or an array of strings")

/-- Everything that the file says. The keys on colors are looked at only if asked for. -/
def Options.ofTable (withColors : Bool) (t : Table) : Except ConfigError Options := do
  let repos ← listAt t "repo"
  let exclude ← listAt t "exclude"
  let listenAddr ← textAt t "listen-addr"
  let environment ← choiceAt t "env"
  let stagingDir ← pathAt t "staging-dir"
  let expectedHost ← textAt t "expected-host"
  let cloneBackend ← choiceAt t "clone-backend"
  let folderNaming ← choiceAt t "folder-naming"
  let reportFormat ← choiceAt t "report-format"
  let reportFile ← pathAt t "report-file"
  let diagramApiKey ← textAt t "diagram-api-key"
  let diagramBaseUrl ← textAt t "diagram-base-url"
  let diagramFolderId ← textAt t "diagram-folder-id"
  let logLevel ← textAt t "log-level"
  let logFormat ← choiceAt t "log-format"
  let logFile ← pathAt t "log-file"
  let maxLineLength ← lengthAt t "max-line-length"
  let color ← if withColors then flagAt t "color" else pure none
  let noColor ← if withColors then flagAt t "no-color" else pure none
  return {
    repos, noServer := false, configFile := none, listenAddr, environment, stagingDir
    expectedHost, cloneBackend, folderNaming, maxLineLength, exclude, reportFormat, reportFile
    diagramApiKey, diagramBaseUrl, diagramFolderId, logLevel, logFormat, logFile
    color := color.getD false, noColor := noColor.getD false }

/-- Whether a color flag was given. -/
def Options.hasColorFlag (o : Options) : Bool := o.color || o.noColor

/-- Fills what is open from the layer below. -/
def Options.over (o below : Options) : Options where
  repos := o.repos ++ below.repos
  noServer := o.noServer || below.noServer
  configFile := o.configFile.or below.configFile
  listenAddr := o.listenAddr.or below.listenAddr
  environment := o.environment.or below.environment
  stagingDir := o.stagingDir.or below.stagingDir
  expectedHost := o.expectedHost.or below.expectedHost
  cloneBackend := o.cloneBackend.or below.cloneBackend
  folderNaming := o.folderNaming.or below.folderNaming
  maxLineLength := o.maxLineLength.or below.maxLineLength
  exclude := o.exclude ++ below.exclude
  reportFormat := o.reportFormat.or below.reportFormat
  reportFile := o.reportFile.or below.reportFile
  diagramApiKey := o.diagramApiKey.or below.diagramApiKey
  diagramBaseUrl := o.diagramBaseUrl.or below.diagramBaseUrl
  diagramFolderId := o.diagramFolderId.or below.diagramFolderId
  logLevel := o.logLevel.or below.logLevel
  logFormat := o.logFormat.or below.logFormat
  logFile := o.logFile.or below.logFile
  color := o.color || below.color
  noColor := o.noColor || below.noColor

/-- Fills what is open from a configuration table. -/
def Options.withTable (o : Options) (t : Table) : Except ConfigError Options :=
  (Options.ofTable (!o.hasColorFlag) t).map o.over

/-- Which file to read: the one named, which has to be there, or else the usual one. -/
def Options.configPath (o : Options) (files : FileTree) (usual : Option Path) : Found Path :=
  match o.configFile with
  | some path => if files.pathExists path then .ok (some path) else .error (.missingFile path)
  | none => .ok (usual.filter files.pathExists)

/-- The table in a configuration file. -/
def readTable (files : FileTree) (path : Path) : Except ConfigError Table :=
  match files.read path with
  | .error e => .error (.unreadable path e.cause)
  | .ok bytes =>
    match Text.Utf8.string? bytes with
    | none => .error (.unreadable path .invalidText)
    | some text =>
      match Toml.parse? text with
      | none => .error (.malformed path)
      | some table => .ok table

/-- Reads the configuration file, if there is one. -/
def Options.withConfigFile (o : Options) (files : FileTree) (usual : Option Path) :
    Except ConfigError (Option Path × Options) := do
  match ← o.configPath files usual with
  | none => return (none, o)
  | some path =>
    let table ← readTable files path
    return (some path, ← o.withTable table)

end ImportWeights.Settings
