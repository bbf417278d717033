import ImportWeights.Settings.Choice

/-! The options of the command line: how each is written, what it takes, which variable of
the environment stands in for it, and what the help says of it. -/

namespace ImportWeights.CommandLine

open ImportWeights.Fetch ImportWeights.Logging ImportWeights.Report ImportWeights.Repository
open ImportWeights.Settings

inductive OptionKey where
  | repo
  | noServer
  | configFile
  | listenAddr
  | environment
  | stagingDir
  | expectedHost
  | cloneBackend
  | folderNaming
  | maxLineLength
  | exclude
  | reportFormat
  | reportFile
  | diagramApiKey
  | diagramBaseUrl
  | diagramFolderId
  | logLevel
  | logFormat
  | logFile
  | color
  | noColor
  | help
  | version
deriving DecidableEq, Repr

/-- A named value, with what the full help says of it. -/
structure NamedValue where
  name : String
  about : Option String
deriving DecidableEq, Repr

/-- A variable of the environment. The value of a secret one is not shown. -/
structure Variable where
  name : String
  isSecret : Bool
deriving DecidableEq, Repr

/-- An option. One without a name for its value is a switch. -/
structure OptionSpec where
  key : OptionKey
  short : Option Char
  long : String
  valueName : Option String
  about : String
  standIn : Option Variable
  choices : List NamedValue
deriving DecidableEq, Repr

namespace OptionSpec

def takesValue (o : OptionSpec) : Bool := o.valueName.isSome

private def switch (key : OptionKey) (short : Option Char) (long about : String) : OptionSpec :=
  ⟨key, short, long, none, about, none, []⟩

private def valued (key : OptionKey) (short : Option Char) (long valueName about : String) :
    OptionSpec :=
  ⟨key, short, long, some valueName, about, none, []⟩

private def withVariable (o : OptionSpec) (name : String) : OptionSpec :=
  { o with standIn := some ⟨name, false⟩ }

private def oneOf (o : OptionSpec) (names : List String) : OptionSpec :=
  { o with choices := names.map fun name => ⟨name, none⟩ }

private def describing (o : OptionSpec) (names abouts : List String) : OptionSpec :=
  { o with choices := names.zipWith (fun name about => ⟨name, some about⟩) abouts }

end OptionSpec

def logLevels : List String := ["trace", "debug", "info", "warn", "error", "off"]

open OptionSpec in
/-- All options, in the order of the help. -/
def optionSpecs : List OptionSpec :=
  [valued .repo (some 'r') "repo" "URLS" "Repositories to fetch at startup*",
    switch .noServer none "no-server"
      "Fetch and scan the --repo list, then exit without serving HTTP",
    valued .configFile (some 'c') "config-file" "FILE" "Configuration file path",
    (valued .listenAddr (some 'a') "listen" "ADDR"
      "HTTP listen address (`host:port` or `:port`)").withVariable "HTTP_LISTEN_ADDR",
    ((valued .environment (some 'e') "env" "ENV"
      "Deployment environment; sets the shutdown grace period").withVariable "ENV").oneOf
      (Choice.names Environment),
    valued .stagingDir (some 's') "staging-dir" "DIR" "Clone destination and scan root",
    valued .expectedHost none "host" "HOST" "Only host accepted for http(s) URLs",
    (valued .cloneBackend none "clone-backend" "BACKEND"
      "How repositories are cloned").describing (Choice.names CloneBackend)
      ["Run the `git` executable", "Clone in-process"],
    (valued .folderNaming none "folder-naming" "POLICY"
      "How staging folder names are derived from URLs").oneOf (Choice.names FolderNaming),
    valued .maxLineLength none "max-line-length" "BYTES"
      "Longest accepted source line in bytes; files with longer lines are skipped",
    valued .exclude (some 'x') "exclude" "GLOBS"
      "Glob patterns (relative to the checkout) to leave out of scans*",
    (valued .reportFormat none "report-format" "FORMAT" "Report layout").describing
      (Choice.names ReportFormat)
      ["Aligned edge/weight table", "Pretty-printed JSON document per scan"],
    valued .reportFile none "report-file" "FILE"
      "Append reports to this file instead of printing them",
    { valued .diagramApiKey none "diagram-api-key" "KEY"
        "Diagram service API key; enables diagram creation" with
      standIn := some ⟨"CACOO_API_KEY", true⟩ },
    (valued .diagramBaseUrl none "diagram-base-url" "URL"
      "Diagram service base URL").withVariable "CACOO_BASE_URL",
    (valued .diagramFolderId none "diagram-folder-id" "ID"
      "Diagram service folder receiving new diagrams").withVariable "CACOO_FOLDER_ID",
    (valued .logLevel (some 'l') "log-level" "LEVEL" "Log level").oneOf logLevels,
    (valued .logFormat (some 'o') "log-format" "FORMAT" "Log output format").describing
      (Choice.names LogFormat)
      ["`timestamp LVL message`", "`timestamp LVL message (module/path.rs:line)`",
        "One JSON object per line"],
    valued .logFile (some 'f') "log-file" "FILE"
      "Log file path (use 'none' to disable file logging)",
    switch .color (some 'g') "color" "Force colored output",
    switch .noColor (some 'n') "no-color" "Disable colored output",
    switch .help (some 'h') "help" "Print help",
    switch .version (some 'V') "version" "Print version"]

def specOfLong? (name : String) : Option OptionSpec :=
  optionSpecs.find? fun o => o.long = name

def specOfShort? (c : Char) : Option OptionSpec :=
  optionSpecs.find? fun o => o.short = some c

end ImportWeights.CommandLine
