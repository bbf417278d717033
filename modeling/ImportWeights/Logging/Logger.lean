import ImportWeights.Files.Tree
import ImportWeights.Logging.Filter
import ImportWeights.Logging.Layout

/-! The log of the process. It is started once; after that only its filter can change. It
goes to the error output or to a file, which the first entry begins afresh. -/

namespace ImportWeights.Logging

open ImportWeights.Files

/-- What the log needs to know. Colors are wanted, but only used if they are forced. -/
structure LogSettings where
  level : String
  format : LogFormat
  file : Option Path
  color : Bool
deriving DecidableEq, Repr

def LogSettings.usual : LogSettings := ⟨"info", .text, none, false⟩

structure Logger where
  filter : LogFilter
  layout : Layout
  file : Option Path
  /-- The file holds entries of this log already. -/
  begun : Bool
deriving DecidableEq, Repr

/-- Why the log did not start. -/
inductive LogStartError where
  | badFilter (error : FilterError)
  /-- The log file is a directory or has no name. -/
  | noFile
  /-- The directory of the log file is none or cannot be made. -/
  | noDirectory
  | alreadyStarted
deriving DecidableEq, Repr

def LogStartError.message : LogStartError → String
  | badFilter error => error.message
  | noFile => "Log file cannot be written because the specified path is a directory"
  | noDirectory =>
    "Log cannot be written, e.g. because the configured output directory is not accessible"
  | alreadyStarted => "Logger initialization failed"

/-- Whether colors are forced by the environment. -/
def forcesColors (environment : List (String × String)) : Bool :=
  match environment.lookup "CLICOLOR_FORCE" with
  | some value => value ≠ "0"
  | none => false

namespace Logger

/-- Whether a path can be that of a log file. -/
private def namesFile (files : FileTree) (path : Path) : Bool :=
  path.bytes ≠ [] && path.bytes.getLast? ≠ some Path.separator && path.fileName?.isSome &&
    !files.isDirectory path

/-- Makes the directory of a log file. -/
private def prepare (files : FileTree) (path : Path) : Except LogStartError Unit × FileTree :=
  if !namesFile files path then (.error .noFile, files)
  else match path.parent? with
    | none => (.ok (), files)
    | some parent =>
      if parent.bytes = [] then (.ok (), files)
      else match files.tryMakeDirectories parent with
        | (.ok _, files) => (.ok (), files)
        | (.error _, files) => (.error .noDirectory, files)

/-- What a log needs before it can start. A level that cannot be read is found before
anything is made. -/
def ready (settings : LogSettings) (files : FileTree) :
    Except LogStartError LogFilter × FileTree :=
  match LogFilter.parse settings.level, settings.file with
  | .error e, _ => (.error (.badFilter e), files)
  | .ok filter, none => (.ok filter, files)
  | .ok filter, some path =>
    let (made, files) := prepare files path
    (made.map fun _ => filter, files)

/-- Starts the log, unless it has been started. -/
def start (current : Option Logger) (settings : LogSettings) (colorsForced : Bool)
    (files : FileTree) : Except LogStartError (Logger × FileTree) :=
  match ready settings files, current with
  | (.error e, _), _ => .error e
  | (.ok _, _), some _ => .error .alreadyStarted
  | (.ok filter, files), none =>
    .ok (⟨filter, ⟨settings.format, settings.color && colorsForced⟩, settings.file, false⟩, files)

/-- What an attempt to start the log leaves of the files, whether it succeeds or not. -/
def leaves (settings : LogSettings) (files : FileTree) : FileTree := (ready settings files).2

/-- Puts another filter in place; a specification that is none changes nothing. -/
def setLevel (l : Logger) (level : String) : Except FilterError Logger :=
  (LogFilter.parse level).map fun filter => { l with filter }

def isEnabled (l : Logger) (level : Level) (target : String) : Bool :=
  l.filter.allows level target

end Logger

/-- What a log goes to. -/
structure LogOutput where
  files : FileTree
  printed : String

namespace Logger

/-- Writes an entry that the filter lets through. -/
def write (l : Logger) (stamp : Stamp) (e : LogEntry) (out : LogOutput) : Logger × LogOutput :=
  if !l.isEnabled e.level e.origin.target then (l, out)
  else
    let line := l.layout.render stamp e ++ "\n"
    match l.file with
    | none => (l, { out with printed := out.printed ++ line })
    | some path =>
      let bytes := Text.Utf8.ofString line
      let written := if l.begun then out.files.append path bytes
        else out.files.overwrite path bytes
      match written with
      | .ok files => ({ l with begun := true }, { out with files })
      | .error _ => (l, out)

def writeAll (l : Logger) (stamp : Stamp) (log : Log) (out : LogOutput) : Logger × LogOutput :=
  log.foldl (fun (l, out) e => l.write stamp e out) (l, out)

end Logger

end ImportWeights.Logging
