import ImportWeights.Fetch.CloneError
import ImportWeights.Files.Tree
import ImportWeights.Repository.Locator
import ImportWeights.Text.Trim

/-! Cloners: whatever puts a checkout at a path. One runs a program and one works in this
process; both leave a destination alone that holds a checkout already. -/

namespace ImportWeights.Fetch

open ImportWeights.Files

inductive CloneStatus where
  | cloned
  /-- The destination held a checkout and was left alone. -/
  | alreadyExists
deriving DecidableEq, Repr

/-- How a cloner ends. One that panics gives no answer. -/
inductive CloneAnswer where
  | done (status : CloneStatus)
  | failed (error : CloneError)
  | panicked (message : String)
deriving DecidableEq, Repr

/-- A cloner takes the files, a URL and a destination. -/
structure Cloner where
  name : String
  clone : FileTree → String → Path → CloneAnswer × FileTree

def checkoutName : Path := Path.ofString ".git"

/-- Whether a checkout is at a destination. -/
def hasCheckout (files : FileTree) (dest : Path) : Bool :=
  files.pathExists (dest.join checkoutName)

/-- How a process ends. -/
inductive ExitStatus where
  | code (n : Nat)
  | signal (n : Nat)
deriving DecidableEq, Repr

def signalName : Nat → String
  | 1 => "SIGHUP" | 2 => "SIGINT" | 3 => "SIGQUIT" | 4 => "SIGILL" | 5 => "SIGTRAP"
  | 6 => "SIGABRT" | 7 => "SIGBUS" | 8 => "SIGFPE" | 9 => "SIGKILL" | 10 => "SIGUSR1"
  | 11 => "SIGSEGV" | 12 => "SIGUSR2" | 13 => "SIGPIPE" | 14 => "SIGALRM" | 15 => "SIGTERM"
  | 16 => "SIGSTKFLT" | 17 => "SIGCHLD" | 18 => "SIGCONT" | 19 => "SIGSTOP" | 20 => "SIGTSTP"
  | 21 => "SIGTTIN" | 22 => "SIGTTOU" | 23 => "SIGURG" | 24 => "SIGXCPU" | 25 => "SIGXFSZ"
  | 26 => "SIGVTALRM" | 27 => "SIGPROF" | 28 => "SIGWINCH" | 29 => "SIGIO" | 30 => "SIGPWR"
  | 31 => "SIGSYS" | _ => ""

def ExitStatus.text : ExitStatus → String
  | code n => "exit status: " ++ toString n
  | signal n =>
    let name := signalName n
    "signal: " ++ toString n ++ if name = "" then "" else " (" ++ name ++ ")"

/-- What a program left behind when it ended. -/
structure ProgramRun where
  status : ExitStatus
  stderr : List UInt8
  files : FileTree

/-- A program to be run with arguments: it may fail to start. -/
structure Program where
  name : String
  run : FileTree → List String → Except OsError ProgramRun

/-- The arguments for a clone. What follows the two dashes is never taken for an option. -/
def cloneArguments (url : String) (dest : Path) : List String :=
  ["clone", "--quiet", "--", url, dest.display]

/-- What an error text holds if the destination was there before. -/
def existsPhrase : List Char := "already exists".toList

/-- Whether a list occurs in another one without a gap. -/
def occursIn (part : List Char) (cs : List Char) : Bool :=
  (Repository.breakAt part cs).isSome

/-- What a program's end says about the clone. -/
def ProgramRun.answer (r : ProgramRun) : CloneAnswer :=
  if r.status = .code 0 then .done .cloned
  else
    let stderr := Text.trim (Text.Utf8.lossyString r.stderr)
    if occursIn existsPhrase stderr.toList then .done .alreadyExists
    else .failed (.command r.status.text stderr)

/-- Starts a program, unless an argument holds a zero byte. -/
def Program.start (program : Program) (files : FileTree) (arguments : List String) :
    Except OsError ProgramRun :=
  if arguments.any fun a => a.toList.contains '\x00' then .error .zeroByteInArgument
  else program.run files arguments

/-- Clones by running a program. -/
def programCloner (program : Program) : Cloner where
  name := "git"
  clone files url dest :=
    if hasCheckout files dest then (.done .alreadyExists, files)
    else match program.start files (cloneArguments url dest) with
      | .error e => (.failed (.spawn program.name e), files)
      | .ok run => (run.answer, run.files)

/-- What brings a repository into the files: it takes the files, the locator and the
destination. -/
abbrev Transfer := FileTree → Repository.Locator → Path → CloneAnswer × FileTree

/-- Clones in this process. -/
def inProcessCloner (transfer : Transfer) : Cloner where
  name := "gix"
  clone files url dest :=
    if hasCheckout files dest || files.isOccupied dest then (.done .alreadyExists, files)
    else match Repository.Locator.parse url with
      | .error e => (.failed (.inProcess e.message), files)
      | .ok locator => transfer files locator dest

/-- Which cloner to use. -/
inductive CloneBackend where
  | git
  | gix
deriving DecidableEq, Repr

/-- The cloner, given what each of the two works with. -/
def CloneBackend.cloner (git : Program) (transfer : Transfer) : CloneBackend → Cloner
  | .git => programCloner git
  | .gix => inProcessCloner transfer

end ImportWeights.Fetch
