import ImportWeights.Launch
import Std.Time.DateTime.Timestamp

/-! The program itself. It reads what a run needs into a file tree, carries the run out, and
puts what the run has written where it belongs. It starts no other programs and opens no
connections, so it works on the checkouts that are there. -/

namespace ImportWeights

open ImportWeights.CommandLine ImportWeights.Dispatch ImportWeights.Fetch ImportWeights.Files
open ImportWeights.Logging ImportWeights.Report ImportWeights.Scan

/-- The variables of the environment that count. -/
def visibleVariables : List String :=
  optionSpecs.filterMap (fun o => o.standIn.map (·.name)) ++
    ["CLICOLOR_FORCE", "XDG_CONFIG_HOME", "HOME"]

def readVariables : IO (List (String × String)) :=
  visibleVariables.filterMapM fun name => do
    return (← IO.getEnv name).map fun value => (name, value)

/-- A path as an entry of the current directory. -/
def entryAt (p : Path) : IO IO.FS.DirEntry :=
  return ⟨← IO.currentDir, p.display⟩

/-- Whether an entry is a link to a directory; those are never followed further down. -/
def isDirectoryLink (e : IO.FS.DirEntry) : IO Bool := do
  match (← e.path.symlinkMetadata).type with
  | .symlink => e.path.isDir
  | _ => return false

def causeOf : IO.Error → OsError
  | .permissionDenied .. => .permissionDenied
  | .noFileOrDirectory .. => .notFound
  | .inappropriateType .. => .notADirectory
  | _ => .other 5

/-- Reads an entry and what lies below it. What cannot be read stays shut. -/
def loadEntry : Nat → IO.FS.DirEntry → IO (Option Node)
  | 0, _ => return none
  | depth + 1, e => do
    let directory ← e.path.isDir
    try
      if directory then
        let entries ← e.path.readDir
        let nodes ← entries.toList.filterMapM fun below => do
          let node ← if ← isDirectoryLink below then pure (some (.link (Path.ofString ".")))
            else loadEntry depth below
          return node.map fun node => (Text.Utf8.ofString below.fileName, node)
        return some (.dir nodes)
      else return some (.file (← IO.FS.readBinFile e.path).toList)
    catch refusal => return some (.shut directory (causeOf refusal))

/-- How far down a directory is read. -/
def loadDepth : Nat := 64

/-- Puts what is at a path into a tree, or else what is at the nearest path above it. -/
def loadPath : Nat → FileTree → Path → IO FileTree
  | 0, t, _ => return t
  | fuel + 1, t, p => do
    let e ← entryAt p
    if ← e.path.pathExists then
      match ← loadEntry loadDepth e with
      | some node => return t.add p node
      | none => return t
    else match p.parent? with
      | some parent =>
        if parent.bytes = [] || t.pathExists parent then return t else loadPath fuel t parent
      | none => return t

def load (t : FileTree) (p : Path) : IO FileTree := loadPath (p.components.length + 1) t p

/-- The tree that holds the current directory only. -/
def bareTree : IO FileTree := do
  let current := Path.ofString (← IO.currentDir).toString
  return { (⟨.dir [], []⟩ : FileTree).add current (.dir []) with current := current.names }

/-- Writes a file that a run has changed. -/
def store (before after : FileTree) (p : Path) : IO Unit := do
  match after.read p, before.read p with
  | .ok new, .ok old => if new ≠ old then write new
  | .ok new, .error _ => write new
  | .error _, _ => pure ()
where
  write (bytes : List UInt8) : IO Unit := do
    let e ← entryAt p
    if let some parent := e.path.parent then IO.FS.createDirAll parent
    IO.FS.writeBinFile e.path ⟨bytes.toArray⟩

def now : IO Timestamp := do
  let nanos := (← Std.Time.Timestamp.now).toNanosecondsSinceUnixEpoch.val
  return ⟨nanos.fdiv 1000000000, (nanos.fmod 1000000000).toNat⟩

def build : Build := ⟨"0.1.0", "unknown", "unknown"⟩

def surroundings (environment : List (String × String)) (files : FileTree) : IO Surroundings := do
  let time ← now
  return {
    build, environment, files
    usualConfig := Launch.usualConfig environment
    isTerminal := ← (← IO.getStdout).isTty
    git := ⟨"git", fun _ _ => .error (.other 38)⟩
    transfer := fun files _ _ => (.failed (.inProcess "no connection can be opened"), files)
    send := fun _ => .unreachable "no connection can be opened"
    bind := fun _ => .error (.other 95)
    requests := []
    timing := fun _ => ⟨time, ⟨0, 0⟩⟩
    stamp := Stamp.ofTime time }

def runProgram (arguments : List String) : IO UInt32 := do
  let environment ← readVariables
  let bare ← bareTree
  let files ← (Launch.configFile? arguments environment).toList.foldlM load bare
  let w ← surroundings environment files
  let settings := Launch.settings? arguments w
  let touched := settings.toList.flatMap fun s =>
    s.service.fetch.stagingDir :: Launch.outputs s
  let w := { w with files := ← touched.foldlM load files }
  let ending := Launch.run arguments w
  (settings.toList.flatMap Launch.outputs).forM (store w.files ending.files)
  (← IO.getStdout).putStr ending.printed
  (← IO.getStderr).putStr ending.told
  return UInt32.ofNat ending.exitCode

end ImportWeights

def main (arguments : List String) : IO UInt32 := ImportWeights.runProgram arguments
