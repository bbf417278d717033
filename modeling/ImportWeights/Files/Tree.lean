import ImportWeights.Files.OsError
import ImportWeights.Files.Path

/-! A file tree as a value, and how a path finds its way through it.

A path is followed name by name. Links are followed on the way, at most forty of them;
a place is always told by the names on the way down to it, with no link among them. -/

namespace ImportWeights.Files

inductive Node where
  | file (content : List UInt8)
  | link (target : Path)
  | dir (entries : List (Name × Node))
  /-- A directory or a file that is there and that the system refuses to open. -/
  | shut (directory : Bool) (cause : OsError)

namespace Node

def emptyDir : Node := .dir []

def isDir : Node → Bool
  | .dir _ => true
  | .shut directory _ => directory
  | _ => false

def entries : Node → List (Name × Node)
  | .dir es => es
  | _ => []

/-- The entry of that name in a directory. -/
def child? (n : Node) (name : Name) : Option Node :=
  (n.entries.find? (·.1 = name)).map (·.2)

/-- The node at the end of a way down. -/
def at? : Node → List Name → Option Node
  | n, [] => some n
  | n, name :: rest => (n.child? name).bind (at? · rest)

/-- Puts an entry under a name, in place of one of the same name. -/
def withChild (n : Node) (name : Name) (child : Node) : Node :=
  if n.entries.any (·.1 = name) then
    .dir (n.entries.map fun e => if e.1 = name then (name, child) else e)
  else .dir (n.entries ++ [(name, child)])

/-- Puts a node at the end of a way down; directories missing on the way are made. -/
def place : Node → List Name → Node → Node
  | _, [], new => new
  | n, name :: rest, new => n.withChild name (((n.child? name).getD emptyDir).place rest new)

end Node

/-- Where a path leads. -/
inductive Target where
  | found (place : List Name) (node : Node)
  /-- The directory is there and has no entry of that name. -/
  | missing (directory : List Name) (name : Name)

/-- Longest name and longest path, in bytes. -/
def maxNameLength : Nat := 255
def maxPathLength : Nat := 4095
def maxLinks : Nat := 40

/-- The whole tree with the directory that relative paths start from. -/
structure FileTree where
  top : Node
  current : List Name

namespace FileTree

/-- One name to follow; a name that has to be a directory is followed by a separator. -/
structure Step where
  name : Name
  last : Bool

def steps (p : Path) : List Step :=
  let names := p.names
  let closed := p.bytes.getLast? = some Path.separator
  names.zipIdx.map fun (name, i) => ⟨name, i + 1 = names.length && !closed⟩

/-- Follows the names of a path from a directory. With `follow` the last name, too, is
followed if it is a link. -/
def walk (top : Node) (follow : Bool) (links : Nat) (place : List Name) :
    List Step → Except OsError Target
  | [] =>
    match top.at? place with
    | some node => .ok (.found place node)
    | none => .error .notFound
  | step :: rest =>
    match top.at? place with
    | none => .error .notFound
    | some (.file _) => .error .notADirectory
    | some (.link _) => .error .notADirectory
    | some (.shut directory cause) => .error (if directory then cause else .notADirectory)
    | some (.dir es) =>
      if maxNameLength < step.name.length then .error .nameTooLong
      else if step.name = Path.currentName then walk top follow links place rest
      else if step.name = Path.parentName then walk top follow links place.dropLast rest
      else match (Node.dir es).child? step.name with
        | none =>
          if rest.isEmpty then .ok (.missing place step.name) else .error .notFound
        | some (.link target) =>
          if step.last && rest.isEmpty && !follow then
            .ok (.found (place ++ [step.name]) (.link target))
          else match links with
            | 0 => .error .tooManyLinks
            | fewer + 1 =>
              if target.bytes = [] then .error .notFound
              else
                let start := if target.isAbsolute then [] else place
                let inner := (steps target).map fun s =>
                  if rest.isEmpty then { s with last := s.last && step.last }
                  else { s with last := false }
                walk top follow fewer start (inner ++ rest)
        | some (.file content) =>
          if step.last && rest.isEmpty then .ok (.found (place ++ [step.name]) (.file content))
          else .error .notADirectory
        | some (.dir _) => walk top follow links (place ++ [step.name]) rest
        | some (.shut true _) => walk top follow links (place ++ [step.name]) rest
        | some (.shut false cause) =>
          if step.last && rest.isEmpty then
            .ok (.found (place ++ [step.name]) (.shut false cause))
          else .error .notADirectory
termination_by todo => (links, todo.length)

/-- Where a path leads. A path that is only to be created may end in a link. -/
def locate (t : FileTree) (p : Path) (follow : Bool) : Except OsError Target :=
  if p.bytes.contains 0 then .error .zeroByte
  else if p.bytes = [] then .error .notFound
  else if maxPathLength < p.bytes.length then .error .nameTooLong
  else walk t.top follow maxLinks (if p.isAbsolute then [] else t.current) (steps p)

/-- The node that a path leads to. -/
def node (t : FileTree) (p : Path) : Except OsError Node :=
  match t.locate p true with
  | .error e => .error e
  | .ok (.missing _ _) => .error .notFound
  | .ok (.found _ n) => .ok n

/-- The node that a path names, which may be a link. -/
def nodeItself (t : FileTree) (p : Path) : Except OsError Node :=
  match t.locate p false with
  | .error e => .error e
  | .ok (.missing _ _) => .error .notFound
  | .ok (.found _ n) => .ok n

def pathExists (t : FileTree) (p : Path) : Bool :=
  match t.node p with
  | .ok _ => true
  | .error _ => false

def isDirectory (t : FileTree) (p : Path) : Bool :=
  match t.node p with
  | .ok n => n.isDir
  | .error _ => false

/-- A file that could not be opened, or one that was opened and could not be read. -/
inductive ReadError where
  | opening (cause : OsError)
  | reading (cause : OsError)
deriving DecidableEq, Repr

def ReadError.cause : ReadError → OsError
  | opening e => e
  | reading e => e

/-- The content of a file. A directory can be opened but not read. -/
def read (t : FileTree) (p : Path) : Except ReadError (List UInt8) :=
  match t.node p with
  | .error e => .error (.opening e)
  | .ok (.file content) => .ok content
  | .ok (.shut _ cause) => .error (.opening cause)
  | .ok _ => .error (.reading .isADirectory)

/-- What a directory holds. -/
def list (t : FileTree) (p : Path) : Except OsError (List (Name × Node)) :=
  match t.node p with
  | .error e => .error e
  | .ok (.dir entries) => .ok entries
  | .ok (.shut true cause) => .error cause
  | .ok _ => .error .notADirectory

/-- Whether a directory is there and holds an entry. -/
def isOccupied (t : FileTree) (p : Path) : Bool :=
  match t.node p with
  | .ok (.dir (_ :: _)) => true
  | _ => false

private def put (t : FileTree) (place : List Name) (n : Node) : FileTree :=
  { t with top := t.top.place place n }

/-- Makes one directory; its parent has to be there. -/
def makeDirectory (t : FileTree) (p : Path) : Except OsError FileTree :=
  let bare : Path := ⟨(p.bytes.reverse.dropWhile (· == Path.separator)).reverse⟩
  match t.locate (if bare.bytes = [] then p else bare) false with
  | .error e => .error e
  | .ok (.found _ _) => .error .alreadyExists
  | .ok (.missing place name) =>
    .ok (t.put (place ++ [name]) Node.emptyDir)

private def makeDirectoriesUpTo : Nat → FileTree → Path → Except OsError Unit × FileTree
  | 0, t, _ => (.error .notFound, t)
  | fuel + 1, t, p =>
    if p.bytes = [] then (.ok (), t)
    else match t.makeDirectory p with
      | .ok t' => (.ok (), t')
      | .error .notFound =>
        match p.parent? with
        | none => (.error .notFound, t)
        | some parent =>
          match makeDirectoriesUpTo fuel t parent with
          | (.error e, t') => (.error e, t')
          | (.ok _, t') =>
            match t'.makeDirectory p with
            | .ok t'' => (.ok (), t'')
            | .error e => (if t'.isDirectory p then .ok () else .error e, t')
      | .error e => (if t.isDirectory p then .ok () else .error e, t)

/-- Tries to make a directory and those above it that are missing. Those that were made
before one could not be made are left. -/
def tryMakeDirectories (t : FileTree) (p : Path) : Except OsError Unit × FileTree :=
  makeDirectoriesUpTo (p.components.length + 1) t p

/-- Makes a directory and those above it that are missing. -/
def makeDirectories (t : FileTree) (p : Path) : Except OsError FileTree :=
  match t.tryMakeDirectories p with
  | (.ok _, t') => .ok t'
  | (.error e, _) => .error e

/-- Changes the content of a file, which is made if it is missing. -/
def update (t : FileTree) (p : Path) (change : List UInt8 → List UInt8) :
    Except OsError FileTree :=
  match t.locate p true with
  | .error e => .error e
  | .ok (.found _ (.dir _)) => .error .isADirectory
  | .ok (.found place (.file content)) => .ok (t.put place (.file (change content)))
  | .ok (.found _ (.link _)) => .error .tooManyLinks
  | .ok (.found _ (.shut directory cause)) => .error (if directory then .isADirectory else cause)
  | .ok (.missing place name) =>
    if p.bytes.getLast? = some Path.separator then .error .isADirectory
    else .ok (t.put (place ++ [name]) (.file (change [])))

/-- Appends to a file, which is made if it is missing. -/
def append (t : FileTree) (p : Path) (bytes : List UInt8) : Except OsError FileTree :=
  t.update p (· ++ bytes)

/-- Puts bytes in place of all that a file holds. -/
def overwrite (t : FileTree) (p : Path) (bytes : List UInt8) : Except OsError FileTree :=
  t.update p fun _ => bytes

/-- Puts a node at a path, with the directories above it; a path that cannot be reached
leaves the tree as it was. -/
def add (t : FileTree) (p : Path) (n : Node) : FileTree :=
  let made := match p.parent? with
    | none => t
    | some parent => match t.makeDirectories parent with
      | .ok t' => t'
      | .error _ => t
  match n with
  | .dir [] => match made.makeDirectories p with
    | .ok t' => t'
    | .error _ => made
  | _ => match made.locate p (match n with | .file _ => true | _ => false) with
    | .ok (.found place _) => made.put place n
    | .ok (.missing place name) => made.put (place ++ [name]) n
    | .error _ => made

end FileTree

end ImportWeights.Files
