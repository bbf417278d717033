import ImportWeights.Scan.Error
import ImportWeights.Scan.Filter

/-! The walk over a checkout: depth first, the entries of each directory in the byte order
of their names. Links are never followed, the root itself apart. A directory that cannot be
listed ends the walk, unless it is one that the walk leaves out. -/

namespace ImportWeights.Scan

open ImportWeights.Files

/-- Entries in the byte order of their names. -/
def inNameOrder {α : Type} (entries : List (Name × α)) : List (Name × α) :=
  entries.mergeSort fun a b => a.1 ≤ b.1

/-- The path of what lies below a root. -/
def pathBelow (root : Path) (names : List Name) : Path :=
  root.join (Path.ofNames names)

/-- The path by which the walk knows a place: the root goes by its own. -/
def walkPath (root : Path) (names : List Name) : Path :=
  if names = [] then root else pathBelow root names

/-- Lists a directory, so that its entries can be met. -/
def enter (files : FileTree) (root : Path) (names : List Name) : Except ScanError Unit :=
  match files.list (walkPath root names) with
  | .error cause => .error (.walk root names.length (walkPath root names) cause)
  | .ok _ => .ok ()

/-- Something that the walk meets, told by the names on the way down to it. -/
structure Entry where
  names : List Name
  directory : Bool
deriving DecidableEq, Repr

/-- Whether an entry is to be read. -/
def Entry.isToRead (f : CandidateFilter) (e : Entry) : Bool :=
  !e.directory && f.isCandidate (Path.ofNames e.names)

mutual

/-- What the walk meets at and below a node that lies at the given names, up to the first
directory that cannot be listed. -/
def walkBelow (f : CandidateFilter) (files : FileTree) (root : Path) (names : List Name) :
    Node → Except ScanError (List Entry)
  | .file _ => .ok [⟨names, false⟩]
  | .link _ => .ok [⟨names, false⟩]
  | .shut directory _ =>
    if directory then (enter files root names).map fun _ => [⟨names, true⟩]
    else .ok [⟨names, false⟩]
  | .dir entries => do
    enter files root names
    let below ← (inNameOrder (walkEntries f files root names entries)).mapM (·.2)
    return ⟨names, true⟩ :: below.flatten

/-- The same of each entry of a directory. One that is left out is not met. -/
def walkEntries (f : CandidateFilter) (files : FileTree) (root : Path) (names : List Name) :
    List (Name × Node) → List (Name × Except ScanError (List Entry))
  | [] => []
  | (name, node) :: rest =>
    let below := names ++ [name]
    (name, if node.isDir && f.isPruned (Path.ofNames below) then .ok []
      else walkBelow f files root below node) :: walkEntries f files root names rest

end

/-- The node that a scan starts at: the root may be a link. -/
def rootNode (files : FileTree) (root : Path) : Except ScanError Node :=
  match files.nodeItself root with
  | .error e => .error (.walk root 0 root e)
  | .ok (.link _) =>
    match files.node root with
    | .error e => .error (.walk root 0 root e)
    | .ok node => .ok node
  | .ok node => .ok node

/-- The files to be read below a root, in walk order. A root that is no directory holds
none. -/
def collectCandidates (f : CandidateFilter) (files : FileTree) (root : Path) :
    Except ScanError (List (List Name)) := do
  let top ← rootNode files root
  let entries ← walkBelow f files root [] top
  let found := (entries.filter (·.isToRead f)).map (·.names)
  if found.isEmpty then .error (.noFilesFound root) else .ok found

end ImportWeights.Scan
