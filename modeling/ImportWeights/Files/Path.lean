import ImportWeights.Text.Pieces
import ImportWeights.Text.Quoted

/-! File paths as byte strings. Names are compared by their bytes and need not be valid
text; a path is shown with every invalid part replaced. -/

namespace ImportWeights.Files

/-- The bytes of one path component. -/
abbrev Name := List UInt8

structure Path where
  bytes : List UInt8
deriving DecidableEq, Repr

namespace Path

def separator : UInt8 := 47

def currentName : Name := [46]
def parentName : Name := [46, 46]

def ofString (s : String) : Path := ⟨Text.Utf8.ofString s⟩

def display (p : Path) : String := Text.Utf8.lossyString p.bytes

/-- A path in quotes, in which invalid parts can be told apart. -/
def quoted (p : Path) : String := Text.quotedParts (fun _ => false) p.bytes

def isAbsolute (p : Path) : Bool := p.bytes.head? == some separator

/-- What a path is made of, read from left to right. -/
inductive Component where
  | root
  /-- A leading dot; any later one says nothing and is left out. -/
  | current
  | parent
  | normal (name : Name)
deriving DecidableEq, Repr

/-- The names between separators, empty ones left out. -/
def names (p : Path) : List Name :=
  ((Text.pieces separator p.bytes).map (·.1)).filter (· != [])

def Component.ofName (name : Name) : Option Component :=
  if name = currentName then none
  else if name = parentName then some .parent
  else some (.normal name)

def components (p : Path) : List Component :=
  let rest := p.names.filterMap Component.ofName
  if p.isAbsolute then .root :: rest
  else if p.names.head? = some currentName then .current :: rest
  else rest

/-- The last component, if it is a name. -/
def fileName? (p : Path) : Option Name :=
  match p.components.getLast? with
  | some (.normal name) => some name
  | _ => none

/-- The path below a directory; an absolute path stands for itself. Joining an empty path
leaves a trailing separator. -/
def join (base : Path) (p : Path) : Path :=
  if p.isAbsolute || base.bytes = [] then p
  else if base.bytes.getLast? = some separator then ⟨base.bytes ++ p.bytes⟩
  else ⟨base.bytes ++ separator :: p.bytes⟩

private def componentName : Component → Name
  | .root => []
  | .current => currentName
  | .parent => parentName
  | .normal name => name

def ofNames (names : List Name) : Path :=
  ⟨(names.intersperse [separator]).flatten⟩

def ofComponents : List Component → Path
  | [] => ⟨[]⟩
  | [.root] => ⟨[separator]⟩
  | cs => ofNames (cs.map componentName)

/-- The path without its last component; a root and an empty path have none. -/
def parent? (p : Path) : Option Path :=
  match p.components.getLast? with
  | none | some .root => none
  | some _ => some (ofComponents p.components.dropLast)

end Path

end ImportWeights.Files
