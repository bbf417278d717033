import ImportWeights.Text.Trim

/-! What a line means. Each line is judged on its own against three literal tokens; the
only context is whether an import block is open. -/

namespace ImportWeights.Source

/-- Whether lines are being collected as imports. -/
inductive Mode where
  | seeking
  | capturing
deriving DecidableEq, Repr

inductive LineEvent where
  | package (name : String)
  /-- A package line inside an import block renames the package and is collected too. -/
  | packageImport (name path : String)
  | openBlock
  | closeBlock
  | importPath (path : String)
  | ignored
deriving DecidableEq, Repr

def packageKeyword : String := "package"
def importOpen : String := "import ("
def importClose : String := ")"

/-- The characters that are cut off around a name or an import: blanks and quotes. -/
def isOuter (c : Char) : Bool :=
  c == '"' || Text.isBlank c

/-- The text without the quotes and blanks around it. -/
def clean (s : String) : String :=
  String.ofList (Text.trimBoth isOuter s.toList)

/-- What follows the package keyword, if the line starts with it. -/
def afterPackage? (line : String) : Option String :=
  (packageKeyword.toList.isPrefixOf? line.toList).map String.ofList

/-- What a line, its terminator removed, means in a mode. -/
def classify (mode : Mode) (line : String) : LineEvent :=
  match afterPackage? line with
  | some rest =>
    match mode with
    | .seeking => .package (clean rest)
    | .capturing => .packageImport (clean rest) (clean line)
  | none =>
    match mode with
    | .seeking => if line = importOpen then .openBlock else .ignored
    | .capturing =>
      if line = importClose then .closeBlock
      else if clean line = "" then .ignored
      else .importPath (clean line)

/-- The mode after an event was observed. -/
def Mode.after : Mode → LineEvent → Mode
  | .seeking, .openBlock => .capturing
  | .capturing, .closeBlock => .seeking
  | mode, _ => mode

end ImportWeights.Source
