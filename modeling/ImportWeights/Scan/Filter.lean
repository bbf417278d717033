import ImportWeights.Files.Path
import ImportWeights.Scan.Pattern

/-! Which entries of a checkout are worth reading. All paths are relative to the scan
root, so where the checkout lies never decides what is left out. -/

namespace ImportWeights.Scan

open ImportWeights.Files

structure CandidateFilter where
  excludes : List Pattern
deriving DecidableEq, Repr

def sourceSuffix : List UInt8 := Text.Utf8.ofString ".go"
def testSuffix : List UInt8 := Text.Utf8.ofString "_test.go"
def vendorName : Name := Text.Utf8.ofString "vendor"

namespace CandidateFilter

/-- A pattern matches only a path that is valid text. -/
def isExcluded (f : CandidateFilter) (relative : Path) : Bool :=
  match Text.Utf8.string? relative.bytes with
  | some text => f.excludes.any (·.accepts text)
  | none => false

def inVendorTree (relative : Path) : Bool :=
  relative.components.contains (.normal vendorName)

/-- Whether the walk leaves out a directory with all that is below it. -/
def isPruned (f : CandidateFilter) (relative : Path) : Bool :=
  inVendorTree relative || f.isExcluded relative

/-- Whether a file of that name is a source file and not a test. -/
def isSourceName (name : Name) : Bool :=
  (Text.Utf8.string? name).isSome && !testSuffix.isSuffixOf name && sourceSuffix.isSuffixOf name

/-- Whether an entry that is no directory is to be read. -/
def isCandidate (f : CandidateFilter) (relative : Path) : Bool :=
  match relative.fileName? with
  | none => false
  | some name => isSourceName name && !inVendorTree relative && !f.isExcluded relative

end CandidateFilter

end ImportWeights.Scan
