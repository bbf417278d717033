import ImportWeights.Digest.Sha256
import ImportWeights.Text.Quoted
import ImportWeights.Text.Trim

/-! The folder that a repository is cloned into, named after the last part of its URL. -/

namespace ImportWeights.Repository

/-- How a URL maps to a folder. With `hashed`, repositories of one name are kept apart. -/
inductive FolderNaming where
  | segment
  | hashed
deriving DecidableEq, Repr

/-- How many digits of the digest go into a folder name. -/
def digestLength : Nat := 12

/-- The text without one `.git` at its end. -/
def dropGitSuffix (cs : List Char) : List Char :=
  if ".git".toList.isSuffixOf cs then cs.take (cs.length - 4) else cs

/-- What follows the last slash or colon. -/
def lastPart (cs : List Char) : List Char :=
  (cs.reverse.takeWhile fun c => c != '/' && c != ':').reverse

/-- The last part of a URL, without slashes and one `.git` at its end. -/
def repositorySegment (url : String) : String :=
  String.ofList (lastPart (dropGitSuffix (Text.trimEnd (· == '/') url.toList)))

/-- The first digits of a URL's digest. -/
def urlDigest (url : String) : String :=
  String.ofList (((Digest.Sha256.digest (Text.Utf8.ofString url)).flatMap
    (Text.hexByte false)).take digestLength)

/-- The folder name of a URL under a policy. -/
def folderName (naming : FolderNaming) (url : String) : String :=
  match naming with
  | .segment => repositorySegment url
  | .hashed => repositorySegment url ++ "-" ++ urlDigest url

end ImportWeights.Repository
