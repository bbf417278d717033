import ImportWeights.Url.Parse

/-! Where a repository is: a URL, a host and a path with a colon between them, or a local
path. Only the host matters to who is asked, so little else of a locator is kept. -/

namespace ImportWeights.Repository

open ImportWeights.Text ImportWeights.Url

inductive LocatorKind where
  | url
  | hostAndPath
  | localPath
deriving DecidableEq, Repr

def LocatorKind.name : LocatorKind → String
  | url => "URL"
  | hostAndPath => "SCP-like target"
  | localPath => "local path"

inductive LocatorError where
  | notText (part : String) (kind : LocatorKind)
  | unparsable (text : String) (kind : LocatorKind)
  | tooLong (shown : List UInt8) (total : Nat)
  | missingPath (text : String) (kind : LocatorKind)
  | relative (text : String)
deriving DecidableEq, Repr

def LocatorError.message : LocatorError → String
  | notText part kind => kind.name ++ " \"" ++ part ++ "\" is not valid UTF-8"
  | unparsable text kind => kind.name ++ " " ++ Text.quoted text ++ " can not be parsed as valid URL"
  | tooLong shown total =>
    "The host portion of the following URL is too long (" ++ toString shown.length ++ " bytes, " ++
      toString total ++ " bytes total): " ++ Text.quotedBytes shown
  | missingPath text kind =>
    kind.name ++ " \"" ++ text ++ "\" does not specify a path to a repository"
  | relative text =>
    "URL " ++ Text.quoted text ++ " is relative which is not allowed in this context"

structure Locator where
  scheme : String
  user : Option String
  host : Option String
  path : String
deriving DecidableEq, Repr

/-- What stands before and after the first occurrence of a pattern. -/
def breakAt (pattern : List Char) (cs : List Char) : Option (List Char × List Char) :=
  go [] cs
where
  go (before : List Char) : List Char → Option (List Char × List Char)
    | [] => if pattern = [] then some (before.reverse, []) else none
    | c :: rest =>
      match pattern.isPrefixOf? (c :: rest) with
      | some after => some (before.reverse, after)
      | none => go (c :: before) rest

/-- The text of an escaped user or password. -/
def plainText (kind : LocatorKind) (cs : List Char) : Except LocatorError String :=
  match Text.Utf8.string? (unescapeText cs) with
  | some s => .ok s
  | none => .error (.notText (String.ofList cs) kind)

def userOf (kind : LocatorKind) (u : Url) : Except LocatorError (Option String) := do
  let user ← if u.username = [] && u.password.isNone then pure none
    else (plainText kind u.username).map some
  match u.password with
  | none => pure ()
  | some p => discard (plainText kind p)
  return user

/-- The longest scheme and the longest text before the path, in bytes. -/
def maxPartLength : Nat := 1024

def isGapByte (b : UInt8) : Bool :=
  b == 32 || b == 9 || b == 10 || b == 12 || b == 13

/-- How far it is to the path, in bytes, blanks and leading slashes not counted. Without
any path it is what follows the scheme. -/
def lengthToPath (afterScheme : List UInt8) : Nat :=
  let rest := (afterScheme.filter fun b => !isGapByte b).dropWhile fun b => b == 47 || b == 92
  let before := rest.takeWhile (· != 47)
  if before.length < rest.length then before.length else afterScheme.length + 3

def fromUrl (scheme : List Char) (rest whole : List Char) :
    Except LocatorError Locator := do
  let text := String.ofList whole
  let schemeLength := (Text.Utf8.encode scheme).length
  let restBytes := Text.Utf8.encode rest
  if maxPartLength < lengthToPath restBytes || maxPartLength < schemeLength then
    let bytes := Text.Utf8.encode whole
    throw (.tooLong (bytes.take (schemeLength + 3 + maxPartLength)) bytes.length)
  match Url.parse whole with
  | .error _ => throw (.unparsable text .url)
  | .ok u =>
    if (u.scheme = "git".toList || u.scheme = "ssh".toList) && u.path = [] then
      throw (.missingPath text .url)
    if u.isFlat then throw (.relative text)
    let user ← userOf .url u
    return ⟨String.ofList u.scheme, user, u.host.map String.ofList, String.ofList u.path⟩

/-- What precedes the next slash is the host, taken as it is written. -/
private def fromFileUrl (rest whole : List Char) : Except LocatorError Locator :=
  let path := rest.dropWhile (· != '/')
  let host := rest.takeWhile (· != '/')
  if path = [] then .error (.missingPath (String.ofList whole) .url)
  else .ok ⟨"file", none, if host = [] then none else some (String.ofList host), String.ofList path⟩

def fromHostAndPath (host path whole : List Char) : Except LocatorError Locator := do
  let text := String.ofList whole
  if path = [] then throw (.missingPath text .hostAndPath)
  match Url.parse ("ssh://".toList ++ host) with
  | .error _ => throw (.unparsable text .hostAndPath)
  | .ok u =>
    let user ← userOf .hostAndPath u
    return ⟨String.ofList u.scheme, user, u.host.map String.ofList, String.ofList path⟩

/-- Reads a locator. Three characters mark a URL; otherwise a colon that no slash precedes
parts a host from a path; anything else is a local path. -/
def Locator.parse (text : String) : Except LocatorError Locator :=
  let cs := text.toList
  match breakAt "://".toList cs with
  | some (scheme, rest) =>
    if scheme.map lowerAscii = "file".toList then fromFileUrl rest cs else fromUrl scheme rest cs
  | none =>
    let host := cs.takeWhile (· != ':')
    match cs.dropWhile (· != ':') with
    | ':' :: path =>
      if host.contains '/' then .ok ⟨"file", none, none, text⟩ else fromHostAndPath host path cs
    | _ =>
      if cs = [] then .error (.missingPath text .localPath) else .ok ⟨"file", none, none, text⟩

end ImportWeights.Repository
