import ImportWeights.Url.Form
import ImportWeights.Url.Host

/-! Absolute URLs: reading them in their standard form, and writing that form again.

Blanks and controls around a URL and line breaks inside it say nothing. A special scheme
always has a host and a path; any other URL may have neither. -/

namespace ImportWeights

structure Url where
  scheme : List Char
  /-- What follows two slashes, if there are any. -/
  hasAuthority : Bool
  username : List Char
  password : Option (List Char)
  host : Option (List Char)
  port : Option Nat
  path : List Char
  /-- Whether the path does not begin with a slash, so that nothing is relative to it. -/
  isFlat : Bool
  query : Option (List Char)
  fragment : Option (List Char)
deriving DecidableEq, Repr

end ImportWeights

namespace ImportWeights.Url

open ImportWeights.Text

/-- The port that goes without saying. -/
def defaultPort? (scheme : List Char) : Option Nat :=
  if scheme = "http".toList || scheme = "ws".toList then some 80
  else if scheme = "https".toList || scheme = "wss".toList then some 443
  else if scheme = "ftp".toList then some 21
  else none

def isFileScheme (scheme : List Char) : Bool := scheme = "file".toList

def isSpecialScheme (scheme : List Char) : Bool :=
  (defaultPort? scheme).isSome || isFileScheme scheme

/-- Blanks and controls off both ends, tabs and line breaks out of the middle. -/
def tidy (cs : List Char) : List Char :=
  let atEnds (c : Char) : Bool := c.toNat ≤ 0x20
  (((cs.dropWhile atEnds).reverse.dropWhile atEnds).reverse).filter
    fun c => c != '\t' && c != '\n' && c != '\r'

def isSchemeChar (c : Char) : Bool :=
  isAsciiAlpha c || isDigit c || c == '+' || c == '-' || c == '.'

/-- The scheme, and what follows its colon. -/
def scheme? (cs : List Char) : Option (List Char × List Char) :=
  match cs with
  | c :: _ =>
    if isAsciiAlpha c then
      match cs.dropWhile isSchemeChar with
      | ':' :: rest => some ((cs.takeWhile isSchemeChar).map lowerAscii, rest)
      | _ => none
    else none
  | [] => none

/-- The characters that end what stands before the path. -/
def endsAuthority (special : Bool) (c : Char) : Bool :=
  c == '/' || c == '?' || c == '#' || (special && c == '\\')

/-- Splits at the last occurrence of a character. -/
def splitAtLast (x : Char) (cs : List Char) : Option (List Char × List Char) :=
  if cs.contains x then
    let after := (cs.reverse.takeWhile (· != x)).reverse
    some (cs.take (cs.length - after.length - 1), after)
  else none

structure Userinfo where
  username : List Char
  password : Option (List Char)

/-- The user and password before the last at sign, and what follows it. -/
def userinfo (special : Bool) (cs : List Char) :
    Except UrlError (Option Userinfo × List Char) :=
  let authority := cs.takeWhile fun c => !endsAuthority special c
  let beyond := cs.dropWhile fun c => !endsAuthority special c
  match splitAtLast '@' authority with
  | none => .ok (none, cs)
  | some ([], after) =>
    if after = [] && beyond != [] then .error .emptyHost else .ok (none, after ++ beyond)
  | some (user, after) =>
    let name := user.takeWhile (· != ':')
    let secret := (user.dropWhile (· != ':')).drop 1
    let info : Userinfo := ⟨escape inUserinfo name,
      if secret = [] then none else some (escape inUserinfo secret)⟩
    .ok (some info, after ++ beyond)

/-- Splits a host off, up to a colon outside brackets or the end of the authority. -/
def spanHost (special : Bool) (inside : Bool) : List Char → List Char × List Char
  | [] => ([], [])
  | c :: rest =>
    if (c == ':' && !inside) || endsAuthority special c then ([], c :: rest)
    else
      let inside := if c = '[' then true else if c = ']' then false else inside
      let (host, after) := spanHost special inside rest
      (c :: host, after)

/-- The port, unless it is left out or goes without saying. -/
def portOf (usual : Option Nat) (cs : List Char) :
    Except UrlError (Option Nat × List Char) :=
  let digits := cs.takeWhile isDigit
  let rest := cs.dropWhile isDigit
  let fits := digitsValue 10 digits < 65536
  let ended := match rest with
    | [] => true
    | c :: _ => c == '/' || c == '\\' || c == '?' || c == '#'
  if !fits || !ended then .error .port
  else
    let n := digitsValue 10 digits
    .ok (if digits = [] || some n = usual then none else some n, rest)

private def isDoubleDot (s : List Char) : Bool :=
  ["..", ".%2e", "%2e.", "%2e%2e"].any (·.toList = s.map lowerAscii)

private def isSingleDot (s : List Char) : Bool :=
  [".", "%2e"].any (·.toList = s.map lowerAscii)

/-- A letter and a colon or a bar: such a segment is never gone back over. -/
def isDriveLetter (s : List Char) : Bool :=
  match s with
  | [c, d] => isAsciiAlpha c && (d == ':' || d == '|')
  | _ => false

/-- Goes back over the last segment. -/
private def goBack (done : List (List Char)) : List (List Char) :=
  match done with
  | last :: before => if isDriveLetter last then done else before
  | [] => []

def joinSegments (done : List (List Char)) (last : List Char) : List Char :=
  ((last :: done).reverse).flatMap ('/' :: ·)

/-- Reads segments, each after a slash. `done` holds the finished ones, newest first;
`current` is the one being read, also reversed. -/
def segments (special : Bool) (done : List (List Char)) (current : List Char) :
    List Char → List Char × List Char
  | [] =>
    let segment := escape inPath current.reverse
    let (done, last) := if isDoubleDot segment then (goBack done, [])
      else if isSingleDot segment then (done, []) else (done, segment)
    (joinSegments done last, [])
  | c :: rest =>
    if c = '?' || c = '#' then
      let segment := escape inPath current.reverse
      let (done, last) := if isDoubleDot segment then (goBack done, [])
        else if isSingleDot segment then (done, []) else (done, segment)
      (joinSegments done last, c :: rest)
    else if c = '/' || (special && c = '\\') then
      let segment := escape inPath current.reverse
      let done := if isDoubleDot segment then goBack done
        else if isSingleDot segment then done else segment :: done
      segments special done [] rest
    else segments special done (c :: current) rest

/-- The path after an authority. A special URL always has one. -/
def pathAfterAuthority (special : Bool) (cs : List Char) : List Char × List Char :=
  match cs with
  | [] => if special then (['/'], []) else ([], [])
  | c :: rest =>
    if c = '/' || (special && c = '\\') then segments special [] [] rest
    else if !special && (c = '?' || c = '#') then ([], cs)
    else segments special [] [] cs

/-- The query and the fragment, from the character that begins them. -/
def queryAndFragment (special : Bool) (cs : List Char) :
    Option (List Char) × Option (List Char) :=
  let set := if special then inSpecialQuery else inQuery
  let (query, rest) := match cs with
    | '?' :: more =>
      (some (escape set (more.takeWhile (· != '#'))), more.dropWhile (· != '#'))
    | _ => (none, cs)
  match rest with
  | '#' :: more => (query, some (escape inFragment more))
  | _ => (query, none)

def afterSlashes (scheme : List Char) (special : Bool) (cs : List Char) :
    Except UrlError Url := do
  let (info, rest) ← userinfo special cs
  let (hostText, rest) := spanHost special false rest
  if special && hostText = [] then throw .emptyHost
  let host ← if special then specialHost hostText else plainHost hostText
  if host = [] && rest.head? = some ':' then throw .emptyHost
  let (port, rest) ← match rest with
    | ':' :: more => portOf (defaultPort? scheme) more
    | _ => .ok (none, rest)
  let hasUser := match info with
    | none => false
    | some i => i.username != [] || i.password.isSome
  if host = [] && hasUser then throw .emptyHost
  let (path, rest) := pathAfterAuthority special rest
  let (query, fragment) := queryAndFragment special rest
  return { scheme, hasAuthority := true
           username := match info with
             | some i => i.username
             | none => []
           password := info.bind (·.password)
           host := if host = [] then none else some host
           port, path, isFlat := false, query, fragment }

def withoutAuthority (scheme : List Char) (special : Bool) (path : List Char)
    (isFlat : Bool) (rest : List Char) : Url :=
  let (query, fragment) := queryAndFragment special rest
  { scheme, hasAuthority := false, username := [], password := none, host := none, port := none,
    path, isFlat, query, fragment }

/-- A file URL. The local host goes without saying. -/
def fileUrl (scheme cs : List Char) : Except UrlError Url := do
  let isSlash (c : Char) : Bool := c == '/' || c == '\\'
  let (hostText, rest) := match cs with
    | a :: b :: more =>
      if isSlash a && isSlash b then
        (more.takeWhile fun c => !endsAuthority true c,
          more.dropWhile fun c => !endsAuthority true c)
      else ([], cs)
    | _ => ([], cs)
  let (hostText, rest) := if isDriveLetter hostText then ([], '/' :: hostText ++ rest)
    else (hostText, rest)
  let host ← if hostText = [] then pure [] else specialHost hostText
  let host := if host = "localhost".toList then [] else host
  let (path, rest) := pathAfterAuthority true rest
  let (query, fragment) := queryAndFragment true rest
  return { scheme, hasAuthority := true, username := [], password := none
           host := if host = [] then none else some host
           port := none, path := '/' :: path.dropWhile (· == '/'), isFlat := false,
           query, fragment }

/-- Reads an absolute URL. -/
def parse (text : List Char) : Except UrlError Url :=
  match scheme? (tidy text) with
  | none => .error .relativeWithoutBase
  | some (scheme, rest) =>
    if isFileScheme scheme then fileUrl scheme rest
    else if isSpecialScheme scheme then
      afterSlashes scheme true (rest.dropWhile fun c => c == '/' || c == '\\')
    else match rest with
      | '/' :: '/' :: more => afterSlashes scheme false more
      | '/' :: more =>
        let (path, rest) := segments false [] [] more
        .ok (withoutAuthority scheme false path false rest)
      | _ =>
        let ends (c : Char) : Bool := c == '?' || c == '#'
        .ok (withoutAuthority scheme false (escape inNone (rest.takeWhile fun c => !ends c))
          true (rest.dropWhile fun c => !ends c))

/-- The written form. -/
def text (u : Url) : List Char :=
  let secret := match u.password with
    | some p => ':' :: p
    | none => []
  let user := if u.username = [] && u.password.isNone then [] else u.username ++ secret ++ ['@']
  let port := match u.port with
    | some n => ':' :: (toString n).toList
    | none => []
  let authority := if u.hasAuthority then ['/', '/'] ++ user ++ u.host.getD [] ++ port
    else if "//".toList.isPrefixOf u.path then ['/', '.'] else []
  let query := match u.query with
    | some q => '?' :: q
    | none => []
  let fragment := match u.fragment with
    | some f => '#' :: f
    | none => []
  u.scheme ++ ':' :: authority ++ u.path ++ query ++ fragment

def display (u : Url) : String := String.ofList u.text

/-- The URL with more pairs at the end of its query. -/
def withPairs (u : Url) (pairs : List (String × String)) : Url :=
  let added := formPairs pairs
  let query := match u.query with
    | none => added
    | some [] => added
    | some q => if added = [] then q else q ++ '&' :: added
  { u with query := if query = [] then none else some query }

/-- The URL without its user, provided the user's escapes stand for valid text. -/
def withoutUser (u : Url) : Url :=
  if (Text.Utf8.decode? (unescapeText u.username)).isNone then u
  else
    let secret := u.password.filter fun p => (Text.Utf8.decode? (unescapeText p)).isSome
    if u.username = [] && secret.isNone then u
    else { u with username := [], password := none }

end ImportWeights.Url
