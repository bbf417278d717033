import ImportWeights.Logging.Context
import ImportWeights.Repository.Locator
import ImportWeights.Text.Trim

/-! Which repository URLs are accepted: those on the one expected host. The short form for
that host is accepted as it stands; hosts are compared without regard to ASCII case, and
the port plays no part. -/

namespace ImportWeights.Repository

inductive ValidationError where
  | invalidUrl (url reason : String)
  | unsupportedHost (host expected : String)
deriving DecidableEq, Repr

def ValidationError.message : ValidationError → String
  | invalidUrl url reason => "Invalid repository URL '" ++ url ++ "': " ++ reason
  | unsupportedHost host expected =>
    "Cannot use '" ++ host ++ "'; only " ++ expected ++ " projects are supported"

def ValidationError.details : ValidationError → String
  | invalidUrl url reason => Text.shownRecord "InvalidUrl"
      [("url", Text.quoted url), ("reason", Text.quoted reason)]
  | unsupportedHost host expected => Text.shownRecord "UnsupportedHost"
      [("host", Text.quoted host), ("expected", Text.quoted expected)]

instance : Logging.Contextual ValidationError where
  message := ValidationError.message
  details := ValidationError.details
  isActionable _ := true
  userMessage?
    | .invalidUrl _ reason => some reason
    | .unsupportedHost _ _ => some "repository host is not supported by this service"

/-- Whether a URL is the short form for a host: a fixed user, the host, and a colon. -/
def isShorthand (url host : String) : Bool :=
  ("git@".toList ++ host.toList ++ [':']).isPrefixOf url.toList

/-- Equality without regard to ASCII case. -/
def sameHost (a b : String) : Bool :=
  a.toList.map Text.lowerAscii = b.toList.map Text.lowerAscii

def validate (url expected : String) : Except ValidationError Unit :=
  if isShorthand url expected then .ok ()
  else match Locator.parse url with
    | .error e => .error (.invalidUrl url e.message)
    | .ok locator =>
      match locator.host with
      | none => .error (.invalidUrl url "URL has no host")
      | some host =>
        if sameHost host expected then .ok () else .error (.unsupportedHost host expected)

end ImportWeights.Repository
