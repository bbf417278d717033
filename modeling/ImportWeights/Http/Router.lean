import ImportWeights.Fetch.Fetcher
import ImportWeights.Http.ContentType
import ImportWeights.Json.Reader
import ImportWeights.Json.Written

/-! The front door: one path that says it is alive and takes URLs. An answer says only
whether a URL was accepted; what becomes of it later is never part of it. -/

namespace ImportWeights.Http

open ImportWeights.Dispatch ImportWeights.Fetch ImportWeights.Json ImportWeights.Logging
open ImportWeights.Repository

structure Request where
  method : String
  path : String
  contentType : Option String
  body : List UInt8
deriving DecidableEq, Repr

structure Response where
  status : Nat
  contentType : Option String
  allow : Option String
  body : String
deriving DecidableEq, Repr

/-- Why a body was not taken. -/
inductive BodyRejection where
  | notJsonType
  | tooLong
  | malformed
  | mistyped (message : String)
deriving DecidableEq, Repr

def BodyRejection.message : BodyRejection → String
  | notJsonType => "Expected request with `Content-Type: application/json`"
  | tooLong => "Failed to buffer the request body: length limit exceeded"
  | malformed => "Failed to parse the request body as JSON"
  | mistyped message =>
    "Failed to deserialize the JSON body into the target type: " ++ message

def maxBodyLength : Nat := 2097152

def fetchRequestShape : RecordShape := ⟨"FetchRequest", [⟨"url", true⟩]⟩

/-- The URL that a request carries. -/
def Request.url? (r : Request) : Except BodyRejection String :=
  if !(r.contentType.any isJsonType) then .error .notJsonType
  else if maxBodyLength < r.body.length then .error .tooLong
  else match fetchRequestShape.read r.body with
    | .ok texts => .ok (texts.headD "")
    | .error .malformed => .error .malformed
    | .error (.mistyped message) => .error (.mistyped message)

def jsonContentType : String := "application/json"

/-- A status with a message, as JSON. -/
def statusResponse (status : Nat) (message : String) : Response :=
  ⟨status, some jsonContentType, none,
    "\x7b" ++ written "message" ++ ":" ++ written message ++ "," ++ written "status" ++ ":" ++
      toString status ++ "\x7d"⟩

def acceptedResponse : Response := ⟨200, some "text/plain; charset=utf-8", none, "OK"⟩

def notFoundResponse : Response := ⟨404, none, none, ""⟩

def methodNotAllowed : Response := ⟨405, none, some "GET,HEAD,POST", ""⟩

/-- A response, the task it started if any, and what has changed. -/
structure Answer where
  response : Response
  task : Option FetchTask
  pipeline : Pipeline

/-- Answers a submission, given what reading its body gave. -/
def submit (f : Fetcher) (p : Pipeline) : Except BodyRejection String → Answer
  | .error rejection =>
    let entry := warn (.server 62) ("rejected fetch request: " ++ rejection.message)
    ⟨statusResponse 400 rejection.message, none, p.logging [entry]⟩
  | .ok url =>
    match f.accept p url with
    | (.ok task, p) =>
      let entry := debug (.server 69)
        ("fetch of '" ++ task.folder ++ "' running in the background")
      ⟨acceptedResponse, some task, p.logging [entry]⟩
    | (.error e, p) =>
      let entry := warn (.server 73) ("could not fetch project: " ++ e.message)
      ⟨statusResponse 400 e.message, none, p.logging [entry]⟩

/-- The part of a target before its query and fragment. -/
def routePath (path : String) : String :=
  String.ofList (path.toList.takeWhile fun c => c != '?' && c != '#')

def respond (f : Fetcher) (p : Pipeline) (r : Request) : Answer :=
  if routePath r.path ≠ "/" then ⟨notFoundResponse, none, p⟩
  else if r.method = "GET" then ⟨statusResponse 200 "OK", none, p⟩
  else if r.method = "HEAD" then ⟨{ statusResponse 200 "OK" with body := "" }, none, p⟩
  else if r.method = "POST" then submit f p r.url?
  else ⟨methodNotAllowed, none, p⟩

end ImportWeights.Http
