import ImportWeights.Json.Reader
import ImportWeights.Report.Reporter
import ImportWeights.Text.Quoted
import ImportWeights.Text.Trim
import ImportWeights.Url.Parse

/-! The reporter that asks a diagram service for one diagram per scan. The service is told
everything in the query of one request; its answer is logged and otherwise ignored. -/

namespace ImportWeights.Report

open ImportWeights.Logging ImportWeights.Url

def createPath : String := "/diagrams/create.json"

def defaultBaseUrl : String := "https://cacoo.com/api/v1"

structure DiagramClient where
  apiKey : String
  folderId : String
  endpoint : Url
deriving DecidableEq, Repr

structure DiagramRequest where
  method : String
  url : Url
  contentType : String
deriving DecidableEq, Repr

/-- What became of a request. -/
inductive Reply where
  | unreachable (message : String)
  | answered (status : Nat) (body : List UInt8)
deriving DecidableEq, Repr

abbrev Transport := DiagramRequest → Reply

/-- What the service says about a new diagram. -/
structure DiagramResponse where
  url : String
  diagramId : String
  title : String
deriving DecidableEq, Repr

def diagramResponseShape : Json.RecordShape :=
  ⟨"DiagramResponse", [⟨"url", false⟩, ⟨"diagramId", false⟩, ⟨"title", false⟩]⟩

namespace DiagramClient

/-- The address of the endpoint below a base URL. -/
def endpointText (baseUrl : String) : List Char :=
  Text.trimEnd (· == '/') baseUrl.toList ++ createPath.toList

def create (apiKey baseUrl folderId : String) : Except ReportError DiagramClient :=
  match Url.parse (endpointText baseUrl) with
  | .ok endpoint => .ok ⟨apiKey, folderId, endpoint⟩
  | .error e => .error (.invalidBaseUrl baseUrl e.message)

/-- The text that shows a client without its key. -/
def summary (c : DiagramClient) : String :=
  "DiagramClient \x7b endpoint: " ++ Text.quoted c.endpoint.display ++ ", folder_id: " ++
    Text.quoted c.folderId ++ ", .. \x7d"

/-- The pairs that a request carries. -/
def parameters (c : DiagramClient) (title description : String) : List (String × String) :=
  [("apiKey", c.apiKey), ("folderId", c.folderId), ("title", title),
    ("description", description), ("security", "public")]

/-- The request for a diagram. An endpoint without a host cannot be asked. -/
def request (c : DiagramClient) (title description : String) : Except ReportError DiagramRequest :=
  if c.endpoint.host.isNone then .error (.http "builder error")
  else .ok ⟨"GET", c.endpoint.withoutUser.withPairs (c.parameters title description),
    "application/json"⟩

private def fromTexts : List String → DiagramResponse
  | [url, diagramId, title] => ⟨url, diagramId, title⟩
  | _ => ⟨"", "", ""⟩

/-- What a reply says. -/
def readReply : Reply → Except ReportError DiagramResponse
  | .unreachable message => .error (.http message)
  | .answered status body =>
    if 200 < status then .error (.status status)
    else match diagramResponseShape.read body with
      | .ok texts => .ok (fromTexts texts)
      | .error .malformed => .error (.invalidResponse "not a JSON document")
      | .error (.mistyped message) => .error (.invalidResponse message)

/-- Asks for a diagram. -/
def createDiagram (c : DiagramClient) (send : Transport) (title description : String) :
    Except ReportError DiagramResponse :=
  match c.request title description with
  | .error e => .error e
  | .ok request => readReply (send request)

def emit (c : DiagramClient) (send : Transport) (r : ScanReport) (outlet : Outlet) :
    Except ReportError Unit × Outlet :=
  match c.createDiagram send r.diagramTitle r.diagramDescription with
  | .error e => (.error e, outlet)
  | .ok diagram =>
    let entry := info (.diagram 143) ("diagram '" ++ diagram.title ++ "' created for " ++
      r.job.folder ++ " (" ++ diagram.url ++ ")")
    (.ok (), { outlet with log := outlet.log ++ [entry] })

def reporter (c : DiagramClient) (send : Transport) : Reporter := ⟨"diagram", c.emit send⟩

end DiagramClient

end ImportWeights.Report
