import ImportWeights.Fetch.Cloner
import ImportWeights.Logging.Layout
import ImportWeights.Report.Console
import ImportWeights.Repository.Folder

/-! Settings that are one of a few named values. -/

namespace ImportWeights.Settings

open ImportWeights.Fetch ImportWeights.Logging ImportWeights.Report ImportWeights.Repository

/-- A type of named values, each with a name and perhaps a second one that is accepted. -/
class Choice (α : Type) where
  all : List α
  name : α → String
  otherName? : α → Option String
  usual : α

namespace Choice

/-- The value of a name; case matters. -/
def ofName? {α : Type} [Choice α] (s : String) : Option α :=
  (all : List α).find? fun a => name a = s || otherName? a = some s

def names (α : Type) [Choice α] : List String := (all : List α).map name

end Choice

/-- Where the program runs. -/
inductive Environment where
  | dev
  | prod
deriving DecidableEq, Repr

/-- How long work that is under way may go on after a shutdown signal, in milliseconds. -/
def Environment.graceMillis : Environment → Nat
  | dev => 1000
  | prod => 5000

/-- The log level where none is set. -/
def Environment.logLevel : Environment → String
  | dev => "info"
  | prod => "warn"

instance : Choice Environment where
  all := [.dev, .prod]
  name
    | .dev => "dev"
    | .prod => "prod"
  otherName?
    | .dev => some "development"
    | .prod => some "production"
  usual := .dev

instance : Choice CloneBackend where
  all := [.git, .gix]
  name
    | .git => "git"
    | .gix => "gix"
  otherName? _ := none
  usual := .git

instance : Choice FolderNaming where
  all := [.segment, .hashed]
  name
    | .segment => "segment"
    | .hashed => "hashed"
  otherName? _ := none
  usual := .segment

instance : Choice ReportFormat where
  all := [.text, .json]
  name
    | .text => "text"
    | .json => "json"
  otherName? _ := none
  usual := .text

instance : Choice LogFormat where
  all := [.text, .ext, .json]
  name
    | .text => "text"
    | .ext => "ext"
    | .json => "json"
  otherName? _ := none
  usual := .text

end ImportWeights.Settings
