/-! Log entries: how urgent a message is, where it comes from, and its text. -/

namespace ImportWeights.Logging

inductive Level where
  | error
  | warn
  | info
  | debug
  | trace
deriving DecidableEq, Repr

namespace Level

def all : List Level := [error, warn, info, debug, trace]

def name : Level → String
  | error => "error"
  | warn => "warn"
  | info => "info"
  | debug => "debug"
  | trace => "trace"

def ofName? (s : String) : Option Level := all.find? fun l => l.name = s

end Level

/-- The component that speaks and the position it shows after its name, if any. -/
structure Origin where
  target : String
  line : Option Nat
deriving DecidableEq, Repr

structure LogEntry where
  level : Level
  origin : Origin
  message : String
deriving DecidableEq, Repr

abbrev Log := List LogEntry

def Origin.fetcher (line : Nat) : Origin := ⟨"depweight::fetcher", some line⟩
def Origin.scanner (line : Nat) : Origin := ⟨"depweight::scanner", some line⟩
def Origin.dispatcher (line : Nat) : Origin := ⟨"depweight::dispatcher", some line⟩
def Origin.service (line : Nat) : Origin := ⟨"depweight::service", some line⟩
def Origin.queue (line : Nat) : Origin := ⟨"depweight::queue::publisher", some line⟩
def Origin.hub (line : Nat) : Origin := ⟨"depweight::notifications::manager", some line⟩
def Origin.diagram (line : Nat) : Origin := ⟨"depweight::reporter::diagram", some line⟩
def Origin.server (line : Nat) : Origin := ⟨"depweight::app::server", some line⟩
def Origin.startup (line : Nat) : Origin := ⟨"depweight::app::startup", some line⟩
def Origin.shutdown (line : Nat) : Origin := ⟨"depweight::core::shutdown", some line⟩
def Origin.errors (line : Nat) : Origin := ⟨"depweight::core::error_handling", some line⟩

def error (origin : Origin) (message : String) : LogEntry := ⟨.error, origin, message⟩
def warn (origin : Origin) (message : String) : LogEntry := ⟨.warn, origin, message⟩
def info (origin : Origin) (message : String) : LogEntry := ⟨.info, origin, message⟩
def debug (origin : Origin) (message : String) : LogEntry := ⟨.debug, origin, message⟩

end ImportWeights.Logging
