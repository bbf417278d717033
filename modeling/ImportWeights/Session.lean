import ImportWeights.Dispatch.Service
import ImportWeights.Http.Router
import ImportWeights.Net.SocketAddress
import ImportWeights.Shutdown.Signals

/-! A session of the service, from the first submission to the exit code. It is healthy as
long as nothing has failed, and what has failed once is never made good. -/

namespace ImportWeights

open ImportWeights.Dispatch ImportWeights.Fetch ImportWeights.Files ImportWeights.Logging
open ImportWeights.Net

/-- What lies beyond the program's control: how the cloner behaves for one task after the
other, and whether outstanding work ends within the time of grace. -/
structure Course where
  cloner : Nat → Cloner
  endsInTime : Bool

structure Session where
  service : Service
  healthy : Bool

/-- The front door: an address, what binding it gives, and the requests that come until a
signal ends the session. -/
structure Door where
  address : SocketAddress
  bound : Except OsError Unit
  requests : List Http.Request

namespace Session

def begin (service : Service) : Session := ⟨service, true⟩

def logging (s : Session) (log : Log) : Session :=
  { s with service := { s.service with pipeline := s.service.pipeline.logging log } }

def failing (s : Session) : Session := { s with healthy := false }

/-- Submits a URL of the command line or the configuration file. -/
def submit (s : Session) (url : String) : Session :=
  match s.service.submit url with
  | (.ok _, service) => { s with service }
  | (.error e, service) =>
    ({ s with service }.logging (errorInContext e "Rejected repository URL")).failing

def submitAll (s : Session) (urls : List String) : Session := urls.foldl submit s

/-- What is logged of an outcome that was waited for. -/
def outcomeLog (folder : String) : FetchOutcome → Log
  | .queued job =>
    [debug (.startup 128) ("'" ++ folder ++ "' queued as job " ++ job.display)]
  | .failed e => errorInContext e ("Could not fetch '" ++ folder ++ "'")
  | .notQueued e =>
    [error (.startup 134)
      ("'" ++ folder ++ "' was cloned but not queued: " ++ e.message)]

/-- Takes note of how a task ended that was waited for. -/
def hear (s : Session) (task : FetchTask) (outcome : FetchOutcome) : Session :=
  { s.logging (outcomeLog task.folder outcome) with
    healthy := s.healthy && outcome.job?.isSome }

/-- Lets the oldest task end and the dispatcher process what it queued. -/
def await (cloner : Cloner) (s : Session) : Session :=
  match s.service.tasks.head?, s.service.finish 0 cloner with
  | some task, some (outcome, service) =>
    let s := ({ s with service } : Session).hear task outcome
    { s with service := s.service.dispatchAll }
  | _, _ => s

/-- Waits for all tasks under way, the oldest first. -/
def awaitAll (course : Course) (s : Session) : Session :=
  (List.range s.service.tasks.length).foldl (fun s i => s.await (course.cloner i)) s

/-- Lets the tasks under way end without waiting for what becomes of them. -/
def goOn (course : Course) (s : Session) : Session :=
  (List.range s.service.tasks.length).foldl (fun s i =>
    match s.service.finish 0 (course.cloner i) with
    | some (_, service) => { s with service := service.dispatchAll }
    | none => s) s

def request (s : Session) (r : Http.Request) : Session :=
  let answer := Http.respond s.service.fetcher s.service.pipeline r
  { s with service := { s.service with
      pipeline := answer.pipeline, tasks := s.service.tasks ++ answer.task.toList } }

/-- Listens until a signal comes. -/
def serve (course : Course) (door : Door) (s : Session) : Session :=
  match door.bound with
  | .error e =>
    (s.logging [error (.startup 106)
      ("FATAL: Cannot listen on " ++ door.address.display ++ ": " ++ e.message)]).failing
  | .ok _ =>
    let s := s.logging [info (.startup 110) ("listening on " ++ door.address.display)]
    ((door.requests.foldl request s).goOn course).logging Shutdown.SignalState.fresh.onSignal.log

/-- The totals of the service once it has stopped; there are none if time runs out. -/
def stopService (course : Course) (grace : String) (s : Session) :
    Option DispatchStats × Session :=
  if course.endsInTime then
    let (stats, service) := s.service.stop (course.cloner 0) grace
    (stats, { s with service })
  else (none, s.logging [Service.abandonedEntry grace])

def stoppedEntry (stats : DispatchStats) : LogEntry :=
  info (.startup 86) ("stopped after " ++ toString (stats.completed + stats.failed) ++ " scans")

/-- Stops after the submitted URLs were waited for: a scan that failed is a failure. -/
def stopOneShot (course : Course) (grace : String) (s : Session) : Session :=
  match s.stopService course grace with
  | (some stats, s) => { s with healthy := s.healthy && stats.failed = 0 }
  | (none, s) => s.failing

/-- Stops after a signal: scans that failed are counted, but are no failure. -/
def stopServing (course : Course) (grace : String) (s : Session) : Session :=
  match s.stopService course grace with
  | (some stats, s) => s.logging [stoppedEntry stats]
  | (none, s) => s.failing

/-- Submits URLs, waits for all of them, and stops. -/
def oneShot (course : Course) (grace : String) (urls : List String) (service : Service) :
    Session :=
  (((begin service).submitAll urls).awaitAll course).stopOneShot course grace

/-- Submits URLs, serves until a signal comes, and stops. -/
def serving (course : Course) (grace : String) (door : Door) (urls : List String)
    (service : Service) : Session :=
  (((begin service).submitAll urls).serve course door).stopServing course grace

def exitCode (s : Session) : Nat := if s.healthy then 0 else 1

end Session

end ImportWeights
