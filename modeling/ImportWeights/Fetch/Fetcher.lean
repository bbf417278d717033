import ImportWeights.Dispatch.Pipeline
import ImportWeights.Fetch.Cloner
import ImportWeights.Repository.Folder
import ImportWeights.Repository.Validation

/-! Fetching: a URL is judged at once, and an accepted one becomes a task that clones it
and, if that succeeds, queues one job. -/

namespace ImportWeights.Fetch

open ImportWeights.Dispatch ImportWeights.Events ImportWeights.Files ImportWeights.Jobs
open ImportWeights.Logging ImportWeights.Repository

structure FetchConfig where
  stagingDir : Path
  expectedHost : String
  folderNaming : FolderNaming
deriving DecidableEq, Repr

/-- A configuration, the name of the cloner, and the publisher handle that is held. -/
structure Fetcher where
  config : FetchConfig
  clonerName : String
  handle : Nat
deriving DecidableEq, Repr

/-- An accepted URL that has not been cloned yet. It holds a publisher handle of its own,
so the queue stays open as long as a task is under way. -/
structure FetchTask where
  url : String
  folder : String
  stagingDir : Path
  handle : Nat
deriving DecidableEq, Repr

def FetchTask.dest (t : FetchTask) : Path := t.stagingDir.join (Path.ofString t.folder)

/-- How a task ends. -/
inductive FetchOutcome where
  | queued (job : Job)
  | failed (error : CloneError)
  /-- The clone succeeded, but the queue took no more jobs. -/
  | notQueued (error : QueueError)
deriving DecidableEq, Repr

def FetchOutcome.job? : FetchOutcome → Option Job
  | queued job => some job
  | _ => none

/-- Folder names that stand for no directory below the staging directory. -/
def isFolderless (folder : String) : Bool := folder = "" || folder = "." || folder = ".."

/-- The folder of a trimmed URL, if the URL is accepted. -/
def FetchConfig.judge (c : FetchConfig) (url : String) : Except ValidationError String :=
  match validate url c.expectedHost with
  | .error e => .error e
  | .ok _ =>
    let folder := folderName c.folderNaming url
    if isFolderless folder then .error (.invalidUrl url "URL does not name a repository")
    else .ok folder

/-- Judges a URL and, if it is accepted, starts a task. -/
def Fetcher.accept (f : Fetcher) (p : Pipeline) (url : String) :
    Except ValidationError FetchTask × Pipeline :=
  let url := Text.trim url
  match f.config.judge url with
  | .error e => (.error e, p)
  | .ok folder =>
    let (handle, queue) := p.queue.clonePublisher f.handle
    let p := { p with queue }.logging [info (.fetcher 138)
      ("accepted " ++ url ++ " (folder '" ++ folder ++ "', " ++ f.clonerName ++ " backend)")]
    let p := p.announce (.fetch ⟨.accepted, url, some folder, none⟩)
    (.ok ⟨url, folder, f.config.stagingDir, handle⟩, p)

namespace FetchTask

def announce (t : FetchTask) (p : Pipeline) (type : FetchEventType) (message : Option String) :
    Pipeline :=
  p.announce (.fetch ⟨type, t.url, some t.folder, message⟩)

/-- Lets the task's publisher handle go. -/
def release (t : FetchTask) (p : Pipeline) : Pipeline :=
  { p with queue := p.queue.dropPublisher t.handle }

/-- Queues a job for a clone that succeeded. -/
def publish (t : FetchTask) (p : Pipeline) : FetchOutcome × Pipeline :=
  let publication := p.queue.offer t.folder t.url
  let p := { p with queue := publication.queue }.logging publication.log
  match publication.answer with
  | .ok job =>
    let p := p.logging [debug (.fetcher 210) ("queued job " ++ job.display)]
    (.queued job, t.announce p .queued none)
  | .error e => (.notQueued e, p.logging [warn (.fetcher 215) e.message])

def succeed (t : FetchTask) (p : Pipeline) (status : CloneStatus) : FetchOutcome × Pipeline :=
  match status with
  | .cloned => t.publish (t.announce p .cloned none)
  | .alreadyExists =>
    let p := p.logging
      [info (.fetcher 176) (t.url ++ " already present in " ++ t.dest.display)]
    t.publish (t.announce p .alreadyPresent none)

def fail (t : FetchTask) (p : Pipeline) (e : CloneError) : FetchOutcome × Pipeline :=
  let hint := match e.userMessage? with
    | some text => [error (.fetcher 186) ("hint: " ++ text)]
    | none => []
  let p := p.logging
    (error (.fetcher 184) ("could not fetch " ++ t.url ++ ": " ++ e.message) :: hint)
  (.failed e, t.announce p .failed (some e.message))

/-- What becomes of a cloner's answer. A panic ends the task where it stands. -/
def conclude (t : FetchTask) (p : Pipeline) : CloneAnswer → FetchOutcome × Pipeline
  | .done status => t.succeed p status
  | .failed e => t.fail p e
  | .panicked message => (.failed (.task message), p)

/-- Makes the staging directory and runs the cloner. -/
def clone (t : FetchTask) (cloner : Cloner) (p : Pipeline) : CloneAnswer × Pipeline :=
  match p.files.tryMakeDirectories t.stagingDir with
  | (.error e, files) => (.failed (.staging t.stagingDir e), { p with files })
  | (.ok _, files) =>
    let (answer, files) := cloner.clone files t.url t.dest
    (answer, { p with files, history := p.history ++ [.cloneCall t.url t.dest] })

/-- Carries the task out. -/
def run (t : FetchTask) (cloner : Cloner) (p : Pipeline) : FetchOutcome × Pipeline :=
  let (answer, p) := t.clone cloner p
  let (outcome, p) := t.conclude p answer
  (outcome, t.release p)

end FetchTask

end ImportWeights.Fetch
