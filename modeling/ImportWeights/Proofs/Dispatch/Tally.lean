import ImportWeights.Proofs.Dispatch.Delivery

/-! # What the record tells of fetches and scans

The record names the accepted URLs in the order in which they were submitted and the jobs whose
scans failed, and a service keeps the outcomes of its tasks and counts the failed scans. `Tally`
says that these agree with what a run showed; each kind of turn keeps it. -/

namespace ImportWeights.Dispatch

open ImportWeights.Events ImportWeights.Fetch ImportWeights.Files ImportWeights.Jobs
open ImportWeights.Logging ImportWeights.Report ImportWeights.Repository ImportWeights.Scan

/-- The URL that is told to be accepted. -/
def Occurrence.acceptedUrl? : Occurrence → Option String
  | .event (.fetch ⟨.accepted, url, _, _⟩) => some url
  | _ => none

/-- The folder and number of the job whose scan is told to have failed. -/
def Occurrence.failedScan? : Occurrence → Option (String × Nat)
  | .event (.scan ⟨.error, folder, sequence, _⟩) => some (folder, sequence)
  | _ => none

def acceptedUrls (history : List Occurrence) : List String :=
  history.filterMap Occurrence.acceptedUrl?

/-- The jobs whose scans have failed, as the record tells. -/
def failedScans (history : List Occurrence) : List (String × Nat) :=
  history.filterMap Occurrence.failedScan?

@[simp] theorem acceptedUrls_append (a b : List Occurrence) :
    acceptedUrls (a ++ b) = acceptedUrls a ++ acceptedUrls b :=
  List.filterMap_append

@[simp] theorem failedScans_append (a b : List Occurrence) :
    failedScans (a ++ b) = failedScans a ++ failedScans b :=
  List.filterMap_append

/-! ## A task -/

section Task

variable {f : Fetcher} {p : Pipeline} {url : String} {task : FetchTask}

theorem acceptedUrls_accept (h : (f.accept p url).1 = .ok task) :
    acceptedUrls (f.accept p url).2.history = acceptedUrls p.history ++ [task.url] := by
  rw [(Fetcher.accept_tells h).history, acceptedUrls_append]
  rfl

theorem failedScans_accept (f : Fetcher) (p : Pipeline) (url : String) :
    failedScans (f.accept p url).2.history = failedScans p.history := by
  cases answer : (f.accept p url).1 with
  | error e => rw [Fetcher.accept_error answer]
  | ok task =>
    rw [(Fetcher.accept_tells answer).history, failedScans_append]
    exact List.append_nil _

variable (t : FetchTask) (cloner : Cloner) (p : Pipeline)

theorem acceptedUrls_run : acceptedUrls (t.run cloner p).2.history = acceptedUrls p.history :=
  t.filterMap_run cloner p (fun _ _ => rfl) fun type _ later => by
    cases type with
    | accepted => exact absurd rfl later
    | cloned | alreadyPresent | failed | queued => rfl

theorem failedScans_run : failedScans (t.run cloner p).2.history = failedScans p.history :=
  t.filterMap_run cloner p (fun _ _ => rfl) fun _ _ _ => rfl

end Task

/-! ## A scan -/

section Scan

variable (d : Dispatcher) (job : Job) (p : Pipeline)

/-- The job, if its scan failed. -/
def failedJob (job : Job) : Except ScanError ScanReport → List (String × Nat)
  | .error _ => [(job.folder, job.sequence)]
  | .ok _ => []

theorem acceptedUrls_process :
    acceptedUrls (d.process job p).2.history = acceptedUrls p.history := by
  have block : acceptedUrls (d.block job p.files) = [] := by
    rw [acceptedUrls, d.filterMap_block job p.files rfl (fun x => by cases x <;> rfl) fun _ _ => rfl]
    cases (d.scanner.scanTree p.files (d.scanRoot job)).result <;> rfl
  rw [(d.process_tells job p).history, acceptedUrls_append, block, List.append_nil]

theorem failedScans_process : failedScans (d.process job p).2.history =
    failedScans p.history ++ failedJob job (d.process job p).1 := by
  rw [(d.process_tells job p).history, failedScans_append, d.process_result]
  refine congrArg (failedScans p.history ++ ·) ?_
  rw [failedScans, d.filterMap_block job p.files rfl (fun x => by cases x <;> rfl) fun _ _ => rfl]
  cases (d.scanner.scanTree p.files (d.scanRoot job)).result <;> rfl

end Scan

/-! ## A run -/

structure Tally (trace : List Turn) (s : Service) : Prop where
  accepted : acceptedUrls s.pipeline.history = (begun trace).map (·.url)
  failed : s.stats.failed = (failedScans s.pipeline.history).length
  ended : s.ended = (endings trace).map (·.2)

namespace Tally

variable {trace : List Turn} {s : Service}

theorem start {config : ServiceConfig} {cloner : String} {reporters : List Reporter}
    {timing : Job → Timing} {files : FileTree}
    (h : Service.start config cloner reporters timing files = .ok s) : Tally [] s := by
  unfold Service.start at h
  split at h
  · cases h
  · cases h
    exact ⟨rfl, rfl, rfl⟩

theorem logging (v : Tally trace s) (entries : Log) :
    Tally trace { s with pipeline := s.pipeline.logging entries } :=
  ⟨v.accepted, v.failed, v.ended⟩

theorem submit (v : Tally trace s) (f : Fetcher) (url : String) :
    Tally (trace ++ [.submitted url (s.submitTo f url).1]) (s.submitTo f url).2 := by
  cases answer : (f.accept s.pipeline url).1 with
  | error e =>
    rw [s.submitTo_error answer]
    exact ⟨by simpa using v.accepted, v.failed, by simpa using v.ended⟩
  | ok task =>
    rw [s.submitTo_ok answer]
    refine ⟨?_, ?_, by simpa using v.ended⟩
    · simp [acceptedUrls_accept answer, v.accepted]
    · simp [failedScans_accept, v.failed]

theorem finish (v : Tally trace s) {i : Nat} {task : FetchTask} {outcome : FetchOutcome}
    {after : Service} {cloner : Cloner} (underWay : s.tasks[i]? = some task)
    (ends : s.finish i cloner = some (outcome, after)) :
    Tally (trace ++ [.ended task outcome]) after := by
  rw [s.finish_eq underWay] at ends
  cases ends
  refine ⟨?_, ?_, by simp [v.ended]⟩
  · simp [acceptedUrls_run, v.accepted]
  · simp [failedScans_run, v.failed]

theorem process (v : Tally trace s) {job : Job} (next : s.pipeline.queue.receive.1 = .job job) :
    Tally (trace ++ [.processed job]) s.dispatchNext := by
  rw [s.dispatchNext_eq next]
  refine ⟨?_, ?_, by simpa using v.ended⟩
  · simp [acceptedUrls_process, v.accepted]
  · simp only [failedScans_process, List.length_append, ← v.failed]
    cases (s.dispatcher.process job _).1 <;> rfl

theorem step {d e : Deployment} {turn : Turn} (v : Tally trace d.service) (h : d.Step turn e) :
    Tally (trace ++ [turn]) e.service := by
  cases h with
  | submit url held =>
    dsimp only
    exact v.submit _ url
  | finish cloner underWay ends => exact v.finish underWay ends
  | process next => exact v.process next
  | share | drop | stop =>
    exact ⟨v.accepted.trans (by simp), v.failed, v.ended.trans (by simp)⟩

end Tally

theorem Tally.run {d e : Deployment} {before trace : List Turn} (v : Tally before d.service)
    (run : d.Run trace e) : Tally (before ++ trace) e.service := by
  induction run with
  | refl => simpa using v
  | step _ h ih => simpa using ih.step h

end ImportWeights.Dispatch
