import ImportWeights.Fetch.Fetcher
import ImportWeights.Proofs.Dispatch.Processing

/-! What a fetch does: accepting a URL makes one publisher handle and one task. Carrying the
task out tells one story, which the cloner's answer and the queue decide; it offers at most one
job, and then it drops the handle. -/

namespace ImportWeights.Fetch

open ImportWeights.Dispatch ImportWeights.Events ImportWeights.Jobs ImportWeights.Files
open ImportWeights.Repository

/-- The outcome that goes with what the queue answers. -/
def FetchOutcome.ofAnswer : Except QueueError Job → FetchOutcome
  | .ok job => .queued job
  | .error e => .notQueued e

theorem FetchOutcome.isSome_job?_iff {outcome : FetchOutcome} :
    outcome.job?.isSome = true ↔ ∃ job, outcome = .queued job := by
  cases outcome <;> simp [job?]

/-- How a clone that succeeded is told. -/
def CloneStatus.event : CloneStatus → FetchEventType
  | cloned => .cloned
  | alreadyExists => .alreadyPresent

/-- An event about a task's repository. -/
def FetchTask.event (t : FetchTask) (type : FetchEventType) (message : Option String) : Event :=
  .fetch ⟨type, t.url, some t.folder, message⟩

namespace Fetcher

variable {f : Fetcher} {p : Pipeline} {url : String} {task : FetchTask}

theorem accept_of_refused {e : ValidationError} (h : f.config.judge (Text.trim url) = .error e) :
    f.accept p url = (.error e, p) := by
  simp only [accept, h]

/-- What is accepted is logged and published, and there is one more publisher handle. -/
theorem accept_of_judged {folder : String} (h : f.config.judge (Text.trim url) = .ok folder) :
    f.accept p url =
      (.ok ⟨Text.trim url, folder, f.config.stagingDir, p.queue.handles.length⟩,
        (({ p with queue := (p.queue.clonePublisher f.handle).2 } : Pipeline).logging
          [Logging.info (.fetcher 138) ("accepted " ++ Text.trim url ++ " (folder '" ++ folder ++
            "', " ++ f.clonerName ++ " backend)")]).announce
          (.fetch ⟨.accepted, Text.trim url, some folder, none⟩)) := by
  simp only [accept, h]
  rfl

/-- The answer is the judgement of the trimmed URL, and with it goes the next handle. -/
theorem accept_answer (f : Fetcher) (p : Pipeline) (url : String) :
    (f.accept p url).1 = (f.config.judge (Text.trim url)).map fun folder =>
      ⟨Text.trim url, folder, f.config.stagingDir, p.queue.handles.length⟩ := by
  cases judged : f.config.judge (Text.trim url) with
  | error e => rw [accept_of_refused judged]; rfl
  | ok folder => rw [accept_of_judged judged]; rfl

theorem accept_error {e : ValidationError} (h : (f.accept p url).1 = .error e) :
    (f.accept p url).2 = p := by
  rw [accept_answer] at h
  cases judged : f.config.judge (Text.trim url) with
  | error _ => rw [accept_of_refused judged]
  | ok folder => rw [judged] at h; cases h

theorem accept_task (h : (f.accept p url).1 = .ok task) :
    f.config.judge (Text.trim url) = .ok task.folder ∧ task.url = Text.trim url ∧
      task.stagingDir = f.config.stagingDir ∧ task.handle = p.queue.handles.length := by
  rw [accept_answer] at h
  cases judged : f.config.judge (Text.trim url) with
  | error _ => rw [judged] at h; cases h
  | ok folder =>
    rw [judged] at h
    cases h
    exact ⟨rfl, rfl, rfl, rfl⟩

theorem exists_task_iff : (∃ task, (f.accept p url).1 = .ok task) ↔
    ∃ folder, f.config.judge (Text.trim url) = .ok folder := by
  rw [accept_answer]
  cases f.config.judge (Text.trim url) <;> simp [Except.map]

/-- Whether a URL is accepted; nothing but the fetcher's configuration decides that. -/
def accepts (f : Fetcher) (url : String) : Bool := (f.config.judge (Text.trim url)).isOk

theorem accepts_of_error {e : ValidationError} (h : (f.accept p url).1 = .error e) :
    f.accepts url = false := by
  rw [accept_answer] at h
  rw [accepts]
  cases judged : f.config.judge (Text.trim url) with
  | error _ => rfl
  | ok folder => simp [judged, Except.map] at h

theorem accepts_of_ok (h : (f.accept p url).1 = .ok task) : f.accepts url = true := by
  rw [accepts, (accept_task h).1]
  rfl

theorem accept_queue (h : (f.accept p url).1 = .ok task) :
    (f.accept p url).2.queue = (p.queue.clonePublisher f.handle).2 := by
  rw [accept_of_judged (accept_task h).1]
  rfl

theorem accept_files (f : Fetcher) (p : Pipeline) (url : String) :
    (f.accept p url).2.files = p.files := by
  cases judged : f.config.judge (Text.trim url) with
  | error e => rw [accept_of_refused judged]
  | ok folder => rw [accept_of_judged judged]; rfl

theorem accept_tells (h : (f.accept p url).1 = .ok task) :
    p.Tells (f.accept p url).2 [.event (task.event .accepted none)] := by
  obtain ⟨judged, trimmed, -, -⟩ := accept_task h
  have told := (((Pipeline.Tells.refl p).congr (r :=
    { p with queue := (p.queue.clonePublisher f.handle).2 }) rfl rfl).logging
      [Logging.info (.fetcher 138) ("accepted " ++ Text.trim url ++ " (folder '" ++ task.folder ++
        "', " ++ f.clonerName ++ " backend)")]).announce (task.event .accepted none)
  rw [accept_of_judged judged]
  simpa only [FetchTask.event, trimmed, List.nil_append] using told

end Fetcher

namespace FetchTask

variable (t : FetchTask) (cloner : Cloner) (p : Pipeline)

/-- What there is to conclude from: the cloner's answer, or that there was no staging
directory to clone into. -/
def answer (files : FileTree) : CloneAnswer :=
  match files.makeDirectories t.stagingDir with
  | .error e => .failed (.staging t.stagingDir e)
  | .ok files => (cloner.clone files t.url t.dest).1

/-- The call of the cloner, which is made if the staging directory is there. -/
def calls (files : FileTree) : List Occurrence :=
  match files.makeDirectories t.stagingDir with
  | .error _ => []
  | .ok _ => [.cloneCall t.url t.dest]

/-- What a task tells once there is an answer, with this queue to offer its job to. -/
def story (queue : JobQueue) : CloneAnswer → List Event
  | .done status =>
    t.event status.event none :: if queue.isClosed then [] else [t.event .queued none]
  | .failed e => [t.event .failed (some e.message)]
  | .panicked _ => []

variable {t cloner p} in
theorem clone_of_made {files : FileTree}
    (made : p.files.makeDirectories t.stagingDir = .ok files) :
    t.clone cloner p = ((cloner.clone files t.url t.dest).1,
      { p with files := (cloner.clone files t.url t.dest).2
               history := p.history ++ [.cloneCall t.url t.dest] }) := by
  rw [FileTree.makeDirectories] at made
  rw [clone]
  split at made
  · rename_i tried
    rw [tried, ← Except.ok.inj made]
  · cases made

variable {t cloner p} in
/-- Where the staging directory cannot be made, some that lead there may have been. -/
theorem clone_of_unmade {e : OsError} (unmade : p.files.makeDirectories t.stagingDir = .error e) :
    ∃ files, t.clone cloner p = (.failed (.staging t.stagingDir e), { p with files }) := by
  rw [FileTree.makeDirectories] at unmade
  rw [clone]
  split at unmade
  · cases unmade
  · rename_i files tried
    rw [tried, Except.error.inj unmade]
    exact ⟨files, rfl⟩

theorem clone_answer : (t.clone cloner p).1 = t.answer cloner p.files := by
  cases made : p.files.makeDirectories t.stagingDir with
  | error e =>
    obtain ⟨files, cloned⟩ := clone_of_unmade made
    rw [cloned, answer, made]
  | ok files => rw [clone_of_made made, answer, made]

theorem clone_queue : (t.clone cloner p).2.queue = p.queue := by
  unfold clone
  split <;> rfl

theorem clone_tells : p.Tells (t.clone cloner p).2 (t.calls p.files) := by
  cases made : p.files.makeDirectories t.stagingDir with
  | error e =>
    obtain ⟨files, cloned⟩ := clone_of_unmade made
    rw [cloned, calls, made]
    exact (Pipeline.Tells.refl p).congr rfl rfl
  | ok files =>
    rw [clone_of_made made, calls, made]
    exact ⟨rfl, .start⟩

theorem publish_eq :
    (t.publish p).1 = .ofAnswer (p.queue.offer t.folder t.url).answer ∧
      (t.publish p).2.queue = (p.queue.offer t.folder t.url).queue := by
  cases ha : (p.queue.offer t.folder t.url).answer <;>
    simp [publish, ha, FetchOutcome.ofAnswer, announce]

theorem publish_tells {q : Pipeline} {added : List Occurrence} (h : p.Tells q added) :
    p.Tells (t.publish q).2 (added ++
      (if q.queue.isClosed then [] else [t.event .queued none]).map .event) := by
  have offered (queue : JobQueue) : p.Tells { q with queue } added := h.congr rfl rfl
  cases closed : q.queue.isClosed with
  | true =>
    rw [publish, JobQueue.offer_of_closed closed]
    simpa using ((offered _).logging []).logging _
  | false =>
    rw [publish, JobQueue.offer_of_open closed]
    exact (((offered _).logging _).logging _).announce _

/-- A clone that succeeded, whether it was there before or not, has its job offered. -/
theorem conclude_done (status : CloneStatus) :
    (t.conclude p (.done status)).1 = .ofAnswer (p.queue.offer t.folder t.url).answer ∧
      (t.conclude p (.done status)).2.queue = (p.queue.offer t.folder t.url).queue := by
  cases status with
  | cloned => exact t.publish_eq (t.announce p .cloned none)
  | alreadyExists =>
    exact t.publish_eq (t.announce (p.logging
      [Logging.info (.fetcher 176) (t.url ++ " already present in " ++ t.dest.display)])
      .alreadyPresent none)

theorem conclude_tells {q : Pipeline} {added : List Occurrence} (h : p.Tells q added)
    (answer : CloneAnswer) : p.Tells (t.conclude q answer).2
      (added ++ (t.story q.queue answer).map .event) := by
  cases answer with
  | done status =>
    rw [story, List.map_cons, List.append_cons]
    cases status with
    | cloned => exact t.publish_tells p (h.announce _)
    | alreadyExists => exact t.publish_tells p ((h.logging _).announce _)
  | failed e => exact (h.logging _).announce _
  | panicked message => simpa [story, conclude] using h

section Run

variable {t cloner p}

theorem run_done {status : CloneStatus} (h : t.answer cloner p.files = .done status) :
    (t.run cloner p).1 = .ofAnswer (p.queue.offer t.folder t.url).answer ∧
      (t.run cloner p).2.queue =
        (p.queue.offer t.folder t.url).queue.dropPublisher t.handle := by
  obtain ⟨outcome, queue⟩ := t.conclude_done (t.clone cloner p).2 status
  rw [← clone_answer] at h
  rw [clone_queue] at outcome queue
  simp [run, release, h, outcome, queue]

theorem run_failed {e : CloneError} (h : t.answer cloner p.files = .failed e) :
    (t.run cloner p).1 = .failed e ∧
      (t.run cloner p).2.queue = p.queue.dropPublisher t.handle := by
  rw [← clone_answer] at h
  simp [run, release, conclude, fail, announce, h, clone_queue]

theorem run_panicked {message : String} (h : t.answer cloner p.files = .panicked message) :
    (t.run cloner p).1 = .failed (.task message) ∧
      (t.run cloner p).2.queue = p.queue.dropPublisher t.handle := by
  rw [← clone_answer] at h
  simp [run, release, conclude, h, clone_queue]

end Run

theorem run_tells : p.Tells (t.run cloner p).2
    (t.calls p.files ++ (t.story p.queue (t.answer cloner p.files)).map .event) := by
  have told := t.conclude_tells p (t.clone_tells cloner p) (t.clone cloner p).1
  rw [clone_queue] at told
  rw [← clone_answer]
  exact told.congr rfl rfl

/-- What passes over the calls of a cloner and all that a task tells finds nothing new. -/
theorem filterMap_run {α : Type} {f : Occurrence → Option α}
    (called : ∀ url dest, f (.cloneCall url dest) = none)
    (told : ∀ type message, type ≠ .accepted → f (.event (t.event type message)) = none) :
    (t.run cloner p).2.history.filterMap f = p.history.filterMap f := by
  have calls : (t.calls p.files).filterMap f = [] := by
    unfold calls
    split <;> simp [called]
  have story (answer : CloneAnswer) :
      ((t.story p.queue answer).map .event).filterMap f = [] := by
    cases answer with
    | done status =>
      rw [story]
      cases status <;> split <;> simp [told, CloneStatus.event]
    | failed e => simp [story, told]
    | panicked message => rfl
  rw [(t.run_tells cloner p).history, List.filterMap_append, List.filterMap_append, calls, story,
    List.append_nil, List.append_nil]

/-- A task never tells the end of a scan. -/
theorem settled_run : settled (t.run cloner p).2.history = settled p.history :=
  t.filterMap_run cloner p (fun _ _ => rfl) fun _ _ _ => rfl

/-- A task ends as failed and only drops its handle, or it offers its job and then drops
the handle. -/
theorem run_cases :
    let offered := p.queue.offer t.folder t.url
    (∃ e, (t.run cloner p).1 = .failed e) ∧
        (t.run cloner p).2.queue = p.queue.dropPublisher t.handle ∨
      (t.run cloner p).1 = .ofAnswer offered.answer ∧
        (t.run cloner p).2.queue = offered.queue.dropPublisher t.handle := by
  cases answer : t.answer cloner p.files with
  | done status => exact .inr (run_done answer)
  | failed e => exact .inl ⟨⟨e, (run_failed answer).1⟩, (run_failed answer).2⟩
  | panicked message => exact .inl ⟨⟨_, (run_panicked answer).1⟩, (run_panicked answer).2⟩

end FetchTask

end ImportWeights.Fetch
