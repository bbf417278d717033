import ImportWeights.Dispatch.Service
import ImportWeights.Proofs.Fetch.Task

/-! Runs of a service. URLs are submitted, tasks end in any order and with any cloner, the
dispatcher takes jobs, further fetchers are made and dropped, and the service's own one is
dropped when it is stopped: all of this in any order. A run is kept with what each turn
showed, so what became of the tasks and jobs can be read off it. -/

namespace ImportWeights.Dispatch

open ImportWeights.Fetch ImportWeights.Jobs ImportWeights.Repository

/-- Whether the service still has its own fetcher. -/
def Service.hasFetcher (s : Service) : Bool := s.pipeline.queue.holds s.fetcher.handle

/-- A service with the further fetchers that are still held by somebody. -/
structure Deployment where
  service : Service
  others : List Fetcher

/-- All fetchers that can still be given a URL. -/
def Deployment.fetchers (d : Deployment) : List Fetcher :=
  (if d.service.hasFetcher then [d.service.fetcher] else []) ++ d.others

/-- What one turn shows. -/
inductive Turn where
  | submitted (url : String) (answer : Except ValidationError FetchTask)
  | ended (task : FetchTask) (outcome : FetchOutcome)
  | processed (job : Job)
  | shared (fetcher : Fetcher)
  | dropped (fetcher : Fetcher)
  | stopped

/-- The job of a turn of the dispatcher is the next one of the queue. A task may end at any
time and with any cloner, so with any answer of one. -/
inductive Deployment.Step (d : Deployment) : Turn → Deployment → Prop where
  | submit {f : Fetcher} (url : String) (held : f ∈ d.fetchers) :
      Step d (.submitted url (d.service.submitTo f url).1)
        ⟨(d.service.submitTo f url).2, d.others⟩
  | finish {i : Nat} {task : FetchTask} {outcome : FetchOutcome} {after : Service}
      (cloner : Cloner) (underWay : d.service.tasks[i]? = some task)
      (ends : d.service.finish i cloner = some (outcome, after)) :
      Step d (.ended task outcome) ⟨after, d.others⟩
  | process {job : Job} (next : d.service.pipeline.queue.receive.1 = .job job) :
      Step d (.processed job) ⟨d.service.dispatchNext, d.others⟩
  | share {f : Fetcher} (held : f ∈ d.fetchers) :
      Step d (.shared (d.service.share f).1)
        ⟨(d.service.share f).2, d.others ++ [(d.service.share f).1]⟩
  | drop {i : Nat} {f : Fetcher} (held : d.others[i]? = some f) :
      Step d (.dropped f) ⟨d.service.letGo f, d.others.eraseIdx i⟩
  | stop (held : d.service.hasFetcher = true) : Step d .stopped ⟨d.service.release, d.others⟩

inductive Deployment.Run (d : Deployment) : List Turn → Deployment → Prop where
  | refl : Run d [] d
  | step {trace : List Turn} {turn : Turn} {e f : Deployment} :
      Run d trace e → e.Step turn f → Run d (trace ++ [turn]) f

def Turn.task? : Turn → Option FetchTask
  | .submitted _ (.ok task) => some task
  | _ => none

def Turn.ending? : Turn → Option (FetchTask × FetchOutcome)
  | .ended task outcome => some (task, outcome)
  | _ => none

def Turn.processed? : Turn → Option Job
  | .processed job => some job
  | _ => none

/-- The tasks that accepted URLs became. -/
def begun (trace : List Turn) : List FetchTask := trace.filterMap Turn.task?

/-- The tasks that ended, each with its outcome. -/
def endings (trace : List Turn) : List (FetchTask × FetchOutcome) :=
  trace.filterMap Turn.ending?

/-- The jobs of the outcomes that are queued jobs. -/
def queued (trace : List Turn) : List Job := (endings trace).filterMap (·.2.job?)

/-- The jobs that the dispatcher received and processed. -/
def processed (trace : List Turn) : List Job := trace.filterMap Turn.processed?

section Append

variable (trace : List Turn) (turn : Turn)

@[simp] theorem begun_append_one : begun (trace ++ [turn]) = begun trace ++ turn.task?.toList := by
  cases h : turn.task? <;> simp [begun, h]

@[simp] theorem endings_append_one :
    endings (trace ++ [turn]) = endings trace ++ turn.ending?.toList := by
  cases h : turn.ending? <;> simp [endings, h]

@[simp] theorem queued_append_one :
    queued (trace ++ [turn]) = queued trace ++ (turn.ending?.bind (·.2.job?)).toList := by
  cases h : turn.ending? with
  | none => simp [queued, h]
  | some ending => cases h' : ending.2.job? <;> simp [queued, h, h']

@[simp] theorem processed_append_one :
    processed (trace ++ [turn]) = processed trace ++ turn.processed?.toList := by
  cases h : turn.processed? <;> simp [processed, h]

end Append

attribute [simp] Turn.task? Turn.ending? Turn.processed?

/-! What each turn does to the service. Judging and cloning stay closed here: all that the
queue sees of them are handles and at most one job. -/

namespace Service

variable (s : Service)

theorem submitTo_error {f : Fetcher} {url : String} {e : ValidationError}
    (answer : (f.accept s.pipeline url).1 = .error e) : s.submitTo f url = (.error e, s) := by
  simp [submitTo, answer, Fetcher.accept_error answer]

theorem submitTo_ok {f : Fetcher} {url : String} {task : FetchTask}
    (answer : (f.accept s.pipeline url).1 = .ok task) : s.submitTo f url =
      (.ok task, { s with
        pipeline := (f.accept s.pipeline url).2, tasks := s.tasks ++ [task] }) := by
  simp [submitTo, answer]

theorem finish_eq {i : Nat} {task : FetchTask} (underWay : s.tasks[i]? = some task)
    (cloner : Cloner) : s.finish i cloner = some ((task.run cloner s.pipeline).1, { s with
      pipeline := (task.run cloner s.pipeline).2, tasks := s.tasks.eraseIdx i
      ended := s.ended ++ [(task.run cloner s.pipeline).1] }) := by
  simp only [finish, underWay]

theorem dispatchNext_eq {job : Job} (next : s.pipeline.queue.receive.1 = .job job) :
    let taken : Pipeline := { s.pipeline with queue := s.pipeline.queue.receive.2 }
    s.dispatchNext = { s with
      stats := Dispatcher.count s.stats (s.dispatcher.process job taken).1
      pipeline := (s.dispatcher.process job taken).2, received := s.received ++ [job] } := by
  simp [dispatchNext, Dispatcher.next, next, Received.job?]

/-- A rejected URL changes nothing; an accepted one is a task with a handle of its own. -/
theorem submitTo_cases (f : Fetcher) (url : String) :
    (∃ e, s.submitTo f url = (.error e, s)) ∨
      ∃ task pipeline, s.submitTo f url =
          (.ok task, { s with pipeline, tasks := s.tasks ++ [task] }) ∧
        task.handle = s.pipeline.queue.handles.length ∧
        pipeline.queue = (s.pipeline.queue.clonePublisher f.handle).2 ∧
        settled pipeline.history = settled s.pipeline.history := by
  cases answer : (f.accept s.pipeline url).1 with
  | error e => exact .inl ⟨e, s.submitTo_error answer⟩
  | ok task =>
    obtain ⟨-, -, -, number⟩ := Fetcher.accept_task answer
    refine .inr ⟨task, _, s.submitTo_ok answer, number, Fetcher.accept_queue answer, ?_⟩
    rw [(Fetcher.accept_tells answer).history, settled_append]
    exact List.append_nil _

variable {s}

theorem submitTo_refused {f : Fetcher} {url : String} {e : ValidationError}
    (refused : (s.submitTo f url).1 = .error e) : (s.submitTo f url).2 = s := by
  obtain ⟨_, same⟩ | ⟨task, _, next, -⟩ := s.submitTo_cases f url
  · rw [same]
  · rw [next] at refused
    cases refused

/-- A task that ends has failed or had its job offered, and then drops its handle. -/
theorem finish_cases {after : Service} {i : Nat} {cloner : Cloner} {task : FetchTask}
    {outcome : FetchOutcome} (underWay : s.tasks[i]? = some task)
    (ends : s.finish i cloner = some (outcome, after)) :
    let offered := s.pipeline.queue.offer task.folder task.url
    ∃ pipeline, after = { s with
        pipeline, tasks := s.tasks.eraseIdx i, ended := s.ended ++ [outcome] } ∧
      settled pipeline.history = settled s.pipeline.history ∧
      ((∃ e, outcome = .failed e) ∧
          pipeline.queue = s.pipeline.queue.dropPublisher task.handle ∨
        outcome = .ofAnswer offered.answer ∧
          pipeline.queue = offered.queue.dropPublisher task.handle) := by
  rw [s.finish_eq underWay] at ends
  cases ends
  exact ⟨_, rfl, task.settled_run cloner s.pipeline, task.run_cases cloner s.pipeline⟩

/-- Processing the next job takes it out of the queue and counts it once. -/
theorem dispatchNext_of_job {job : Job} (next : s.pipeline.queue.receive.1 = .job job) :
    ∃ stats pipeline, s.dispatchNext =
        { s with stats, pipeline, received := s.received ++ [job] } ∧
      stats.completed + stats.failed = s.stats.completed + s.stats.failed + 1 ∧
      pipeline.queue = s.pipeline.queue.receive.2 ∧
      settled pipeline.history = settled s.pipeline.history ++ [(job.folder, job.sequence)] := by
  let taken : Pipeline := { s.pipeline with queue := s.pipeline.queue.receive.2 }
  refine ⟨_, _, s.dispatchNext_eq next, ?_, ?_, ?_⟩
  · cases (s.dispatcher.process job taken).1 <;> simp [Dispatcher.count] <;> omega
  · rw [Dispatcher.process_queue]
  · rw [settled_process]

/-- Without a job nothing happens. -/
theorem dispatchNext_of_no_job (h : ∀ job, s.pipeline.queue.receive.1 ≠ .job job) :
    s.dispatchNext = s := by
  have queue := JobQueue.receive_of_no_job h
  cases received : s.pipeline.queue.receive.1 with
  | job job => exact absurd received (h job)
  | ended | nothingYet | noConsumer =>
    simp [dispatchNext, Dispatcher.next, received, Received.job?, queue]

end Service

/-- No turn gives the service another fetcher. -/
theorem Deployment.Step.fetcher_eq {d e : Deployment} {turn : Turn} (h : d.Step turn e) :
    e.service.fetcher = d.service.fetcher := by
  cases h with
  | @submit f url _ =>
    obtain ⟨_, same⟩ | ⟨_, _, next, -, -, -⟩ := d.service.submitTo_cases f url
    · rw [same]
    · rw [next]
  | finish _ underWay ends =>
    obtain ⟨_, rfl, -, -⟩ := Service.finish_cases underWay ends
    rfl
  | process next =>
    obtain ⟨_, _, eq, -, -, -⟩ := Service.dispatchNext_of_job next
    rw [eq]
  | share | drop | stop => rfl

theorem Deployment.Run.fetcher_eq {d e : Deployment} {trace : List Turn} (run : d.Run trace e) :
    e.service.fetcher = d.service.fetcher := by
  induction run with
  | refl => rfl
  | step _ h ih => rw [h.fetcher_eq, ih]

/-! Letting the fetcher go and coming to an end is a run. -/

namespace Deployment

variable {d e f : Deployment} {trace more : List Turn}

theorem Run.trans (first : d.Run trace e) (then' : e.Run more f) : d.Run (trace ++ more) f := by
  induction then' with
  | refl => simpa using first
  | step _ h ih => simpa using ih.step h

theorem Run.one {turn : Turn} (h : d.Step turn e) : d.Run [turn] e := Run.refl.step h

theorem run_dispatchNext (d : Deployment) :
    ∃ trace, d.Run trace ⟨d.service.dispatchNext, d.others⟩ := by
  by_cases h : ∃ job, d.service.pipeline.queue.receive.1 = .job job
  · obtain ⟨job, next⟩ := h
    exact ⟨_, .one (.process next)⟩
  · rw [Service.dispatchNext_of_no_job (not_exists.mp h)]
    exact ⟨[], .refl⟩

theorem run_finishOldest (d : Deployment) (cloner : Cloner) :
    ∃ trace, d.Run trace ⟨d.service.finishOldest cloner, d.others⟩ := by
  rw [Service.finishOldest]
  cases ends : d.service.finish 0 cloner with
  | none => exact ⟨[], .refl⟩
  | some result =>
    obtain ⟨task, underWay⟩ : ∃ task, d.service.tasks[0]? = some task := by
      cases under : d.service.tasks[0]? with
      | none => simp [Service.finish, under] at ends
      | some task => exact ⟨task, rfl⟩
    exact ⟨_, .one (.finish cloner underWay ends)⟩

/-- What a run can do once it can do any number of times. -/
theorem run_foldl {α : Type} {act : Service → Service}
    (once : ∀ d : Deployment, ∃ trace, d.Run trace ⟨act d.service, d.others⟩) (times : List α)
    (d : Deployment) :
    ∃ trace, d.Run trace ⟨times.foldl (fun s _ => act s) d.service, d.others⟩ := by
  induction times generalizing d with
  | nil => exact ⟨[], .refl⟩
  | cons _ rest ih =>
    obtain ⟨_, first⟩ := once d
    obtain ⟨_, others⟩ := ih ⟨act d.service, d.others⟩
    exact ⟨_, first.trans others⟩

theorem run_dispatchAll (d : Deployment) :
    ∃ trace, d.Run trace ⟨d.service.dispatchAll, d.others⟩ :=
  run_foldl run_dispatchNext d.service.pipeline.queue.waiting d

theorem run_finishAll (d : Deployment) (cloner : Cloner) :
    ∃ trace, d.Run trace ⟨d.service.finishAll cloner, d.others⟩ :=
  run_foldl (run_finishOldest · cloner) d.service.tasks d

/-- Once its fetcher is gone, a service goes on until no task is under way. -/
theorem run_released (d : Deployment) (cloner : Cloner) :
    ∃ trace, Run ⟨d.service.release, d.others⟩ trace
      ⟨d.service.release.dispatchAll.finishAll cloner, d.others⟩ := by
  obtain ⟨_, first⟩ := run_dispatchAll ⟨d.service.release, d.others⟩
  obtain ⟨_, second⟩ := run_finishAll ⟨d.service.release.dispatchAll, d.others⟩ cloner
  exact ⟨_, first.trans second⟩

end Deployment

end ImportWeights.Dispatch
